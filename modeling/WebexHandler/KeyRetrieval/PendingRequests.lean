import WebexHandler.KeyRetrieval.RequestLock

open interaction json transition

namespace webex.key_retrieval

/-- What an update does to the pending requests. -/
inductive Effect
  | keeps
  | registers (request_id : String)
  | forgets (request_id : String)
  deriving DecidableEq

namespace Effect

def apply (pending : List String) : Effect → List String
  | keeps => pending
  | registers request_id => pending ++ [request_id]
  | forgets request_id => pending.erase request_id

/-- The entry that the call that made the update has from then on. -/
def entry (before : Option String) : Effect → Option String
  | keeps => before
  | registers request_id => some request_id
  | forgets request_id => if before = some request_id then none else before

/-- Lists of at most one request tell the effects apart. -/
theorem apply_inj {first second : Effect}
    (hsame : ∀ pending, pending.length ≤ 1 → first.apply pending = second.apply pending) : first = second := by
  have hnone := hsame [] (Nat.zero_le 1)
  cases first with
  | keeps =>
    cases second with
    | keeps => rfl
    | registers request_id => simp [apply] at hnone
    | forgets request_id =>
      have hone := hsame [request_id] (Nat.le_refl 1)
      simp [apply] at hone
  | registers request_id =>
    cases second with
    | registers other => simpa [apply] using hnone
    | keeps | forgets other => simp [apply] at hnone
  | forgets request_id =>
    have hone := hsame [request_id] (Nat.le_refl 1)
    cases second with
    | registers other => simp [apply] at hnone
    | keeps => simp [apply] at hone
    | forgets other =>
      by_contra hne
      have hother : request_id ≠ other := fun heq => hne (congrArg forgets heq)
      simp [apply, hother] at hone

end Effect

def HasEffect (f : Nat → KmsClient → KmsClient) (effect : Effect) : Prop :=
  ∀ time client, (f time client).pending_requests = effect.apply client.pending_requests

/-- The effect of a section that may refuse, and then has none. -/
def GuardEffect (f : Nat → KmsClient → Bool × KmsClient) (effect : Effect) : Prop :=
  ∀ time client, (f time client).2.pending_requests =
    if (f time client).1 then effect.apply client.pending_requests else client.pending_requests

def with_pending (pending_requests : List String) : KmsClient where
  token := ""
  device_url := ""
  user_id := ""
  encryption_service_url := ""
  pending_requests := pending_requests

theorem HasEffect.unique {f : Nat → KmsClient → KmsClient} {first second : Effect} (hfirst : HasEffect f first)
    (hsecond : HasEffect f second) : first = second := by
  apply Effect.apply_inj
  intro pending _
  exact (hfirst 0 (with_pending pending)).symm.trans (hsecond 0 (with_pending pending))

theorem GuardEffect.unique {f : Nat → KmsClient → Bool × KmsClient} {first second : Effect} (hfirst : GuardEffect f first)
    (hsecond : GuardEffect f second)
    (hpasses : ∀ pending : List String, pending.length ≤ 1 → (f 0 (with_pending pending)).1 = true) : first = second := by
  apply Effect.apply_inj
  intro pending hlength
  have hone := hfirst 0 (with_pending pending)
  have hother := hsecond 0 (with_pending pending)
  rw [hpasses pending hlength, if_pos rfl] at hone hother
  exact hone.symm.trans hother

/-- Where a call stands: whether it holds the lock, and the id of its pending request. -/
@[ext]
structure Phase where
  holding : Bool
  entry : Option String
  deriving DecidableEq, Inhabited

def Phase.idle : Phase := { holding := false, entry := none }

/-- A request joins the pending ones as the only one of its call, under the lock if the
    port has it so. -/
def Phase.Permits (under_lock : Bool) (self : Phase) : Effect → Prop
  | .registers _ => self.entry = none ∧ (under_lock = true → self.holding = true)
  | _ => True

/-- A call waits for the response to its own request only, and leaves no request behind.
    `posts` is what may come of a POST. -/
def entry_kept (port : Port) (under_lock : Bool) (posts : Except Failure FetchResponse → Prop) : Monitor Op Res Phase where
  allowed g op := lock_held.allowed g.holding op ∧ match op with
    | .update f => ∃ effect, HasEffect f effect ∧ g.Permits under_lock effect
    | .section f => ∃ effect, GuardEffect f effect ∧ g.Permits under_lock effect
    | .response id => g.entry = some id
    | .unlock => under_lock = true → g.entry = none
    | _ => True
  moves g op r g' := g'.holding = holds g.holding op ∧ match op, r with
    | .update f, _ => ∃ effect, HasEffect f effect ∧ g'.entry = effect.entry g.entry
    | .section f, true => ∃ effect, GuardEffect f effect ∧ g'.entry = effect.entry g.entry
    | .response _, some _ => g'.entry = none
    | .response _, none => g'.entry = if port.timer_forgets then none else g.entry
    | .http_do req, posted => g'.entry = g.entry ∧ (req.method = "POST" → posts posted)
    | _, _ => g'.entry = g.entry

/-- The pending requests are distinct, each belongs to a call and none has been answered. -/
structure Fits (under_lock : Bool) (env : Env) (views : List Phase) : Prop where
  owned : Owned env (views.map Phase.holding)
  distinct : env.client.pending_requests.Nodup
  entries : ∀ id ∈ env.client.pending_requests, ∃ (tid : Nat) (g : Phase), views[tid]? = some g ∧ g.entry = some id
  unanswered : ∀ id ∈ env.client.pending_requests, id ∉ env.responses.map Prod.fst
  locked : under_lock = true → ∀ (tid : Nat) (g : Phase), views[tid]? = some g → g.entry.isSome → g.holding = true

/-- A request id joins the pending ones only when it is neither pending nor answered. -/
def FreshIds (port : Port) (env : Env) (tid : Nat) (op : Op) (choice : Answer) : Prop :=
  ∀ r env' spawned, perform port tid op choice env = some (r, env', spawned) → ∀ id,
    env'.client.pending_requests = env.client.pending_requests ++ [id] →
      id ∉ env.client.pending_requests ∧ id ∉ env.responses.map Prod.fst

/-- A POST comes to one of these outcomes. -/
def Posts (posts : Except Failure FetchResponse → Prop) (op : Op) (choice : Answer) : Prop :=
  ∀ req posted, op = .http_do req → choice = .fetched posted → req.method = "POST" → posts posted

section soundness

variable {port : Port} {under_lock : Bool} {posts : Except Failure FetchResponse → Prop}

/-- What an operation does to the pending requests and the responses. -/
theorem answer_pending {op : Op} {choice : Answer} {env env' : Env} {r : Res op}
    (hanswer : answer port op choice env = some (r, env')) :
    env'.responses = env.responses ∧
    match op, r with
    | .update f, _ => env'.client = f env.time env.client
    | .section f, passed => passed = (f env.time env.client).1 ∧ env'.client = (f env.time env.client).2
    | .response id, some _ => env'.client = env.client ∧ id ∈ env.responses.map Prod.fst
    | .response id, none => env'.client = if port.timer_forgets then forget id env.client else env.client
    | _, _ => env'.client = env.client := by
  cases op with
  | lock =>
    cases choice <;> simp only [answer, reduceCtorEq, Option.ite_none_left_eq_some, Option.some.injEq,
      Prod.mk.injEq] at hanswer
    obtain ⟨-, -, rfl⟩ := hanswer
    exact ⟨rfl, rfl⟩
  | response id =>
    cases choice with
    | own =>
      simp only [answer, Option.map_eq_some_iff, Prod.mk.injEq] at hanswer
      obtain ⟨wrapped, hlookup, rfl, rfl⟩ := hanswer
      refine ⟨rfl, rfl, ?_⟩
      obtain ⟨before, after, heq, -⟩ := List.lookup_eq_some_iff.mp hlookup
      simp [heq]
    | timed_out =>
      simp only [answer, Option.some.injEq, Prod.mk.injEq] at hanswer
      obtain ⟨rfl, rfl⟩ := hanswer
      dsimp only
      split <;> exact ⟨rfl, rfl⟩
    | _ => cases hanswer
  | «section» f =>
    cases choice <;> cases hanswer
    exact ⟨rfl, rfl, rfl⟩
  | _ =>
    cases choice <;> cases hanswer
    exact ⟨rfl, rfl⟩

/-- A step of one call, whose entry is given up only with its request. -/
theorem Fits.move {env env' : Env} {views : List Phase} (hfits : Fits under_lock env views) {tid : Nat} {g g' : Phase}
    (hget : views[tid]? = some g) (howned : Owned env' ((views.map Phase.holding).set tid g'.holding))
    (hresponses : env'.responses = env.responses) (hdistinct : env'.client.pending_requests.Nodup)
    (hentries : ∀ id ∈ env'.client.pending_requests, g'.entry = some id ∨
      (id ∈ env.client.pending_requests ∧ (g.entry = some id → g'.entry = some id)))
    (hunanswered : ∀ id ∈ env'.client.pending_requests, id ∉ env.responses.map Prod.fst)
    (hlocked : under_lock = true → g'.entry.isSome → g'.holding = true) : Fits under_lock env' (views.set tid g') := by
  have hlt : tid < views.length := (List.getElem?_eq_some_iff.mp hget).1
  constructor
  case owned => rwa [List.map_set]
  case distinct => exact hdistinct
  case entries =>
    intro id hmem
    have hself : g'.entry = some id → ∃ (other : Nat) (view : Phase), (views.set tid g')[other]? = some view ∧ view.entry = some id :=
      fun hentry => ⟨tid, g', by simp [hlt], hentry⟩
    obtain hentry | ⟨hold, hkept⟩ := hentries id hmem
    · exact hself hentry
    · obtain ⟨other, view, hview, hentry⟩ := hfits.entries id hold
      by_cases heq : tid = other
      · subst heq
        rw [hget, Option.some.injEq] at hview
        exact hself (hkept (hview ▸ hentry))
      · exact ⟨other, view, by rw [List.getElem?_set_ne heq, hview], hentry⟩
  case unanswered =>
    rw [hresponses]
    exact hunanswered
  case locked =>
    intro hunder other view hview
    obtain ⟨rfl, rfl⟩ | ⟨-, hold⟩ := getElem?_set_cases hview
    · exact hlocked hunder
    · exact hfits.locked hunder other view hold

/-- What an update of the pending requests by one call comes to. -/
theorem Fits.effect {env env' : Env} {views : List Phase} (hfits : Fits under_lock env views) {tid : Nat} {g g' : Phase}
    (hget : views[tid]? = some g) {effect : Effect} (hpermits : g.Permits under_lock effect)
    (howned : Owned env' ((views.map Phase.holding).set tid g'.holding)) (hresponses : env'.responses = env.responses)
    (hpending : env'.client.pending_requests = effect.apply env.client.pending_requests)
    (hfresh : ∀ id, env'.client.pending_requests = env.client.pending_requests ++ [id] →
      id ∉ env.client.pending_requests ∧ id ∉ env.responses.map Prod.fst)
    (hentry : g'.entry = effect.entry g.entry) (hholding : g'.holding = g.holding) :
    Fits under_lock env' (views.set tid g') := by
  have hheld : under_lock = true → g.entry.isSome → g.holding = true := fun hunder => hfits.locked hunder tid g hget
  cases effect with
  | keeps =>
    have hsame : env'.client.pending_requests = env.client.pending_requests := hpending
    refine hfits.move hget howned hresponses (hsame ▸ hfits.distinct) ?_ ?_ ?_
    · exact fun id hmem => .inr ⟨hsame ▸ hmem, fun hold => hentry.trans hold⟩
    · exact fun id hmem => hfits.unanswered id (hsame ▸ hmem)
    · rw [hholding, show g'.entry = g.entry from hentry]
      exact hheld
  | registers id =>
    obtain ⟨hnone, hunder⟩ := hpermits
    obtain ⟨hnew, hunanswered⟩ := hfresh id hpending
    have hmem_iff : ∀ other ∈ env'.client.pending_requests, other ∈ env.client.pending_requests ∨ other = id := by
      intro other hmem
      rw [hpending] at hmem
      simpa [Effect.apply] using hmem
    refine hfits.move hget howned hresponses ?_ ?_ ?_ ?_
    · rw [hpending, Effect.apply, List.nodup_append]
      refine ⟨hfits.distinct, by simp, ?_⟩
      rintro old hold other hother rfl
      exact hnew (List.mem_singleton.mp hother ▸ hold)
    · intro other hmem
      obtain hold | rfl := hmem_iff other hmem
      · exact .inr ⟨hold, fun hother => by rw [hnone] at hother; cases hother⟩
      · exact .inl hentry
    · intro other hmem
      obtain hold | rfl := hmem_iff other hmem
      · exact hfits.unanswered other hold
      · exact hunanswered
    · exact fun hlock _ => hholding.trans (hunder hlock)
  | forgets id =>
    have hsub : ∀ other ∈ env'.client.pending_requests, other ≠ id ∧ other ∈ env.client.pending_requests := by
      intro other hmem
      rw [hpending] at hmem
      exact hfits.distinct.mem_erase_iff.mp hmem
    refine hfits.move hget howned hresponses (hpending ▸ hfits.distinct.erase id) ?_ ?_ ?_
    · intro other hmem
      obtain ⟨hne, hold⟩ := hsub other hmem
      refine .inr ⟨hold, fun hbefore => ?_⟩
      rw [hentry, Effect.entry, hbefore, if_neg (by simpa using hne)]
    · exact fun other hmem => hfits.unanswered other (hsub other hmem).2
    · intro hlock hsome
      rw [hholding]
      refine hheld hlock ?_
      rw [hentry, Effect.entry] at hsome
      split at hsome
      · cases hsome
      · exact hsome

theorem performs_fits : Pool.Sound (entry_kept port under_lock posts) (· = Phase.idle) (Fits under_lock)
    (fun env tid op choice => FreshIds port env tid op choice ∧ Posts posts op choice) (perform port) := by
  rintro tid op choice env r env' spawned views g hfits hget ⟨hlock, hallowed⟩ ⟨hfresh, hposts⟩ hperform
  have hids := hfresh _ _ _ hperform
  obtain ⟨held, fresh, rfl, howned, hfresh⟩ := performs_owned tid op choice env r env' spawned (views.map Phase.holding)
    g.holding hfits.owned (by simp [hget]) hlock trivial hperform
  simp only [perform, Option.map_eq_some_iff, Prod.mk.injEq] at hperform
  obtain ⟨⟨result, after⟩, hanswer, rfl, rfl, rfl⟩ := hperform
  cases hfresh
  rw [List.append_nil] at howned
  obtain ⟨hresponses, hclient⟩ := answer_pending hanswer
  have hstays : ∀ g' : Phase, g'.holding = holds g.holding op → g'.entry = g.entry → after.client = env.client →
      (under_lock = true → g.entry.isSome → holds g.holding op = true) →
      Fits under_lock (after.record tid op result) (views.set tid g') := by
    intro g' hholding hentry hclient hlocked
    have hpending : (after.record tid op result).client.pending_requests = env.client.pending_requests :=
      congrArg KmsClient.pending_requests hclient
    refine hfits.move hget (hholding ▸ howned) hresponses (hpending ▸ hfits.distinct) ?_ ?_ ?_
    · exact fun id hmem => .inr ⟨hpending ▸ hmem, fun hold => hentry.trans hold⟩
    · exact fun id hmem => hfits.unanswered id (hpending ▸ hmem)
    · rw [hholding, hentry]
      exact hlocked
  have hheld : under_lock = true → g.entry.isSome → g.holding = true := fun hunder => hfits.locked hunder tid g hget
  cases op with
  | update f =>
    obtain ⟨effect, heffect, hpermits⟩ := hallowed
    refine ⟨{ g with entry := effect.entry g.entry }, [], ⟨rfl, effect, heffect, rfl⟩, ?_, .nil⟩
    rw [List.append_nil]
    refine hfits.effect hget hpermits howned hresponses ?_ hids rfl rfl
    rw [show (after.record tid (.update f) result).client = f env.time env.client from hclient, heffect]
  | «section» f =>
    obtain ⟨effect, heffect, hpermits⟩ := hallowed
    obtain ⟨rfl, hclient⟩ := hclient
    have hpending := heffect env.time env.client
    cases hpassed : (f env.time env.client).1 with
    | true =>
      refine ⟨{ g with entry := effect.entry g.entry }, [], ⟨rfl, effect, heffect, rfl⟩, ?_, .nil⟩
      rw [List.append_nil]
      refine hfits.effect hget hpermits (hpassed ▸ howned) hresponses ?_ (hpassed ▸ hids) rfl rfl
      rw [hpassed, if_pos rfl] at hpending
      exact (congrArg KmsClient.pending_requests hclient).trans hpending
    | false =>
      rw [hpassed, if_neg Bool.false_ne_true] at hpending
      refine ⟨g, [], ⟨rfl, rfl⟩, ?_, .nil⟩
      rw [List.append_nil]
      have hpermits : g.Permits under_lock .keeps := trivial
      exact hfits.effect hget hpermits (hpassed ▸ howned) hresponses
        ((congrArg KmsClient.pending_requests hclient).trans hpending) (hpassed ▸ hids) rfl rfl
  | response id =>
    have hentry : g.entry = some id := hallowed
    cases result with
    | some wrapped =>
      obtain ⟨hclient, hanswered⟩ := hclient
      refine ⟨{ g with entry := none }, [], ⟨rfl, rfl⟩, ?_, .nil⟩
      rw [List.append_nil]
      have hpending : (after.record tid (.response id) (some wrapped)).client.pending_requests = env.client.pending_requests :=
        congrArg KmsClient.pending_requests hclient
      refine hfits.move hget howned hresponses (hpending ▸ hfits.distinct) ?_ ?_ ?_
      · intro other hmem
        have hold := hpending ▸ hmem
        refine .inr ⟨hold, fun hbefore => ?_⟩
        obtain rfl := Option.some.inj (hentry.symm.trans hbefore)
        exact absurd hanswered (hfits.unanswered _ hold)
      · exact fun other hmem => hfits.unanswered other (hpending ▸ hmem)
      · exact fun _ hsome => by cases hsome
    | none =>
      cases htimer : port.timer_forgets with
      | false =>
        refine ⟨g, [], ⟨rfl, by simp [htimer]⟩, ?_, .nil⟩
        rw [List.append_nil]
        exact hstays g rfl rfl (by simpa [htimer] using hclient) hheld
      | true =>
        refine ⟨{ g with entry := none }, [], ⟨rfl, by simp [htimer]⟩, ?_, .nil⟩
        rw [List.append_nil]
        have hpermits : g.Permits under_lock (.forgets id) := trivial
        refine hfits.effect hget hpermits howned hresponses ?_ hids ?_ rfl
        · have hclient : after.client = forget id env.client := by simpa [htimer] using hclient
          exact congrArg KmsClient.pending_requests hclient
        · simp [Effect.entry, hentry]
  | http_do req =>
    have hposted : ∃ posted, choice = .fetched posted ∧ result = posted := by
      cases choice <;> cases hanswer
      exact ⟨_, rfl, rfl⟩
    obtain ⟨posted, rfl, rfl⟩ := hposted
    refine ⟨g, [], ⟨rfl, rfl, fun hpost => hposts req _ rfl rfl hpost⟩, ?_, .nil⟩
    rw [List.append_nil]
    exact hstays g rfl rfl hclient hheld
  | lock =>
    refine ⟨{ g with holding := true }, [], ⟨rfl, rfl⟩, ?_, .nil⟩
    rw [List.append_nil]
    exact hstays _ rfl rfl hclient fun _ _ => rfl
  | unlock =>
    refine ⟨{ g with holding := false }, [], ⟨rfl, rfl⟩, ?_, .nil⟩
    rw [List.append_nil]
    refine hstays _ rfl rfl hclient fun hunder hsome => ?_
    rw [hallowed hunder] at hsome
    cases hsome
  | _ =>
    refine ⟨g, [], ⟨rfl, rfl⟩, ?_, .nil⟩
    rw [List.append_nil]
    exact hstays g rfl rfl hclient hheld

end soundness

section methods

variable {port : Port} {under_lock : Bool} {posts : Except Failure FetchResponse → Prop} {g : Phase} {α β : Type}
  {post : Except Failure α → Unit → Phase → Prop}

theorem inert_entry_kept (g : Phase) : Inert (entry_kept port under_lock posts) g := by
  intro op hplain
  obtain ⟨hlock, hholding⟩ := inert_lock_held g.holding op hplain
  cases op with
  | update | «section» | lock | unlock | response => cases hplain
  | http_do req =>
    refine ⟨⟨hlock, trivial⟩, ?_⟩
    rintro r g' ⟨hheld, hentry, -⟩
    exact Phase.ext (hholding r _ hheld) hentry
  | _ =>
    refine ⟨⟨hlock, trivial⟩, ?_⟩
    rintro r g' ⟨hheld, hentry⟩
    exact Phase.ext (hholding r _ hheld) hentry

theorem obeys_update {f : Nat → KmsClient → KmsClient} {effect : Effect} (heffect : HasEffect f effect)
    (hpermits : g.Permits under_lock effect) {rest : Unit → Kms α}
    (hrest : (rest ()).Obeys (entry_kept port under_lock posts) () { g with entry := effect.entry g.entry } post) :
    (update f >>= rest).Obeys (entry_kept port under_lock posts) () g post := by
  refine Method.obeys_bind_request.mpr ⟨⟨trivial, effect, heffect, hpermits⟩, ?_⟩
  rintro _ g' ⟨hholding, effect', heffect', hentry⟩
  obtain rfl := heffect.unique heffect'
  obtain rfl : g' = { g with entry := effect.entry g.entry } := Phase.ext hholding hentry
  exact hrest

theorem obeys_guard {f : Nat → KmsClient → Bool × KmsClient} {refusal : Failure} {effect : Effect}
    (heffect : GuardEffect f effect)
    (hpasses : ∀ pending : List String, pending.length ≤ 1 → (f 0 (with_pending pending)).1 = true)
    (hpermits : g.Permits under_lock effect) {rest : Unit → Kms α} (hrefused : post (.error refusal) () g)
    (hrest : (rest ()).Obeys (entry_kept port under_lock posts) () { g with entry := effect.entry g.entry } post) :
    (guard f refusal >>= rest).Obeys (entry_kept port under_lock posts) () g post := by
  unfold guard
  rw [Method.bind_assoc]
  refine Method.obeys_bind_request.mpr ⟨⟨trivial, effect, heffect, hpermits⟩, ?_⟩
  intro passed g' hmoves
  rw [Method.obeys_bind, Method.obeys_reject]
  cases passed with
  | true =>
    obtain ⟨hholding, effect', heffect', hentry⟩ := hmoves
    obtain rfl := heffect.unique heffect' hpasses
    obtain rfl : g' = { g with entry := effect.entry g.entry } := Phase.ext hholding hentry
    exact ⟨fun hrefuses => (by cases hrefuses), fun _ => hrest⟩
  | false =>
    obtain rfl : g' = g := Phase.ext hmoves.1 hmoves.2
    exact ⟨fun _ => hrefused, fun hpasses => (by cases hpasses)⟩

theorem obeys_lock (hfree : g.holding = false) {rest : Unit → Kms α}
    (hrest : (rest ()).Obeys (entry_kept port under_lock posts) () { g with holding := true } post) :
    (lock >>= rest).Obeys (entry_kept port under_lock posts) () g post := by
  refine Method.obeys_bind_request.mpr ⟨⟨hfree, trivial⟩, ?_⟩
  rintro _ g' ⟨hholding, hentry⟩
  obtain rfl : g' = { g with holding := true } := Phase.ext hholding hentry
  exact hrest

theorem obeys_unlock (hheld : g.holding = true) (hdone : under_lock = true → g.entry = none) {rest : Unit → Kms α}
    (hrest : (rest ()).Obeys (entry_kept port under_lock posts) () { g with holding := false } post) :
    (unlock >>= rest).Obeys (entry_kept port under_lock posts) () g post := by
  refine Method.obeys_bind_request.mpr ⟨⟨hheld, hdone⟩, ?_⟩
  rintro _ g' ⟨hholding, hentry⟩
  obtain rfl : g' = { g with holding := false } := Phase.ext hholding hentry
  exact hrest

theorem obeys_read {rest : KmsClient → Kms α}
    (hrest : ∀ client, (rest client).Obeys (entry_kept port under_lock posts) () g post) :
    (read >>= rest).Obeys (entry_kept port under_lock posts) () g post := by
  refine Method.obeys_bind_request.mpr ⟨⟨trivial, trivial⟩, ?_⟩
  rintro client g' ⟨hholding, hentry⟩
  obtain rfl : g' = g := Phase.ext hholding hentry
  exact hrest client

theorem obeys_post {req : FetchRequest} (hpost : req.method = "POST") (hheld : g.holding = true)
    {rest : Except Failure FetchResponse → Kms α}
    (hrest : ∀ posted, posts posted → (rest posted).Obeys (entry_kept port under_lock posts) () g post) :
    (http_do req >>= rest).Obeys (entry_kept port under_lock posts) () g post := by
  refine Method.obeys_bind_request.mpr ⟨⟨fun _ => hheld, trivial⟩, ?_⟩
  rintro posted g' ⟨hholding, hentry, hposts⟩
  obtain rfl : g' = g := Phase.ext hholding hentry
  exact hrest posted (hposts hpost)

theorem obeys_response {id : String} (hheld : g.holding = true) (hentry : g.entry = some id)
    {rest : Option String → Kms α}
    (hreceived : ∀ wrapped, (rest (some wrapped)).Obeys (entry_kept port under_lock posts) () { g with entry := none } post)
    (htimed_out : (rest none).Obeys (entry_kept port under_lock posts) ()
      { g with entry := if port.timer_forgets then none else g.entry } post) :
    (response id >>= rest).Obeys (entry_kept port under_lock posts) () g post := by
  refine Method.obeys_bind_request.mpr ⟨⟨hheld, hentry⟩, ?_⟩
  intro wrapped g' hmoves
  cases wrapped with
  | some wrapped =>
    obtain rfl : g' = { g with entry := none } := Phase.ext hmoves.1 hmoves.2
    exact hreceived wrapped
  | none =>
    obtain rfl : g' = { g with entry := if port.timer_forgets then none else g.entry } := Phase.ext hmoves.1 hmoves.2
    exact htimed_out

theorem hasEffect_forget (request_id : String) : HasEffect (fun _ => forget request_id) (.forgets request_id) :=
  fun _ _ => rfl

theorem keepsView_update {f : Nat → KmsClient → KmsClient} (hkeeps : HasEffect f .keeps) :
    KeepsView (entry_kept port under_lock posts) (· = .idle) (.update f) := by
  rintro _ rfl
  refine ⟨⟨trivial, .keeps, hkeeps, trivial⟩, ?_⟩
  rintro _ g' ⟨hholding, effect, heffect, hentry⟩
  obtain rfl := hkeeps.unique heffect
  exact Phase.ext hholding hentry

/-- A rule for the methods outside the exchange itself, whose updates keep the pending
    requests. -/
theorem entry_rule {send : String → String → Kms String} {write : (Nat → KmsClient → KmsClient) → Prop}
    {check_breaker : Nat → KmsClient → Bool × KmsClient}
    (hsend : ∀ id wrapped, (send id wrapped).Keeps (entry_kept port under_lock posts) fun _ g => g = .idle)
    (hwrite : ∀ f, write f → HasEffect f .keeps) (hcheck : GuardEffect check_breaker .keeps)
    (hpasses : ∀ pending : List String, pending.length ≤ 1 → (check_breaker 0 (with_pending pending)).1 = true) :
    ContextRule send write check_breaker (entry_kept port under_lock posts) (· = .idle) where
  plain_op := Inert.plain fun g _ => inert_entry_kept g
  fetch := Inert.fetch fun g _ => inert_entry_kept g
  send := hsend
  write f hf := keepsView_update (hwrite f hf)
  check_breaker := by
    rintro _ rfl
    refine ⟨⟨trivial, .keeps, hcheck, trivial⟩, ?_⟩
    rintro passed g' ⟨hholding, hmove⟩
    cases passed with
    | true =>
      obtain ⟨effect, heffect, hentry⟩ := hmove
      obtain rfl := hcheck.unique heffect hpasses
      exact Phase.ext hholding hentry
    | false => exact Phase.ext hholding hmove
  store_key _ := by
    rintro _ rfl
    exact ⟨⟨trivial, trivial⟩, fun _ g' hmove => Phase.ext hmove.1 hmove.2⟩
  initialized := keepsView_update fun _ _ => rfl
  has_key := by
    rintro _ rfl
    exact ⟨⟨trivial, trivial⟩, fun _ g' hmove => Phase.ext hmove.1 hmove.2⟩
  load_key := by
    rintro _ rfl
    exact ⟨⟨trivial, trivial⟩, fun _ g' hmove => Phase.ext hmove.1 hmove.2⟩

end methods

end webex.key_retrieval

namespace webex.go.key_retrieval

open webex.key_retrieval

variable {lib : Library} {α : Type}

/-- The monitor for the Go port, which registers a request before it waits for the lock. -/
abbrev kept (lib : Library) : Monitor Op Res Phase := entry_kept (port lib) false fun _ => True

theorem abandon_leaves_nothing {request_id : String} {error : Failure} :
    (abandon request_id error : Kms α).Obeys (kept lib) () ⟨true, some request_id⟩ fun _ _ g => g = .idle := by
  unfold abandon
  refine obeys_unlock rfl (fun hunder => by cases hunder) ?_
  refine obeys_update (hasEffect_forget request_id) trivial ?_
  simp [Effect.entry, Phase.idle]

theorem send_kms_request_leaves_nothing (request_id wrapped : String) :
    (send_kms_request request_id wrapped).Keeps (kept lib) fun _ g => g = .idle := by
  rintro _ _ rfl
  have hregister : GuardEffect (fun _ kc => register request_id kc) (.registers request_id) := by
    intro _ kc
    simp only [register]
    split
    · rfl
    · rfl
  have hpasses : ∀ pending : List String, pending.length ≤ 1 → (register request_id (with_pending pending)).1 = true := by
    intro pending hlength
    have hroom : ¬ 100 ≤ pending.length := by omega
    simp [register, with_pending, hroom]
  unfold send_kms_request
  refine obeys_guard hregister hpasses ⟨rfl, fun hunder => (by cases hunder)⟩ rfl ?_
  refine obeys_lock rfl ?_
  refine obeys_read fun kc => ?_
  refine obeys_post rfl rfl fun http_resp _ => ?_
  cases http_resp with
  | error e => exact abandon_leaves_nothing
  | ok http_resp =>
    dsimp only
    split
    · refine obeys_response rfl rfl (fun response => ?_) abandon_leaves_nothing
      exact obeys_unlock rfl (fun _ => rfl) rfl
    · exact abandon_leaves_nothing

theorem write_keeps_pending {f : Nat → KmsClient → KmsClient} (hwrite : Write lib f) : HasEffect f .keeps := by
  cases hwrite with
  | _ => exact fun _ _ => rfl

theorem check_breaker_keeps_pending : GuardEffect check_breaker .keeps := by
  intro time kc
  simp only [check_breaker, Effect.apply]
  split
  · split
    · rfl
    · rfl
  · rfl

theorem entry_rule : ContextRule lib (kept lib) (· = .idle) :=
  webex.key_retrieval.entry_rule send_kms_request_leaves_nothing (fun _ => write_keeps_pending) check_breaker_keeps_pending
    fun _ _ => rfl

end webex.go.key_retrieval

namespace webex.python.key_retrieval

open webex.key_retrieval

variable {lib : Library} {α : Type}

/-- A POST fails with no `KmsError` of its own. -/
def PostsFail (posted : Except Failure FetchResponse) : Prop := ∀ message, posted ≠ .error (.kms_error message)

/-- The monitor for the Python port, which registers a request under the lock. -/
abbrev kept (lib : Library) : Monitor Op Res Phase := entry_kept (port lib) true PostsFail

theorem post_failed_forgets {request_id : String} {error : Failure} {entry : Option String}
    (hentry : entry = none ∨ entry = some request_id ∧ ∀ message, error ≠ .kms_error message) :
    (post_failed request_id error).Obeys (kept lib) () ⟨true, entry⟩ fun _ _ g => g = ⟨true, none⟩ := by
  cases error with
  | kms_error message =>
    obtain rfl | ⟨-, hother⟩ := hentry
    · exact rfl
    · exact absurd rfl (hother message)
  | other message =>
    refine obeys_update (hasEffect_forget request_id) trivial ?_
    obtain rfl | ⟨rfl, -⟩ := hentry
    · exact rfl
    · simp [Effect.entry]

theorem post_and_wait_leaves_nothing (request_id wrapped : String) :
    (post_and_wait request_id wrapped).Obeys (kept lib) () ⟨true, none⟩ fun _ _ g => g = ⟨true, none⟩ := by
  have hregister : HasEffect (fun _ (self : KmsClient) =>
      { self with pending_requests := self.pending_requests ++ [request_id] }) (.registers request_id) := fun _ _ => rfl
  unfold post_and_wait
  refine obeys_update hregister ⟨rfl, fun _ => rfl⟩ ?_
  refine obeys_read fun self => ?_
  refine obeys_post rfl rfl fun posted hposted => ?_
  cases posted with
  | error e =>
    refine post_failed_forgets (.inr ⟨rfl, ?_⟩)
    rintro message rfl
    exact hposted message rfl
  | ok posted =>
    dsimp only
    split
    · exact obeys_response rfl rfl (fun wrapped_response => rfl) rfl
    · refine obeys_update (hasEffect_forget request_id) trivial ?_
      rw [Method.obeys_bind, Method.obeys_attempt]
      simp only [Effect.entry, if_true]
      refine ((plain_call rfl).obeys (inert_entry_kept _)).mono ?_
      rintro error_body _ _ rfl
      cases error_body with
      | ok error_body => exact rfl
      | error e => exact post_failed_forgets (.inl rfl)

theorem send_kms_request_leaves_nothing (request_id wrapped : String) :
    (send_kms_request request_id wrapped).Keeps (kept lib) fun _ g => g = .idle := by
  rintro _ _ rfl
  have hbound : GuardEffect (fun _ self => (decide (self.pending_requests.length < 100), self)) .keeps := by
    intro _ self
    simp [Effect.apply]
  have hpasses : ∀ pending : List String, pending.length ≤ 1 → decide (pending.length < 100) = true := by
    intro pending hlength
    exact decide_eq_true (by omega)
  unfold send_kms_request
  refine obeys_guard hbound hpasses trivial rfl ?_
  refine obeys_lock rfl ?_
  rw [Method.obeys_bind, Method.obeys_attempt]
  refine (post_and_wait_leaves_nothing request_id wrapped).mono ?_
  rintro outcome _ _ rfl
  exact obeys_unlock rfl (fun _ => rfl) rfl

theorem write_keeps_pending {f : Nat → KmsClient → KmsClient} (hwrite : Write f) : HasEffect f .keeps := by
  cases hwrite with
  | _ => exact fun _ _ => rfl

theorem check_breaker_keeps_pending : GuardEffect check_breaker .keeps := by
  intro time self
  simp only [check_breaker, Effect.apply]
  split
  · split
    · rfl
    · rfl
  · rfl

theorem entry_rule : ContextRule (kept lib) (· = .idle) :=
  webex.key_retrieval.entry_rule send_kms_request_leaves_nothing (fun _ => write_keeps_pending) check_breaker_keeps_pending
    fun _ _ => rfl

end webex.python.key_retrieval

namespace webex.key_retrieval

/-- Every pending request waits for its response and has a call of its own, which has not
    ended, so that none is left behind when the calls have. -/
structure Hygienic (self : System) : Prop where
  distinct : self.env.client.pending_requests.Nodup
  unanswered : ∀ id ∈ self.env.client.pending_requests, id ∉ self.env.responses.map Prod.fst
  owned : ∃ owner : String → Nat, (∀ id ∈ self.env.client.pending_requests, ∃ op, self.head (owner id) = some op) ∧
    ∀ a ∈ self.env.client.pending_requests, ∀ b ∈ self.env.client.pending_requests, owner a = owner b → a = b
  settled : self.Ended → self.env.client.pending_requests = []

section hygiene

variable {port : Port} {under_lock : Bool} {posts : Except Failure FetchResponse → Prop} {client : KmsClient}
  {s : System} {views : List Phase}

abbrev EntriesKept (port : Port) (under_lock : Bool) (posts : Except Failure FetchResponse → Prop) (s : System)
    (views : List Phase) : Prop :=
  s.Obeyed (entry_kept port under_lock posts) (· = Phase.idle) (Fits under_lock) views

theorem Fits.start {env : Env} (hfits : Fits under_lock env views) : Fits under_lock env (views ++ [.idle]) where
  owned := by
    rw [List.map_append]
    exact hfits.owned.start
  distinct := hfits.distinct
  entries id hmem := by
    obtain ⟨tid, g, hget, hentry⟩ := hfits.entries id hmem
    have hlt := (List.getElem?_eq_some_iff.mp hget).1
    exact ⟨tid, g, by rw [List.getElem?_append_left hlt, hget], hentry⟩
  unanswered := hfits.unanswered
  locked hunder tid g hget hsome := by
    obtain hold | ⟨-, rfl⟩ := getElem?_concat_cases hget
    · exact hfits.locked hunder tid g hold hsome
    · cases hsome

theorem Fits.deliver {env : Env} (hfits : Fits under_lock env views) (request_id wrapped : String) :
    Fits under_lock (env.deliver request_id wrapped) views where
  owned := hfits.owned.of_eq rfl
  distinct := hfits.distinct.erase request_id
  entries id hmem := hfits.entries id (hfits.distinct.mem_erase_iff.mp hmem).2
  unanswered id hmem := by
    obtain ⟨hne, hold⟩ := hfits.distinct.mem_erase_iff.mp hmem
    simp only [Env.deliver, List.map_append, List.map_cons, List.map_nil, List.mem_append, List.mem_singleton, not_or]
    exact ⟨hfits.unanswered id hold, hne⟩
  locked := hfits.locked

theorem tracks_entries (hget : ∀ key_uri, (port.get_key key_uri).Keeps (entry_kept port under_lock posts) fun _ g => g = .idle)
    (hhandshake : port.initialize_client.Keeps (entry_kept port under_lock posts) fun _ g => g = .idle) :
    Tracks port (entry_kept port under_lock posts) (· = .idle) .idle (Fits under_lock)
      fun env tid op choice => FreshIds port env tid op choice ∧ Posts posts op choice where
  sound := performs_fits
  start_inv := rfl
  get_key := hget
  initialize_client := hhandshake
  start _ _ hfits := hfits.start
  deliver _ _ _ _ hfits _ := hfits.deliver _ _
  wait _ _ _ hfits := ⟨hfits.owned.of_eq rfl, hfits.distinct, hfits.entries, hfits.unanswered, hfits.locked⟩

theorem fits_init (hclient : client.pending_requests = []) : Fits under_lock { client := client } [] where
  owned := ⟨none, rfl, by simp⟩
  distinct := by simp [hclient]
  entries := by simp [hclient]
  unanswered := by simp [hclient]
  locked := by simp

theorem Hygienic.of_kept (hkept : EntriesKept port under_lock posts s views) : Hygienic s := by
  have howned : ∃ owner : String → Nat, (∀ id ∈ s.env.client.pending_requests, ∃ op, s.head (owner id) = some op) ∧
      ∀ a ∈ s.env.client.pending_requests, ∀ b ∈ s.env.client.pending_requests, owner a = owner b → a = b := by
    choose! owner view hview hentry using hkept.view.entries
    refine ⟨owner, ?_, ?_⟩
    · intro id hmem
      refine hkept.head_of_not_final (hview id hmem) ?_
      intro hidle
      have hsome := hentry id hmem
      rw [hidle] at hsome
      cases hsome
    · intro a ha b hb hsame
      have hviews : view a = view b :=
        Option.some.inj ((hview a ha).symm.trans ((congrArg (views[·]?) hsame).trans (hview b hb)))
      exact Option.some.inj ((hentry a ha).symm.trans ((congrArg Phase.entry hviews).trans (hentry b hb)))
  constructor
  case distinct => exact hkept.view.distinct
  case unanswered => exact hkept.view.unanswered
  case owned => exact howned
  case settled =>
    intro hended
    obtain ⟨owner, hhead, -⟩ := howned
    apply List.eq_nil_iff_forall_not_mem.mpr
    intro id hmem
    obtain ⟨op, hop⟩ := hhead id hmem
    rw [hended] at hop
    cases hop

/-- Requests that join the pending ones under the lock are pending one at a time. -/
theorem pending_length_le_one (hkept : EntriesKept port true posts s views) : s.env.client.pending_requests.length ≤ 1 := by
  obtain ⟨owner, -, hiff⟩ := hkept.view.owned
  have hsame : ∀ a ∈ s.env.client.pending_requests, ∀ b ∈ s.env.client.pending_requests, a = b := by
    intro a ha b hb
    obtain ⟨i, first, hfirst, hfirst_entry⟩ := hkept.view.entries a ha
    obtain ⟨j, second, hsecond, hsecond_entry⟩ := hkept.view.entries b hb
    have hi : owner = some i := by
      rw [← hiff i, List.getElem?_map, hfirst, Option.map_some,
        hkept.view.locked rfl i first hfirst (by rw [hfirst_entry]; rfl)]
    have hj : owner = some j := by
      rw [← hiff j, List.getElem?_map, hsecond, Option.map_some,
        hkept.view.locked rfl j second hsecond (by rw [hsecond_entry]; rfl)]
    obtain rfl := Option.some.inj (hi.symm.trans hj)
    obtain rfl := Option.some.inj (hfirst.symm.trans hsecond)
    exact Option.some.inj (hfirst_entry.symm.trans hsecond_entry)
  cases hpending : s.env.client.pending_requests with
  | nil => exact Nat.zero_le 1
  | cons a rest =>
    cases rest with
    | nil => exact Nat.le_refl 1
    | cons b rest =>
      rw [hpending] at hsame
      have hnodup := hpending ▸ hkept.view.distinct
      obtain rfl := hsame a (by simp) b (by simp)
      simp at hnodup

end hygiene

/-- When request ids are not used twice, neither client leaves a pending request behind, in any
    run and with any number of calls; the Python client, whose POSTs raise no `KmsError`, never
    has more than one, so that its bound on them is never reached. -/
theorem pending_requests_hygienic (lib : Library) (client : KmsClient) (hclient : client.pending_requests = [])
    (go_client python_client : System)
    (hgo : (calls (go.key_retrieval.port lib) client).Reachable (Performing (FreshIds (go.key_retrieval.port lib))) go_client)
    (hpython : (calls (python.key_retrieval.port lib) client).Reachable (Performing fun env tid op choice =>
      FreshIds (python.key_retrieval.port lib) env tid op choice ∧ Posts python.key_retrieval.PostsFail op choice)
        python_client) :
    Hygienic go_client ∧ Hygienic python_client ∧ python_client.env.client.pending_requests.length ≤ 1 := by
  have hgo_rule : go.key_retrieval.ContextRule lib (go.key_retrieval.kept lib) (· = .idle) := go.key_retrieval.entry_rule
  have hpython_rule : python.key_retrieval.ContextRule (python.key_retrieval.kept lib) (· = .idle) :=
    python.key_retrieval.entry_rule
  have hgo_posts : (calls (go.key_retrieval.port lib) client).Reachable (Performing fun env tid op choice =>
      FreshIds (go.key_retrieval.port lib) env tid op choice ∧ Posts (fun _ => True) op choice) go_client := by
    refine hgo.mono fun s label hfresh => ?_
    cases label with
    | perform tid choice => exact fun op hhead => ⟨hfresh op hhead, fun _ _ _ _ _ => trivial⟩
    | _ => trivial
  obtain ⟨go_views, hgo_kept⟩ := (tracks_entries hgo_rule.get_key
    hgo_rule.initialize_client).obeyed (fits_init hclient) hgo_posts
  obtain ⟨python_views, hpython_kept⟩ := (tracks_entries hpython_rule.get_key
    hpython_rule.initialize_client).obeyed (fits_init hclient) hpython
  exact ⟨.of_kept hgo_kept, .of_kept hpython_kept, pending_length_le_one hpython_kept⟩

/-- `FreshIds` as a test. -/
def fresh_ids (port : Port) (self : System) : Label → Bool
  | .perform tid choice => match self.advance (perform port) tid choice with
    | some next => match next.env.client.pending_requests.getLast? with
      | some id => next.env.client.pending_requests != self.env.client.pending_requests ++ [id] ||
          (!self.env.client.pending_requests.contains id && !(self.env.responses.map Prod.fst).contains id)
      | none => true
    | none => true
  | _ => true

theorem freshIds_of_test {port : Port} {s : System} {tid : Nat} {choice : Answer}
    (htest : fresh_ids port s (.perform tid choice) = true) {op : Op} (hhead : s.head tid = some op) :
    FreshIds port s.env tid op choice := by
  intro r env' spawned hperform id hpending
  obtain ⟨next, hadvance, rfl⟩ := Pool.advance_env hhead hperform
  simp only [fresh_ids, hadvance, hpending, List.getLast?_concat, bne_self_eq_false, Bool.false_or, Bool.and_eq_true,
    Bool.not_eq_true', List.contains_eq_mem, decide_eq_false_iff_not] at htest
  exact htest

/-- No POST of a step raises a `KmsError`. -/
def posts_fail : Label → Bool
  | .perform _ (.fetched (.error (.kms_error _))) => false
  | _ => true

theorem postsFail_of_test {tid : Nat} {op : Op} {choice : Answer} (htest : posts_fail (.perform tid choice) = true) :
    Posts python.key_retrieval.PostsFail op choice := by
  rintro req _ - rfl - message rfl
  cases htest

theorem waiting_handshakes_hygienic :
    ∃ go_client python_client,
      (calls (go.key_retrieval.port sample_library) sample_client).run { env := { client := sample_client }, tasks := [] }
        go_waiting = some go_client ∧
      (calls (python.key_retrieval.port sample_library) sample_client).run
        { env := { client := sample_client }, tasks := [] } python_waiting = some python_client ∧
      go_client.env.client.pending_requests = ["r0", "r1"] ∧ python_client.env.client.pending_requests = ["r0"] ∧
      Hygienic go_client ∧ Hygienic python_client := by
  obtain ⟨go_client, hgo, hgo_pending⟩ : ∃ s, (calls (go.key_retrieval.port sample_library) sample_client).run
      { env := { client := sample_client }, tasks := [] } go_waiting = some s ∧
      s.env.client.pending_requests = ["r0", "r1"] := ⟨_, rfl, rfl⟩
  obtain ⟨python_client, hpython, hpython_pending⟩ :
      ∃ s, (calls (python.key_retrieval.port sample_library) sample_client).run
        { env := { client := sample_client }, tasks := [] } python_waiting = some s ∧
      s.env.client.pending_requests = ["r0"] := ⟨_, rfl, rfl⟩
  have hgo_meets : (calls (go.key_retrieval.port sample_library) sample_client).Meets
      (Performing (FreshIds (go.key_retrieval.port sample_library))) { env := { client := sample_client }, tasks := [] }
        go_waiting := by
    have hmeets : (calls (go.key_retrieval.port sample_library) sample_client).meets
        (fresh_ids (go.key_retrieval.port sample_library)) { env := { client := sample_client }, tasks := [] } go_waiting =
          true := by
      decide
    refine .mono (fun s label htest => ?_) (.of_meets hmeets)
    cases label with
    | perform tid choice => exact fun op hhead => freshIds_of_test htest hhead
    | _ => trivial
  have hpython_meets : (calls (python.key_retrieval.port sample_library) sample_client).Meets
      (Performing fun env tid op choice => FreshIds (python.key_retrieval.port sample_library) env tid op choice ∧
        Posts python.key_retrieval.PostsFail op choice) { env := { client := sample_client }, tasks := [] }
        python_waiting := by
    have hmeets : (calls (python.key_retrieval.port sample_library) sample_client).meets
        (fun s label => fresh_ids (python.key_retrieval.port sample_library) s label && posts_fail label)
        { env := { client := sample_client }, tasks := [] } python_waiting = true := by
      decide
    refine .mono (fun s label htest => ?_) (.of_meets hmeets)
    rw [Bool.and_eq_true] at htest
    cases label with
    | perform tid choice => exact fun op hhead => ⟨freshIds_of_test htest.1 hhead, postsFail_of_test htest.2⟩
    | _ => trivial
  obtain ⟨hgo_hygienic, hpython_hygienic, -⟩ := pending_requests_hygienic sample_library sample_client rfl go_client
    python_client (.run .init go_waiting hgo_meets hgo) (.run .init python_waiting hpython_meets hpython)
  exact ⟨go_client, python_client, hgo, hpython, hgo_pending, hpython_pending, hgo_hygienic, hpython_hygienic⟩

end webex.key_retrieval

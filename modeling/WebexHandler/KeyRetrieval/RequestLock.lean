import WebexHandler.Go.KmsClient.Methods
import WebexHandler.Interaction.Completion
import WebexHandler.Python.KmsClient.Methods
import WebexHandler.SameKey

open interaction json transition

namespace webex.key_retrieval

/-- Whether a call holds the request lock after an operation. -/
def holds (g : Bool) : Op → Bool
  | .lock => true
  | .unlock => false
  | _ => g

/-- A call takes the lock when it does not hold it, and sends a KMS message, waits for the
    response and releases the lock while it does. -/
def lock_held : Monitor Op Res Bool where
  allowed g op := match op with
    | .lock => g = false
    | .unlock | .response _ => g = true
    | .http_do req => req.method = "POST" → g = true
    | _ => True
  moves g op _ g' := g' = holds g op

/-- An operation of the exchange of a message with the KMS. -/
def Exchanging : Op → Prop
  | .unlock | .response _ => True
  | .http_do req => req.method = "POST"
  | _ => False

theorem Exchanging.holds {op : Op} {g : Bool} (hexchanging : Exchanging op) (hallowed : lock_held.allowed g op) :
    g = true := by
  cases op with
  | unlock | response => exact hallowed
  | http_do req => exact hallowed hexchanging
  | _ => cases hexchanging

/-- The lock is taken exactly when a call holds it, and at most one does. -/
def Owned (env : Env) (views : List Bool) : Prop :=
  ∃ owner : Option Nat, env.request_mu = owner.isSome ∧ ∀ tid, views[tid]? = some true ↔ owner = some tid

theorem Owned.of_eq {env env' : Env} {views : List Bool} (howned : Owned env views)
    (hlock : env'.request_mu = env.request_mu) : Owned env' views := by
  obtain ⟨owner, howner, hviews⟩ := howned
  exact ⟨owner, hlock.trans howner, hviews⟩

theorem Owned.start {env : Env} {views : List Bool} (howned : Owned env views) : Owned env (views ++ [false]) := by
  obtain ⟨owner, howner, hviews⟩ := howned
  refine ⟨owner, howner, fun tid => ?_⟩
  rw [← hviews tid]
  constructor
  · intro hget
    obtain hold | ⟨-, heq⟩ := getElem?_concat_cases hget
    · exact hold
    · cases heq
  · intro hget
    have hlt := (List.getElem?_eq_some_iff.mp hget).1
    rw [List.getElem?_append_left hlt, hget]

section soundness

variable {port : Port}

/-- What an operation does to the lock. -/
theorem answer_request_mu {op : Op} {choice : Answer} {env env' : Env} {r : Res op}
    (hanswer : answer port op choice env = some (r, env')) :
    env'.request_mu = holds env.request_mu op ∧ (op = .lock → env.request_mu = false) := by
  cases op with
  | lock =>
    cases choice <;> simp only [answer, reduceCtorEq, Option.ite_none_left_eq_some, Option.some.injEq,
      Prod.mk.injEq] at hanswer
    obtain ⟨hfree, -, rfl⟩ := hanswer
    exact ⟨rfl, fun _ => by simpa using hfree⟩
  | response id =>
    cases choice with
    | own =>
      simp only [answer, Option.map_eq_some_iff, Prod.mk.injEq] at hanswer
      obtain ⟨wrapped, -, -, rfl⟩ := hanswer
      exact ⟨rfl, fun heq => by cases heq⟩
    | timed_out =>
      simp only [answer, Option.some.injEq, Prod.mk.injEq] at hanswer
      obtain ⟨-, rfl⟩ := hanswer
      split <;> exact ⟨rfl, fun heq => by cases heq⟩
    | _ => cases hanswer
  | _ =>
    cases choice <;> cases hanswer
    exact ⟨rfl, fun heq => by cases heq⟩

/-- Every operation but the wait for the lock may go on at once. -/
theorem answer_enabled (op : Op) {env : Env} (hfree : op = .lock → env.request_mu = false) :
    ∃ choice, (answer port op choice env).isSome := by
  cases op with
  | lock => exact ⟨.own, by simp [answer, hfree rfl]⟩
  | response id => exact ⟨.timed_out, rfl⟩
  | new_request_id => exact ⟨.id "", rfl⟩
  | http_do req => exact ⟨.fetched (.error (.other "")), rfl⟩
  | details response => exact ⟨.details (.error (.other "")), rfl⟩
  | json | parse | import_key => exact ⟨.value (.error (.other "")), rfl⟩
  | text | decrypt | decode_payload | derive => exact ⟨.text (.error (.other "")), rfl⟩
  | generate_key => exact ⟨.key_pair (.error (.other "")), rfl⟩
  | wrap_rsa | wrap => exact ⟨.encrypted (.error (.encrypt, .other "")), rfl⟩
  | parse_encrypted => exact ⟨.parsed (.error (.other "")), rfl⟩
  | _ => exact ⟨.own, rfl⟩

theorem performs_owned : Pool.Sound lock_held (· = false) Owned (fun _ _ _ _ => True) (perform port) := by
  rintro tid op choice env r env' spawned views g howned hget hallowed - hperform
  simp only [perform, Option.map_eq_some_iff, Prod.mk.injEq] at hperform
  obtain ⟨⟨result, after⟩, hanswer, rfl, rfl, rfl⟩ := hperform
  obtain ⟨hlock, hfree⟩ := answer_request_mu hanswer
  obtain ⟨owner, howner, hviews⟩ := howned
  have hlt : tid < views.length := (List.getElem?_eq_some_iff.mp hget).1
  have hset : ∀ other, (views.set tid (holds g op))[other]? = some true ↔
      (other = tid ∧ holds g op = true) ∨ (other ≠ tid ∧ owner = some other) := by
    intro other
    by_cases heq : other = tid
    · subst heq
      simp [hlt]
    · rw [List.getElem?_set_ne (Ne.symm heq), hviews other]
      simp [heq]
  refine ⟨holds g op, [], rfl, ?_, .nil⟩
  rw [List.append_nil]
  have hkept : holds g op = g → holds env.request_mu op = env.request_mu → Owned (after.record tid op result) (views.set tid (holds g op)) := by
    intro hview hmu
    refine ⟨owner, (hlock.trans hmu).trans howner, fun other => (hset other).trans ?_⟩
    rw [hview]
    by_cases heq : other = tid
    · subst heq
      simp [← hviews other, hget]
    · simp [heq]
  cases op with
  | lock =>
    have hnone : owner = none := by
      rw [hfree rfl] at howner
      exact Option.isNone_iff_eq_none.mp (by simpa using howner.symm)
    refine ⟨some tid, hlock, fun other => (hset other).trans ?_⟩
    simp [hnone, holds, eq_comm]
  | unlock =>
    have howns : owner = some tid := (hviews tid).mp (hget.trans (congrArg some hallowed))
    refine ⟨none, hlock, fun other => (hset other).trans ?_⟩
    simp [howns, holds, eq_comm]
  | _ => exact hkept rfl rfl

end soundness

section methods

theorem inert_lock_held (g : Bool) : Inert lock_held g := by
  intro op hplain
  have hmoves : holds g op = g := by
    cases op with
    | lock | unlock => cases hplain
    | _ => rfl
  refine ⟨?_, fun r g' hmove => Eq.trans hmove hmoves⟩
  cases op with
  | lock | unlock | response => cases hplain
  | http_do req =>
    intro hpost
    simp [Op.apart, hpost] at hplain
  | _ => trivial

theorem keepsView_held {g : Bool} (op : Op) (hallowed : lock_held.allowed g op) (hstays : holds g op = g) :
    KeepsView lock_held (· = g) op := by
  rintro _ rfl
  exact ⟨hallowed, fun _ _ hmove => Eq.trans hmove hstays⟩

theorem keeps_held {g : Bool} (op : Op) (hallowed : lock_held.allowed g op) (hstays : holds g op = g) :
    (Method.request op : Kms (Res op)).Keeps lock_held fun _ h => h = g :=
  (keepsView_held op hallowed hstays).request

theorem keeps_guard_held {g : Bool} {f : Nat → KmsClient → Bool × KmsClient} {refusal : Failure} :
    (guard f refusal).Keeps lock_held fun _ h => h = g :=
  keeps_guard (keepsView_held (.section f) trivial rfl)

/-- A rule for the methods outside the exchange itself, which do nothing with the lock. -/
theorem lock_rule {send : String → String → Kms String} {write : (Nat → KmsClient → KmsClient) → Prop}
    {check_breaker : Nat → KmsClient → Bool × KmsClient}
    (hsend : ∀ id wrapped, (send id wrapped).Keeps lock_held fun _ g => g = false) :
    ContextRule send write check_breaker lock_held (· = false) where
  plain_op := Inert.plain fun g _ => inert_lock_held g
  fetch := Inert.fetch fun g _ => inert_lock_held g
  send := hsend
  write _ _ := keepsView_held _ trivial rfl
  check_breaker := keepsView_held _ trivial rfl
  store_key _ := keepsView_held _ trivial rfl
  initialized := keepsView_held _ trivial rfl
  has_key := keepsView_held _ trivial rfl
  load_key := keepsView_held _ trivial rfl

end methods

end webex.key_retrieval

namespace webex.go.key_retrieval

open webex.key_retrieval

/-- A request that failed under the lock gives it back first. -/
theorem abandon_releases {α : Type} (request_id : String) (error : Failure) :
    (abandon request_id error : Kms α).Obeys lock_held () true fun _ _ g => g = false := by
  unfold abandon
  refine Method.obeys_bind_request.mpr ⟨rfl, ?_⟩
  rintro _ _ rfl
  refine Method.obeys_bind_request.mpr ⟨trivial, ?_⟩
  rintro _ _ rfl
  exact rfl

theorem send_kms_request_releases (request_id wrapped : String) :
    (send_kms_request request_id wrapped).Keeps lock_held fun _ g => g = false := by
  rintro _ _ rfl
  unfold send_kms_request
  refine (keeps_guard_held () false rfl).bind ?_ ?_
  · rintro _ _ _ rfl
    refine Method.obeys_bind_request.mpr ⟨rfl, ?_⟩
    rintro _ _ rfl
    refine Method.obeys_bind_request.mpr ⟨trivial, ?_⟩
    rintro kc _ rfl
    refine Method.obeys_bind_request.mpr ⟨fun _ => rfl, ?_⟩
    rintro http_resp _ rfl
    cases http_resp with
    | error e => exact abandon_releases _ _
    | ok http_resp =>
      dsimp only
      split
      · refine Method.obeys_bind_request.mpr ⟨rfl, ?_⟩
        rintro response _ rfl
        cases response with
        | none => exact abandon_releases _ _
        | some response =>
          refine Method.obeys_bind_request.mpr ⟨rfl, ?_⟩
          rintro _ _ rfl
          exact rfl
      · exact abandon_releases _ _
  · rintro _ _ _ rfl
    exact rfl

end webex.go.key_retrieval

namespace webex.python.key_retrieval

open webex.key_retrieval

/-- A segment of an exchange, under the lock. -/
theorem post_and_wait_holds (request_id wrapped : String) :
    (post_and_wait request_id wrapped).Keeps lock_held fun _ g => g = true := by
  have hfailed : ∀ error, (post_failed request_id error).Keeps lock_held fun _ g => g = true := by
    intro error
    cases error with
    | kms_error message => exact Method.keeps_throw _
    | other message =>
      apply Method.keeps_bind (keeps_held (.update _) trivial rfl)
      intro _
      exact Method.keeps_throw _
  unfold post_and_wait
  apply Method.keeps_bind (keeps_held (.update _) trivial rfl)
  intro _
  apply Method.keeps_bind (keeps_held .get trivial rfl)
  intro self
  apply Method.keeps_bind (keeps_held (.http_do _) (fun _ => rfl) rfl)
  intro posted
  cases posted with
  | error e => exact hfailed e
  | ok posted =>
    dsimp only
    split
    · apply Method.keeps_bind (keeps_held (.response _) rfl rfl)
      intro wrapped_response
      cases wrapped_response with
      | none => exact Method.keeps_throw _
      | some wrapped_response => exact Method.keeps_pure _
    · apply Method.keeps_bind (keeps_held (.update _) trivial rfl)
      intro _
      apply Method.keeps_bind (Method.keeps_attempt ((plain_call rfl).keeps (Inert.plain fun g _ => inert_lock_held g)))
      intro error_body
      cases error_body with
      | ok error_body => exact Method.keeps_throw _
      | error e => exact hfailed e

theorem send_kms_request_releases (request_id wrapped : String) :
    (send_kms_request request_id wrapped).Keeps lock_held fun _ g => g = false := by
  rintro _ _ rfl
  unfold send_kms_request
  refine (keeps_guard_held () false rfl).bind ?_ ?_
  · rintro _ _ _ rfl
    refine Method.obeys_bind_request.mpr ⟨rfl, ?_⟩
    rintro _ _ rfl
    rw [Method.obeys_bind, Method.obeys_attempt]
    refine (post_and_wait_holds request_id wrapped () true rfl).mono ?_
    rintro outcome _ _ rfl
    refine Method.obeys_bind_request.mpr ⟨rfl, ?_⟩
    rintro _ _ rfl
    exact rfl
  · rintro _ _ _ rfl
    exact rfl

end webex.python.key_retrieval

namespace webex.key_retrieval

/-- The messages to the KMS are exchanged one at a time, under a lock that is given back
    however an exchange ends, and no call waits for ever. -/
structure Serialized (port : Port) (self : System) : Prop where
  exclusive : ∀ i j op op', self.head i = some op → self.head j = some op' → Exchanging op → Exchanging op' → i = j
  locked : ∀ tid op, self.head tid = some op → Exchanging op → self.env.request_mu = true
  held : self.env.request_mu = true → ∃ tid op, self.head tid = some op ∧ op ≠ .lock
  completes : ∃ last, Relation.ReflTransGen (Pool.Advances (perform port)) self last ∧ last.Ended ∧
    last.env.request_mu = false

section serialized

variable {port : Port} {client : KmsClient} {s : System}

theorem perform_spawnless : Pool.Spawnless (perform port) := by
  intro tid op choice env r env' spawned hperform
  simp only [perform, Option.map_eq_some_iff, Prod.mk.injEq] at hperform
  obtain ⟨_, -, -, -, rfl⟩ := hperform
  rfl

theorem finite_of_reachable (hreach : (calls port client).Reachable Machine.Always s) : s.Finite := by
  induction hreach with
  | init => exact fun _ hmem => by cases hmem
  | @step s next label _ _ hstep ih =>
    have hstart : ∀ task : Task Op Res, task.body = none → (s.start task).Finite := by
      intro task hbody other hmem
      obtain hold | hnew := List.mem_append.mp hmem
      · exact ih other hold
      · exact List.mem_singleton.mp hnew ▸ hbody
    cases label with
    | get_key key_uri =>
      obtain rfl := Option.some.inj hstep
      exact hstart _ rfl
    | initialize_client =>
      obtain rfl := Option.some.inj hstep
      exact hstart _ rfl
    | perform tid choice => exact ih.advance perform_spawnless ⟨tid, choice, hstep⟩
    | deliver request_id wrapped =>
      simp only [calls, System.step, Option.ite_none_right_eq_some, Option.some.injEq] at hstep
      exact hstep.2 ▸ ih
    | wait millis =>
      obtain rfl := Option.some.inj hstep
      exact ih

/-- The holder of the lock has something left to do, which is not to wait for the lock. -/
theorem holder_goes_on {views : List Bool} (hobeyed : s.Obeyed lock_held (· = false) Owned views)
    (hlocked : s.env.request_mu = true) : ∃ tid op, s.head tid = some op ∧ op ≠ .lock := by
  obtain ⟨owner, howner, hviews⟩ := hobeyed.view
  rw [hlocked] at howner
  obtain ⟨tid, rfl⟩ := Option.isSome_iff_exists.mp howner.symm
  have hview := (hviews tid).mpr rfl
  obtain ⟨op, hhead⟩ := hobeyed.head_of_not_final hview (by simp)
  refine ⟨tid, op, hhead, ?_⟩
  rintro rfl
  have hallowed := hobeyed.allowed_of_view hview hhead
  exact absurd hallowed (by simp [lock_held])

theorem progress_of_obeyed {views : List Bool} (hobeyed : s.Obeyed lock_held (· = false) Owned views)
    (hopen : ¬ s.Ended) : ∃ next, Pool.Advances (perform port) s next := by
  have hgoes : ∀ tid op, s.head tid = some op → (op = .lock → s.env.request_mu = false) →
      ∃ next, Pool.Advances (perform port) s next := by
    intro tid op hhead hfree
    obtain ⟨choice, henabled⟩ : ∃ choice, (answer port op choice s.env).isSome := answer_enabled op hfree
    have hperforms : (perform port tid op choice s.env).isSome := by simpa [perform] using henabled
    obtain ⟨next, hnext⟩ := Pool.advance_isSome hhead hperforms
    exact ⟨next, tid, choice, hnext⟩
  obtain ⟨tid, hsome⟩ := not_forall.mp hopen
  obtain ⟨op, hhead⟩ := Option.ne_none_iff_exists'.mp hsome
  cases hlock : s.env.request_mu with
  | false => exact hgoes tid op hhead fun _ => hlock
  | true =>
    obtain ⟨holder, op', hhead', hne⟩ := holder_goes_on hobeyed hlock
    exact hgoes holder op' hhead' fun heq => absurd heq hne

theorem Serialized.of_tracks (htracks : Tracks port lock_held (· = false) false Owned fun _ _ _ _ => True)
    (hreach : (calls port client).Reachable Machine.Always s) : Serialized port s := by
  have hobeyed : ∀ {s}, (calls port client).Reachable Machine.Always s → ∃ views, s.Obeyed lock_held (· = false) Owned views := by
    intro s hreach
    refine htracks.obeyed ⟨none, rfl, by simp⟩ (hreach.mono fun _ label _ => ?_)
    cases label with
    | perform tid choice => exact fun _ _ => trivial
    | _ => trivial
  obtain ⟨views, hviews⟩ := hobeyed hreach
  have howner : ∀ tid op, s.head tid = some op → Exchanging op → views[tid]? = some true := by
    intro tid op hhead hexchanging
    obtain ⟨g, hg, hallowed⟩ := hviews.allowed hhead
    rw [hg, hexchanging.holds hallowed]
  constructor
  case exclusive =>
    intro i j op op' hi hj hop hop'
    obtain ⟨owner, -, hiff⟩ := hviews.view
    exact Option.some.inj (((hiff i).mp (howner i op hi hop)).symm.trans ((hiff j).mp (howner j op' hj hop')))
  case locked =>
    intro tid op hhead hop
    obtain ⟨owner, hlock, hiff⟩ := hviews.view
    rw [hlock, (hiff tid).mp (howner tid op hhead hop)]
    rfl
  case held => exact holder_goes_on hviews
  case completes =>
    have hkeep : ∀ before after, (calls port client).Reachable Machine.Always before →
        Pool.Advances (perform port) before after → (calls port client).Reachable Machine.Always after := by
      rintro before after hbefore ⟨tid, choice, hadvance⟩
      have hstep : (calls port client).step before (.perform tid choice) = some after := hadvance
      exact .step hbefore trivial hstep
    have hprogress : ∀ state, (calls port client).Reachable Machine.Always state → ¬ state.Ended →
        ∃ next, Pool.Advances (perform port) state next := by
      intro state hstate hopen
      obtain ⟨views', hviews'⟩ := hobeyed hstate
      exact progress_of_obeyed hviews' hopen
    obtain ⟨last, hrun, hlast, hended⟩ :=
      Pool.completes perform_spawnless hkeep hprogress hreach (finite_of_reachable hreach)
    refine ⟨last, hrun, hended, ?_⟩
    obtain ⟨views', hviews'⟩ := hobeyed hlast
    cases hlock : last.env.request_mu with
    | false => rfl
    | true =>
      obtain ⟨tid, op, hhead, -⟩ := holder_goes_on hviews' hlock
      rw [hended tid] at hhead
      cases hhead

theorem tracks_lock (hget : ∀ key_uri, (port.get_key key_uri).Keeps lock_held fun _ g => g = false)
    (hhandshake : port.initialize_client.Keeps lock_held fun _ g => g = false) :
    Tracks port lock_held (· = false) false Owned fun _ _ _ _ => True where
  sound := performs_owned
  start_inv := rfl
  get_key := hget
  initialize_client := hhandshake
  start _ _ howned := howned.start
  deliver _ _ _ _ howned _ := howned.of_eq rfl
  wait _ _ _ howned := howned.of_eq rfl

end serialized

/-- In every run of the Go and of the Python client, with any number of calls at a time, the
    exchanges with the KMS are serialized and every call can come to its end. -/
theorem kms_exchanges_serialized (lib : Library) (client : KmsClient) (go_client python_client : System)
    (hgo : (calls (go.key_retrieval.port lib) client).Reachable Machine.Always go_client)
    (hpython : (calls (python.key_retrieval.port lib) client).Reachable Machine.Always python_client) :
    Serialized (go.key_retrieval.port lib) go_client ∧ Serialized (python.key_retrieval.port lib) python_client := by
  have hgo_rule : go.key_retrieval.ContextRule lib lock_held (· = false) :=
    lock_rule go.key_retrieval.send_kms_request_releases
  have hpython_rule : python.key_retrieval.ContextRule lock_held (· = false) :=
    lock_rule python.key_retrieval.send_kms_request_releases
  exact ⟨.of_tracks (tracks_lock hgo_rule.get_key hgo_rule.initialize_client) hgo,
    .of_tracks (tracks_lock hpython_rule.get_key hpython_rule.initialize_client) hpython⟩

section sample

/-- A handshake waits for its response, and another one for the lock. -/
def go_waiting : List Label := go_request 0 "r0" ++ (go_request 1 "r1").take 11

def python_waiting : List Label := python_request 0 "r0" ++ (python_request 1 "r1").take 11

theorem waiting_handshakes_serialized :
    ∃ go_client python_client,
      (calls (go.key_retrieval.port sample_library) sample_client).run { env := { client := sample_client }, tasks := [] }
        go_waiting = some go_client ∧
      (calls (python.key_retrieval.port sample_library) sample_client).run
        { env := { client := sample_client }, tasks := [] } python_waiting = some python_client ∧
      go_client.head 0 = some (.response "r0") ∧ go_client.head 1 = some .lock ∧
      python_client.head 0 = some (.response "r0") ∧ python_client.head 1 = some .lock ∧
      Serialized (go.key_retrieval.port sample_library) go_client ∧
      Serialized (python.key_retrieval.port sample_library) python_client := by
  obtain ⟨go_client, hgo, hgo_first, hgo_second⟩ : ∃ s, (calls (go.key_retrieval.port sample_library) sample_client).run
      { env := { client := sample_client }, tasks := [] } go_waiting = some s ∧ s.head 0 = some (.response "r0") ∧
      s.head 1 = some .lock := ⟨_, rfl, rfl, rfl⟩
  obtain ⟨python_client, hpython, hpython_first, hpython_second⟩ :
      ∃ s, (calls (python.key_retrieval.port sample_library) sample_client).run
        { env := { client := sample_client }, tasks := [] } python_waiting = some s ∧ s.head 0 = some (.response "r0") ∧
      s.head 1 = some .lock := ⟨_, rfl, rfl, rfl⟩
  obtain ⟨hgo_serialized, hpython_serialized⟩ := kms_exchanges_serialized sample_library sample_client go_client
    python_client (Machine.reachable_of_run hgo) (Machine.reachable_of_run hpython)
  exact ⟨go_client, python_client, hgo, hpython, hgo_first, hgo_second, hpython_first, hpython_second,
    hgo_serialized, hpython_serialized⟩

end sample

end webex.key_retrieval

import WebexHandler.KeyRetrieval.PendingRequests

open interaction json transition

namespace webex.key_retrieval

/-- The fields of a client fit one another: a bounded cache with one key for a URI, and a
    breaker that is closed on fewer failures than it takes to open it. A bounded client also
    has a bounded number of pending requests. -/
structure WellFormed (bounded : Bool) (time : Nat) (client : KmsClient) : Prop where
  distinct : (client.key_cache.map Prod.fst).Nodup
  cache_size : client.key_cache.length ≤ 101
  counted : client.cb_state = .closed → client.cb_failures < 3
  dated : client.cb_last_failure ≤ time
  pending_size : bounded = true → client.pending_requests.length ≤ 100

/-- An update by a call that may know that there is an ephemeral key, as it must to mark the
    context initialized. -/
def Sound (bounded keyed : Bool) (f : Nat → KmsClient → KmsClient) : Prop :=
  ∀ time client, WellFormed bounded time client → WellFormed bounded time (f time client) ∧
    ((f time client).initialized = true → client.initialized = true ∨ keyed = true)

/-- A call keeps the client well-formed, and reads the ephemeral key when it knows that there
    is one. -/
def client_kept (bounded : Bool) : Monitor Op Res Bool where
  allowed keyed op := match op with
    | .update f => Sound bounded keyed f
    | .section f => Sound bounded keyed fun time client => (f time client).2
    | .load_key => keyed = true
    | _ => True
  moves keyed op r keyed' := match op, r with
    | .store_key _, _ => keyed' = true
    | .has_key, present => keyed' = (keyed || present)
    | _, _ => keyed' = keyed

/-- A context has its key, and so does a call that knows of one. -/
structure Coherent (bounded : Bool) (env : Env) (views : List Bool) : Prop where
  well_formed : WellFormed bounded env.time env.client
  initialized : env.client.initialized = true → env.ephemeral_key.isSome = true
  known : ∀ tid : Nat, views[tid]? = some true → env.ephemeral_key.isSome = true

section soundness

variable {port : Port} {bounded : Bool}

/-- What an operation does to the ephemeral key. -/
theorem answer_key {op : Op} {choice : Answer} {env env' : Env} {r : Res op}
    (hanswer : answer port op choice env = some (r, env')) :
    env'.time = env.time ∧ (env.ephemeral_key.isSome = true → env'.ephemeral_key.isSome = true) ∧
    match op, r with
    | .store_key _, _ => env'.ephemeral_key.isSome = true
    | .has_key, present => present = env.ephemeral_key.isSome
    | _, _ => True := by
  cases op with
  | lock =>
    cases choice <;> simp only [answer, reduceCtorEq, Option.ite_none_left_eq_some, Option.some.injEq,
      Prod.mk.injEq] at hanswer
    obtain ⟨-, -, rfl⟩ := hanswer
    exact ⟨rfl, id, trivial⟩
  | response id =>
    cases choice with
    | own =>
      simp only [answer, Option.map_eq_some_iff, Prod.mk.injEq] at hanswer
      obtain ⟨wrapped, -, rfl, rfl⟩ := hanswer
      exact ⟨rfl, fun hkey => hkey, trivial⟩
    | timed_out =>
      simp only [answer, Option.some.injEq, Prod.mk.injEq] at hanswer
      obtain ⟨rfl, rfl⟩ := hanswer
      split
      · exact ⟨rfl, fun hkey => hkey, trivial⟩
      · exact ⟨rfl, fun hkey => hkey, trivial⟩
    | _ => cases hanswer
  | store_key key =>
    cases choice <;> cases hanswer
    exact ⟨rfl, fun _ => rfl, rfl⟩
  | has_key =>
    cases choice <;> cases hanswer
    exact ⟨rfl, id, rfl⟩
  | _ =>
    cases choice <;> cases hanswer
    exact ⟨rfl, id, trivial⟩

theorem WellFormed.forget {time : Nat} {client : KmsClient} (hformed : WellFormed bounded time client)
    (request_id : String) : WellFormed bounded time (forget request_id client) where
  distinct := hformed.distinct
  cache_size := hformed.cache_size
  counted := hformed.counted
  dated := hformed.dated
  pending_size hbounded := Nat.le_trans (List.length_erase_le) (hformed.pending_size hbounded)

/-- What an operation that is permitted does to the client. -/
theorem answer_sound {op : Op} {choice : Answer} {env env' : Env} {r : Res op} {keyed : Bool}
    (hanswer : answer port op choice env = some (r, env')) (hallowed : (client_kept bounded).allowed keyed op)
    (hformed : WellFormed bounded env.time env.client) :
    WellFormed bounded env.time env'.client ∧
      (env'.client.initialized = true → env.client.initialized = true ∨ keyed = true) := by
  obtain ⟨-, hclient⟩ := answer_pending hanswer
  cases op with
  | update f =>
    have hclient : env'.client = f env.time env.client := hclient
    rw [hclient]
    exact hallowed env.time env.client hformed
  | «section» f =>
    rw [hclient.2]
    exact hallowed env.time env.client hformed
  | response id =>
    cases r with
    | some wrapped =>
      rw [hclient.1]
      exact ⟨hformed, .inl⟩
    | none =>
      have hclient : env'.client = if port.timer_forgets then forget id env.client else env.client := hclient
      rw [hclient]
      split
      · exact ⟨hformed.forget id, .inl⟩
      · exact ⟨hformed, .inl⟩
  | _ =>
    have hclient : env'.client = env.client := hclient
    rw [hclient]
    exact ⟨hformed, .inl⟩

theorem performs_coherent :
    Pool.Sound (client_kept bounded) (fun _ => True) (Coherent bounded) (fun _ _ _ _ => True) (perform port) := by
  rintro tid op choice env r env' spawned views g hcoherent hget hallowed - hperform
  simp only [perform, Option.map_eq_some_iff, Prod.mk.injEq] at hperform
  obtain ⟨⟨result, after⟩, hanswer, rfl, rfl, rfl⟩ := hperform
  obtain ⟨hformed, hinitialized⟩ := answer_sound hanswer hallowed hcoherent.well_formed
  obtain ⟨htime, hkept, hkey⟩ := answer_key hanswer
  have hknown : g = true → env.ephemeral_key.isSome = true := by
    rintro rfl
    exact hcoherent.known tid hget
  have hview : ∀ g', (g' = true → after.ephemeral_key.isSome = true) →
      Coherent bounded (after.record tid op result) (views.set tid g' ++ []) := by
    intro g' hg'
    rw [List.append_nil]
    constructor
    case well_formed =>
      have hsame : (after.record tid op result).time = env.time := htime
      rw [hsame]
      exact hformed
    case initialized =>
      intro hmarked
      obtain hbefore | hkeyed := hinitialized hmarked
      · exact hkept (hcoherent.initialized hbefore)
      · exact hkept (hknown hkeyed)
    case known =>
      intro other hother
      obtain ⟨rfl, heq⟩ | ⟨-, hold⟩ := getElem?_set_cases hother
      · exact hg' heq.symm
      · exact hkept (hcoherent.known other hold)
  cases op with
  | store_key key => exact ⟨true, [], rfl, hview true fun _ => hkey, .nil⟩
  | has_key =>
    refine ⟨g || result, [], rfl, hview _ fun hor => ?_, .nil⟩
    obtain hg | hpresent := Bool.or_eq_true_iff.mp hor
    · exact hkept (hknown hg)
    · exact hkept (hkey.symm.trans hpresent)
  | _ => exact ⟨g, [], rfl, hview g fun hg => hkept (hknown hg), .nil⟩

end soundness

section methods

variable {bounded least : Bool}

/-- At least this is known. -/
abbrev Knows (least g : Bool) : Prop := least = true → g = true

theorem inert_client_kept (g : Bool) : Inert (client_kept bounded) g := by
  intro op hplain
  cases op with
  | update | «section» | load_key | store_key | has_key => cases hplain
  | _ => exact ⟨trivial, fun _ _ hmove => hmove⟩

theorem keepsView_client (op : Op) (hallowed : ∀ g, (client_kept bounded).allowed g op)
    (hmoves : ∀ g r g', (client_kept bounded).moves g op r g' → g' = g) :
    KeepsView (client_kept bounded) (Knows least) op := by
  intro g hknows
  refine ⟨hallowed g, fun r g' hmove => ?_⟩
  rw [hmoves g r g' hmove]
  exact hknows

theorem Sound.mono {f : Nat → KmsClient → KmsClient} (hsound : Sound bounded false f) (keyed : Bool) :
    Sound bounded keyed f := by
  intro time client hformed
  obtain ⟨hafter, hinitialized⟩ := hsound time client hformed
  refine ⟨hafter, fun hmarked => ?_⟩
  obtain hbefore | hkeyed := hinitialized hmarked
  · exact .inl hbefore
  · cases hkeyed

theorem keepsView_sound {f : Nat → KmsClient → KmsClient} (hsound : Sound bounded false f) :
    KeepsView (client_kept bounded) (Knows least) (.update f) :=
  keepsView_client _ hsound.mono fun _ _ _ hmove => hmove

theorem keepsView_section {f : Nat → KmsClient → Bool × KmsClient}
    (hsound : Sound bounded false fun time client => (f time client).2) :
    KeepsView (client_kept bounded) (Knows least) (.section f) :=
  keepsView_client _ hsound.mono fun _ _ _ hmove => hmove

/-- An operation of the exchange itself. -/
def Op.within : Op → Bool
  | .get | .lock | .unlock | .http_do _ | .response _ => true
  | _ => false

theorem keeps_within {op : Op} (hwithin : op.within = true) :
    (Method.request op : Kms (Res op)).Keeps (client_kept bounded) fun _ g => Knows least g := by
  apply KeepsView.request
  cases op with
  | get | lock | unlock | http_do | response => exact keepsView_client _ (fun _ => trivial) fun _ _ _ hmove => hmove
  | _ => cases hwithin

theorem sound_forget (request_id : String) : Sound bounded false fun _ => forget request_id :=
  fun _ _ hformed => ⟨hformed.forget request_id, .inl⟩

theorem keepsView_load_key : KeepsView (client_kept bounded) (Knows true) .load_key :=
  fun _ hknows => ⟨hknows rfl, fun _ _ hmove _ => Eq.trans hmove (hknows rfl)⟩

/-- What follows a check that there is a key knows of one. -/
theorem obeys_bind_has_key {α : Type} {e : Failure} {rest : Kms α} (hrest : rest.Keeps (client_kept bounded) fun _ g => Knows true g)
    (g : Bool) :
    (has_key >>= fun present => Method.reject (!present) e >>= fun _ => rest).Obeys (client_kept bounded) () g
      fun _ _ _ => True := by
  refine Method.obeys_bind_request.mpr ⟨trivial, ?_⟩
  rintro present _ rfl
  rw [Method.obeys_bind, Method.obeys_reject]
  refine ⟨fun _ => trivial, fun hpresent => ?_⟩
  have hknows : Knows true (g || present) := by
    intro _
    simpa using Or.inr hpresent
  exact (hrest () _ hknows).mono fun _ _ _ _ => trivial

/-- A key is stored before the context is marked initialized. -/
theorem obeys_bind_store_key {α : Type} {key : JsonWebKey} {rest : Unit → Kms α} {g : Bool} {post : Except Failure α → Unit → Bool → Prop}
    (hrest : (rest ()).Obeys (client_kept bounded) () true post) :
    (store_key key >>= rest).Obeys (client_kept bounded) () g post := by
  refine Method.obeys_bind_request.mpr ⟨trivial, ?_⟩
  rintro _ _ rfl
  exact hrest

theorem sound_initialized : Sound bounded true fun _ self => { self with initialized := true } :=
  fun _ _ hformed => ⟨⟨hformed.distinct, hformed.cache_size, hformed.counted, hformed.dated, hformed.pending_size⟩,
    fun _ => .inr rfl⟩

end methods

end webex.key_retrieval

namespace webex.go.key_retrieval

open webex.key_retrieval

variable {lib : Library} {least : Bool} {α : Type}

theorem abandon_sound {request_id : String} {error : Failure} :
    (abandon request_id error : Kms α).Keeps (client_kept true) fun _ g => Knows least g := by
  unfold abandon
  apply Method.keeps_bind (keeps_within rfl)
  intro _
  apply Method.keeps_bind (keepsView_sound (sound_forget request_id)).request
  intro _
  exact Method.keeps_throw _

theorem sound_register (request_id : String) : Sound true false fun _ kc => (register request_id kc).2 := by
  intro time kc hformed
  simp only [register]
  split
  · exact ⟨hformed, .inl⟩
  · rename_i hroom
    refine ⟨⟨hformed.distinct, hformed.cache_size, hformed.counted, hformed.dated, fun _ => ?_⟩, .inl⟩
    simp only [List.length_append, List.length_singleton]
    omega

theorem send_kms_request_sound (request_id wrapped : String) :
    (send_kms_request request_id wrapped).Keeps (client_kept true) fun _ g => Knows least g := by
  unfold send_kms_request
  apply Method.keeps_bind (keeps_guard (keepsView_section (sound_register request_id)))
  intro _
  apply Method.keeps_bind (keeps_within rfl)
  intro _
  apply Method.keeps_bind (keeps_within rfl)
  intro kc
  apply Method.keeps_bind (keeps_within rfl)
  intro http_resp
  cases http_resp with
  | error e => exact abandon_sound
  | ok http_resp =>
    dsimp only
    split
    · apply Method.keeps_bind (keeps_within rfl)
      intro response
      cases response with
      | none => exact abandon_sound
      | some response =>
        apply Method.keeps_bind (keeps_within rfl)
        intro _
        exact Method.keeps_pure _
    · exact abandon_sound

theorem record_success_sound (key_uri : String) (content_key : Value) :
    Sound true false fun _ kc => record_success key_uri content_key kc := by
  intro time kc hformed
  refine ⟨⟨?_, ?_, fun _ => Nat.succ_pos 2, hformed.dated, hformed.pending_size⟩, .inl⟩
  · simp only [record_success]
    split
    · simp
    · rw [List.map_cons, List.nodup_cons]
      refine ⟨by simp, hformed.distinct.sublist (List.filter_sublist.map _)⟩
  · simp only [record_success, List.length_cons]
    split
    · simp
    · rename_i hsize
      have hfilter := List.length_filter_le (·.1 != key_uri) kc.key_cache
      omega

theorem record_failure_sound : Sound true false record_failure := by
  intro time kc hformed
  refine ⟨⟨hformed.distinct, hformed.cache_size, ?_, Nat.le_refl time, hformed.pending_size⟩, .inl⟩
  intro hclosed
  simp only [record_failure] at hclosed ⊢
  split at hclosed
  · cases hclosed
  · rename_i hfew
    exact Nat.lt_of_not_le hfew

theorem write_sound {f : Nat → KmsClient → KmsClient} (hwrite : Write lib f) : Sound true false f := by
  cases hwrite with
  | failure => exact record_failure_sound
  | success key_uri content_key => exact record_success_sound key_uri content_key
  | _ =>
    intro time kc hformed
    exact ⟨⟨hformed.distinct, hformed.cache_size, hformed.counted, hformed.dated, hformed.pending_size⟩, .inl⟩

theorem check_breaker_sound : Sound true false fun time kc => (check_breaker time kc).2 := by
  intro time kc hformed
  simp only [check_breaker]
  split
  · split
    · refine ⟨⟨hformed.distinct, hformed.cache_size, ?_, hformed.dated, hformed.pending_size⟩, .inl⟩
      intro hclosed
      cases hclosed
    · exact ⟨hformed, .inl⟩
  · exact ⟨hformed, .inl⟩

theorem client_rule (least : Bool) : Rule lib (client_kept true) (Knows least) where
  plain_op := Inert.plain fun g _ => inert_client_kept g
  fetch := Inert.fetch fun g _ => inert_client_kept g
  send := send_kms_request_sound
  write _ hwrite := keepsView_sound (write_sound hwrite)
  check_breaker := keepsView_section check_breaker_sound

theorem initialize_client_sound : (initialize_client lib).Keeps (client_kept true) fun _ g => Knows least g := by
  refine Rule.initialize_client (client_rule least) ?_
  intro shared_key response_data _ g _
  have hrule : Rule lib (client_kept true) (Knows true) := client_rule true
  unfold finish_handshake
  refine obeys_bind_store_key ?_
  refine Method.obeys_bind_request.mpr ⟨sound_initialized, ?_⟩
  rintro _ _ rfl
  refine (Method.keeps_bind (hrule.update .lifetime) ?_ () true fun _ => rfl).mono fun _ _ _ hknows _ => hknows rfl
  intro _
  split
  · exact hrule.update (.expiration _)
  · exact Method.keeps_pure _

theorem get_key_sound (key_uri : String) : (get_key lib key_uri).Keeps (client_kept true) fun _ g => Knows false g := by
  have hrule : Rule lib (client_kept true) (Knows false) := client_rule false
  have hkeyed : Rule lib (client_kept true) (Knows true) := client_rule true
  have hattempts := hkeyed.get_key_attempts keepsView_load_key key_uri MAX_KMS_ATTEMPTS 1
  unfold get_key
  apply Method.keeps_bind (hrule.plain (plain_request rfl))
  intro kc
  split
  · exact Method.keeps_pure _
  · apply Method.keeps_bind (hrule.plain is_context_expired_plain)
    intro expired
    apply Method.keeps_bind (Method.keeps_when fun _ => initialize_client_sound)
    intro _
    apply Method.keeps_bind (keeps_guard hrule.check_breaker)
    intro _
    apply Method.keeps_bind (hrule.plain (plain_request rfl))
    intro kc
    apply Method.keeps_bind (Method.keeps_reject _ _)
    intro _ _ g _
    exact (obeys_bind_has_key hattempts g).mono fun _ _ _ _ hfalse => by cases hfalse

end webex.go.key_retrieval

namespace webex.python.key_retrieval

open webex.key_retrieval

variable {lib : Library} {least : Bool}

theorem post_failed_sound (request_id : String) (error : Failure) :
    (post_failed request_id error).Keeps (client_kept false) fun _ g => Knows least g := by
  cases error with
  | kms_error message => exact Method.keeps_throw _
  | other message =>
    apply Method.keeps_bind (keepsView_sound (sound_forget request_id)).request
    intro _
    exact Method.keeps_throw _

theorem sound_register (request_id : String) : Sound false false fun _ self =>
    { self with pending_requests := self.pending_requests ++ [request_id] } :=
  fun _ _ hformed => ⟨⟨hformed.distinct, hformed.cache_size, hformed.counted, hformed.dated, fun hbounded => (by cases hbounded)⟩, .inl⟩

theorem post_and_wait_sound (request_id wrapped : String) :
    (post_and_wait request_id wrapped).Keeps (client_kept false) fun _ g => Knows least g := by
  unfold post_and_wait
  apply Method.keeps_bind (keepsView_sound (sound_register request_id)).request
  intro _
  apply Method.keeps_bind (keeps_within rfl)
  intro self
  apply Method.keeps_bind (keeps_within rfl)
  intro posted
  cases posted with
  | error e => exact post_failed_sound request_id e
  | ok posted =>
    dsimp only
    split
    · apply Method.keeps_bind (keeps_within rfl)
      intro wrapped_response
      cases wrapped_response with
      | none => exact Method.keeps_throw _
      | some wrapped_response => exact Method.keeps_pure _
    · apply Method.keeps_bind (keepsView_sound (sound_forget request_id)).request
      intro _
      apply Method.keeps_bind (Method.keeps_attempt ((plain_call rfl).keeps (Inert.plain fun g _ => inert_client_kept g)))
      intro error_body
      cases error_body with
      | ok error_body => exact Method.keeps_throw _
      | error e => exact post_failed_sound request_id e

theorem send_kms_request_sound (request_id wrapped : String) :
    (send_kms_request request_id wrapped).Keeps (client_kept false) fun _ g => Knows least g := by
  unfold send_kms_request
  apply Method.keeps_bind (keeps_guard (keepsView_section fun _ _ hformed => ⟨hformed, .inl⟩))
  intro _
  apply Method.keeps_bind (keeps_within rfl)
  intro _
  apply Method.keeps_bind (Method.keeps_attempt (post_and_wait_sound request_id wrapped))
  intro outcome
  apply Method.keeps_bind (keeps_within rfl)
  intro _
  exact Method.keeps_ofExcept _

theorem cache_key_sound (key_uri : String) (content_key : Value) :
    Sound false false fun _ self => cb_reset (cache_key key_uri content_key self) := by
  intro time self hformed
  refine ⟨⟨?_, ?_, fun _ => Nat.succ_pos 2, hformed.dated, hformed.pending_size⟩, .inl⟩
  · simp only [cb_reset, cache_key]
    split
    · simp
    · rw [List.map_cons, List.nodup_cons]
      exact ⟨by simp, hformed.distinct.sublist (List.filter_sublist.map _)⟩
  · simp only [cb_reset, cache_key, List.length_cons]
    split
    · simp
    · rename_i hsize
      have hfilter := List.length_filter_le (·.1 != key_uri) self.key_cache
      omega

theorem cb_record_failure_sound : Sound false false cb_record_failure := by
  intro time self hformed
  refine ⟨⟨hformed.distinct, hformed.cache_size, ?_, Nat.le_refl time, hformed.pending_size⟩, .inl⟩
  intro hclosed
  simp only [cb_record_failure] at hclosed ⊢
  split at hclosed
  · cases hclosed
  · rename_i hfew
    exact Nat.lt_of_not_le hfew

theorem write_sound {f : Nat → KmsClient → KmsClient} (hwrite : Write f) : Sound false false f := by
  cases hwrite with
  | failure => exact cb_record_failure_sound
  | success key_uri content_key => exact cache_key_sound key_uri content_key
  | _ =>
    intro time self hformed
    exact ⟨⟨hformed.distinct, hformed.cache_size, hformed.counted, hformed.dated, hformed.pending_size⟩, .inl⟩

theorem check_breaker_sound : Sound false false fun time self => (check_breaker time self).2 := by
  intro time self hformed
  simp only [check_breaker]
  split
  · split
    · refine ⟨⟨hformed.distinct, hformed.cache_size, ?_, hformed.dated, hformed.pending_size⟩, .inl⟩
      intro hclosed
      cases hclosed
    · exact ⟨hformed, .inl⟩
  · exact ⟨hformed, .inl⟩

theorem client_rule (least : Bool) : Rule (client_kept false) (Knows least) where
  plain_op := Inert.plain fun g _ => inert_client_kept g
  fetch := Inert.fetch fun g _ => inert_client_kept g
  send := send_kms_request_sound
  write _ hwrite := keepsView_sound (write_sound hwrite)
  check_breaker := keepsView_section check_breaker_sound

theorem initialize_client_sound : (initialize_client lib).Keeps (client_kept false) fun _ g => Knows least g := by
  refine Rule.initialize_client (client_rule least) ?_
  intro shared_key response_data _ g _
  have hrule : Rule (client_kept false) (Knows true) := client_rule true
  unfold finish_handshake
  refine obeys_bind_store_key ?_
  rw [Method.obeys_bind, Method.obeys_ofExcept]
  cases key_field response_data "expirationDate" with
  | error e => exact fun _ => rfl
  | ok expiration =>
    refine (hrule.update (.expiration _) () true fun _ => rfl).bind ?_ ?_
    · intro _ _ g' hknows
      obtain rfl := hknows rfl
      refine ⟨sound_initialized, ?_⟩
      rintro _ _ rfl _
      rfl
    · exact fun _ _ _ hknows _ => hknows rfl

theorem get_key_sound (key_uri : String) : (get_key lib key_uri).Keeps (client_kept false) fun _ g => Knows false g := by
  have hrule : Rule (client_kept false) (Knows false) := client_rule false
  have hkeyed : Rule (client_kept false) (Knows true) := client_rule true
  have hattempts : (get_key_attempts lib key_uri MAX_ATTEMPTS 1).Keeps (client_kept false) fun _ g => Knows true g :=
    hkeyed.get_key_attempts keepsView_load_key key_uri MAX_ATTEMPTS 1
  have hguarded : (guard check_breaker (.kms_error "KMS circuit breaker is open — failing fast") >>= fun _ =>
      get_key_attempts lib key_uri MAX_ATTEMPTS 1).Keeps (client_kept false) fun _ g => Knows true g :=
    Method.keeps_bind (keeps_guard hkeyed.check_breaker) fun _ => hattempts
  apply hrule.get_key
  unfold fetch_key
  apply Method.keeps_bind (hrule.plain (plain_request rfl))
  intro self
  split
  · exact Method.keeps_pure _
  · apply Method.keeps_bind (hrule.plain (plain_request rfl))
    intro time
    apply Method.keeps_bind (Method.keeps_ofExcept _)
    intro expired
    apply Method.keeps_bind (Method.keeps_when fun _ => initialize_client_sound)
    intro _
    apply Method.keeps_bind (hrule.plain (plain_request rfl))
    intro self
    apply Method.keeps_bind (Method.keeps_reject _ _)
    intro _ _ g _
    exact (obeys_bind_has_key hguarded g).mono fun _ _ _ _ hfalse => by cases hfalse

end webex.python.key_retrieval

namespace webex.key_retrieval

/-- The client is well-formed, an initialized context has its key, and a call that reads the
    key finds one. -/
structure Consistent (bounded : Bool) (self : System) : Prop where
  well_formed : WellFormed bounded self.env.time self.env.client
  initialized : self.env.client.initialized = true → self.env.ephemeral_key.isSome = true
  loaded : ∀ tid, self.head tid = some .load_key → self.env.ephemeral_key.isSome = true

section consistency

variable {port : Port} {bounded : Bool}

theorem tracks_client (hget : ∀ key_uri, (port.get_key key_uri).Keeps (client_kept bounded) fun _ g => Knows false g)
    (hhandshake : port.initialize_client.Keeps (client_kept bounded) fun _ g => Knows false g) :
    Tracks port (client_kept bounded) (fun _ => True) false (Coherent bounded) fun _ _ _ _ => True where
  sound := performs_coherent
  start_inv := trivial
  get_key key_uri _ g _ := (hget key_uri () g fun hfalse => (by cases hfalse)).mono fun _ _ _ _ => trivial
  initialize_client _ g _ := (hhandshake () g fun hfalse => (by cases hfalse)).mono fun _ _ _ _ => trivial
  start _ _ hcoherent := by
    refine ⟨hcoherent.well_formed, hcoherent.initialized, fun tid hget => ?_⟩
    obtain hold | ⟨-, heq⟩ := getElem?_concat_cases hget
    · exact hcoherent.known tid hold
    · cases heq
  deliver _ _ request_id _ hcoherent _ :=
    ⟨hcoherent.well_formed.forget request_id, hcoherent.initialized, hcoherent.known⟩
  wait _ _ _ hcoherent := by
    refine ⟨?_, hcoherent.initialized, hcoherent.known⟩
    have hformed := hcoherent.well_formed
    exact ⟨hformed.distinct, hformed.cache_size, hformed.counted, Nat.le_trans hformed.dated (Nat.le_add_right _ _),
      hformed.pending_size⟩

theorem Consistent.of_tracks
    (htracks : Tracks port (client_kept bounded) (fun _ => True) false (Coherent bounded) fun _ _ _ _ => True)
    {client : KmsClient} (hclient : WellFormed bounded 0 client) (hinitialized : client.initialized = false) {s : System}
    (hreach : (calls port client).Reachable Machine.Always s) : Consistent bounded s := by
  have hinit : Coherent bounded { client := client } [] :=
    ⟨hclient, fun hmarked => (by rw [hinitialized] at hmarked; cases hmarked), fun _ hget => (by cases hget)⟩
  have hperforming : (calls port client).Reachable (Performing fun _ _ _ _ => True) s := by
    refine hreach.mono fun _ label _ => ?_
    cases label with
    | perform tid choice => exact fun _ _ => trivial
    | _ => trivial
  obtain ⟨views, hobeyed⟩ := htracks.obeyed hinit hperforming
  refine ⟨hobeyed.view.well_formed, hobeyed.view.initialized, fun tid hhead => ?_⟩
  obtain ⟨g, hget, hallowed⟩ := hobeyed.allowed hhead
  obtain rfl : g = true := hallowed
  exact hobeyed.view.known tid hget

end consistency

/-- A client as its constructor leaves it. -/
def new_kms_client (token device_url user_id encryption_service_url : String) : KmsClient where
  token := token
  device_url := device_url
  user_id := user_id
  encryption_service_url := encryption_service_url

theorem new_well_formed (bounded : Bool) (token device_url user_id encryption_service_url : String) :
    WellFormed bounded 0 (new_kms_client token device_url user_id encryption_service_url) :=
  ⟨.nil, Nat.zero_le _, fun _ => Nat.succ_pos 2, Nat.le_refl 0, fun _ => Nat.zero_le _⟩

/-- Whatever calls run at a time and however they are interleaved, the client of either port
    keeps its caches and counters within their bounds, and no call reads an ephemeral key that
    is not there. -/
theorem clients_consistent (lib : Library) (token device_url user_id encryption_service_url : String)
    (go_client python_client : System)
    (hgo : (calls (go.key_retrieval.port lib) (new_kms_client token device_url user_id encryption_service_url)).Reachable
      Machine.Always go_client)
    (hpython : (calls (python.key_retrieval.port lib)
      (new_kms_client token device_url user_id encryption_service_url)).Reachable Machine.Always python_client) :
    Consistent true go_client ∧ Consistent false python_client :=
  ⟨.of_tracks (tracks_client go.key_retrieval.get_key_sound go.key_retrieval.initialize_client_sound)
      (new_well_formed _ _ _ _ _) rfl hgo,
    .of_tracks (tracks_client python.key_retrieval.get_key_sound python.key_retrieval.initialize_client_sound)
      (new_well_formed _ _ _ _ _) rfl hpython⟩

/-- A call of each port reads the key that the handshake before it has stored. -/
theorem retrieval_after_handshake_consistent :
    ∃ go_client python_client,
      (calls (go.key_retrieval.port sample_library) sample_client).run { env := { client := sample_client }, tasks := [] }
        (go_request 0 "r0" ++ go_derive 0 "r0" "kms://ephemeral-1" "k1" ++ (go_wrap 1 "r1").take 10) = some go_client ∧
      (calls (python.key_retrieval.port sample_library) sample_client).run
        { env := { client := sample_client }, tasks := [] }
        (python_request 0 "r0" ++ python_derive 0 "r0" "kms://ephemeral-1" "k1" ++ (python_wrap 1 "r1").take 8) =
          some python_client ∧
      go_client.head 1 = some .load_key ∧ python_client.head 1 = some .load_key ∧
      Consistent true go_client ∧ Consistent false python_client := by
  obtain ⟨go_client, hgo, hgo_head⟩ : ∃ s, (calls (go.key_retrieval.port sample_library) sample_client).run
      { env := { client := sample_client }, tasks := [] }
        (go_request 0 "r0" ++ go_derive 0 "r0" "kms://ephemeral-1" "k1" ++ (go_wrap 1 "r1").take 10) = some s ∧
      s.head 1 = some .load_key := ⟨_, rfl, rfl⟩
  obtain ⟨python_client, hpython, hpython_head⟩ :
      ∃ s, (calls (python.key_retrieval.port sample_library) sample_client).run
        { env := { client := sample_client }, tasks := [] }
        (python_request 0 "r0" ++ python_derive 0 "r0" "kms://ephemeral-1" "k1" ++ (python_wrap 1 "r1").take 8) = some s ∧
      s.head 1 = some .load_key := ⟨_, rfl, rfl⟩
  obtain ⟨hgo_consistent, hpython_consistent⟩ := clients_consistent sample_library "token"
    "https://wdm-a.wbx2.com/wdm/api/v1/devices/dev-123" "user-1" "https://encryption-a.wbx2.com" go_client python_client
    (Machine.reachable_of_run hgo) (Machine.reachable_of_run hpython)
  exact ⟨go_client, python_client, hgo, hpython, hgo_head, hpython_head, hgo_consistent, hpython_consistent⟩

end webex.key_retrieval

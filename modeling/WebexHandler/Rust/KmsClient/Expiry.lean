import WebexHandler.Interaction.Timed
import WebexHandler.Rust.KmsClient.Context
import WebexHandler.Rust.KmsClient.Retries

open interaction json

namespace webex.rust.kms_client

/-- An environment with a clock that does not go back, on which pauses and timeouts take
    at least as long as they are set to. -/
structure TimedEnvironment (Env : Type) where
  answer : (op : Op) → Env → Res op × Env
  clock : Env → Nat
  forward : ∀ op env, clock env ≤ clock (answer op env).2
  reads : ∀ env, (answer .now env).1 = clock (answer .now env).2
  sleeps : ∀ millis env, clock env + millis ≤ clock (answer (.sleep millis) env).2
  times_out : ∀ rx millis env, (answer (.wait_response rx millis) env).1 = Waited.timed_out →
    clock env + millis ≤ clock (answer (.wait_response rx millis) env).2

/-- A part of a call, with the time that each operation takes. -/
abbrev TimedHistory : Type := List (interaction.Exchange Res × Nat)

section specification

variable (crates : Crates) (key_uri : String) (kms : KmsClient)

/-- Every request that is posted carries the retrieve request wrapped with the ephemeral
    key of a client, whose context has not expired when the nonce of the wrapping is drawn. -/
def WrappedInTime (start : Nat) (history : TimedHistory) : Prop :=
  ∀ earlier req answer posted later, history = earlier ++ (⟨.fetch req, answer⟩, posted) :: later →
    ∃ before id seed drawn rx registered key wrapped exp,
      earlier = before ++ [(⟨.random 12, seed⟩, drawn), (⟨.register_pending id, rx⟩, registered)] ∧
        kms.ephemeral_key = some key ∧ wrap crates key_uri kms key id seed = .ok wrapped ∧
        req = message_request crates kms wrapped ∧
        kms.context_expiration = some exp ∧ start + elapsed (before ++ [(⟨.random 12, seed⟩, drawn)]) ≤ exp

def is_fetch (entry : interaction.Exchange Res × Nat) : Bool :=
  match entry.1.1 with
  | .fetch _ => true
  | _ => false

/-- What comes before the registration of the last request that is posted. -/
def before_last_request (history : TimedHistory) : TimedHistory := (before_last is_fetch history).dropLast

variable {Env : Type} (environment : TimedEnvironment Env) (env : Env)

/-- The client and the environment when a call has checked, and renewed where that was
    due, its context. -/
def at_checked : Option (KmsClient × Env) :=
  if (kms.key_cache.lookup key_uri).isSome then none
  else match (check_context crates kms).exec environment.answer env with
    | ((.ok (), kms'), env') => some (kms', env')
    | ((.error _, _), _) => none

/-- The part of a call that comes after. -/
def requests (checked : KmsClient × Env) : TimedHistory :=
  (request_key crates key_uri checked.1).timed environment.answer environment.clock checked.2

/-- How long a context still lasts. -/
def time_left (checked : KmsClient × Env) : Nat :=
  checked.1.context_expiration.getD 0 - environment.clock checked.2

/-- Each retrieve request of a call is wrapped under a context that has not expired. -/
def NoneExpired : Prop :=
  ∀ checked ∈ at_checked crates key_uri kms environment env,
    WrappedInTime crates key_uri checked.1 (environment.clock checked.2) (requests crates key_uri environment checked)

end specification

section calls

variable {crates : Crates} {key_uri : String} {kms : KmsClient} {Env α : Type} {environment : TimedEnvironment Env} {env : Env}

/-- A call is its checks and what comes after them. -/
theorem timed_get_key (huncached : kms.key_cache.lookup key_uri = none) :
    (get_key crates key_uri kms).timed environment.answer environment.clock env =
      (check_context crates kms).timed environment.answer environment.clock env ++
        (at_checked crates key_uri kms environment env).elim [] (requests crates key_uri environment) := by
  rw [get_key_of_unchecked huncached]
  refine (Program.timed_bind environment.answer environment.clock _ _ env).trans ?_
  unfold at_checked
  rw [huncached]
  obtain ⟨⟨_ | _, kms'⟩, env'⟩ := (check_context crates kms).exec environment.answer env
  · rfl
  · rfl

section context

/-- The context does not expire within 30 s. -/
def Fresh (environment : TimedEnvironment Env) (kms : KmsClient) (env : Env) : Prop :=
  ∃ exp, kms.context_expiration = some exp ∧ environment.clock env ≤ exp - 30000

theorem yields_following (m : Kms α) (kms : KmsClient) (env : Env) :
    m.Yields (following environment.answer) kms env fun _ _ _ => True :=
  (Program.follows (m kms) env).mono fun _ _ _ _ _ => trivial

/-- The context has just been renewed. -/
def Renewed (environment : TimedEnvironment Env) (kms : KmsClient) (env : Env) : Prop :=
  kms.context_expiration = some (environment.clock env + 3600000)

theorem Renewed.fresh (hrenewed : Renewed environment kms env) : Fresh environment kms env := by
  refine ⟨_, hrenewed, ?_⟩
  omega

theorem handshake_renewed (rsa_jwk_value : Value) (kms : KmsClient) (env : Env) :
    (handshake crates rsa_jwk_value).Yields (following environment.answer) kms env fun _ => Renewed environment := by
  unfold handshake
  refine Method.yields_bind (yields_following _ _ _) fun local_secret kms env _ => ?_
  refine Method.yields_bind (yields_following _ _ _) fun public_jwk_map kms env _ => ?_
  refine Method.yields_bind (yields_following _ _ _) fun request_id kms env _ => ?_
  refine Method.yields_bind (yields_following _ _ _) fun self kms env _ => ?_
  refine Method.yields_bind (yields_following _ _ _) fun seed kms env _ => ?_
  refine Method.yields_bind (yields_following _ _ _) fun wrapped kms env _ => ?_
  refine Method.yields_bind (yields_following _ _ _) fun wrapped_response kms env _ => ?_
  refine Method.yields_bind (yields_following _ _ _) fun derived kms env _ => ?_
  refine Method.yields_bind (yields_following _ _ _) fun _ kms env _ => ?_
  refine Method.yields_bind_request trivial ?_
  rintro instant _ ⟨rfl, rfl⟩ _ _
  show some ((show Nat from (environment.answer .now env).1) + 3600000) = _
  rw [environment.reads]

theorem initialize_client_renewed (kms : KmsClient) (env : Env) :
    (initialize_client crates).Yields (following environment.answer) kms env fun _ => Renewed environment := by
  exact Method.yields_bind (yields_following _ _ _) fun details kms env _ => handshake_renewed details kms env

theorem is_context_expired_fresh (kms : KmsClient) (env : Env) :
    is_context_expired.Yields (following environment.answer) kms env fun expired kms' env' =>
      expired = false → Fresh environment kms' env' := by
  unfold is_context_expired Method.Yields
  rw [Method.obeys_bind, Method.obeys_get]
  dsimp only
  split
  · intro expired heq hexpired
    cases heq
    cases hexpired
  · cases hexp : kms.context_expiration with
    | none =>
      intro expired heq hexpired
      cases heq
      cases hexpired
    | some exp =>
      rw [Method.obeys_bind, obeys_now]
      refine ⟨trivial, ?_⟩
      rintro instant _ ⟨rfl, rfl⟩ expired heq hexpired
      cases heq
      have hnot : ¬exp - 30000 < (show Nat from (environment.answer .now env).1) := of_decide_eq_false hexpired
      refine ⟨exp, hexp, ?_⟩
      rw [← environment.reads]
      exact Nat.not_lt.mp hnot

theorem check_context_fresh (kms : KmsClient) (env : Env) :
    (check_context crates).Yields (following environment.answer) kms env fun _ => Fresh environment := by
  unfold check_context renew_context
  refine Method.yields_bind (yields_following _ _ _) fun _ kms env _ => ?_
  refine Method.yields_bind (is_context_expired_fresh kms env) fun expired kms env hfresh => ?_
  cases expired with
  | true => exact (initialize_client_renewed kms env).mono fun _ _ _ hrenewed done heq => (hrenewed done heq).fresh
  | false => exact Method.yields_pure (hfresh rfl)

theorem at_checked_fresh {checked : KmsClient × Env} (hchecked : checked ∈ at_checked crates key_uri kms environment env) :
    Fresh environment checked.1 checked.2 := by
  have hfresh := Program.obeys_following (@check_context_fresh crates Env environment kms env)
  unfold at_checked at hchecked
  split at hchecked
  · cases hchecked
  · generalize (check_context crates kms).exec environment.answer env = run at hfresh hchecked
    obtain ⟨⟨outcome, kms'⟩, env'⟩ := run
    cases outcome with
    | error e => cases hchecked
    | ok done =>
      cases hchecked
      exact hfresh () rfl

end context

section shape

variable {id wrapped : String}

/-- A POST comes right after the registration of its request, and that after the nonce that
    the request is wrapped with. -/
def Announced (crates : Crates) (key_uri : String) (kms : KmsClient) (before : History) (exchange : interaction.Exchange Res) : Prop :=
  ∀ req answer, exchange = ⟨.fetch req, answer⟩ → ∃ earlier id seed rx key wrapped,
    before = earlier ++ [⟨.random 12, seed⟩, ⟨.register_pending id, rx⟩] ∧ kms.ephemeral_key = some key ∧
      wrap crates key_uri kms key id seed = .ok wrapped ∧ req = message_request crates kms wrapped

theorem announced_unsent {before history : History} (hunsent : ∀ exchange ∈ history, Quiet exchange ∨ exchange.1 = .new_v4) :
    Along (Announced crates key_uri kms) before history := by
  rw [along_iff_split]
  rintro earlier exchange later rfl req answer rfl
  obtain hquiet | hnew := hunsent ⟨.fetch req, answer⟩ (by simp)
  · exact hquiet.elim
  · cases hnew

theorem Sent.announced {key seed : Bytes} {r : Except WebexError String} {sent before : History} (hkey : kms.ephemeral_key = some key)
    (hwrap : wrap crates key_uri kms key id seed = .ok wrapped) (hsent : Sent crates kms id wrapped r sent) :
    Along (Announced crates key_uri kms) (before ++ [⟨.random 12, seed⟩]) sent := by
  have hposted : ∀ rx answer tail, (∀ exchange ∈ tail, Quiet exchange) →
      Along (Announced crates key_uri kms) (before ++ [⟨.random 12, seed⟩])
        (registration id rx :: ⟨.fetch (message_request crates kms wrapped), answer⟩ :: tail) := by
    intro rx answer tail hquiet
    refine ⟨fun _ _ heq => (by cases heq), ?_, announced_unsent fun exchange hmem => .inl (hquiet exchange hmem)⟩
    intro req answer heq
    cases heq
    exact ⟨before, id, seed, some rx, key, wrapped, by simp [registration], hkey, hwrap, rfl⟩
  cases hsent with
  | full => exact ⟨fun _ _ heq => (by cases heq), trivial⟩
  | failed rx e => exact hposted rx _ _ (by simp [Quiet])
  | refused rx resp hok => exact hposted rx _ _ (by simp [Quiet])
  | received rx resp hok response => exact hposted rx _ _ (by simp [Quiet])
  | closed rx resp hok => exact hposted rx _ _ (by simp [Quiet])
  | timed_out rx resp hok => exact hposted rx _ _ (by simp [Quiet])

theorem announced_prepared {key seed : Bytes} {r : Except WebexError String} {sent before : History} (hkey : kms.ephemeral_key = some key)
    (hwrap : wrap crates key_uri kms key id seed = .ok wrapped) (hsent : Sent crates kms id wrapped r sent) :
    Along (Announced crates key_uri kms) before (prepared id seed ++ sent) := by
  refine along_append.mpr ⟨announced_unsent (by simp [prepared, Quiet]), ?_⟩
  have hsent := @Sent.announced crates key_uri kms id wrapped key seed r sent (before ++ [⟨.new_v4, id⟩]) hkey hwrap hsent
  rwa [List.append_assoc] at hsent

theorem Attempts.announced {attempt : Nat} {before history : History} (hattempts : Attempts crates key_uri kms attempt history) :
    Along (Announced crates key_uri kms) before history := by
  induction hattempts generalizing before with
  | idle attempt hidle => trivial
  | unwrapped attempt key hinit hkey id seed e hwrap => exact announced_unsent (by simp [Quiet])
  | last attempt key hinit hkey id seed wrapped hwrap r sent tail hsent hlast htail =>
    show Along (Announced crates key_uri kms) before (prepared id seed ++ (sent ++ tail))
    rw [← List.append_assoc, along_append]
    refine ⟨announced_prepared hkey hwrap hsent, announced_unsent ?_⟩
    obtain rfl | ⟨instant, rfl⟩ := htail
    · simp
    · simp [Quiet]
  | again attempt key hinit hkey id seed wrapped hwrap e sent rest hsent hretried hrest ih =>
    show Along (Announced crates key_uri kms) before (prepared id seed ++ (sent ++ paused :: rest))
    rw [← List.append_assoc, along_append]
    exact ⟨announced_prepared hkey hwrap hsent, fun _ _ heq => (by cases heq), ih⟩

theorem cooled_down_records {log : History} (last : Option Nat) :
    (cooled_down last).Obeys recording kms log fun _ kms' log' =>
      kms' = kms ∧ ∃ tail, (∀ exchange ∈ tail, Quiet exchange) ∧ log' = log ++ tail := by
  cases last with
  | none => exact ⟨rfl, [], by simp, by simp⟩
  | some last =>
    rw [cooled_down, Method.obeys_bind, obeys_now]
    refine ⟨trivial, ?_⟩
    rintro instant _ rfl
    exact ⟨rfl, _, by simp [Quiet], rfl⟩

theorem check_breaker_records {log : History} :
    check_breaker.Obeys recording kms log fun _ kms' log' =>
      (∃ cb_state, kms' = { kms with cb_state := cb_state }) ∧ ∃ tail, (∀ exchange ∈ tail, Quiet exchange) ∧ log' = log ++ tail := by
  unfold check_breaker
  rw [Method.obeys_bind, Method.obeys_get]
  dsimp only
  split
  · refine Method.Obeys.bind (cooled_down_records kms.cb_last_failure) ?_ ?_
    · rintro cooled _ _ ⟨rfl, hquiet⟩
      rw [Method.obeys_bind, Method.obeys_reject]
      exact ⟨fun _ => ⟨⟨_, rfl⟩, hquiet⟩, fun _ => ⟨⟨.half_open, rfl⟩, hquiet⟩⟩
    · rintro e _ _ ⟨rfl, hquiet⟩
      exact ⟨⟨_, rfl⟩, hquiet⟩
  · exact ⟨⟨_, rfl⟩, [], by simp, by simp⟩

theorem request_key_announced (checked : KmsClient × Env) :
    Along (Announced crates key_uri checked.1) [] ((requests crates key_uri environment checked).map Prod.fst) := by
  have hobeys : (request_key crates key_uri).Obeys recording checked.1 [] fun _ _ log' =>
      Along (Announced crates key_uri checked.1) [] log' := by
    unfold request_key
    refine Method.Obeys.bind check_breaker_records ?_ ?_
    · rintro _ _ _ ⟨⟨cb_state, rfl⟩, tail, hquiet, rfl⟩
      refine (get_key_attempts_records rfl).mono ?_
      rintro _ _ _ ⟨rest, hrest, rfl⟩
      exact along_append.mpr ⟨announced_unsent fun exchange hmem => .inl (hquiet exchange hmem), hrest.announced⟩
    · rintro _ _ _ ⟨⟨cb_state, rfl⟩, tail, hquiet, rfl⟩
      exact announced_unsent fun exchange hmem => .inl (hquiet exchange hmem)
  have halong := @Program.Obeys.exchanges _ _ _ _ environment.answer _ _ _ checked.2 hobeys
  unfold requests
  rw [Program.map_timed]
  exact halong

theorem announced_timed {history earlier later : TimedHistory} {req : FetchRequest} {answer : Except String FetchResponse}
    {posted : Nat} (halong : Along (Announced crates key_uri kms) [] (history.map Prod.fst))
    (hsplit : history = earlier ++ (⟨.fetch req, answer⟩, posted) :: later) :
    ∃ before id seed drawn rx registered key wrapped,
      earlier = before ++ [(⟨.random 12, seed⟩, drawn), (⟨.register_pending id, rx⟩, registered)] ∧
        kms.ephemeral_key = some key ∧ wrap crates key_uri kms key id seed = .ok wrapped ∧
        req = message_request crates kms wrapped := by
  have hmap : history.map Prod.fst = earlier.map Prod.fst ++ ⟨.fetch req, answer⟩ :: later.map Prod.fst := by
    rw [hsplit, List.map_append, List.map_cons]
  obtain ⟨before, id, seed, rx, key, wrapped, hbefore, hkey, hwrap, hreq⟩ := halong.split hmap req answer rfl
  rw [List.nil_append, List.map_eq_append_iff] at hbefore
  obtain ⟨before', last, rfl, -, hlast⟩ := hbefore
  rw [List.map_eq_cons_iff] at hlast
  obtain ⟨⟨_, drawn⟩, last, rfl, rfl, hlast⟩ := hlast
  rw [List.map_eq_cons_iff] at hlast
  obtain ⟨⟨_, registered⟩, last, rfl, rfl, hlast⟩ := hlast
  rw [List.map_eq_nil_iff] at hlast
  subst hlast
  exact ⟨before', id, seed, drawn, rx, registered, key, wrapped, rfl, hkey, hwrap, hreq⟩

/-- It is the last request that decides. -/
theorem wrapped_in_time_iff {history : TimedHistory} {start exp : Nat}
    (halong : Along (Announced crates key_uri kms) [] (history.map Prod.fst)) (hexp : kms.context_expiration = some exp)
    (hstart : start ≤ exp) :
    WrappedInTime crates key_uri kms start history ↔ start + elapsed (before_last_request history) ≤ exp := by
  constructor
  · intro hwrapped
    cases hany : history.any is_fetch with
    | false =>
      rw [before_last_request, before_last_eq_nil hany]
      exact hstart
    | true =>
      obtain ⟨⟨⟨op, answer⟩, posted⟩, later, hsplit, hfetch⟩ := before_last_split hany
      cases op with
      | fetch req =>
        obtain ⟨before, id, seed, drawn, rx, registered, key, wrapped, exp', hbefore, -, -, -, hexp', hle⟩ :=
          hwrapped _ _ _ _ _ hsplit
        rw [hexp, Option.some.injEq] at hexp'
        rw [before_last_request, hbefore, hexp', List.append_cons, List.dropLast_concat]
        exact hle
      | _ => cases hfetch
  · intro hle earlier req answer posted later hsplit
    obtain ⟨before, id, seed, drawn, rx, registered, key, wrapped, hbefore, hkey, hwrap, hreq⟩ := announced_timed halong hsplit
    refine ⟨before, id, seed, drawn, rx, registered, key, wrapped, exp, hbefore, hkey, hwrap, hreq, hexp, ?_⟩
    have hfetch : is_fetch (⟨.fetch req, answer⟩, posted) = true := rfl
    have hstart : earlier <+: before_last is_fetch history := by
      rw [hsplit]
      exact prefix_before_last hfetch
    rw [hbefore, List.append_cons] at hstart
    obtain ⟨rest, hrest⟩ := hstart
    have hshorter : before ++ [(⟨.random 12, seed⟩, drawn)] <+: before_last_request history := by
      rw [before_last_request, ← hrest, List.append_assoc, List.dropLast_append_of_ne_nil (by simp)]
      exact List.prefix_append _ _
    have helapsed := elapsed_le_of_sublist hshorter.sublist
    omega

end shape

/-- The last wrapping of a call decides. -/
theorem none_expired_iff_elapsed : NoneExpired crates key_uri kms environment env ↔
    ∀ checked ∈ at_checked crates key_uri kms environment env,
      elapsed (before_last_request (requests crates key_uri environment checked)) ≤ time_left environment checked := by
  refine forall_congr' fun checked => forall_congr' fun hchecked => ?_
  obtain ⟨exp, hexp, hfresh⟩ := at_checked_fresh hchecked
  rw [wrapped_in_time_iff (request_key_announced checked) hexp (by omega), time_left, hexp, Option.getD_some]
  omega

end calls

end webex.rust.kms_client

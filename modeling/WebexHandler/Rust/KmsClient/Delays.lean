import WebexHandler.Rust.KmsClient.Expiry

open interaction json

namespace webex.rust.kms_client

section delays

variable {Env : Type} (environment : TimedEnvironment Env)

def TimedEnvironment.after (op : Op) (env : Env) : Env := (environment.answer op env).2

/-- How long an operation takes. -/
def TimedEnvironment.takes (op : Op) (env : Env) : Nat := environment.clock (environment.after op env) - environment.clock env

/-- The id and the nonce that are drawn for a request. -/
def drawn (env : Env) : String × Bytes :=
  ((environment.answer .new_v4 env).1, (environment.answer (.random 12) (environment.after .new_v4 env)).1)

/-- How long that takes, and what comes after. -/
def drawing (env : Env) : Nat := environment.takes .new_v4 env + environment.takes (.random 12) (environment.after .new_v4 env)

def after_drawing (env : Env) : Env := environment.after (.random 12) (environment.after .new_v4 env)

/-- Whether the list of pending requests has room. -/
def registers (id : String) (env : Env) : Bool := ((environment.answer (.register_pending id) env).1 : Option Nat).isSome

/-- The times of the operations from the registration of a request that fails to the next
    attempt. -/
structure Retry (Env : Type) where
  registration : Nat
  post : Nat
  wait : Nat
  removal : Nat
  pause : Nat
  env : Env

def Retry.delay (retry : Retry Env) : Nat := retry.registration + retry.post + retry.wait + retry.removal + retry.pause

variable (crates : Crates) (key_uri : String) (kms : KmsClient)

def closed_error (id : String) : WebexError := .kms ("KMS request " ++ id ++ " channel closed")

/-- The end of a request that is taken off the list of pending requests and made again. -/
def made_again (registration post wait : Nat) (id : String) (env : Env) : Retry Env where
  registration := registration
  post := post
  wait := wait
  removal := environment.takes (.remove_pending id) env
  pause := environment.takes (.sleep 1000) (environment.after (.remove_pending id) env)
  env := environment.after (.sleep 1000) (environment.after (.remove_pending id) env)

/-- A request that is made again: its POST fails or is refused, or no response comes in time.
    The channel of a request closes with an error that is not retried, unless its id is
    no UUID and reads like one that is. -/
def retry (req : FetchRequest) (id : String) (env : Env) : Option (Retry Env) :=
  match ((environment.answer (.register_pending id) env).1 : Option Nat) with
  | none => none
  | some rx =>
    let registration := environment.takes (.register_pending id) env
    let registered := environment.after (.register_pending id) env
    let request := Op.fetch req
    let post := environment.takes request registered
    let posted := environment.after request registered
    match ((environment.answer request registered).1 : Except String FetchResponse) with
    | .error _ => some (made_again environment registration post 0 id posted)
    | .ok resp =>
      if resp.ok = false then some (made_again environment registration post 0 id posted)
      else
        let response := Op.wait_response rx KMS_RESPONSE_TIMEOUT
        let wait := environment.takes response posted
        let waited := environment.after response posted
        match ((environment.answer response posted).1 : Waited) with
        | .received _ => none
        | .timed_out => some (made_again environment registration post wait id waited)
        | .closed =>
          if is_retryable_kms_error (closed_error id) = true then
            some { registration, post, wait, removal := 0, pause := environment.takes (.sleep 1000) waited,
                   env := environment.after (.sleep 1000) waited }
          else none

/-- How long the breaker's look at the clock takes, if it lets the call pass. -/
def passing (env : Env) : Option (Nat × Env) :=
  match kms.cb_state, kms.cb_last_failure with
  | .open, some last =>
    if CB_COOLDOWN ≤ (show Nat from (environment.answer .now env).1) - last then
      some (environment.takes .now env, environment.after .now env)
    else none
  | _, _ => some (0, env)

/-- Whether a request is wrapped and posted. -/
def posts_request (key : Bytes) (env : Env) : Option String :=
  match wrap crates key_uri kms key (drawn environment env).1 (drawn environment env).2 with
  | .ok wrapped => if registers environment (drawn environment env).1 (after_drawing environment env) then some wrapped else none
  | .error _ => none

/-- The time that a second request adds, counted from the registration of the first. -/
def second_delay (key : Bytes) (retry : Retry Env) : Nat :=
  match posts_request environment crates key_uri kms key retry.env with
  | none => 0
  | some _ => retry.delay + drawing environment retry.env

/-- The time until the last retrieve request of the attempts is wrapped, if one is posted. -/
def attempts_delay (env : Env) : Option Nat :=
  match kms.initialized, kms.ephemeral_key with
  | true, some key =>
    (posts_request environment crates key_uri kms key env).map fun wrapped => drawing environment env +
      (retry environment (message_request crates kms wrapped) (drawn environment env).1 (after_drawing environment env)).elim 0
        (second_delay environment crates key_uri kms key)
  | _, _ => none

/-- The time until the last retrieve request of a call is wrapped, counted from the check or
    the renewal of its context. -/
def request_delay (checked : KmsClient × Env) : Option Nat :=
  (passing environment checked.1 checked.2).bind fun (cooling, env) =>
    (attempts_delay environment crates key_uri checked.1 env).map (cooling + ·)

end delays

section history

variable {Env : Type} {environment : TimedEnvironment Env} {crates : Crates} {key_uri : String} {kms : KmsClient} {env : Env}

/-- The time until the last request that is posted is wrapped. -/
def Delays (history : TimedHistory) : Option Nat → Prop
  | none => history.any is_fetch = false
  | some delay => before_last is_fetch history ≠ [] ∧ elapsed (before_last_request history) = delay

theorem Delays.append_quiet {history more : TimedHistory} {delay : Option Nat} (hdelays : Delays history delay)
    (hquiet : more.any is_fetch = false) : Delays (history ++ more) delay := by
  have hlast : before_last is_fetch (history ++ more) = before_last is_fetch history := by
    clear hdelays
    induction history with
    | nil => exact before_last_eq_nil hquiet
    | cons entry rest ih => simp only [List.cons_append, before_last, List.any_append, hquiet, Bool.or_false, ih]
  cases delay with
  | none =>
    have hnone : history.any is_fetch = false := hdelays
    show (history ++ more).any is_fetch = false
    rw [List.any_append, hnone, hquiet]
    rfl
  | some delay =>
    show before_last is_fetch (history ++ more) ≠ [] ∧ elapsed (before_last is_fetch (history ++ more)).dropLast = delay
    rw [hlast]
    exact hdelays

theorem Delays.append {history more : TimedHistory} {delay : Nat} (hdelays : Delays more (some delay)) :
    Delays (history ++ more) (some (elapsed history + delay)) := by
  obtain ⟨hlast, hdelay⟩ := hdelays
  have hany : more.any is_fetch = true := by
    by_contra hnone
    exact hlast (before_last_eq_nil (Bool.eq_false_iff.mpr hnone))
  have hsplit : before_last is_fetch (history ++ more) = history ++ before_last is_fetch more := by
    induction history with
    | nil => rfl
    | cons entry rest ih => simp [before_last, hany, ih]
  refine ⟨by simp [hsplit, hlast], ?_⟩
  rw [before_last_request, hsplit, List.dropLast_append_of_ne_nil hlast, elapsed_append]
  exact congrArg _ hdelay

theorem Delays.after_quiet {h more : TimedHistory} {delay : Option Nat} (hdelays : Delays more delay)
    (hquiet : h.any is_fetch = false) : Delays (h ++ more) (delay.map (elapsed h + ·)) := by
  cases delay with
  | none =>
    have hnone : more.any is_fetch = false := hdelays
    show (h ++ more).any is_fetch = false
    rw [List.any_append, hnone, hquiet]
    rfl
  | some delay => exact hdelays.append

/-- What comes before the registration of a request takes no time away from it. -/
theorem delays_posted {register post : interaction.Exchange Res × Nat} {rest : TimedHistory} (hpost : is_fetch post = true)
    (hquiet : rest.any is_fetch = false) : Delays (register :: post :: rest) (some 0) := by
  have hlast : before_last is_fetch (register :: post :: rest) = [register] := by simp [before_last, hpost, hquiet]
  refine ⟨by simp [hlast], ?_⟩
  rw [before_last_request, hlast]
  rfl

/-- A request, operation by operation. -/
theorem send_kms_request_eq (id wrapped : String) : send_kms_request crates id wrapped kms =
    .ask (.register_pending id) fun rx => match (rx : Option Nat) with
      | none => .ret (.error (.kms ("Too many pending KMS requests (max: " ++ toString MAX_PENDING_REQUESTS ++ ")")), kms)
      | some rx => .ask (.fetch (message_request crates kms wrapped)) fun answer =>
        match (answer : Except String FetchResponse) with
        | .error e => .ask (.remove_pending id) fun _ => .ret (.error (.kms ("KMS HTTP request failed: " ++ e)), kms)
        | .ok resp =>
          if resp.ok = false then .ask (.remove_pending id) fun _ => .ret (.error (refused_error crates resp), kms)
          else .ask (.wait_response rx KMS_RESPONSE_TIMEOUT) fun waited => match (waited : Waited) with
            | .received response => .ret (.ok response, kms)
            | .closed => .ret (.error (closed_error id), kms)
            | .timed_out => .ask (.remove_pending id) fun _ => .ret (.error (timed_out_error id), kms) := by
  unfold send_kms_request
  refine congrArg (Program.ask (Op.register_pending id)) (funext fun rx => ?_)
  cases (show Option Nat from rx) with
  | none => rfl
  | some rx =>
    refine congrArg (Program.ask (Op.fetch (message_request crates kms wrapped))) (funext fun answer => ?_)
    cases (show Except String FetchResponse from answer) with
    | error e => rfl
    | ok resp =>
      obtain ⟨status, ok, body⟩ := resp
      cases ok with
      | false => rfl
      | true =>
        refine congrArg (Program.ask (Op.wait_response rx KMS_RESPONSE_TIMEOUT)) (funext fun waited => ?_)
        cases (show Waited from waited) with
        | received response => rfl
        | closed => rfl
        | timed_out => rfl

/-- What the run of a request has to do with its failure as the environment makes it. -/
structure Transmission (environment : TimedEnvironment Env) (crates : Crates) (kms : KmsClient) (id wrapped : String) (env : Env)
    (outcome : Except WebexError String) (sent : TimedHistory) (env' : Env) : Prop where
  posted : Delays sent (if registers environment id env = true then some 0 else none)
  retried : ∀ again ∈ retry environment (message_request crates kms wrapped) id env,
    ∃ e, outcome = .error e ∧ is_retryable_kms_error e = true ∧
      again.delay = elapsed sent + environment.takes (.sleep 1000) env' ∧ again.env = environment.after (.sleep 1000) env'
  ended : retry environment (message_request crates kms wrapped) id env = none →
    ∀ e, outcome = .error e → is_retryable_kms_error e = false

/-- A request that is taken off the list of pending requests has failed in a way that is retried. -/
theorem transmission_removed {id wrapped : String} {register post : interaction.Exchange Res × Nat} {wait : TimedHistory}
    {removal : Res (.remove_pending id)} {e : WebexError} {env' : Env} (hregisters : registers environment id env = true)
    (hpost : is_fetch post = true) (hwait : wait.any is_fetch = false)
    (hretryable : is_retryable_kms_error e = true)
    (hretry : retry environment (message_request crates kms wrapped) id env =
      some (made_again environment register.2 post.2 (elapsed wait) id env')) :
    Transmission environment crates kms id wrapped env (.error e)
      (register :: post :: (wait ++ [(⟨.remove_pending id, removal⟩, environment.takes (.remove_pending id) env')]))
      (environment.after (.remove_pending id) env') := by
  have hremoval : is_fetch (⟨.remove_pending id, removal⟩, environment.takes (.remove_pending id) env') = false := rfl
  refine ⟨?_, ?_, ?_⟩
  · rw [if_pos hregisters]
    exact delays_posted hpost (by simp [hwait, hremoval])
  · rw [hretry]
    rintro _ ⟨⟩
    refine ⟨e, rfl, hretryable, ?_, rfl⟩
    simp only [made_again, Retry.delay, elapsed_cons, elapsed_append, elapsed_nil]
    omega
  · simp [hretry]

theorem transmission (id wrapped : String) (env : Env) : ∃ outcome env',
    (send_kms_request crates id wrapped kms).exec environment.answer env = ((outcome, kms), env') ∧
      Transmission environment crates kms id wrapped env outcome
        ((send_kms_request crates id wrapped kms).timed environment.answer environment.clock env) env' := by
  rw [send_kms_request_eq]
  rcases hregister : environment.answer (.register_pending id) env with ⟨rx, env₁⟩
  rw [Program.exec_ask _ hregister, Program.timed_ask _ _ hregister]
  cases rx with
  | none =>
    have hretry : retry environment (message_request crates kms wrapped) id env = none := by rw [retry, hregister]
    have hregisters : registers environment id env = false := by simp [registers, hregister]
    refine ⟨_, _, rfl, ?_, ?_, ?_⟩
    · rw [if_neg (by simp [hregisters])]
      rfl
    · simp [hretry]
    · rintro - _ ⟨⟩
      exact full_not_retryable
  | some rx =>
    have hregisters : registers environment id env = true := by simp [registers, hregister]
    have hregistered : environment.after (.register_pending id) env = env₁ := by rw [TimedEnvironment.after, hregister]
    dsimp only
    rcases hpost : environment.answer (.fetch (message_request crates kms wrapped)) env₁ with ⟨answer, env₂⟩
    rw [Program.exec_ask _ hpost, Program.timed_ask _ _ hpost]
    have hposted : environment.after (.fetch (message_request crates kms wrapped)) env₁ = env₂ := by
      rw [TimedEnvironment.after, hpost]
    have hregistration : environment.takes (.register_pending id) env = environment.clock env₁ - environment.clock env := by
      rw [TimedEnvironment.takes, hregistered]
    have hposting : environment.takes (.fetch (message_request crates kms wrapped)) env₁ =
        environment.clock env₂ - environment.clock env₁ := by
      rw [TimedEnvironment.takes, hposted]
    cases answer with
    | error e =>
      refine ⟨_, _, rfl, @transmission_removed _ _ _ _ _ _ _ _ _ [] _ _ _ hregisters rfl rfl (failed_retryable e) ?_⟩
      simp [retry, hregister, hregistered, hpost, hposted, hregistration, hposting]
    | ok resp =>
      obtain ⟨status, ok, body⟩ := resp
      cases ok with
      | false =>
        refine ⟨_, _, rfl, @transmission_removed _ _ _ _ _ _ _ _ _ [] _ _ _ hregisters rfl rfl
          (refused_retryable crates ⟨status, false, body⟩) ?_⟩
        simp [retry, hregister, hregistered, hpost, hposted, hregistration, hposting]
      | true =>
        dsimp only
        rw [if_neg (by decide)]
        rcases hwait : environment.answer (.wait_response rx KMS_RESPONSE_TIMEOUT) env₂ with ⟨waited, env₃⟩
        rw [Program.exec_ask _ hwait, Program.timed_ask _ _ hwait]
        have hended : environment.after (.wait_response rx KMS_RESPONSE_TIMEOUT) env₂ = env₃ := by
          rw [TimedEnvironment.after, hwait]
        have hwaiting : environment.takes (.wait_response rx KMS_RESPONSE_TIMEOUT) env₂ =
            environment.clock env₃ - environment.clock env₂ := by
          rw [TimedEnvironment.takes, hended]
        cases waited with
        | received response =>
          have hretry : retry environment (message_request crates kms wrapped) id env = none := by
            simp [retry, hregister, hregistered, hpost, hposted, hwait]
          refine ⟨_, _, rfl, ?_, ?_, ?_⟩
          · rw [if_pos hregisters]
            exact delays_posted rfl rfl
          · simp [hretry]
          · simp
        | closed =>
          refine ⟨_, _, rfl, ?_, ?_, ?_⟩
          · rw [if_pos hregisters]
            exact delays_posted rfl rfl
          · intro again hagain
            cases hretryable : is_retryable_kms_error (closed_error id) with
            | false => simp [retry, hregister, hregistered, hpost, hposted, hwait, hretryable] at hagain
            | true =>
              simp only [retry, hregister, hregistered, hpost, hposted, hregistration, hposting, hwait, hended, hwaiting,
                hretryable, if_true, if_false, Bool.true_eq_false, Option.mem_def, Option.some.injEq] at hagain
              subst hagain
              refine ⟨_, rfl, hretryable, ?_, rfl⟩
              simp only [Retry.delay, elapsed_cons, elapsed_nil, Program.timed]
              omega
          · cases hretryable : is_retryable_kms_error (closed_error id) with
            | false =>
              rintro - _ ⟨⟩
              exact hretryable
            | true => simp [retry, hregister, hregistered, hpost, hposted, hwait, hretryable]
        | timed_out =>
          refine ⟨_, _, rfl, @transmission_removed _ _ _ _ _ _ _ _ _ [_] _ _ _ hregisters rfl rfl
            (timed_out_retryable id) ?_⟩
          simp [retry, hregister, hregistered, hpost, hposted, hregistration, hposting, hwait, hended, hwaiting]

/-- What an attempt does with the outcome of its request. -/
def conclude (crates : Crates) (key_uri : String) (left attempt : Nat) (ephemeral_key : Bytes) :
    Except WebexError String → Kms Bytes
  | .ok wrapped_response => do
    let content_key ← Method.ofExcept (open_key_response crates wrapped_response ephemeral_key)
    modify (record_success key_uri content_key)
    return content_key
  | .error e =>
    if attempt < MAX_KMS_ATTEMPTS ∧ is_retryable_kms_error e = true then do
      sleep 1000
      get_key_attempts crates key_uri left (attempt + 1)
    else do
      let instant ← now
      modify (record_failure instant)
      throw e

theorem get_key_attempts_eq {key : Bytes} (hinit : kms.initialized = true) (hkey : kms.ephemeral_key = some key)
    (left attempt : Nat) :
    get_key_attempts crates key_uri (left + 1) attempt kms = .ask .new_v4 fun id => .ask (.random 12) fun seed =>
      (Method.ofExcept (wrap crates key_uri kms key id seed) >>= fun wrapped =>
        (send_kms_request crates id wrapped).attempt >>= conclude crates key_uri left attempt key) kms := by
  rw [get_key_attempts, Method.get_bind]
  simp only [hinit, hkey]
  refine congrArg (Program.ask Op.new_v4) (funext fun id => ?_)
  refine congrArg (Program.ask (Op.random 12)) (funext fun seed => ?_)
  refine congrFun (congrArg (fun next => (Method.ofExcept (wrap crates key_uri kms key id seed) >>= next : Kms Bytes))
    (funext fun wrapped => ?_)) kms
  refine congrArg (fun next => ((send_kms_request crates id wrapped).attempt >>= next : Kms Bytes)) (funext fun outcome => ?_)
  cases outcome with
  | ok wrapped_response => rfl
  | error e => rfl

theorem timed_attempt (m : Kms String) (kms : KmsClient) (env : Env) :
    (m.attempt kms).timed environment.answer environment.clock env = (m kms).timed environment.answer environment.clock env := by
  refine (Program.timed_bind environment.answer environment.clock (m kms) _ env).trans ?_
  exact List.append_nil _

/-- The rest of an attempt posts nothing, unless there is another attempt. -/
theorem timed_conclude {key : Bytes} {left attempt : Nat} {outcome : Except WebexError String}
    (hended : ∀ e, outcome = .error e → ¬retried attempt e) (env : Env) :
    ((conclude crates key_uri left attempt key outcome kms).timed environment.answer environment.clock env).any
      is_fetch = false := by
  cases outcome with
  | ok response =>
    rw [conclude, Method.timed_bind]
    cases open_key_response crates response key with
    | ok content_key => rfl
    | error e => rfl
  | error e =>
    have hrecorded : conclude crates key_uri left attempt key (.error e) =
        (do let instant ← now; modify (record_failure instant); throw e) := if_neg (hended e rfl)
    rw [hrecorded]
    rfl

theorem timed_conclude_retried {key : Bytes} {left attempt : Nat} {e : WebexError} (hretried : retried attempt e) (env : Env) :
    (conclude crates key_uri left attempt key (.error e) kms).timed environment.answer environment.clock env =
      (paused, environment.takes (.sleep 1000) env) ::
        (get_key_attempts crates key_uri left (attempt + 1) kms).timed environment.answer environment.clock
          (environment.after (.sleep 1000) env) := by
  have hagain : conclude crates key_uri left attempt key (.error e) =
      (do sleep 1000; get_key_attempts crates key_uri left (attempt + 1)) := if_pos hretried
  rw [hagain]
  rfl

/-- An attempt: the drawing, the request, and what comes of it. -/
theorem timed_attempts {key : Bytes} (hinit : kms.initialized = true) (hkey : kms.ephemeral_key = some key) (left attempt : Nat)
    (env : Env) : ∃ draws : TimedHistory, elapsed draws = drawing environment env ∧ draws.any is_fetch = false ∧
      (get_key_attempts crates key_uri (left + 1) attempt kms).timed environment.answer environment.clock env =
      draws ++ match wrap crates key_uri kms key (drawn environment env).1 (drawn environment env).2 with
      | .error _ => []
      | .ok wrapped =>
        let request := send_kms_request crates (drawn environment env).1 wrapped
        let sent := (request kms).exec environment.answer (after_drawing environment env)
        (request kms).timed environment.answer environment.clock (after_drawing environment env) ++
          (conclude crates key_uri left attempt key sent.1.1 sent.1.2).timed environment.answer environment.clock sent.2 := by
  refine ⟨[(⟨.new_v4, (drawn environment env).1⟩, environment.takes .new_v4 env),
    (⟨.random 12, (drawn environment env).2⟩, environment.takes (.random 12) (environment.after .new_v4 env))], ?_, rfl, ?_⟩
  · simp [drawing]
  · rw [get_key_attempts_eq hinit hkey, Program.timed, Program.timed]
    refine congrArg₂ List.cons rfl (congrArg₂ List.cons rfl ?_)
    show ((Method.ofExcept (wrap crates key_uri kms key (drawn environment env).1 (drawn environment env).2) >>= _ : Kms Bytes)
      kms).timed environment.answer environment.clock (after_drawing environment env) = _
    cases hwrap : wrap crates key_uri kms key (drawn environment env).1 (drawn environment env).2 with
    | error e => rfl
    | ok wrapped =>
      obtain ⟨outcome, env', hexec, -⟩ := @transmission Env environment crates kms (drawn environment env).1 wrapped
        (after_drawing environment env)
      show (((send_kms_request crates (drawn environment env).1 wrapped).attempt >>=
        conclude crates key_uri left attempt key) kms).timed environment.answer environment.clock (after_drawing environment env) = _
      rw [Method.timed_bind, timed_attempt, Method.exec_attempt hexec]
      dsimp only
      rw [hexec]
      rfl

/-- The second attempt, which is the last. -/
theorem last_attempt_delays {key : Bytes} (hinit : kms.initialized = true) (hkey : kms.ephemeral_key = some key) (env : Env) :
    Delays ((get_key_attempts crates key_uri 1 MAX_KMS_ATTEMPTS kms).timed environment.answer environment.clock env)
      ((posts_request environment crates key_uri kms key env).map fun _ => drawing environment env) := by
  obtain ⟨draws, hdrawing, hdraws, htimed⟩ :=
    @timed_attempts Env environment crates key_uri kms key hinit hkey 0 MAX_KMS_ATTEMPTS env
  rw [htimed, posts_request]
  cases hwrap : wrap crates key_uri kms key (drawn environment env).1 (drawn environment env).2 with
  | error e =>
    dsimp only
    rw [List.append_nil]
    exact hdraws
  | ok wrapped =>
    obtain ⟨outcome, env', hexec, hsent⟩ := @transmission Env environment crates kms (drawn environment env).1 wrapped
      (after_drawing environment env)
    have hquiet := @timed_conclude Env environment crates key_uri kms key 0 MAX_KMS_ATTEMPTS outcome
      (fun e _ hretried => absurd hretried.1 (Nat.lt_irrefl _)) env'
    dsimp only
    rw [hexec]
    have hdelays := (hsent.posted.append_quiet hquiet).after_quiet hdraws
    rw [hdrawing] at hdelays
    cases hregisters : registers environment (drawn environment env).1 (after_drawing environment env) with
    | false =>
      rw [hregisters] at hdelays
      exact hdelays
    | true =>
      rw [hregisters] at hdelays
      exact hdelays

theorem retry_of_unregistered {req : FetchRequest} {id : String} {env : Env} (hregisters : registers environment id env = false) :
    retry environment req id env = none := by
  have hfull : (environment.answer (.register_pending id) env).1 = none :=
    Option.not_isSome_iff_eq_none.mp (by simpa [registers] using hregisters)
  rw [retry, hfull]

/-- Both attempts. -/
theorem attempts_delays (env : Env) :
    Delays ((get_key_attempts crates key_uri MAX_KMS_ATTEMPTS 1 kms).timed environment.answer environment.clock env)
      (attempts_delay environment crates key_uri kms env) := by
  show Delays ((get_key_attempts crates key_uri (1 + 1) 1 kms).timed environment.answer environment.clock env) _
  unfold attempts_delay
  cases hinit : kms.initialized with
  | false =>
    rw [get_key_attempts, Method.get_bind, hinit]
    rfl
  | true =>
    cases hkey : kms.ephemeral_key with
    | none =>
      rw [get_key_attempts, Method.get_bind, hinit, hkey]
      rfl
    | some key =>
      obtain ⟨draws, hdrawing, hdraws, htimed⟩ := @timed_attempts Env environment crates key_uri kms key hinit hkey 1 1 env
      rw [htimed]
      dsimp only
      unfold posts_request
      cases hwrap : wrap crates key_uri kms key (drawn environment env).1 (drawn environment env).2 with
      | error e =>
        dsimp only
        rw [List.append_nil]
        exact hdraws
      | ok wrapped =>
        obtain ⟨outcome, env', hexec, hsent⟩ := @transmission Env environment crates kms (drawn environment env).1 wrapped
          (after_drawing environment env)
        dsimp only
        rw [hexec]
        generalize (send_kms_request crates (drawn environment env).1 wrapped kms).timed environment.answer environment.clock
          (after_drawing environment env) = sent at hsent ⊢
        have hposted := hsent.posted
        cases hregisters : registers environment (drawn environment env).1 (after_drawing environment env) with
        | false =>
          have hended := hsent.ended (retry_of_unregistered hregisters)
          have hquiet := @timed_conclude Env environment crates key_uri kms key 1 1 outcome
            (fun e he (hretried : retried 1 e) => absurd (hended e he) (by simp [hretried.2])) env'
          rw [hregisters] at hposted
          exact (hposted.append_quiet hquiet).after_quiet hdraws
        | true =>
          rw [hregisters] at hposted
          show Delays _ (some (drawing environment env + (retry environment (message_request crates kms wrapped)
            (drawn environment env).1 (after_drawing environment env)).elim 0 (second_delay environment crates key_uri kms key)))
          rw [← hdrawing]
          cases hretry : retry environment (message_request crates kms wrapped) (drawn environment env).1
            (after_drawing environment env) with
          | none =>
            have hended := hsent.ended hretry
            have hquiet := @timed_conclude Env environment crates key_uri kms key 1 1 outcome
              (fun e he (hretried : retried 1 e) => absurd (hended e he) (by simp [hretried.2])) env'
            exact (hposted.append_quiet hquiet).append
          | some again =>
            obtain ⟨e, rfl, hretryable, hdelay, henv⟩ := hsent.retried again hretry
            have hsecond := @last_attempt_delays Env environment crates key_uri kms key hinit hkey again.env
            rw [timed_conclude_retried ⟨by decide, hretryable⟩, ← henv, Option.elim_some, second_delay]
            cases hagain : posts_request environment crates key_uri kms key again.env with
            | none =>
              rw [hagain] at hsecond
              have hquiet : List.any ((paused, environment.takes (.sleep 1000) env') :: _) is_fetch = false := hsecond
              exact (hposted.append_quiet hquiet).append
            | some wrapped' =>
              rw [hagain] at hsecond
              have htook : elapsed (sent ++ [(paused, environment.takes (.sleep 1000) env')]) = again.delay := by
                rw [hdelay, elapsed_append, elapsed_cons, elapsed_nil, Nat.add_zero]
              rw [List.append_cons, ← htook]
              exact hsecond.append.append

theorem check_breaker_open (hstate : kms.cb_state = .open) {last : Nat} (hlast : kms.cb_last_failure = some last) :
    check_breaker kms = .ask .now fun (instant : Nat) =>
      if CB_COOLDOWN ≤ instant - last then .ret (.ok (), { kms with cb_state := .half_open })
      else .ret (.error (.kms "KMS circuit breaker is open — skipping key fetch"), kms) := by
  have hcheck : check_breaker kms = (cooled_down (some last) >>= fun cooled => (do
      Method.reject (!cooled) (.kms "KMS circuit breaker is open — skipping key fetch")
      modify fun self => { self with cb_state := .half_open } : Kms Unit)) kms := by
    rw [check_breaker, Method.get_bind, if_pos hstate, hlast]
  rw [hcheck]
  refine congrArg (Program.ask Op.now) (funext fun instant => ?_)
  show ((Method.reject (!decide (CB_COOLDOWN ≤ (show Nat from instant) - last)) _ >>= fun _ =>
    modify fun self => { self with cb_state := .half_open } : Kms Unit) kms) = _
  by_cases hcooled : CB_COOLDOWN ≤ (show Nat from instant) - last
  · rw [if_pos hcooled, decide_eq_true hcooled]
    rfl
  · rw [if_neg hcooled, decide_eq_false hcooled]
    rfl

/-- A call from the check of its context on: the environment alone decides when its last
    request is wrapped. -/
theorem requests_delays (checked : KmsClient × Env) :
    Delays (requests crates key_uri environment checked) (request_delay environment crates key_uri checked) := by
  obtain ⟨kms, env⟩ := checked
  unfold requests request_key request_delay passing
  rw [Method.timed_bind]
  have hsame : ∀ state env', attempts_delay environment crates key_uri { kms with cb_state := state } env' =
      attempts_delay environment crates key_uri kms env' := by
    intro state env'
    rfl
  have hpassed : ∀ state, Delays (([] : TimedHistory) ++ (get_key_attempts crates key_uri MAX_KMS_ATTEMPTS 1
      { kms with cb_state := state }).timed environment.answer environment.clock env)
      ((attempts_delay environment crates key_uri kms env).map (0 + ·)) := by
    intro state
    rw [← hsame state]
    exact (attempts_delays env).after_quiet rfl
  cases hstate : kms.cb_state with
  | closed =>
    rw [check_breaker, Method.get_bind, if_neg (by simp [hstate])]
    exact hpassed kms.cb_state
  | half_open =>
    rw [check_breaker, Method.get_bind, if_neg (by simp [hstate])]
    exact hpassed kms.cb_state
  | «open» =>
    cases hlast : kms.cb_last_failure with
    | none =>
      rw [check_breaker, Method.get_bind, if_pos hstate, hlast]
      exact hpassed .half_open
    | some last =>
      rw [check_breaker_open hstate hlast]
      simp only [Program.exec, Program.timed]
      by_cases hcooled : CB_COOLDOWN ≤ (show Nat from (environment.answer .now env).1) - last
      · rw [if_pos hcooled, if_pos hcooled]
        have hdelays := (@attempts_delays Env environment crates key_uri { kms with cb_state := .half_open }
          (environment.after .now env)).after_quiet
          (h := [(⟨.now, (environment.answer .now env).1⟩, environment.takes .now env)]) rfl
        rw [hsame] at hdelays
        exact hdelays
      · rw [if_neg hcooled, if_neg hcooled]
        rfl

/-- Of every call: no request is wrapped under an expired context exactly if the time until its
    last request is wrapped is no longer than what the context has left. -/
theorem none_expired_iff_delay : NoneExpired crates key_uri kms environment env ↔
    ∀ checked ∈ at_checked crates key_uri kms environment env,
      ∀ delay ∈ request_delay environment crates key_uri checked, delay ≤ time_left environment checked := by
  rw [none_expired_iff_elapsed]
  refine forall_congr' fun checked => forall_congr' fun _ => ?_
  have hdelays := @requests_delays Env environment crates key_uri checked
  cases hdelay : request_delay environment crates key_uri checked with
  | none =>
    rw [hdelay] at hdelays
    have hnone : before_last_request (requests crates key_uri environment checked) = [] := by
      rw [before_last_request, before_last_eq_nil hdelays]
      rfl
    simp [hnone]
  | some delay =>
    rw [hdelay] at hdelays
    rw [hdelays.2]
    simp

section margin

theorem is_context_expired_exec {exp : Nat} (hinit : kms.initialized = true) (hexp : kms.context_expiration = some exp) :
    (is_context_expired kms).exec environment.answer env =
      ((.ok (decide (exp - 30000 < (show Nat from (environment.answer .now env).1))), kms), environment.after .now env) := by
  have hcheck : is_context_expired kms = (do
      let instant ← now
      return decide (exp - 30000 < instant) : Kms Bool) kms := by
    rw [is_context_expired, Method.get_bind, if_neg (by simp [hinit]), hexp]
  rw [hcheck]
  rfl

/-- The check does not look at the cache. -/
theorem is_context_expired_bounded :
    (is_context_expired (bounded kms)).exec environment.answer env =
      ((((is_context_expired kms).exec environment.answer env).1.1, bounded kms),
        ((is_context_expired kms).exec environment.answer env).2) := by
  unfold bounded
  cases hinit : kms.initialized with
  | false =>
    simp only [is_context_expired, Method.get_bind, hinit]
    rfl
  | true =>
    cases hexp : kms.context_expiration with
    | none =>
      simp only [is_context_expired, Method.get_bind, hinit, hexp]
      rfl
    | some exp =>
      simp only [is_context_expired, Method.get_bind, hinit, hexp]
      rfl

/-- A context that the check lets pass is used as it is. -/
theorem at_checked_of_passed {exp : Nat} (hinit : kms.initialized = true) (hexp : kms.context_expiration = some exp)
    (huncached : kms.key_cache.lookup key_uri = none) (hfresh : (show Nat from (environment.answer .now env).1) ≤ exp - 30000) :
    at_checked crates key_uri kms environment env = some (bounded kms, environment.after .now env) := by
  have hpassed : (is_context_expired (bounded kms)).exec environment.answer env =
      ((.ok false, bounded kms), environment.after .now env) := by
    rw [is_context_expired_bounded, is_context_expired_exec hinit hexp, decide_eq_false (Nat.not_lt.mpr hfresh)]
  have hexec : (check_context crates kms).exec environment.answer env =
      ((.ok (), bounded kms), environment.after .now env) := by
    rw [check_context_eq, renew_context, Method.exec_bind_ok hpassed]
    rfl
  rw [at_checked, huncached, hexec]
  rfl

/-- The margin of the check is what every context that passes it has left. -/
theorem none_expired_within_margin (hinit : kms.initialized = true) (huncached : kms.key_cache.lookup key_uri = none) :
    (∀ exp, 30000 ≤ exp → (show Nat from (environment.answer .now env).1) ≤ exp - 30000 →
      NoneExpired crates key_uri { kms with context_expiration := some exp } environment env) ↔
    ∀ delay ∈ request_delay environment crates key_uri (kms, environment.after .now env), delay ≤ 30000 := by
  have hiff : ∀ exp, (show Nat from (environment.answer .now env).1) ≤ exp - 30000 →
      (NoneExpired crates key_uri { kms with context_expiration := some exp } environment env ↔
        ∀ delay ∈ request_delay environment crates key_uri (kms, environment.after .now env),
          delay ≤ exp - (show Nat from (environment.answer .now env).1)) := by
    intro exp hfresh
    have hchecked := @at_checked_of_passed Env environment crates key_uri
      { kms with context_expiration := some exp } env exp hinit rfl huncached hfresh
    rw [none_expired_iff_delay, hchecked, environment.reads]
    constructor
    · intro hdelay
      exact hdelay _ rfl
    · rintro hdelay _ ⟨⟩
      exact hdelay
  constructor
  · intro hnone
    have hdelay := (hiff ((show Nat from (environment.answer .now env).1) + 30000) (by omega)).mp (hnone _ (by omega) (by omega))
    rwa [Nat.add_sub_cancel_left] at hdelay
  · intro hdelay exp hlate hfresh
    refine (hiff exp hfresh).mpr fun delay hmem => ?_
    have hle := hdelay delay hmem
    omega

/-- A context that is renewed lasts an hour. -/
theorem time_left_renewed {checked : KmsClient × Env} (hchecked : checked ∈ at_checked crates key_uri kms environment env)
    (hexpired : ((is_context_expired kms).exec environment.answer env).1.1 = .ok true) :
    time_left environment checked = 3600000 := by
  unfold at_checked at hchecked
  split at hchecked
  · cases hchecked
  · have hpassed := @is_context_expired_bounded Env environment kms env
    rw [hexpired] at hpassed
    rw [check_context_eq, renew_context, Method.exec_bind_ok hpassed] at hchecked
    have hrenewed := Program.obeys_following (@initialize_client_renewed crates Env environment
      (bounded kms) ((is_context_expired kms).exec environment.answer env).2)
    split at hchecked
    · rename_i kms' env' hrun
      cases hchecked
      have hrun : (initialize_client crates (bounded kms)).exec environment.answer
          ((is_context_expired kms).exec environment.answer env).2 = ((.ok (), kms'), env') := hrun
      rw [hrun] at hrenewed
      have hlasts : kms'.context_expiration = some (environment.clock env' + 3600000) := hrenewed () rfl
      rw [time_left, hlasts]
      exact Nat.add_sub_cancel_left _ _
    · cases hchecked

/-- A request that gets no response is made again after more than the margin. -/
theorem margin_lt_delay {req : FetchRequest} {id : String} {rx : Nat} {resp : FetchResponse} (hok : resp.ok = true)
    (hregister : (environment.answer (.register_pending id) env).1 = some rx)
    (hpost : (environment.answer (.fetch req) (environment.after (.register_pending id) env)).1 = .ok resp)
    (hsilent : (environment.answer (.wait_response rx KMS_RESPONSE_TIMEOUT)
      (environment.after (.fetch req) (environment.after (.register_pending id) env))).1 = Waited.timed_out) :
    ∃ again ∈ retry environment req id env, 30000 < again.delay := by
  have hretry : retry environment req id env = some (made_again environment (environment.takes (.register_pending id) env)
      (environment.takes (.fetch req) (environment.after (.register_pending id) env))
      (environment.takes (.wait_response rx KMS_RESPONSE_TIMEOUT)
        (environment.after (.fetch req) (environment.after (.register_pending id) env))) id
      (environment.after (.wait_response rx KMS_RESPONSE_TIMEOUT)
        (environment.after (.fetch req) (environment.after (.register_pending id) env)))) := by
    simp [retry, hregister, hpost, hok, hsilent]
  have hwait : 30000 ≤ environment.takes (.wait_response rx KMS_RESPONSE_TIMEOUT)
      (environment.after (.fetch req) (environment.after (.register_pending id) env)) :=
    Nat.le_sub_of_add_le' (environment.times_out rx KMS_RESPONSE_TIMEOUT _ hsilent)
  have hpause : ∀ env', 1000 ≤ environment.takes (.sleep 1000) env' := by
    intro env'
    exact Nat.le_sub_of_add_le' (environment.sleeps 1000 env')
  refine ⟨_, hretry, ?_⟩
  have hpaused := hpause (environment.after (.remove_pending id) (environment.after (.wait_response rx KMS_RESPONSE_TIMEOUT)
    (environment.after (.fetch req) (environment.after (.register_pending id) env))))
  simp only [made_again, Retry.delay]
  omega

end margin

/-- Of every call: no request is wrapped under an expired context exactly if the time until its
    last request is wrapped is no longer than what the context has left. That is an hour for a
    context that has been found expired, and is renewed. For one that has not, the code has
    its margin of 30 s: over the contexts that the check lets pass, none expires under a request
    exactly if the time is no longer than that. -/
theorem none_expired_iff :
    (NoneExpired crates key_uri kms environment env ↔
      ∀ checked ∈ at_checked crates key_uri kms environment env,
        ∀ delay ∈ request_delay environment crates key_uri checked, delay ≤ time_left environment checked) ∧
    (((is_context_expired kms).exec environment.answer env).1.1 = .ok true →
      ∀ checked ∈ at_checked crates key_uri kms environment env, time_left environment checked = 3600000) ∧
    (kms.initialized = true → kms.key_cache.lookup key_uri = none →
      ((∀ exp, 30000 ≤ exp →
          ((is_context_expired { kms with context_expiration := some exp }).exec environment.answer env).1.1 = .ok false →
          NoneExpired crates key_uri { kms with context_expiration := some exp } environment env) ↔
        ∀ delay ∈ request_delay environment crates key_uri (kms, environment.after .now env), delay ≤ 30000)) := by
  refine ⟨none_expired_iff_delay, fun hexpired checked hchecked => time_left_renewed hchecked hexpired, ?_⟩
  intro hinit huncached
  rw [← none_expired_within_margin hinit huncached]
  refine forall_congr' fun exp => forall_congr' fun _ => ?_
  have hpassed := @is_context_expired_exec Env environment { kms with context_expiration := some exp } env exp hinit rfl
  rw [hpassed, Except.ok.injEq, decide_eq_false_iff_not, Nat.not_lt]

/-- A KMS that accepts requests and does not respond to them, in no time of its own. The
    environment is the time. -/
def silent : TimedEnvironment Nat where
  answer
    | .fetch _, instant => (.ok { status := 202, ok := true, body := [] }, instant)
    | .now, instant => (instant, instant)
    | .sleep millis, instant => ((), instant + millis)
    | .new_v4, instant => ("00000000-0000-4000-8000-000000000000", instant)
    | .random _, instant => (([] : Bytes), instant)
    | .register_pending _, instant => (some (0 : Nat), instant)
    | .remove_pending _, instant => ((), instant)
    | .wait_response _ millis, instant => (Waited.timed_out, instant + millis)
  clock instant := instant
  forward op instant := by
    cases op with
    | sleep millis => exact Nat.le_add_right _ _
    | wait_response rx millis => exact Nat.le_add_right _ _
    | _ => exact Nat.le_refl _
  reads _ := rfl
  sleeps _ _ := Nat.le_refl _
  times_out _ _ _ _ := Nat.le_refl _

/-- A call that comes 1001 ms before the check finds the context expired has its second request
    wrapped in time. -/
theorem late_request_in_time : 31000 ≤ time_left silent (connected_client, 3569000) ∧
    NoneExpired sample_crates "kms://k" connected_client silent 3569000 := by
  have hchecked : at_checked sample_crates "kms://k" connected_client silent 3569000 = some (connected_client, 3569000) := rfl
  have hdelay : request_delay silent sample_crates "kms://k" (connected_client, 3569000) = some 31000 := by decide
  have hleft : time_left silent (connected_client, 3569000) = 31000 := rfl
  refine ⟨hleft.ge, none_expired_iff.1.mpr ?_⟩
  rw [hchecked]
  rintro _ ⟨⟩
  rw [hdelay]
  rintro _ ⟨⟩
  exact hleft.ge

/-- The requests of a call that comes exactly 30 s before the expiration. -/
def late_requests : TimedHistory := requests sample_crates "kms://k" silent (connected_client, 3570000)

theorem late_requests_elapsed : elapsed (late_requests.take 10).dropLast = 31000 := by
  decide

theorem request_wrapped_late : ¬∀ crates key_uri kms (environment : TimedEnvironment Nat) env,
    NoneExpired crates key_uri kms environment env := by
  intro hnone
  let wrapped := sample_crates.to_string (retrieve_body connected_client "kms://k" "00000000-0000-4000-8000-000000000000")
  let req := message_request sample_crates connected_client wrapped
  let accepted : Except String FetchResponse := .ok { status := 202, ok := true, body := [] }
  have hchecked : (connected_client, 3570000) ∈ at_checked sample_crates "kms://k" connected_client silent 3570000 := rfl
  have hwrapped : WrappedInTime sample_crates "kms://k" connected_client 3570000 late_requests := hnone _ _ _ _ _ _ hchecked
  have hsplit : late_requests = late_requests.take 10 ++ (⟨.fetch req, accepted⟩, 0) :: late_requests.drop 11 := rfl
  obtain ⟨before, id, seed, drawn, rx, registered, key, _, exp, hbefore, -, -, -, hexp, hle⟩ := hwrapped _ _ _ _ _ hsplit
  have hearlier := congrArg List.dropLast hbefore
  rw [List.append_cons, List.dropLast_concat] at hearlier
  rw [← hearlier, late_requests_elapsed] at hle
  cases hexp
  exact absurd hle (by decide)

end history

end webex.rust.kms_client

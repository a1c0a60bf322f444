import WebexHandler.Interaction.Run
import WebexHandler.Rust.KmsClient.Mailbox

open interaction json transition

namespace webex.rust.kms_client

/-- What one operation of a call is answered with. -/
inductive Reply
  | fetched (result : Except String FetchResponse)
  | instant (now : Nat)
  | elapsed
  | uuid (id : String)
  | drawn (bytes : Bytes)
  | registered (rx : Option Nat)
  | removed
  | waited (outcome : Waited)

def reply : (op : Op) → Reply → Option (Res op)
  | .fetch _, .fetched result => some result
  | .now, .instant now => some now
  | .sleep _, .elapsed => some ()
  | .new_v4, .uuid id => some id
  | .random _, .drawn bytes => some bytes
  | .register_pending _, .registered rx => some rx
  | .remove_pending _, .removed => some ()
  | .wait_response _ _, .waited outcome => some outcome
  | _, _ => none

/-- The reply that stands for a result. -/
def reply_of : (op : Op) → Res op → Reply
  | .fetch _, result => .fetched result
  | .now, now => .instant now
  | .sleep _, _ => .elapsed
  | .new_v4, id => .uuid id
  | .random _, bytes => .drawn bytes
  | .register_pending _, rx => .registered rx
  | .remove_pending _, _ => .removed
  | .wait_response _ _, outcome => .waited outcome

theorem reply_eq_some {op : Op} {choice : Reply} {r : Res op} (hreply : reply op choice = some r) :
    choice = reply_of op r := by
  unfold reply at hreply
  split at hreply
  all_goals cases hreply
  all_goals rfl

/-- Whether a request has been sent, after one more answer. -/
def sent_after (sent : Bool) : Reply → Bool
  | .fetched _ => true
  | _ => sent

/-- The breaker's fields. -/
structure SameBreaker (kms kms' : KmsClient) : Prop where
  cb_state : kms'.cb_state = kms.cb_state
  cb_failures : kms'.cb_failures = kms.cb_failures
  cb_last_failure : kms'.cb_last_failure = kms.cb_last_failure

section unmoved

variable {γ : Type} {crates : Crates} {mon : Monitor Op Res γ} {start : KmsClient}

/-- The breaker has not moved since `start`. -/
def Unmoved (start kms : KmsClient) (_ : γ) : Prop := SameBreaker start kms

theorem keeps_free_request {inv : KmsClient → Prop} (hfree : ∀ g op, mon.allowed g op) (op : Op) :
    (Method.request op : Kms (Res op)).Keeps mon fun kms _ => inv kms :=
  Method.keeps_request fun _ g hinv => ⟨hfree g op, fun _ _ _ => hinv⟩

/-- A request to the KMS changes no field of the client. -/
theorem send_kms_request_keeps {inv : KmsClient → Prop} (hfree : ∀ g op, mon.allowed g op)
    (request_id wrapped : String) : (send_kms_request crates request_id wrapped).Keeps mon fun kms _ => inv kms := by
  unfold send_kms_request
  apply Method.keeps_bind Method.keeps_get
  intro self
  apply Method.keeps_bind (keeps_free_request hfree _)
  intro rx
  cases rx with
  | none => exact Method.keeps_throw _
  | some rx =>
    apply Method.keeps_bind (keeps_free_request hfree _)
    intro result
    cases result with
    | error e => exact Method.keeps_bind (keeps_free_request hfree _) fun _ => Method.keeps_throw _
    | ok resp =>
      dsimp only
      split
      · exact Method.keeps_bind (keeps_free_request hfree _) fun _ => Method.keeps_throw _
      · apply Method.keeps_bind (keeps_free_request hfree _)
        intro outcome
        cases outcome with
        | received response => exact Method.keeps_pure _
        | closed => exact Method.keeps_throw _
        | timed_out => exact Method.keeps_bind (keeps_free_request hfree _) fun _ => Method.keeps_throw _

/-- The fields that a handshake leaves alone. -/
structure SameStanding (kms kms' : KmsClient) : Prop where
  key_cache : kms'.key_cache = kms.key_cache
  breaker : SameBreaker kms kms'

theorem keeps_modify_standing {inv : KmsClient → Prop} (hinv : ∀ kms kms', SameStanding kms kms' → inv kms → inv kms')
    {f : KmsClient → KmsClient} (hf : ∀ kms, SameStanding kms (f kms)) :
    (modify f : Kms PUnit).Keeps mon fun kms _ => inv kms :=
  Method.keeps_modify fun kms _ => hinv kms (f kms) (hf kms)

theorem parse_kms_details_keeps {inv : KmsClient → Prop}
    (hinv : ∀ kms kms', SameStanding kms kms' → inv kms → inv kms') (response : Except String FetchResponse) :
    (parse_kms_details crates response).Keeps mon fun kms _ => inv kms := by
  unfold parse_kms_details
  apply Method.keeps_bind (Method.keeps_ofExcept _)
  intro response
  apply Method.keeps_bind (Method.keeps_reject _ _)
  intro _
  apply Method.keeps_bind (Method.keeps_ofExcept _)
  intro kms_details
  apply Method.keeps_bind (Method.keeps_ofExcept _)
  intro kms_cluster
  refine Method.keeps_bind (keeps_modify_standing hinv fun _ => ?_) fun _ => ?_
  · exact ⟨rfl, rfl, rfl, rfl⟩
  apply Method.keeps_bind (Method.keeps_ofExcept _)
  intro _
  split
  · exact Method.keeps_ofExcept _
  · exact Method.keeps_pure _
  · exact Method.keeps_throw _

/-- The handshake touches neither the breaker nor the key cache. -/
theorem initialize_client_keeps {inv : KmsClient → Prop} (hfree : ∀ g op, mon.allowed g op)
    (hinv : ∀ kms kms', SameStanding kms kms' → inv kms → inv kms') :
    (initialize_client crates).Keeps mon fun kms _ => inv kms := by
  unfold initialize_client fetch_kms_details
  apply Method.keeps_bind
  · apply Method.keeps_bind Method.keeps_get
    intro self
    exact Method.keeps_bind (keeps_free_request hfree _) (parse_kms_details_keeps hinv)
  intro rsa_jwk_value
  unfold handshake
  apply Method.keeps_bind (keeps_free_request hfree _)
  intro local_secret
  apply Method.keeps_bind (Method.keeps_ofExcept _)
  intro public_jwk_map
  apply Method.keeps_bind (keeps_free_request hfree _)
  intro request_id
  apply Method.keeps_bind Method.keeps_get
  intro self
  apply Method.keeps_bind (keeps_free_request hfree _)
  intro seed
  apply Method.keeps_bind (Method.keeps_ofExcept _)
  intro wrapped
  apply Method.keeps_bind (send_kms_request_keeps hfree _ _)
  intro wrapped_response
  apply Method.keeps_bind (Method.keeps_ofExcept _)
  intro derived
  refine Method.keeps_bind (keeps_modify_standing hinv fun _ => ?_) fun _ => ?_
  · exact ⟨rfl, rfl, rfl, rfl⟩
  apply Method.keeps_bind (keeps_free_request hfree _)
  intro instant
  refine keeps_modify_standing hinv fun _ => ?_
  exact ⟨rfl, rfl, rfl, rfl⟩

theorem is_context_expired_keeps {inv : KmsClient → Prop} (hfree : ∀ g op, mon.allowed g op) :
    is_context_expired.Keeps mon fun kms _ => inv kms := by
  unfold is_context_expired
  apply Method.keeps_bind Method.keeps_get
  intro self
  split
  · exact Method.keeps_pure _
  · split
    · exact Method.keeps_bind (keeps_free_request hfree _) fun _ => Method.keeps_pure _
    · exact Method.keeps_pure _

theorem cooled_down_keeps {inv : KmsClient → Prop} (hfree : ∀ g op, mon.allowed g op) (last : Option Nat) :
    (cooled_down last).Keeps mon fun kms _ => inv kms := by
  cases last with
  | none => exact Method.keeps_pure _
  | some t => exact Method.keeps_bind (keeps_free_request hfree _) fun _ => Method.keeps_pure _

/-- Nor does the renewal of an expired context. -/
theorem renew_context_keeps {inv : KmsClient → Prop} (hfree : ∀ g op, mon.allowed g op)
    (hinv : ∀ kms kms', SameStanding kms kms' → inv kms → inv kms') :
    (renew_context crates).Keeps mon fun kms _ => inv kms := by
  unfold renew_context
  apply Method.keeps_bind (is_context_expired_keeps hfree)
  intro expired
  exact Method.keeps_when fun _ => initialize_client_keeps hfree hinv

theorem SameStanding.unmoved {kms kms' : KmsClient} (hsame : SameStanding kms kms') (hinv : SameBreaker start kms) :
    SameBreaker start kms' where
  cb_state := hsame.breaker.cb_state.trans hinv.cb_state
  cb_failures := hsame.breaker.cb_failures.trans hinv.cb_failures
  cb_last_failure := hsame.breaker.cb_last_failure.trans hinv.cb_last_failure

/-- The breaker after the checks of `get_key`, as far as `cb_last_failure` is not
    concerned: an open one has become half-open, or the call has failed. -/
structure Checked (start : KmsClient) (outcome : Except WebexError Unit) (kms : KmsClient) : Prop where
  cb_failures : kms.cb_failures = start.cb_failures
  cb_state : kms.cb_state = start.cb_state ∨ (start.cb_state = .open ∧ kms.cb_state = .half_open)
  passed : outcome = .ok () → kms.cb_state ≠ .open

theorem check_breaker_obeys (hfree : ∀ g op, mon.allowed g op) {kms : KmsClient} {g : γ}
    (hunmoved : SameBreaker start kms) :
    check_breaker.Obeys mon kms g fun outcome kms' _ => Checked start outcome kms' := by
  have hcooled : ∀ last, (cooled_down last).Keeps mon (Unmoved start) := cooled_down_keeps hfree
  unfold check_breaker
  rw [Method.obeys_bind, Method.obeys_get]
  dsimp only
  split
  · rename_i hopen
    rw [hunmoved.cb_state] at hopen
    apply (hcooled _ kms g hunmoved).bind
    · intro cooled kms' g' hkept
      rw [Method.obeys_bind, Method.obeys_reject]
      refine ⟨fun _ => ?_, fun _ => ?_⟩
      · exact ⟨hkept.cb_failures, .inl hkept.cb_state, fun heq => nomatch heq⟩
      · exact ⟨hkept.cb_failures, .inr ⟨hopen, rfl⟩, fun _ heq => nomatch heq⟩
    · intro e kms' g' hkept
      exact ⟨hkept.cb_failures, .inl hkept.cb_state, fun heq => nomatch heq⟩
  · rename_i hopen
    exact ⟨hunmoved.cb_failures, .inl hunmoved.cb_state, fun _ => hopen⟩

theorem get_key_checks_obeys (hfree : ∀ g op, mon.allowed g op) (kms : KmsClient) (g : γ) :
    (get_key_checks crates).Obeys mon kms g fun outcome kms' _ => Checked kms outcome kms' := by
  have hfailed : ∀ (e : WebexError) (kms' : KmsClient) (g' : γ), Unmoved kms kms' g' → Checked kms (.error e) kms' :=
    fun e kms' g' hkept => ⟨hkept.cb_failures, .inl hkept.cb_state, fun heq => nomatch heq⟩
  have hstart : Unmoved kms (bounded kms) g := ⟨rfl, rfl, rfl⟩
  have hrenews : (renew_context crates).Keeps mon (Unmoved kms) :=
    renew_context_keeps hfree fun _ _ => SameStanding.unmoved
  rw [obeys_get_key_checks]
  apply (hrenews (bounded kms) g hstart).bind _ (hfailed · · ·)
  intro _ kms' g' hkept
  exact check_breaker_obeys hfree hkept

end unmoved

section attempts

variable {crates : Crates} {key_uri : String} {self : KmsClient} {replies : List Reply}

/-- What the loop of attempts needs of the answers it gets: a registration is not
    refused, the request can be encrypted, and a response that arrives yields a key. -/
structure Answerable (crates : Crates) (key_uri : String) (kms : KmsClient) (replies : List Reply) : Prop where
  registers : .registered none ∉ replies
  seals : ∀ ephemeral_key request_id seed, kms.ephemeral_key = some ephemeral_key →
    .uuid request_id ∈ replies → .drawn seed ∈ replies →
    ∃ wrapped, crates.encrypt_dir_a256gcm (crates.to_string (retrieve_body kms key_uri request_id))
      ephemeral_key kms.ephemeral_key_kid seed = .ok wrapped
  opens : ∀ ephemeral_key response, kms.ephemeral_key = some ephemeral_key →
    .waited (.received response) ∈ replies → ∃ key, open_key_response crates response ephemeral_key = .ok key

/-- The answers of a call, with whether a request has been sent as the view. -/
abbrev scripted (replies : List Reply) : Monitor Op Res Bool := answered reply sent_after replies

theorem moves_scripted {sent sent' : Bool} {op : Op} {r : Res op} (hmoves : (scripted replies).moves sent op r sent') :
    reply_of op r ∈ replies ∧ sent' = sent_after sent (reply_of op r) := by
  obtain ⟨choice, hmem, hreply, rfl⟩ := hmoves
  rw [reply_eq_some hreply] at hmem ⊢
  exact ⟨hmem, rfl⟩

/-- A request that is registered is sent, whatever comes of it. -/
theorem send_kms_request_sends (hregisters : .registered none ∉ replies) (request_id wrapped : String) (sent : Bool) :
    (send_kms_request crates request_id wrapped).Obeys (scripted replies) self sent fun outcome self' sent' =>
      self' = self ∧ sent' = true ∧ ∀ response, outcome = .ok response → .waited (.received response) ∈ replies := by
  unfold send_kms_request
  rw [Method.obeys_bind, Method.obeys_get]
  simp only [Method.obeys_bind, obeys_register_pending]
  refine ⟨trivial, ?_⟩
  intro rx sent₁ hmoves
  obtain ⟨hmem, rfl⟩ := moves_scripted hmoves
  cases rx with
  | none => exact absurd hmem hregisters
  | some rx =>
    simp only [Method.obeys_bind, obeys_fetch]
    refine ⟨trivial, ?_⟩
    intro result sent₂ hmoves
    obtain ⟨-, rfl⟩ := moves_scripted hmoves
    have hremove : ∀ e : WebexError, (do remove_pending request_id; throw e : Kms String).Obeys (scripted replies)
        self true fun outcome self' sent' => self' = self ∧ sent' = true ∧
          ∀ response, outcome = .ok response → .waited (.received response) ∈ replies := by
      intro e
      rw [Method.obeys_bind, obeys_remove_pending]
      refine ⟨trivial, ?_⟩
      intro _ sent₃ hmoves
      obtain ⟨-, rfl⟩ := moves_scripted hmoves
      exact ⟨rfl, rfl, by simp⟩
    cases result with
    | error e => exact hremove _
    | ok resp =>
      dsimp only
      split
      · exact hremove _
      · rw [Method.obeys_bind, obeys_wait_response]
        refine ⟨trivial, ?_⟩
        intro outcome sent₃ hmoves
        obtain ⟨hmem, rfl⟩ := moves_scripted hmoves
        cases outcome with
        | received response => exact ⟨rfl, rfl, fun _ heq => Except.ok.inj heq ▸ hmem⟩
        | closed => exact ⟨rfl, rfl, by simp⟩
        | timed_out => exact hremove _

/-- How the loop of attempts ends: with the key and the success recorded, with the
    failure recorded, or before anything was sent. -/
inductive Attempted (key_uri : String) (self : KmsClient) : Except WebexError Bytes → KmsClient → Bool → Prop
  | fetched (key : Bytes) : Attempted key_uri self (.ok key) (record_success key_uri key self) true
  | failed (e : WebexError) (instant : Nat) : Attempted key_uri self (.error e) (record_failure instant self) true
  | unsent (e : WebexError) : Attempted key_uri self (.error e) self false

/-- The loop of attempts, from its attempt number `attempt`. Once something was sent
    the client is known to be ready for another attempt. -/
theorem get_key_attempts_attempted (hanswerable : Answerable crates key_uri self replies) (left attempt : Nat) (sent : Bool)
    (hcount : attempt + left = MAX_KMS_ATTEMPTS + 1) (hattempt : attempt ≤ MAX_KMS_ATTEMPTS)
    (hready : sent = true → self.initialized = true ∧ self.ephemeral_key.isSome = true) :
    (get_key_attempts crates key_uri left attempt).Obeys (scripted replies) self sent
      (Attempted key_uri self) := by
  induction left generalizing attempt sent with
  | zero => omega
  | succ left ih =>
    unfold get_key_attempts
    rw [Method.obeys_bind, Method.obeys_get]
    simp only [Method.obeys_bind, Method.obeys_reject]
    refine ⟨?_, ?_⟩
    · intro hinit
      cases sent with
      | true => simp [(hready rfl).1] at hinit
      | false => exact .unsent _
    intro hinit
    simp only [Bool.not_eq_false'] at hinit
    rw [Method.obeys_ofExcept]
    cases hkey : self.ephemeral_key with
    | none =>
      cases sent with
      | true => simp [hkey] at hready
      | false => exact .unsent _
    | some ephemeral_key =>
      dsimp only
      rw [obeys_new_v4]
      refine ⟨trivial, ?_⟩
      intro request_id sent₁ hmoves
      obtain ⟨hid, rfl⟩ := moves_scripted hmoves
      dsimp only
      rw [obeys_random]
      refine ⟨trivial, ?_⟩
      intro seed sent₂ hmoves
      obtain ⟨hseed, rfl⟩ := moves_scripted hmoves
      obtain ⟨wrapped, hwrapped⟩ := hanswerable.seals ephemeral_key request_id seed hkey hid hseed
      dsimp only
      rw [Method.obeys_ofExcept, hwrapped]
      dsimp only
      rw [Method.obeys_attempt]
      apply (send_kms_request_sends hanswerable.registers _ _ _).mono
      rintro outcome self' sent₃ ⟨rfl, rfl, hreceived⟩
      cases outcome with
      | ok response =>
        obtain ⟨key, hopens⟩ := hanswerable.opens ephemeral_key response hkey (hreceived response rfl)
        simp only [hopens, Method.obeys_bind, Method.obeys_ofExcept, Method.obeys_modify, Method.obeys_pure]
        exact .fetched key
      | error e =>
        dsimp only
        split
        · rename_i hretry
          rw [Method.obeys_bind, obeys_sleep]
          refine ⟨trivial, ?_⟩
          intro _ sent₄ hmoves
          obtain ⟨-, rfl⟩ := moves_scripted hmoves
          exact ih (attempt + 1) true (by omega) hretry.1 fun _ => ⟨hinit, by simp [hkey]⟩
        · rw [Method.obeys_bind, obeys_now]
          refine ⟨trivial, ?_⟩
          intro instant sent₄ hmoves
          obtain ⟨-, rfl⟩ := moves_scripted hmoves
          exact .failed e instant

end attempts

/-- A call that sent a retrieve request: the breaker when its attempts began, and
    whether it returned an error. -/
structure Fetch where
  before : CbState
  failed : Bool
  deriving DecidableEq, Repr

/-- A client between its calls, with the number of consecutive calls that sent a
    retrieve request and failed, and the last call if it sent one. -/
structure Ledger where
  kms : KmsClient
  streak : Nat := 0
  last : Option Fetch := none
  deriving DecidableEq, Repr

/-- A whole call with the answers it gets. -/
inductive Invocation
  | get_key (key_uri : String) (replies : List Reply)
  | initialize_client (replies : List Reply)

section ledger

variable (crates : Crates)

/-- The breaker when the attempts of a `get_key` begin, if one of them sends a
    retrieve request. -/
def sent_retrieve (kms : KmsClient) (key_uri : String) (replies : List Reply) : Option CbState :=
  match kms.key_cache.lookup key_uri with
  | some _ => none
  | none =>
    match (get_key_checks crates kms).take reply replies with
    | some ((.ok _, kms'), rest) => if rest.foldl sent_after false = true then some kms'.cb_state else none
    | _ => none

def Ledger.record (self : Ledger) (kms : KmsClient) (failed : Bool) : Option CbState → Ledger
  | none => { self with kms := kms, last := none }
  | some before => { kms := kms, streak := if failed then self.streak + 1 else 0, last := some ⟨before, failed⟩ }

def Ledger.step (self : Ledger) : Invocation → Option Ledger
  | .get_key key_uri replies =>
    match (get_key crates key_uri self.kms).take reply replies with
    | some ((.ok _, kms), []) => some (self.record kms false (sent_retrieve crates self.kms key_uri replies))
    | some ((.error _, kms), []) => some (self.record kms true (sent_retrieve crates self.kms key_uri replies))
    | _ => none
  | .initialize_client replies =>
    match (initialize_client crates self.kms).take reply replies with
    | some ((_, kms), []) => some { self with kms := kms, last := none }
    | _ => none

/-- Every sequence of calls on a new client, with every behaviour of the servers. -/
def ledger (kms : KmsClient) : Machine Ledger Invocation where
  init := { kms := kms }
  step := Ledger.step crates

/-- After a call that sent a retrieve request, the breaker has counted the consecutive
    failures of such calls and is open exactly from the threshold on, and it is open
    after a failed probe. -/
def Counted (s : Ledger) : Prop :=
  ∀ fetch, s.last = some fetch →
    s.kms.cb_failures = s.streak ∧ (s.kms.cb_state = .open ↔ CB_FAILURE_THRESHOLD ≤ s.streak) ∧
    (fetch.before = .half_open → fetch.failed = true → s.kms.cb_state = .open)

/-- The attempts of a `get_key` call find everything they need but a willing KMS. -/
def RetrievesAnswerable (s : Ledger) : Invocation → Prop
  | .get_key key_uri replies => ∀ kms rest,
    (get_key_checks crates s.kms).take reply replies = some ((.ok (), kms), rest) →
      Answerable crates key_uri kms rest
  | .initialize_client _ => True

variable {crates}

/-- The breaker's counter is the number of consecutive failures, and it is closed
    exactly below the threshold. -/
structure Tallied (kms : KmsClient) (streak : Nat) : Prop where
  cb_failures : kms.cb_failures = streak
  closed : kms.cb_state = .closed ↔ streak < CB_FAILURE_THRESHOLD

theorem Tallied.checked {kms kms' : KmsClient} {streak : Nat} {outcome : Except WebexError Unit}
    (htallied : Tallied kms streak) (hchecked : Checked kms outcome kms') : Tallied kms' streak := by
  refine ⟨hchecked.cb_failures.trans htallied.cb_failures, ?_⟩
  rw [← htallied.closed]
  obtain hsame | ⟨hopen, hhalf⟩ := hchecked.cb_state
  · rw [hsame]
  · simp [hopen, hhalf]

theorem Tallied.unmoved {kms kms' : KmsClient} {streak : Nat} (htallied : Tallied kms streak)
    (hsame : SameBreaker kms kms') : Tallied kms' streak :=
  ⟨hsame.cb_failures.trans htallied.cb_failures, hsame.cb_state ▸ htallied.closed⟩

theorem tallied_record_success {kms : KmsClient} (hpassed : kms.cb_state ≠ .open) (key_uri : String) (key : Bytes) :
    Tallied (record_success key_uri key kms) 0 := by
  refine ⟨rfl, ?_⟩
  simp only [kms_client.record_success, CB_FAILURE_THRESHOLD, Nat.zero_lt_succ, iff_true]
  cases hstate : kms.cb_state with
  | closed => simp
  | «open» => exact absurd hstate hpassed
  | half_open => simp

theorem Tallied.record_failure {kms : KmsClient} {streak : Nat} (htallied : Tallied kms streak) (instant : Nat) :
    Tallied (record_failure instant kms) (streak + 1) := by
  refine ⟨congrArg (· + 1) htallied.cb_failures, ?_⟩
  simp only [kms_client.record_failure, htallied.cb_failures]
  split
  · rename_i hreached
    simp [hreached]
  · rename_i hreached
    have hclosed : streak < CB_FAILURE_THRESHOLD := by omega
    rw [htallied.closed]
    omega

/-- A recorded outcome leaves the breaker open or closed, never half-open. -/
theorem record_success_not_open {kms : KmsClient} (hpassed : kms.cb_state ≠ .open) (key_uri : String) (key : Bytes) :
    (record_success key_uri key kms).cb_state ≠ .open := by
  simp only [record_success]
  split
  · simp
  · exact hpassed

theorem record_failure_open_iff {kms : KmsClient} {streak : Nat} (htallied : Tallied kms streak)
    (hpassed : kms.cb_state ≠ .open) (instant : Nat) :
    (record_failure instant kms).cb_state = .open ↔ CB_FAILURE_THRESHOLD ≤ streak + 1 := by
  simp only [record_failure, htallied.cb_failures]
  split
  · rename_i hreached
    simp [hreached]
  · rename_i hreached
    simp [hreached, hpassed]

/-- A `get_key` on a URI that is not cached fails in its checks, or goes on to its
    attempts. -/
theorem get_key_take {kms kms' : KmsClient} {key_uri : String} {replies rest : List Reply}
    {outcome : Except WebexError Bytes} (huncached : kms.key_cache.lookup key_uri = none)
    (htake : (get_key crates key_uri kms).take reply replies = some ((outcome, kms'), rest)) :
    (∃ e, (get_key_checks crates kms).take reply replies = some ((.error e, kms'), rest) ∧ outcome = .error e) ∨
    ∃ kms₁ rest₁, (get_key_checks crates kms).take reply replies = some ((.ok (), kms₁), rest₁) ∧
      (get_key_attempts crates key_uri MAX_KMS_ATTEMPTS 1 kms₁).take reply rest₁ = some ((outcome, kms'), rest) := by
  rw [get_key_of_uncached huncached] at htake
  change ((get_key_checks crates kms).bind _).take reply replies = _ at htake
  rw [Program.take_bind, Option.bind_eq_some_iff] at htake
  obtain ⟨⟨⟨checked, kms₁⟩, rest₁⟩, hchecks, htake⟩ := htake
  cases checked with
  | error e =>
    simp only [Program.take, Option.some.injEq, Prod.mk.injEq] at htake
    obtain ⟨⟨rfl, rfl⟩, rfl⟩ := htake
    exact .inl ⟨e, hchecks, rfl⟩
  | ok _ => exact .inr ⟨kms₁, rest₁, hchecks, htake⟩

theorem get_key_checks_take {kms kms' : KmsClient} {outcome : Except WebexError Unit} {replies rest : List Reply}
    (htake : (get_key_checks crates kms).take reply replies = some ((outcome, kms'), rest)) :
    Checked kms outcome kms' := by
  have hobeys : (get_key_checks crates).Obeys (scripted replies) kms false _ :=
    get_key_checks_obeys (fun _ _ => trivial) kms false
  obtain ⟨used, -, hchecked⟩ := Program.Obeys.take hobeys (List.Subset.refl _) htake
  exact hchecked

theorem get_key_attempts_take {kms kms' : KmsClient} {key_uri : String} {outcome : Except WebexError Bytes}
    {replies : List Reply} (hanswerable : Answerable crates key_uri kms replies)
    (htake : (get_key_attempts crates key_uri MAX_KMS_ATTEMPTS 1 kms).take reply replies =
      some ((outcome, kms'), [])) : Attempted key_uri kms outcome kms' (replies.foldl sent_after false) := by
  have hobeys := get_key_attempts_attempted hanswerable MAX_KMS_ATTEMPTS 1 false rfl (by decide) nofun
  obtain ⟨used, hused, hattempted⟩ := Program.Obeys.take hobeys (List.Subset.refl _) htake
  rw [hused, List.append_nil]
  exact hattempted

/-- What the ledger holds after a `get_key`: the tally, and the count of a call that
    sent a request. -/
theorem record_counted {s : Ledger} {key_uri : String} {replies : List Reply} {outcome : Except WebexError Bytes}
    {kms : KmsClient} {failed : Bool} (htallied : Tallied s.kms s.streak)
    (hanswerable : RetrievesAnswerable crates s (.get_key key_uri replies))
    (htake : (get_key crates key_uri s.kms).take reply replies = some ((outcome, kms), []))
    (hfailed : failed = false ↔ ∃ key, outcome = .ok key) :
    let next := s.record kms failed (sent_retrieve crates s.kms key_uri replies)
    Tallied next.kms next.streak ∧ Counted next := by
  unfold sent_retrieve
  cases hcached : s.kms.key_cache.lookup key_uri with
  | some cached =>
    have hkms : kms = s.kms := by
      rw [get_key_of_cached hcached] at htake
      simp only [Program.take, Option.some.injEq, Prod.mk.injEq] at htake
      exact htake.1.2.symm
    exact ⟨hkms ▸ htallied, fun _ heq => by cases heq⟩
  | none =>
    obtain ⟨e, hchecks, rfl⟩ | ⟨kms₁, rest, hchecks, hattempts⟩ := get_key_take hcached htake
    · simp only [hchecks, Ledger.record]
      exact ⟨htallied.checked (get_key_checks_take hchecks), fun _ heq => by cases heq⟩
    · have hchecked := get_key_checks_take hchecks
      have htallied₁ := htallied.checked hchecked
      have hpassed := hchecked.passed rfl
      have hattempted := get_key_attempts_take (hanswerable kms₁ rest hchecks) hattempts
      simp only [hchecks]
      generalize rest.foldl sent_after false = sent at hattempted
      cases hattempted with
      | fetched key =>
        obtain rfl : failed = false := hfailed.mpr ⟨key, rfl⟩
        refine ⟨tallied_record_success hpassed key_uri key, ?_⟩
        rintro fetch ⟨⟩
        refine ⟨rfl, ?_, by simp⟩
        simp [Ledger.record, record_success_not_open hpassed, CB_FAILURE_THRESHOLD]
      | failed e instant =>
        obtain rfl : failed = true := by simpa using hfailed
        refine ⟨htallied₁.record_failure instant, ?_⟩
        rintro fetch ⟨⟩
        have hopen := record_failure_open_iff htallied₁ hpassed instant
        refine ⟨(htallied₁.record_failure instant).cb_failures, hopen, ?_⟩
        intro hhalf _
        have hreached : ¬ s.streak < CB_FAILURE_THRESHOLD := by
          rw [← htallied₁.closed]
          simp_all
        exact hopen.mpr (by omega)
      | unsent e => exact ⟨htallied₁, fun _ heq => by cases heq⟩

theorem initialize_client_take {kms kms' : KmsClient} {outcome : Except WebexError Unit} {replies rest : List Reply}
    (htake : (initialize_client crates kms).take reply replies = some ((outcome, kms'), rest)) :
    SameBreaker kms kms' := by
  have hobeys : (initialize_client crates).Obeys (scripted replies) kms false _ :=
    initialize_client_keeps (fun _ _ => trivial) (fun _ _ => SameStanding.unmoved) kms false ⟨rfl, rfl, rfl⟩
  obtain ⟨used, -, hunmoved⟩ := Program.Obeys.take hobeys (List.Subset.refl _) htake
  exact hunmoved

theorem Ledger.step_counted {s next : Ledger} {call : Invocation} (htallied : Tallied s.kms s.streak)
    (hanswerable : RetrievesAnswerable crates s call) (hstep : s.step crates call = some next) :
    Tallied next.kms next.streak ∧ Counted next := by
  cases call with
  | get_key key_uri replies =>
    simp only [Ledger.step] at hstep
    split at hstep
    · rename_i key kms htake
      cases hstep
      exact record_counted htallied hanswerable htake (by simp)
    · rename_i e kms htake
      cases hstep
      exact record_counted htallied hanswerable htake (by simp)
    · cases hstep
  | initialize_client replies =>
    simp only [Ledger.step] at hstep
    split at hstep
    · rename_i outcome kms htake
      cases hstep
      exact ⟨htallied.unmoved (initialize_client_take htake), fun _ heq => nomatch heq⟩
    · cases hstep

/-- The invariant of every sequence of calls. -/
def LedgerCounted (s : Ledger) : Prop := Tallied s.kms s.streak ∧ Counted s

/-- As long as every registration succeeds, every request can be encrypted and every
    response that arrives yields a key, the breaker counts every failed fetch. -/
theorem breaker_counts_of_answerable (crates : Crates) (token device_url user_id encryption_service_url : String)
    {s : Ledger} (hreach : (ledger crates (new token device_url user_id encryption_service_url)).Reachable
      (RetrievesAnswerable crates) s) : Counted s := by
  have hcounted : LedgerCounted s := by
    apply hreach.invariant
    · exact ⟨⟨rfl, by simp [ledger, new, CB_FAILURE_THRESHOLD]⟩, fun _ heq => nomatch heq⟩
    · intro s call next _ hcounted hanswerable hstep
      exact Ledger.step_counted hcounted.1 hanswerable hstep
  exact hcounted.2

end ledger

section sample

/-- The answers a handshake gets that ends at `now`. -/
def handshake_replies (now : Nat) : List Reply :=
  [.fetched (ok_response 200 (ascii details_text)), .drawn (List.replicate 31 0 ++ [1]), .uuid "r0", .drawn [],
    .registered (some 0), .fetched (ok_response 202 []), .waited (.received handshake_jwe), .instant now]

/-- A fetch at `now` that is answered with `response`. -/
def answered_replies (now : Nat) (response : String) : List Reply :=
  [.instant now, .uuid "r1", .drawn [], .registered (some 1), .fetched (ok_response 202 []),
    .waited (.received response)]

/-- A fetch at `now` whose two POSTs are refused. -/
def refused_replies (now : Nat) : List Reply :=
  [.instant now, .uuid "r1", .drawn [], .registered (some 1), .fetched (.error "connection refused"), .removed, .elapsed,
    .uuid "r2", .drawn [], .registered (some 2), .fetched (.error "connection refused"), .removed,
    .instant (now + 1000)]

def refused_calls : List Invocation :=
  [.initialize_client (handshake_replies 0), .get_key "kms://ciscospark.com/keys/a" (refused_replies 1000),
    .get_key "kms://ciscospark.com/keys/a" (refused_replies 3000),
    .get_key "kms://ciscospark.com/keys/a" (refused_replies 5000)]

theorem refused_answerable (s : Ledger) (key_uri : String) (now : Nat) :
    RetrievesAnswerable sample_crates s (.get_key key_uri (refused_replies now)) := by
  intro kms rest htake
  have hsubset := (Program.take_suffix htake).subset
  refine ⟨?_, ?_, ?_⟩
  · intro hmem
    simpa [refused_replies] using hsubset hmem
  · intro ephemeral_key request_id seed _ _ _
    exact ⟨_, rfl⟩
  · intro ephemeral_key response _ hmem
    simpa [refused_replies] using hsubset hmem

/-- Three refused fetches in a row are counted, and the breaker opens. -/
theorem refused_fetches_counted :
    ∃ s, (ledger sample_crates sample_client).run { kms := sample_client } refused_calls = some s ∧
      s.kms.cb_failures = 3 ∧ s.kms.cb_state = .open ∧ Counted s := by
  have hobserve : (((ledger sample_crates sample_client).run { kms := sample_client } refused_calls).map
      fun s => (s.kms.cb_failures, s.kms.cb_state)) = some (3, .open) := by
    decide +kernel
  simp only [Option.map_eq_some_iff, Prod.mk.injEq] at hobserve
  obtain ⟨s, hrun, hfailures, hstate⟩ := hobserve
  refine ⟨s, hrun, hfailures, hstate, ?_⟩
  apply breaker_counts_of_answerable sample_crates "token" "https://wdm-a.wbx2.com/wdm/api/v1/devices/dev-123" "user-1"
    "https://encryption-a.wbx2.com"
  refine Machine.Reachable.run .init refused_calls ⟨trivial, ?_⟩ hrun
  exact fun _ _ => ⟨refused_answerable _ _ _, fun _ _ => ⟨refused_answerable _ _ _, fun _ _ =>
    ⟨refused_answerable _ _ _, fun _ _ => trivial⟩⟩⟩

def garbled_calls : List Invocation :=
  [.initialize_client (handshake_replies 0),
    .get_key "kms://ciscospark.com/keys/a" (answered_replies 1000 "header.key.iv.garbled.tag"),
    .get_key "kms://ciscospark.com/keys/a" (answered_replies 2000 "header.key.iv.garbled.tag"),
    .get_key "kms://ciscospark.com/keys/a" (answered_replies 3000 "header.key.iv.garbled.tag")]

/-- Three responses in a row that cannot be decrypted fail three calls, and the breaker
    has counted none of them. -/
theorem garbled_responses_uncounted :
    ∃ s, (ledger sample_crates sample_client).Reachable Machine.Always s ∧ s.streak = 3 ∧ s.kms.cb_failures = 0 ∧
      s.kms.cb_state = .closed ∧ ¬ Counted s := by
  have hobserve : (((ledger sample_crates sample_client).run { kms := sample_client } garbled_calls).map
      fun s => (s.streak, s.kms.cb_failures, s.kms.cb_state, s.last)) =
        some (3, 0, .closed, some ⟨.closed, true⟩) := by
    decide
  simp only [Option.map_eq_some_iff, Prod.mk.injEq] at hobserve
  obtain ⟨s, hrun, hstreak, hfailures, hstate, hlast⟩ := hobserve
  refine ⟨s, Machine.reachable_of_run hrun, hstreak, hfailures, hstate, ?_⟩
  intro hcounted
  have hcount := (hcounted _ hlast).1
  omega

end sample

end webex.rust.kms_client

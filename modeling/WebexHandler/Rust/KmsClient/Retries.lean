import Mathlib.Data.List.Chain
import Mathlib.Data.List.Infix
import WebexHandler.Interaction.History
import WebexHandler.Rust.KmsClient.Mailbox
import WebexHandler.Rust.KmsClient.Breaker

open interaction json

namespace webex.rust.kms_client

/-- What a call asks of its environment, with the answers. -/
abbrev History : Type := List (interaction.Exchange Res)

/-- The text of a UUID: hexadecimal digits and hyphens. -/
def IsUuid (id : String) : Prop := ∀ c ∈ id.toList, c ∈ "0123456789abcdef-".toList

/-- An environment in which `Uuid::new_v4` makes UUIDs. -/
structure Environment (Env : Type) where
  answer : (op : Op) → Env → Res op × Env
  uuids : ∀ env, IsUuid (answer .new_v4 env).1

section specification

/-- The answer to a POST. -/
def post_answer : interaction.Exchange Res → Option (Except String FetchResponse)
  | ⟨.fetch req, answer⟩ => if req.method = "POST" then some answer else none
  | _ => none

/-- The answers to the POSTs of a call. -/
def posts (history : History) : List (Except String FetchResponse) := history.filterMap post_answer

/-- A transport error, or a refusal with a 5xx status. -/
def TransientAnswer : Except String FetchResponse → Prop
  | .error _ => True
  | .ok resp => resp.ok = false ∧ 500 ≤ resp.status ∧ resp.status < 600

/-- A refusal with any other status. -/
def Rejection : Except String FetchResponse → Prop
  | .error _ => False
  | .ok resp => resp.ok = false ∧ ¬(500 ≤ resp.status ∧ resp.status < 600)

/-- A wait for a response that runs out of time. -/
def is_timeout : interaction.Exchange Res → Bool
  | ⟨.wait_response _ _, Waited.timed_out⟩ => true
  | _ => false

def TimedOut (history : History) : Prop := ∃ exchange ∈ history, is_timeout exchange = true

/-- At most two requests are sent, and the second only after the first failed transiently. -/
structure RetryPolicy (history : History) : Prop where
  twice : (posts history).length ≤ 2
  transient : ∀ earlier post later, history = earlier ++ post :: later → (post_answer post).isSome = true →
    ∀ first ∈ (posts earlier).head?, TransientAnswer first ∨ TimedOut earlier

/-- A registration that the full list of pending requests refuses. -/
def is_full : interaction.Exchange Res → Bool
  | ⟨.register_pending _, rx⟩ => Option.isNone rx
  | _ => false

/-- The ids and seeds that requests are wrapped with. -/
def wraps : History → List (String × Bytes)
  | ⟨.new_v4, id⟩ :: ⟨.random 12, seed⟩ :: rest => (id, seed) :: wraps rest
  | _ :: rest => wraps rest
  | [] => []

variable (crates : Crates) (key_uri : String) (kms : KmsClient)

/-- The wrapped retrieve request of an attempt. -/
def wrap (key : Bytes) (id : String) (seed : Bytes) : Except WebexError String :=
  crates.encrypt_dir_a256gcm (crates.to_string (retrieve_body kms key_uri id)) key kms.ephemeral_key_kid seed

/-- One of the attempts ends before its POST: its request cannot be wrapped, or the list
    of pending requests is full. -/
def Blocked (history : History) : Prop :=
  (∃ key id seed e, kms.ephemeral_key = some key ∧ (id, seed) ∈ wraps history ∧ wrap crates key_uri kms key id seed = .error e) ∨
    ∃ exchange ∈ history, is_full exchange = true

/-- The first POST is not refused with a status outside 5xx, unless no second one can
    be sent. -/
def NotRejected (history : History) : Prop :=
  ∀ first ∈ (posts history).head?, Rejection first → Blocked crates key_uri kms history

end specification

section history

variable {crates : Crates} {key_uri : String} {kms : KmsClient} {log : History}

def timed_out_error (id : String) : WebexError :=
  .kms ("KMS request " ++ id ++ " timed out after " ++ toString (KMS_RESPONSE_TIMEOUT / 1000) ++ "s")

def refused_error (crates : Crates) (resp : FetchResponse) : WebexError :=
  .kms ("KMS HTTP request failed: " ++ toString resp.status ++ " " ++ crates.from_utf8_lossy resp.body)

/-- The exchanges of one request to the KMS, by its outcome. -/
inductive Sent (crates : Crates) (kms : KmsClient) (id wrapped : String) : Except WebexError String → History → Prop
  | full : Sent crates kms id wrapped
    (.error (.kms ("Too many pending KMS requests (max: " ++ toString MAX_PENDING_REQUESTS ++ ")")))
    [⟨.register_pending id, (none : Option Nat)⟩]
  | failed (rx : Nat) (e : String) : Sent crates kms id wrapped (.error (.kms ("KMS HTTP request failed: " ++ e)))
    [⟨.register_pending id, some rx⟩, ⟨.fetch (message_request crates kms wrapped), .error e⟩, ⟨.remove_pending id, ()⟩]
  | refused (rx : Nat) (resp : FetchResponse) (hok : resp.ok = false) : Sent crates kms id wrapped (.error (refused_error crates resp))
    [⟨.register_pending id, some rx⟩, ⟨.fetch (message_request crates kms wrapped), .ok resp⟩, ⟨.remove_pending id, ()⟩]
  | received (rx : Nat) (resp : FetchResponse) (hok : resp.ok = true) (response : String) : Sent crates kms id wrapped (.ok response)
    [⟨.register_pending id, some rx⟩, ⟨.fetch (message_request crates kms wrapped), .ok resp⟩,
      ⟨.wait_response rx KMS_RESPONSE_TIMEOUT, Waited.received response⟩]
  | closed (rx : Nat) (resp : FetchResponse) (hok : resp.ok = true) : Sent crates kms id wrapped
    (.error (.kms ("KMS request " ++ id ++ " channel closed")))
    [⟨.register_pending id, some rx⟩, ⟨.fetch (message_request crates kms wrapped), .ok resp⟩,
      ⟨.wait_response rx KMS_RESPONSE_TIMEOUT, Waited.closed⟩]
  | timed_out (rx : Nat) (resp : FetchResponse) (hok : resp.ok = true) : Sent crates kms id wrapped (.error (timed_out_error id))
    [⟨.register_pending id, some rx⟩, ⟨.fetch (message_request crates kms wrapped), .ok resp⟩,
      ⟨.wait_response rx KMS_RESPONSE_TIMEOUT, Waited.timed_out⟩, ⟨.remove_pending id, ()⟩]

theorem send_kms_request_records (id wrapped : String) :
    (send_kms_request crates id wrapped).Obeys recording kms log fun r kms' log' =>
      ∃ sent, Sent crates kms id wrapped r sent ∧ kms' = kms ∧ log' = log ++ sent := by
  unfold send_kms_request
  rw [Method.obeys_bind, Method.obeys_get]
  dsimp only
  rw [Method.obeys_bind, obeys_register_pending]
  refine ⟨trivial, ?_⟩
  rintro rx _ rfl
  cases rx with
  | none => exact ⟨_, .full, rfl, rfl⟩
  | some rx =>
    dsimp only
    rw [Method.obeys_bind, obeys_fetch]
    refine ⟨trivial, ?_⟩
    rintro answer _ rfl
    cases answer with
    | error e =>
      dsimp only
      rw [Method.obeys_bind, obeys_remove_pending]
      refine ⟨trivial, ?_⟩
      rintro (⟨⟩ : Unit) _ rfl
      exact ⟨_, .failed rx e, rfl, by simp⟩
    | ok resp =>
      dsimp only
      cases hok : resp.ok with
      | false =>
        rw [if_pos rfl, Method.obeys_bind, obeys_remove_pending]
        refine ⟨trivial, ?_⟩
        rintro (⟨⟩ : Unit) _ rfl
        exact ⟨_, .refused rx resp hok, rfl, by simp⟩
      | true =>
        rw [if_neg (by decide), Method.obeys_bind, obeys_wait_response]
        refine ⟨trivial, ?_⟩
        rintro waited _ rfl
        cases waited with
        | received response => exact ⟨_, .received rx resp hok response, rfl, by simp⟩
        | closed => exact ⟨_, .closed rx resp hok, rfl, by simp⟩
        | timed_out =>
          dsimp only
          rw [Method.obeys_bind, obeys_remove_pending]
          refine ⟨trivial, ?_⟩
          rintro (⟨⟩ : Unit) _ rfl
          exact ⟨_, .timed_out rx resp hok, rfl, by simp⟩

/-- Whether an error is followed by another attempt. -/
def retried (attempt : Nat) (e : WebexError) : Prop := attempt < MAX_KMS_ATTEMPTS ∧ is_retryable_kms_error e = true

/-- The exchanges of the attempts from a given one on. -/
inductive Attempts (crates : Crates) (key_uri : String) (kms : KmsClient) : Nat → History → Prop
  | idle (attempt : Nat) (hidle : kms.initialized = false ∨ kms.ephemeral_key = none ∨ MAX_KMS_ATTEMPTS < attempt) :
    Attempts crates key_uri kms attempt []
  | unwrapped (attempt : Nat) (key : Bytes) (hinit : kms.initialized = true) (hkey : kms.ephemeral_key = some key) (id : String) (seed : Bytes) (e : WebexError)
    (hwrap : wrap crates key_uri kms key id seed = .error e) :
    Attempts crates key_uri kms attempt [⟨.new_v4, id⟩, ⟨.random 12, seed⟩]
  | last (attempt : Nat) (key : Bytes) (hinit : kms.initialized = true) (hkey : kms.ephemeral_key = some key) (id : String) (seed : Bytes) (wrapped : String)
    (hwrap : wrap crates key_uri kms key id seed = .ok wrapped) (r : Except WebexError String) (sent tail : History)
    (hsent : Sent crates kms id wrapped r sent) (hlast : ∀ e, r = .error e → ¬retried attempt e)
    (htail : tail = [] ∨ ∃ instant : Nat, tail = [⟨.now, instant⟩]) :
    Attempts crates key_uri kms attempt (⟨.new_v4, id⟩ :: ⟨.random 12, seed⟩ :: (sent ++ tail))
  | again (attempt : Nat) (key : Bytes) (hinit : kms.initialized = true) (hkey : kms.ephemeral_key = some key) (id : String) (seed : Bytes) (wrapped : String)
    (hwrap : wrap crates key_uri kms key id seed = .ok wrapped) (e : WebexError) (sent rest : History)
    (hsent : Sent crates kms id wrapped (.error e) sent) (hretried : retried attempt e)
    (hrest : Attempts crates key_uri kms (attempt + 1) rest) :
    Attempts crates key_uri kms attempt (⟨.new_v4, id⟩ :: ⟨.random 12, seed⟩ :: (sent ++ ⟨.sleep 1000, ()⟩ :: rest))

theorem get_key_attempts_records {left attempt : Nat} (hleft : left + attempt = MAX_KMS_ATTEMPTS + 1) :
    (get_key_attempts crates key_uri left attempt).Obeys recording kms log fun _ _ log' =>
      ∃ rest, Attempts crates key_uri kms attempt rest ∧ log' = log ++ rest := by
  induction left generalizing attempt log with
  | zero => exact ⟨[], .idle attempt (.inr (.inr (by omega))), (List.append_nil log).symm⟩
  | succ left ih =>
    unfold get_key_attempts
    rw [Method.obeys_bind, Method.obeys_get]
    dsimp only
    rw [Method.obeys_bind, Method.obeys_reject]
    refine ⟨fun hinit => ⟨[], .idle attempt (.inl (by simpa using hinit)), (List.append_nil log).symm⟩, fun hinit => ?_⟩
    dsimp only
    rw [Method.obeys_bind, Method.obeys_ofExcept]
    cases hkey : kms.ephemeral_key with
    | none => exact ⟨[], .idle attempt (.inr (.inl hkey)), (List.append_nil log).symm⟩
    | some key =>
      have hinit : kms.initialized = true := by simpa using hinit
      dsimp only
      rw [Method.obeys_bind, obeys_new_v4]
      refine ⟨trivial, ?_⟩
      rintro id _ rfl
      dsimp only
      rw [Method.obeys_bind, obeys_random]
      refine ⟨trivial, ?_⟩
      rintro seed _ rfl
      dsimp only
      rw [Method.obeys_bind, Method.obeys_ofExcept]
      cases hwrap : wrap crates key_uri kms key id seed with
      | error e =>
        unfold wrap at hwrap
        rw [hwrap]
        exact ⟨_, .unwrapped attempt key hinit hkey id seed e hwrap, by simp⟩
      | ok wrapped =>
        have hwrapped : wrap crates key_uri kms key id seed = .ok wrapped := hwrap
        unfold wrap at hwrap
        rw [hwrap]
        dsimp only
        rw [Method.obeys_bind, Method.obeys_attempt]
        refine (send_kms_request_records id wrapped).mono ?_
        rintro r _ _ ⟨sent, hsent, rfl, rfl⟩
        cases r with
        | ok response =>
          have hrecorded := Attempts.last attempt key hinit hkey id seed wrapped hwrapped _ sent [] hsent (by simp) (.inl rfl)
          dsimp only
          rw [Method.obeys_bind, Method.obeys_ofExcept]
          cases open_key_response crates response key with
          | error e => exact ⟨_, hrecorded, by simp⟩
          | ok content_key => exact ⟨_, hrecorded, by simp⟩
        | error e =>
          dsimp only
          by_cases hretried : attempt < MAX_KMS_ATTEMPTS ∧ is_retryable_kms_error e = true
          · rw [if_pos hretried, Method.obeys_bind, obeys_sleep]
            refine ⟨trivial, ?_⟩
            rintro (⟨⟩ : Unit) _ rfl
            refine (ih (by omega)).mono ?_
            rintro _ _ _ ⟨rest, hrest, rfl⟩
            exact ⟨_, .again attempt key hinit hkey id seed wrapped hwrapped e sent rest hsent hretried hrest, by simp⟩
          · rw [if_neg hretried, Method.obeys_bind, obeys_now]
            refine ⟨trivial, ?_⟩
            rintro instant _ rfl
            have hlast : ∀ e', Except.error e = (Except.error e' : Except WebexError String) → ¬retried attempt e' := by
              intro e' heq
              cases heq
              exact hretried
            exact ⟨_, .last attempt key hinit hkey id seed wrapped hwrapped _ sent _ hsent hlast (.inr ⟨instant, rfl⟩), by simp⟩

end history

section texts

theorem contains_iff {text part : String} : contains text part = true ↔ part.toList <:+: text.toList := by
  simp only [contains, List.any_eq_true, List.mem_tails, List.isPrefixOf_iff_prefix, List.infix_iff_prefix_suffix]
  constructor
  · rintro ⟨tail, htail, hpart⟩
    exact ⟨tail, hpart, htail⟩
  · rintro ⟨tail, hpart, htail⟩
    exact ⟨tail, htail, hpart⟩

theorem to_lowercase_append (text more : List Char) : to_lowercase (text ++ more) = to_lowercase text ++ to_lowercase more :=
  List.flatMap_append

/-- The text of an error as it is searched. -/
theorem is_retryable_iff {message : String} : is_retryable_kms_error (.kms message) = true ↔
    "timed out".toList <:+: to_lowercase "KMS_ERROR: ".toList ++ to_lowercase message.toList ∨
      "http request failed".toList <:+: to_lowercase "KMS_ERROR: ".toList ++ to_lowercase message.toList := by
  have htext : (String.ofList (to_lowercase ("KMS_ERROR: " ++ message).toList)).toList =
      to_lowercase "KMS_ERROR: ".toList ++ to_lowercase message.toList :=
    String.toList_ofList.trans (by rw [String.toList_append, to_lowercase_append])
  rw [← htext, ← contains_iff, ← contains_iff, ← Bool.or_eq_true]
  rfl

theorem failed_retryable (text : String) : is_retryable_kms_error (.kms ("KMS HTTP request failed: " ++ text)) = true := by
  rw [is_retryable_iff]
  right
  have hfound : "http request failed".toList <:+: to_lowercase "KMS HTTP request failed: ".toList := by
    decide
  rw [String.toList_append, to_lowercase_append]
  exact List.infix_append_of_infix_right (List.infix_append_of_infix_left hfound)

theorem refused_retryable (crates : Crates) (resp : FetchResponse) : is_retryable_kms_error (refused_error crates resp) = true := by
  have htext := failed_retryable (toString resp.status ++ (" " ++ crates.from_utf8_lossy resp.body))
  simp only [refused_error, String.append_assoc] at htext ⊢
  exact htext

theorem timed_out_retryable (id : String) : is_retryable_kms_error (timed_out_error id) = true := by
  rw [timed_out_error, is_retryable_iff]
  left
  have hfound : "timed out".toList <:+: to_lowercase " timed out after ".toList := by
    decide
  rw [String.toList_append, String.toList_append, String.toList_append, String.toList_append, to_lowercase_append,
    to_lowercase_append, to_lowercase_append, to_lowercase_append]
  apply List.infix_append_of_infix_right
  apply List.infix_append_of_infix_left
  apply List.infix_append_of_infix_left
  exact List.infix_append_of_infix_right hfound

theorem full_not_retryable : is_retryable_kms_error
    (.kms ("Too many pending KMS requests (max: " ++ toString MAX_PENDING_REQUESTS ++ ")")) = false := by
  decide

/-- Two letters that nowhere follow one another. -/
def Apart (x y : Char) (text : List Char) : Prop := text.IsChain fun a b => ¬(a = x ∧ b = y)

theorem Apart.not_infix {x y : Char} {part text : List Char} (hapart : Apart x y text) (hpart : [x, y] <+: part) :
    ¬part <:+: text := by
  intro hinfix
  have hpair := hapart.infix (hpart.isInfix.trans hinfix)
  rw [List.isChain_pair] at hpair
  exact hpair ⟨rfl, rfl⟩

theorem apart_of_not_mem {x y : Char} {text : List Char} (hnot : x ∉ text) : Apart x y text := by
  apply List.Pairwise.isChain
  apply List.pairwise_of_forall_mem_list
  intro a ha b _ hpair
  exact hnot (hpair.1 ▸ ha)

theorem to_lowercase_uuid {id : String} (huuid : IsUuid id) : to_lowercase id.toList = id.toList := by
  have hall : "0123456789abcdef-".toList.all (fun c => char_to_lowercase c == [c]) = true := by decide
  have hkept : ∀ c ∈ "0123456789abcdef-".toList, char_to_lowercase c = [c] := by
    intro c hc
    exact beq_iff_eq.mp (List.all_eq_true.mp hall c hc)
  unfold to_lowercase
  rw [List.flatMap_congr fun c hc => hkept c (huuid c hc)]
  simp

theorem Apart.append {x y : Char} {text more : List Char} (htext : Apart x y text) (hmore : Apart x y more)
    (hlast : ∀ c ∈ text.getLast?, c ≠ x) : Apart x y (text ++ more) :=
  List.isChain_append.mpr ⟨htext, hmore, fun c hc _ _ hpair => hlast c hc hpair.1⟩

/-- The error of a closed channel, around the id of the request. -/
theorem closed_apart {id : String} (huuid : IsUuid id) {x y : Char} (hid : x ∉ "0123456789abcdef-".toList)
    (hbefore : Apart x y (to_lowercase "KMS_ERROR: ".toList ++ to_lowercase "KMS request ".toList))
    (hspace : x ≠ ' ') (hafter : Apart x y (to_lowercase " channel closed".toList)) :
    Apart x y (to_lowercase "KMS_ERROR: ".toList ++ to_lowercase ("KMS request " ++ id ++ " channel closed").toList) := by
  rw [String.toList_append, String.toList_append, to_lowercase_append, to_lowercase_append, to_lowercase_uuid huuid,
    List.append_assoc, ← List.append_assoc]
  have hlast : (to_lowercase "KMS_ERROR: ".toList ++ to_lowercase "KMS request ".toList).getLast? = some ' ' := by
    decide
  refine hbefore.append ((apart_of_not_mem fun hx => hid (huuid x hx)).append hafter ?_) ?_
  · intro c hc heq
    exact hid (huuid x (heq ▸ List.mem_of_getLast? hc))
  · intro c hc heq
    rw [hlast, Option.mem_some_iff] at hc
    exact hspace (heq.symm.trans hc.symm)

theorem closed_not_retryable {id : String} (huuid : IsUuid id) :
    is_retryable_kms_error (.kms ("KMS request " ++ id ++ " channel closed")) = false := by
  rw [← Bool.not_eq_true, is_retryable_iff, not_or]
  constructor
  · have hapart : Apart 't' 'i' _ := closed_apart huuid (by decide) (by unfold Apart; decide)
      (by decide) (by unfold Apart; decide)
    exact hapart.not_infix (by decide)
  · have hapart : Apart 'h' 't' _ := closed_apart huuid (by decide) (by unfold Apart; decide)
      (by decide) (by unfold Apart; decide)
    exact hapart.not_infix (by decide)

end texts

section policy

variable {crates : Crates} {key_uri : String} {kms : KmsClient} {id wrapped : String}

/-- The later exchanges of an attempt, and those between two attempts. -/
def Quiet (exchange : interaction.Exchange Res) : Prop :=
  match exchange.1 with
  | .fetch _ | .new_v4 | .register_pending _ => False
  | _ => True

theorem posts_append (history more : History) : posts (history ++ more) = posts history ++ posts more := List.filterMap_append

theorem posts_quiet {history : History} (hquiet : ∀ exchange ∈ history, Quiet exchange) : posts history = [] := by
  rw [posts, List.filterMap_eq_nil_iff]
  rintro ⟨op, r⟩ hmem
  cases op with
  | fetch req => exact (hquiet _ hmem).elim
  | _ => rfl

theorem wraps_append {history : History} (hnone : ∀ exchange ∈ history, exchange.1 ≠ .new_v4) (more : History) :
    wraps (history ++ more) = wraps more := by
  induction history with
  | nil => rfl
  | cons exchange rest ih =>
    obtain ⟨op, r⟩ := exchange
    have hrest := ih fun other hmem => hnone other (List.mem_cons_of_mem _ hmem)
    cases op with
    | new_v4 => exact absurd rfl (hnone _ List.mem_cons_self)
    | _ => exact hrest

/-- A request that is registered and posted, with the answer to its POST. -/
def Requested (crates : Crates) (kms : KmsClient) (id wrapped : String) (answer : Except String FetchResponse)
    (sent : History) : Prop :=
  ∃ rx tail, (∀ exchange ∈ tail, Quiet exchange) ∧ sent =
    ⟨.register_pending id, some rx⟩ :: ⟨.fetch (message_request crates kms wrapped), answer⟩ :: tail

/-- A request that is tried again was rejected unless it failed transiently. -/
theorem Sent.of_retryable {e : WebexError} {sent : History} (hsent : Sent crates kms id wrapped (.error e) sent)
    (huuid : IsUuid id) (hretryable : is_retryable_kms_error e = true) :
    ∃ answer, Requested crates kms id wrapped answer sent ∧ (TransientAnswer answer ∨ TimedOut sent ↔ ¬Rejection answer) := by
  cases hsent with
  | full =>
    rw [full_not_retryable] at hretryable
    cases hretryable
  | failed rx e => exact ⟨.error e, ⟨rx, _, by simp [Quiet], rfl⟩, by simp [TransientAnswer, Rejection]⟩
  | refused rx resp hok =>
    refine ⟨.ok resp, ⟨rx, _, by simp [Quiet], rfl⟩, ?_⟩
    simp [TransientAnswer, Rejection, TimedOut, is_timeout, hok]
  | closed rx resp hok =>
    rw [closed_not_retryable huuid] at hretryable
    cases hretryable
  | timed_out rx resp hok =>
    refine ⟨.ok resp, ⟨rx, _, by simp [Quiet], rfl⟩, ?_⟩
    simp [TransientAnswer, Rejection, TimedOut, is_timeout, hok]

/-- A request that is not tried again was not rejected. -/
theorem Sent.of_last {r : Except WebexError String} {sent : History} (hsent : Sent crates kms id wrapped r sent)
    (hlast : ∀ e, r = .error e → is_retryable_kms_error e = false) :
    sent = [⟨.register_pending id, (none : Option Nat)⟩] ∨
      ∃ answer, Requested crates kms id wrapped answer sent ∧ ¬Rejection answer := by
  cases hsent with
  | full => exact .inl rfl
  | failed rx e => exact .inr ⟨.error e, ⟨rx, _, by simp [Quiet], rfl⟩, not_false⟩
  | refused rx resp hok =>
    have hretryable := refused_retryable crates resp
    rw [hlast _ rfl] at hretryable
    cases hretryable
  | received rx resp hok response => exact .inr ⟨.ok resp, ⟨rx, _, by simp [Quiet], rfl⟩, by simp [Rejection, hok]⟩
  | closed rx resp hok => exact .inr ⟨.ok resp, ⟨rx, _, by simp [Quiet], rfl⟩, by simp [Rejection, hok]⟩
  | timed_out rx resp hok => exact .inr ⟨.ok resp, ⟨rx, _, by simp [Quiet], rfl⟩, by simp [Rejection, hok]⟩

theorem Sent.full_or_requested {r : Except WebexError String} {sent : History} (hsent : Sent crates kms id wrapped r sent) :
    sent = [⟨.register_pending id, (none : Option Nat)⟩] ∨ ∃ answer, Requested crates kms id wrapped answer sent := by
  cases hsent with
  | full => exact .inl rfl
  | failed rx e => exact .inr ⟨.error e, rx, _, by simp [Quiet], rfl⟩
  | refused rx resp hok => exact .inr ⟨.ok resp, rx, _, by simp [Quiet], rfl⟩
  | received rx resp hok response => exact .inr ⟨.ok resp, rx, _, by simp [Quiet], rfl⟩
  | closed rx resp hok => exact .inr ⟨.ok resp, rx, _, by simp [Quiet], rfl⟩
  | timed_out rx resp hok => exact .inr ⟨.ok resp, rx, _, by simp [Quiet], rfl⟩

/-- When a POST may be sent. -/
def InPolicy (earlier : History) (exchange : interaction.Exchange Res) : Prop :=
  (post_answer exchange).isSome = true → ∀ first ∈ (posts earlier).head?, TransientAnswer first ∨ TimedOut earlier

theorem retry_policy_iff {history : History} :
    RetryPolicy history ↔ (posts history).length ≤ 2 ∧ Along InPolicy [] history := by
  rw [along_iff_split]
  exact ⟨fun h => ⟨h.twice, h.transient⟩, fun h => ⟨h.1, h.2⟩⟩

/-- Exchanges without a POST, wherever they stand. -/
theorem along_quiet {before history : History} (hnone : posts history = []) : Along InPolicy before history := by
  induction history generalizing before with
  | nil => trivial
  | cons exchange rest ih =>
    simp only [posts, List.filterMap_cons] at hnone
    cases hanswer : post_answer exchange with
    | some answer => simp [hanswer] at hnone
    | none =>
      rw [hanswer] at hnone
      exact ⟨fun hpost => by simp [hanswer] at hpost, ih hnone⟩

theorem along_once {before history : History} (hbefore : posts before = []) (honce : (posts history).length ≤ 1) :
    Along InPolicy before history := by
  induction history generalizing before with
  | nil => trivial
  | cons exchange rest ih =>
    refine ⟨fun _ first hfirst => by simp [hbefore] at hfirst, ?_⟩
    simp only [posts, List.filterMap_cons] at honce
    cases hanswer : post_answer exchange with
    | none =>
      rw [hanswer] at honce
      refine ih ?_ honce
      simp [posts, hanswer] at hbefore ⊢
      exact hbefore
    | some answer =>
      rw [hanswer] at honce
      have hnone : (posts rest).length = 0 := by
        simp only [List.length_cons] at honce
        unfold posts
        omega
      exact along_quiet (List.length_eq_zero_iff.mp hnone)

theorem retry_policy_once {history : History} (honce : (posts history).length ≤ 1) : RetryPolicy history := by
  rw [retry_policy_iff]
  exact ⟨by omega, along_once rfl honce⟩

/-- With two POSTs it is the first that decides. -/
theorem retry_policy_twice {before quiet tail : History} {post : interaction.Exchange Res} {first second : Except String FetchResponse}
    (hbefore : posts before = [first]) (hquiet : posts quiet = []) (hpost : post_answer post = some second)
    (htail : posts tail = []) :
    RetryPolicy (before ++ (quiet ++ post :: tail)) ↔ TransientAnswer first ∨ TimedOut (before ++ quiet) := by
  have hposts : posts (quiet ++ post :: tail) = [second] := by
    rw [posts_append, hquiet]
    simp only [posts] at htail
    simp [posts, hpost, htail]
  rw [retry_policy_iff, posts_append, hbefore, hposts, along_append, along_append]
  have hdecides : InPolicy (before ++ quiet) post ↔ TransientAnswer first ∨ TimedOut (before ++ quiet) := by
    simp [InPolicy, hpost, posts_append, hbefore, hquiet]
  constructor
  · rintro ⟨-, -, -, hinpolicy, -⟩
    exact hdecides.mp hinpolicy
  · intro hfirst
    exact ⟨by simp, along_once rfl (by simp [hbefore]), along_quiet hquiet, hdecides.mpr hfirst, along_quiet htail⟩

theorem Requested.posts {answer : Except String FetchResponse} {sent : History}
    (hrequested : Requested crates kms id wrapped answer sent) : posts sent = [answer] := by
  obtain ⟨rx, tail, hquiet, rfl⟩ := hrequested
  have hpost : post_answer ⟨.fetch (message_request crates kms wrapped), answer⟩ = some answer := rfl
  have htail := posts_quiet hquiet
  unfold kms_client.posts at htail ⊢
  rw [List.filterMap_cons_none rfl, List.filterMap_cons_some hpost, htail]

theorem not_new_of_quiet {exchange : interaction.Exchange Res} (hquiet : Quiet exchange) : exchange.1 ≠ .new_v4 := by
  intro heq
  rw [Quiet, heq] at hquiet
  exact hquiet

theorem Requested.wraps {answer : Except String FetchResponse} {sent : History}
    (hrequested : Requested crates kms id wrapped answer sent) (more : History) : wraps (sent ++ more) = wraps more := by
  obtain ⟨rx, tail, hquiet, rfl⟩ := hrequested
  refine wraps_append (fun exchange hmem => ?_) more
  simp only [List.mem_cons] at hmem
  obtain rfl | rfl | hmem := hmem
  · nofun
  · nofun
  · exact not_new_of_quiet (hquiet exchange hmem)

theorem not_full_of_quiet {exchange : interaction.Exchange Res} (hquiet : Quiet exchange) : is_full exchange = false := by
  obtain ⟨op, r⟩ := exchange
  cases op with
  | register_pending id => exact hquiet.elim
  | _ => rfl

theorem Requested.not_full {answer : Except String FetchResponse} {sent : History}
    (hrequested : Requested crates kms id wrapped answer sent) : ∀ exchange ∈ sent, is_full exchange = false := by
  obtain ⟨rx, tail, hquiet, rfl⟩ := hrequested
  intro exchange hmem
  simp only [List.mem_cons] at hmem
  obtain rfl | rfl | hmem := hmem
  · rfl
  · rfl
  · exact not_full_of_quiet (hquiet exchange hmem)

/-- The exchanges before a request is registered. -/
def prepared (id : String) (seed : Bytes) : History := [⟨.new_v4, id⟩, ⟨.random 12, seed⟩]

def paused : interaction.Exchange Res := ⟨.sleep 1000, ()⟩

def registration (id : String) (rx : Nat) : interaction.Exchange Res := ⟨.register_pending id, some rx⟩

def unregistered (id : String) : interaction.Exchange Res := ⟨.register_pending id, (none : Option Nat)⟩

theorem posts_attempt {answer : Except String FetchResponse} {sent rest : History} {seed : Bytes}
    (hrequested : Requested crates kms id wrapped answer sent) :
    posts (prepared id seed ++ (sent ++ paused :: rest)) = answer :: posts rest := by
  rw [posts_append, posts_append, hrequested.posts]
  rfl

theorem wraps_attempt {answer : Except String FetchResponse} {sent rest : History} {seed : Bytes}
    (hrequested : Requested crates kms id wrapped answer sent) :
    wraps (prepared id seed ++ (sent ++ paused :: rest)) = (id, seed) :: wraps rest := by
  show (id, seed) :: wraps (sent ++ paused :: rest) = _
  rw [hrequested.wraps]
  rfl

/-- After a request that is tried again, and of which the second is not sent, all is in order. -/
theorem retry_policy_unsent {answer : Except String FetchResponse} {sent rest : History} {seed : Bytes}
    (hrequested : Requested crates kms id wrapped answer sent) (hnone : posts rest = [])
    (hblocked : Blocked crates key_uri kms (prepared id seed ++ (sent ++ paused :: rest))) :
    RetryPolicy (prepared id seed ++ (sent ++ paused :: rest)) ↔
      NotRejected crates key_uri kms (prepared id seed ++ (sent ++ paused :: rest)) := by
  refine iff_of_true (retry_policy_once ?_) fun _ _ _ => hblocked
  rw [posts_attempt hrequested, hnone]
  exact Nat.le_refl 1

/-- After a request that is tried again, and of which the second is sent, the first must not
    have been rejected. -/
theorem retry_policy_sent {answer second : Except String FetchResponse} {sent sent' tail : History} {seed seed' : Bytes}
    {id' wrapped' : String} (hrequested : Requested crates kms id wrapped answer sent)
    (hrequested' : Requested crates kms id' wrapped' second sent') (htail : ∀ exchange ∈ tail, Quiet exchange)
    (htransient : TransientAnswer answer ∨ TimedOut sent ↔ ¬Rejection answer) {key : Bytes} (hkey : kms.ephemeral_key = some key)
    (hwrap : wrap crates key_uri kms key id seed = .ok wrapped) (hwrap' : wrap crates key_uri kms key id' seed' = .ok wrapped') :
    RetryPolicy (prepared id seed ++ (sent ++ paused :: (prepared id' seed' ++ (sent' ++ tail)))) ↔
      NotRejected crates key_uri kms (prepared id seed ++ (sent ++ paused :: (prepared id' seed' ++ (sent' ++ tail)))) := by
  have hsent : ¬Blocked crates key_uri kms
      (prepared id seed ++ (sent ++ paused :: (prepared id' seed' ++ (sent' ++ tail)))) := by
    rintro (⟨other, id'', seed'', e, hother, hmem, hfails⟩ | ⟨exchange, hmem, hfull⟩)
    · cases hkey.symm.trans hother
      have hwraps : wraps (prepared id' seed' ++ (sent' ++ tail)) = [(id', seed')] := by
        have htail' : wraps tail = [] := by
          have hnone := wraps_append (fun exchange hmem heq => not_new_of_quiet (htail exchange hmem) heq) []
          rwa [List.append_nil] at hnone
        show (id', seed') :: wraps (sent' ++ tail) = _
        rw [hrequested'.wraps, htail']
      rw [wraps_attempt hrequested, hwraps] at hmem
      simp only [List.mem_cons, Prod.mk.injEq, List.not_mem_nil, or_false] at hmem
      obtain ⟨rfl, rfl⟩ | ⟨rfl, rfl⟩ := hmem
      · exact nomatch hwrap.symm.trans hfails
      · exact nomatch hwrap'.symm.trans hfails
    · have hnot : is_full exchange = false := by
        simp only [prepared, List.mem_append, List.mem_cons, List.not_mem_nil, or_false] at hmem
        obtain (rfl | rfl) | hsent | rfl | (rfl | rfl) | hsent' | htail' := hmem
        · rfl
        · rfl
        · exact hrequested.not_full exchange hsent
        · rfl
        · rfl
        · rfl
        · exact hrequested'.not_full exchange hsent'
        · exact not_full_of_quiet (htail exchange htail')
      rw [hnot] at hfull
      cases hfull
  have hnot : NotRejected crates key_uri kms
      (prepared id seed ++ (sent ++ paused :: (prepared id' seed' ++ (sent' ++ tail)))) ↔ ¬Rejection answer := by
    unfold NotRejected
    rw [posts_attempt hrequested]
    constructor
    · intro hnot hrejection
      exact hsent (hnot answer rfl hrejection)
    · intro hnot first hfirst hrejection
      cases hfirst
      exact absurd hrejection hnot
  rw [hnot, ← htransient]
  obtain ⟨rx, rest, hrest, rfl⟩ := hrequested'
  let post : interaction.Exchange Res := ⟨.fetch (message_request crates kms wrapped'), second⟩
  have hbefore : posts (prepared id seed ++ (sent ++ [paused])) = [answer] := posts_attempt hrequested
  have hquiet : posts (rest ++ tail) = [] := by
    rw [posts_append, posts_quiet hrest, posts_quiet htail, List.append_nil]
  have htwice := @retry_policy_twice (prepared id seed ++ (sent ++ [paused])) (prepared id' seed' ++ [registration id' rx])
    (rest ++ tail) post answer second hbefore rfl rfl hquiet
  have htimed : TimedOut (prepared id seed ++ (sent ++ [paused]) ++ (prepared id' seed' ++ [registration id' rx])) ↔ TimedOut sent := by
    simp [TimedOut, prepared, paused, registration, is_timeout, or_and_right, exists_or]
  rw [htimed] at htwice
  rw [← htwice]
  simp only [List.append_assoc, List.cons_append, List.nil_append]
  exact Iff.rfl

/-- The policy is kept exactly by the attempts of which the first is not rejected, or the
    second is not sent. -/
theorem Attempts.retry_policy_iff {history : History} (hattempts : Attempts crates key_uri kms 1 history)
    (huuids : ∀ exchange ∈ history, ∀ id, exchange = ⟨.new_v4, id⟩ → IsUuid id) :
    RetryPolicy history ↔ NotRejected crates key_uri kms history := by
  cases hattempts with
  | idle _ hidle => exact iff_of_true (retry_policy_once (Nat.zero_le 1)) nofun
  | unwrapped _ key hinit hkey id seed e hwrap => exact iff_of_true (retry_policy_once (Nat.zero_le 1)) nofun
  | last _ key hinit hkey id seed wrapped hwrap r sent tail hsent hlast htail =>
    have hquiet : ∀ exchange ∈ tail, Quiet exchange := by
      obtain rfl | ⟨instant, rfl⟩ := htail
      · simp
      · simp [Quiet]
    have hfinal : ∀ e, r = .error e → is_retryable_kms_error e = false := by
      intro e he
      rw [← Bool.not_eq_true]
      exact fun hretryable => hlast e he ⟨by decide, hretryable⟩
    have hposts : posts (⟨.new_v4, id⟩ :: ⟨.random 12, seed⟩ :: (sent ++ tail)) = posts sent := by
      show posts (prepared id seed ++ (sent ++ tail)) = _
      rw [posts_append, posts_append, posts_quiet hquiet, List.append_nil]
      rfl
    obtain rfl | ⟨answer, hrequested, hnot⟩ := hsent.of_last hfinal
    · refine iff_of_true (retry_policy_once (by rw [hposts]; exact Nat.zero_le 1)) fun first hfirst => ?_
      rw [hposts] at hfirst
      cases hfirst
    · rw [hrequested.posts] at hposts
      refine iff_of_true (retry_policy_once (by rw [hposts]; exact Nat.le_refl 1)) fun first hfirst hrejection => ?_
      rw [hposts] at hfirst
      cases hfirst
      exact absurd hrejection hnot
  | again _ key hinit hkey id seed wrapped hwrap e sent rest hsent hretried hrest =>
    obtain ⟨answer, hrequested, htransient⟩ := hsent.of_retryable (huuids _ List.mem_cons_self id rfl) hretried.2
    show RetryPolicy (prepared id seed ++ (sent ++ paused :: rest)) ↔
      NotRejected crates key_uri kms (prepared id seed ++ (sent ++ paused :: rest))
    cases hrest with
    | idle _ hidle =>
      simp [hinit, hkey, MAX_KMS_ATTEMPTS] at hidle
    | unwrapped _ key' _ hkey' id' seed' e' hwrap' =>
      refine retry_policy_unsent hrequested rfl (.inl ⟨key', id', seed', e', hkey', ?_, hwrap'⟩)
      rw [wraps_attempt hrequested]
      exact List.mem_cons_of_mem _ List.mem_cons_self
    | last _ key' _ hkey' id' seed' wrapped' hwrap' r sent' tail hsent' hlast htail =>
      have hquiet : ∀ exchange ∈ tail, Quiet exchange := by
        obtain rfl | ⟨instant, rfl⟩ := htail
        · simp
        · simp [Quiet]
      obtain rfl | ⟨second, hrequested'⟩ := hsent'.full_or_requested
      · refine retry_policy_unsent hrequested ?_ (.inr ⟨unregistered id', ?_, rfl⟩)
        · exact (posts_append (prepared id' seed' ++ [unregistered id']) tail).trans (posts_quiet hquiet)
        · show unregistered id' ∈ prepared id seed ++ (sent ++ paused :: (prepared id' seed' ++ (unregistered id' :: tail)))
          simp
      · cases hkey.symm.trans hkey'
        exact retry_policy_sent hrequested hrequested' hquiet htransient hkey hwrap hwrap'
    | again _ key' _ hkey' id' seed' wrapped' hwrap' e' sent' rest' hsent' hretried' hrest' =>
      exact absurd hretried'.1 (by decide)

end policy

section calls

variable (crates : Crates) (key_uri : String) (kms : KmsClient) {Env : Type} (answer : (op : Op) → Env → Res op × Env) (env : Env)

/-- The client and the environment when a call comes to its first attempt, if it does. -/
def at_attempts : Option (KmsClient × Env) :=
  if (kms.key_cache.lookup key_uri).isSome then none
  else match (get_key_checks crates kms).exec answer env with
    | ((.ok (), kms'), env') => some (kms', env')
    | ((.error _, _), _) => none

/-- The part of a call that retrieves the key. Before it there is at most a handshake. -/
def retrieval : History :=
  match at_attempts crates key_uri kms answer env with
  | none => []
  | some (kms', env') => (get_key_attempts crates key_uri MAX_KMS_ATTEMPTS 1 kms').exchanges answer env'

theorem exchanges_get_key (huncached : kms.key_cache.lookup key_uri = none) : (get_key crates key_uri kms).exchanges answer env =
    (get_key_checks crates kms).exchanges answer env ++ retrieval crates key_uri kms answer env := by
  rw [get_key_of_uncached huncached]
  refine (Program.exchanges_bind answer _ _ env).trans ?_
  unfold retrieval at_attempts
  rw [huncached]
  obtain ⟨⟨_ | _, kms'⟩, env'⟩ := (get_key_checks crates kms).exec answer env
  · rfl
  · rfl

/-- Of every call: the policy is kept exactly if the first retrieve request is not rejected,
    or there is no second one. -/
theorem get_key_retries_iff (environment : Environment Env) :
    RetryPolicy (retrieval crates key_uri kms environment.answer env) ↔
      ∀ attempting ∈ at_attempts crates key_uri kms environment.answer env,
        NotRejected crates key_uri attempting.1 (retrieval crates key_uri kms environment.answer env) := by
  unfold retrieval
  cases hattempts : at_attempts crates key_uri kms environment.answer env with
  | none => exact iff_of_true (retry_policy_once (Nat.zero_le 1)) nofun
  | some attempting =>
    obtain ⟨kms', env'⟩ := attempting
    have hobeys : (get_key_attempts crates key_uri MAX_KMS_ATTEMPTS 1).Obeys recording kms' [] fun _ _ log' =>
      ∃ rest, Attempts crates key_uri kms' 1 rest ∧ log' = [] ++ rest := get_key_attempts_records rfl
    obtain ⟨rest, hrest, hrecorded⟩ := @Program.Obeys.exchanges _ _ _ _ environment.answer _ _ _ env' hobeys
    rw [List.nil_append, List.nil_append] at hrecorded
    simp only [Option.mem_def, Option.some.injEq, forall_eq']
    rw [hrecorded]
    refine hrest.retry_policy_iff fun exchange hmem id hid => ?_
    rw [← hrecorded] at hmem
    obtain ⟨env'', hanswer⟩ := Program.answered_of_mem hmem
    subst hid
    have hid : id = (environment.answer .new_v4 env'').1 := hanswer
    rw [hid]
    exact environment.uuids env''

theorem nil_uuid : IsUuid "00000000-0000-4000-8000-000000000000" := by
  have hall : "00000000-0000-4000-8000-000000000000".toList.all ("0123456789abcdef-".toList.contains ·) = true := by
    decide
  intro c hc
  exact List.contains_iff_mem.mp (List.all_eq_true.mp hall c hc)

/-- A KMS that refuses every request. -/
def unauthorized : Environment Unit where
  answer
    | .fetch _, env => (.ok { status := 401, ok := false, body := [] }, env)
    | .now, env => ((0 : Nat), env)
    | .sleep _, env => ((), env)
    | .new_v4, env => ("00000000-0000-4000-8000-000000000000", env)
    | .random _, env => (([] : Bytes), env)
    | .register_pending _, env => (some (0 : Nat), env)
    | .remove_pending _, env => ((), env)
    | .wait_response _ _, env => (Waited.closed, env)
  uuids _ := nil_uuid

/-- A client with a fresh context. -/
def connected_client : KmsClient :=
  { sample_client with initialized := true, ephemeral_key := some sample_derived, context_expiration := some 3600000 }

theorem unauthorized_request_retried :
    ¬∀ crates key_uri kms (environment : Environment Unit), RetryPolicy (retrieval crates key_uri kms environment.answer ()) := by
  intro hpolicy
  let wrapped := sample_crates.to_string (retrieve_body connected_client "kms://k" "00000000-0000-4000-8000-000000000000")
  let post : interaction.Exchange Res :=
    ⟨.fetch (message_request sample_crates connected_client wrapped), .ok { status := 401, ok := false, body := [] }⟩
  let history := retrieval sample_crates "kms://k" connected_client unauthorized.answer ()
  have hsplit : history = history.take 9 ++ post :: history.drop 10 := rfl
  have hfirst := (hpolicy sample_crates "kms://k" connected_client unauthorized).transient _ _ _ hsplit rfl
    (.ok { status := 401, ok := false, body := [] }) rfl
  obtain ⟨-, htransient, -⟩ | ⟨exchange, hmem, htimeout⟩ := hfirst
  · exact absurd htransient (by decide)
  · have hnone : (history.take 9).all (fun exchange => !is_timeout exchange) = true := rfl
    have hnot := List.all_eq_true.mp hnone exchange hmem
    rw [htimeout] at hnot
    cases hnot

end calls

end webex.rust.kms_client

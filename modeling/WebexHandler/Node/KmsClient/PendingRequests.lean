import Mathlib.Data.List.Nodup
import WebexHandler.Node.KmsClient.Calls

open interaction json transition

namespace webex.node.kms_client

/-- What is left of a call of `_sendKmsRequest`. -/
abbrev Rest : Type := Program Op Res (Except Thrown Value × Unit)

def answered (outcome : Except Thrown Value) : Rest := .ret (outcome, ())

/-- The call after the body of an error response has been read. -/
def read_error (http_response : FetchResponse) : Except Thrown String → Rest
  | .ok error_body =>
    .ret (.error (.kms_error ("KMS HTTP request failed: " ++ toString http_response.status ++ " " ++ error_body)), ())
  | .error e => .ret (.error e, ())

/-- The call after the HTTP call. -/
def posted (request_id : String) (promise : Nat) : Except Thrown FetchResponse → Rest
  | .error e => .ret (.error e, ())
  | .ok http_response =>
    if http_response.ok then .ask (.response promise) answered
    else .ask (.update fun _ self => { self with pending_requests := map_delete self.pending_requests request_id })
      fun _ => .ask (.text http_response) (read_error http_response)

theorem send_kms_request_eq {builtins : Builtins} (request_id wrapped : String) :
    send_kms_request builtins request_id wrapped () = .ask .get fun self =>
      if 100 ≤ self.pending_requests.length then .ret (.error (.kms_error "Too many pending KMS requests"), ())
      else .ask .new_promise fun promise => .ask (.set_timeout promise request_id) fun _ =>
        .ask (.update fun _ self => { self with pending_requests := map_set self.pending_requests request_id promise })
          fun _ => .ask (.http_do (message_request builtins self wrapped)) (posted request_id promise) := by
  unfold send_kms_request
  simp only [bind, Method.bind, read, new_promise, set_timeout, update, Method.request, Method.reject,
    Method.ofExcept, Program.bind]
  congr 1
  funext self
  by_cases hfull : 100 ≤ self.pending_requests.length
  · simp only [hfull, decide_true, if_true]
  · simp only [hfull, decide_false, if_false, Bool.false_eq_true]
    congr 1
    funext promise
    congr 1
    funext _
    congr 1
    funext _
    simp only [await, bind, Method.bind, Method.request, Method.ofExcept, Program.bind]
    congr 1
    funext outcome
    cases outcome with
    | error e => rfl
    | ok http_response =>
      simp only [posted]
      split
      · rfl
      · simp only [Method.bind, Method.request, Program.bind]
        congr 1
        funext _
        congr 1
        funext outcome
        cases outcome with
        | error e => rfl
        | ok error_body => rfl

namespace Runtime

/-- A pending request with its timer, before the HTTP call. -/
def register (self : Runtime) (request_id : String) : Runtime :=
  { self with
    next_promise := self.next_promise + 1
    timers := self.timers ++ [(self.next_promise, ⟨request_id, self.time⟩)]
    kms := { self.kms with pending_requests := map_set self.kms.pending_requests request_id self.next_promise } }

/-- The runtime with other pending requests. -/
def with_pending (self : Runtime) (pending : List (String × Nat)) : Runtime :=
  { self with kms := { self.kms with pending_requests := pending } }

/-- A promise that waits for a response settles, and its timer is gone. -/
def settle_promise (self : Runtime) (promise : Nat) (outcome : Except Thrown Value) : Runtime :=
  { self with
    timers := self.timers.filter fun timer => timer.1 != promise
    responses := self.responses ++ [(promise, outcome)] }

end Runtime

theorem settle_send {builtins : Builtins} (request_id wrapped : String) (env : Runtime) :
    (send_kms_request builtins request_id wrapped ()).settle sync env =
      if 100 ≤ env.kms.pending_requests.length then
        (.ret (.error (.kms_error "Too many pending KMS requests"), ()), env)
      else (.ask (.http_do (message_request builtins env.kms wrapped)) (posted request_id env.next_promise),
        env.register request_id) := by
  rw [send_kms_request_eq]
  simp only [Program.settle, sync]
  split
  · rfl
  · rfl

theorem settle_posted {request_id : String} {promise : Nat} (result : Except Thrown FetchResponse) (env : Runtime) :
    (posted request_id promise result).settle sync env = match result with
      | .error e => (.ret (.error e, ()), env)
      | .ok http_response =>
        if http_response.ok then (.ask (.response promise) answered, env)
        else (.ask (.text http_response) (read_error http_response),
          env.with_pending (map_delete env.kms.pending_requests request_id)) := by
  cases result with
  | error e => rfl
  | ok http_response =>
    simp only [posted]
    split
    · rfl
    · rfl

theorem settle_read_error {http_response : FetchResponse} (result : Except Thrown String) (env : Runtime) :
    ∃ outcome, (read_error http_response result).settle sync env = (.ret (outcome, ()), env) := by
  cases result with
  | error e => exact ⟨_, rfl⟩
  | ok error_body => exact ⟨_, rfl⟩

/-- A call of `_sendKmsRequest`, with the promise that is to wait for its response. -/
structure Sending where
  request_id : String
  promise : Nat
  rest : Rest

namespace Sending

/-- The promise of the call has settled. -/
def Settled (call : Sending) : Prop := ∃ outcome, call.rest = .ret (outcome, ())

/-- Where a call stands that has not settled. -/
inductive Stage
  | posting
  | waiting
  | reading

/-- The call stands there. -/
def At (call : Sending) : Stage → Prop
  | .posting => ∃ req, call.rest = .ask (.http_do req) (posted call.request_id call.promise)
  | .waiting => call.rest = .ask (.response call.promise) answered
  | .reading => ∃ http_response, call.rest = .ask (.text http_response) (read_error http_response)

theorem At.not_settled {call : Sending} {stage : Stage} (hat : call.At stage) : ¬ call.Settled := by
  rintro ⟨outcome, hret⟩
  cases stage with
  | posting =>
    obtain ⟨req, hrest⟩ := hat
    rw [hret] at hrest
    contradiction
  | waiting =>
    rw [At, hret] at hat
    contradiction
  | reading =>
    obtain ⟨http_response, hrest⟩ := hat
    rw [hret] at hrest
    contradiction

end Sending

/-- Any number of calls of `_sendKmsRequest` on one client. -/
structure Exchange where
  env : Runtime
  calls : List Sending := []

inductive ExchangeLabel
  | send (request_id wrapped : String)
  | resume (call : Nat) (settled : Settled)
  | deliver (data : Value)
  | timeout (promise : Nat)
  | wait (millis : Nat)

namespace Exchange

/-- A call begins with a fresh request id or goes on after an await; Mercury delivers KMS
    messages; a timer fires; time passes. -/
def step (builtins : Builtins) (s : Exchange) : ExchangeLabel → Option Exchange
  | .send request_id wrapped =>
    if request_id ∈ s.calls.map Sending.request_id then none
    else
      let out := (send_kms_request builtins request_id wrapped ()).settle sync s.env
      some { env := out.2, calls := s.calls ++ [⟨request_id, s.env.next_promise, out.1⟩] }
  | .resume i settled =>
    match s.calls[i]? with
    | none => none
    | some call =>
      match call.rest with
      | .ret _ => none
      | .ask op next => (answer op settled s.env).map fun r =>
          let out := (next r).settle sync s.env
          { env := out.2, calls := s.calls.set i { call with rest := out.1 } }
  | .deliver data => some { s with env := s.env.handle_kms_message data }
  | .timeout promise => (s.env.fire promise).map fun env => { s with env := env }
  | .wait millis => some { s with env := { s.env with time := s.env.time + millis } }

end Exchange

/-- All interleavings of `_sendKmsRequest` calls on a client, with answers of any kind. -/
def exchange (builtins : Builtins) (kms : KmsClient) : Machine Exchange ExchangeLabel where
  init := { env := { kms := kms } }
  step := Exchange.step builtins

/-- A settled call has left no pending request and no armed timer. So no message that is
    handled goes to a settled call. -/
structure Hygiene (s : Exchange) : Prop where
  entry : ∀ call ∈ s.calls, call.Settled → ∀ entry ∈ s.env.kms.pending_requests, entry.1 ≠ call.request_id
  timer : ∀ call ∈ s.calls, call.Settled → ∀ timer ∈ s.env.timers, timer.2.request_id ≠ call.request_id
  consumer : ∀ entry ∈ s.env.kms.pending_requests, ∃ call ∈ s.calls, call.request_id = entry.1 ∧ ¬ call.Settled

/-- What a call awaits settles so that the call does without waiting for the response. -/
def GivesUp : Op → Settled → Prop
  | .http_do _, .fetched (.error _) => True
  | .text _, .text _ => True
  | _, _ => False

/-- A call gives up only when its timer is not armed any more. -/
def Disarmed (s : Exchange) : ExchangeLabel → Prop
  | .resume i settled => ∀ call op next, s.calls[i]? = some call → call.rest = .ask op next → GivesUp op settled →
      ∀ timer ∈ s.env.timers, timer.2.request_id ≠ call.request_id
  | _ => True

/-- The pending requests and the timers are those of calls that have not settled, and the
    requests those of calls that can still be answered. -/
structure Tidy (env : Runtime) (calls : List Sending) : Prop where
  stages : ∀ (i : Nat) call, calls[i]? = some call → call.Settled ∨ ∃ stage, call.At stage
  ids : ∀ (i j : Nat) a b, calls[i]? = some a → calls[j]? = some b → a.request_id = b.request_id → i = j
  promises : ∀ (i j : Nat) a b, calls[i]? = some a → calls[j]? = some b → ¬ a.Settled → ¬ b.Settled →
    a.promise = b.promise → i = j
  issued : ∀ (i : Nat) call, calls[i]? = some call → ¬ call.Settled → call.promise < env.next_promise
  entry_ids : (env.kms.pending_requests.map Prod.fst).Nodup
  entry_timers : ∀ entry ∈ env.kms.pending_requests, ∃ timer ∈ env.timers, timer.1 = entry.2
  entries : ∀ entry ∈ env.kms.pending_requests, ∃ (i : Nat) (call : Sending), calls[i]? = some call ∧
    call.request_id = entry.1 ∧ call.promise = entry.2 ∧ (call.At .posting ∨ call.At .waiting)
  timers : ∀ timer ∈ env.timers, ∃ (i : Nat) (call : Sending), calls[i]? = some call ∧
    call.request_id = timer.2.request_id ∧ call.promise = timer.1 ∧ ¬ call.Settled
  responses : ∀ response ∈ env.responses, response.1 < env.next_promise ∧ ∀ timer ∈ env.timers, timer.1 ≠ response.1

namespace Tidy

variable {env : Runtime} {calls : List Sending}

theorem init (kms : KmsClient) (hnone : kms.pending_requests = []) : Tidy { kms := kms } [] where
  stages := by simp
  ids := by simp
  promises := by simp
  issued := by simp
  entry_ids := by simp [hnone]
  entry_timers := by simp [hnone]
  entries := by simp [hnone]
  timers := by simp
  responses := by simp

/-- The call that a timer belongs to is the only one with its request id. -/
theorem timer_of_id (htidy : Tidy env calls) {i : Nat} {call : Sending} (hcall : calls[i]? = some call)
    {timer : Nat × Timer} (hmem : timer ∈ env.timers) (hid : timer.2.request_id = call.request_id) :
    call.promise = timer.1 ∧ ¬ call.Settled := by
  obtain ⟨j, owner, howner, hsame, hpromise, hnot⟩ := htidy.timers timer hmem
  obtain rfl := htidy.ids j i owner call howner hcall (hsame.trans hid)
  obtain rfl := Option.some.inj (howner.symm.trans hcall)
  exact ⟨hpromise, hnot⟩

/-- A call without an armed timer has no pending request. -/
theorem no_entry (htidy : Tidy env calls) {i : Nat} {call : Sending} (hcall : calls[i]? = some call)
    (hnone : ∀ timer ∈ env.timers, timer.1 ≠ call.promise) :
    ∀ entry ∈ env.kms.pending_requests, entry.1 ≠ call.request_id := by
  intro entry hmem hid
  obtain ⟨timer, htimer, hpromise⟩ := htidy.entry_timers entry hmem
  obtain ⟨j, owner, howner, hsame, howned, -⟩ := htidy.entries entry hmem
  obtain rfl := htidy.ids j i owner call howner hcall (hsame.trans hid)
  obtain rfl := Option.some.inj (howner.symm.trans hcall)
  exact hnone timer htimer (hpromise.trans howned.symm)

/-- The request of a promise that is pending has no other entry. -/
theorem entry_unique (htidy : Tidy env calls) {entry other : String × Nat} (hentry : entry ∈ env.kms.pending_requests)
    (hother : other ∈ env.kms.pending_requests) (hpromise : entry.2 = other.2) : entry.1 = other.1 := by
  obtain ⟨i, a, ha, hid, howned, hopen⟩ := htidy.entries entry hentry
  obtain ⟨j, b, hb, hid', howned', hopen'⟩ := htidy.entries other hother
  have hnot : ∀ {call : Sending}, call.At .posting ∨ call.At .waiting → ¬ call.Settled := by
    rintro call (hat | hat)
    · exact hat.not_settled
    · exact hat.not_settled
  obtain rfl := htidy.promises i j a b ha hb (hnot hopen) (hnot hopen') (by rw [howned, howned', hpromise])
  obtain rfl := Option.some.inj (ha.symm.trans hb)
  exact hid.symm.trans hid'

/-- Pending requests are dropped. -/
theorem drop_entries (htidy : Tidy env calls) {pending : List (String × Nat)}
    (hsub : pending.Sublist env.kms.pending_requests) : Tidy (env.with_pending pending) calls where
  stages := htidy.stages
  ids := htidy.ids
  promises := htidy.promises
  issued := htidy.issued
  entry_ids := htidy.entry_ids.sublist (hsub.map Prod.fst)
  entry_timers entry hmem := htidy.entry_timers entry (hsub.subset hmem)
  entries entry hmem := htidy.entries entry (hsub.subset hmem)
  timers := htidy.timers
  responses := htidy.responses

/-- A promise whose request is no longer pending settles. -/
theorem settle_promise (htidy : Tidy env calls) {promise : Nat} (hissued : promise < env.next_promise)
    (hnone : ∀ entry ∈ env.kms.pending_requests, entry.2 ≠ promise) (outcome : Except Thrown Value) :
    Tidy (env.settle_promise promise outcome) calls where
  stages := htidy.stages
  ids := htidy.ids
  promises := htidy.promises
  issued := htidy.issued
  entry_ids := htidy.entry_ids
  entry_timers := by
    intro entry hmem
    obtain ⟨timer, htimer, heq⟩ := htidy.entry_timers entry hmem
    refine ⟨timer, List.mem_filter.mpr ⟨htimer, ?_⟩, heq⟩
    rw [heq, bne_iff_ne]
    exact hnone entry hmem
  entries := htidy.entries
  timers timer hmem := htidy.timers timer (List.mem_of_mem_filter hmem)
  responses := by
    intro response hmem
    obtain hmem | hmem := List.mem_append.mp hmem
    · obtain ⟨hlt, hunarmed⟩ := htidy.responses response hmem
      exact ⟨hlt, fun timer htimer => hunarmed timer (List.mem_of_mem_filter htimer)⟩
    · obtain rfl := List.mem_singleton.mp hmem
      exact ⟨hissued, fun timer htimer => by simpa using (List.mem_filter.mp htimer).2⟩

theorem wait (htidy : Tidy env calls) (millis : Nat) : Tidy { env with time := env.time + millis } calls where
  stages := htidy.stages
  ids := htidy.ids
  promises := htidy.promises
  issued := htidy.issued
  entry_ids := htidy.entry_ids
  entry_timers := htidy.entry_timers
  entries := htidy.entries
  timers := htidy.timers
  responses := htidy.responses

/-- A message goes to the first pending request, whose timer goes with it. -/
theorem resolve_first (htidy : Tidy env calls) (wrapped : Value) : Tidy (env.resolve_first wrapped) calls := by
  cases hpending : env.kms.pending_requests with
  | nil =>
    simp only [Runtime.resolve_first, hpending]
    exact htidy
  | cons first rest =>
    obtain ⟨request_id, promise⟩ := first
    have hfirst : (request_id, promise) ∈ env.kms.pending_requests := by
      rw [hpending]
      exact List.mem_cons_self
    have hsub : rest.Sublist env.kms.pending_requests := by
      rw [hpending]
      exact List.sublist_cons_self _ _
    have hissued : promise < env.next_promise := by
      obtain ⟨timer, htimer, rfl⟩ := htidy.entry_timers _ hfirst
      obtain ⟨i, call, hcall, -, hpromise, hnot⟩ := htidy.timers timer htimer
      rw [← hpromise]
      exact htidy.issued i call hcall hnot
    have hnone : ∀ entry ∈ rest, entry.2 ≠ promise := by
      intro entry hmem heq
      have hid := htidy.entry_unique (hsub.subset hmem) hfirst heq
      have hnodup := htidy.entry_ids
      rw [hpending, List.map_cons, List.nodup_cons] at hnodup
      exact hnodup.1 (List.mem_map.mpr ⟨entry, hmem, hid⟩)
    have hsettled := (htidy.drop_entries hsub).settle_promise hissued hnone (.ok wrapped)
    simp only [Runtime.resolve_first, hpending]
    exact hsettled

theorem handle_kms_message (htidy : Tidy env calls) (data : Value) : Tidy (env.handle_kms_message data) calls := by
  unfold Runtime.handle_kms_message
  generalize Runtime.kms_messages data = messages
  induction messages generalizing env with
  | nil => exact htidy
  | cons wrapped rest ih => exact ih (htidy.resolve_first wrapped)

theorem mem_of_lookup {α : Type} {entries : List (Nat × α)} {key : Nat} {value : α}
    (hlookup : entries.lookup key = some value) : (key, value) ∈ entries := by
  obtain ⟨front, back, rfl, -⟩ := List.lookup_eq_some_iff.mp hlookup
  simp

theorem map_delete_sublist {α : Type} (entries : List (String × α)) (key : String) :
    (map_delete entries key).Sublist entries := List.filter_sublist

theorem fire (htidy : Tidy env calls) {promise : Nat} {env' : Runtime} (hfire : env.fire promise = some env') :
    Tidy env' calls := by
  unfold Runtime.fire at hfire
  split at hfire
  · contradiction
  · rename_i timer hlookup
    simp only [Option.ite_none_right_eq_some, Option.some.injEq] at hfire
    obtain ⟨-, rfl⟩ := hfire
    have hmem : (promise, timer) ∈ env.timers := mem_of_lookup hlookup
    obtain ⟨i, call, hcall, hid, hpromise, hnot⟩ := htidy.timers _ hmem
    have hnone : ∀ entry ∈ map_delete env.kms.pending_requests timer.request_id, entry.2 ≠ promise := by
      intro entry hentry heq
      obtain ⟨hentry, hother⟩ := List.mem_filter.mp hentry
      obtain ⟨j, owner, howner, hsame, howned, hopen⟩ := htidy.entries entry hentry
      have hunsettled : ¬ owner.Settled := by
        obtain hat | hat := hopen
        · exact hat.not_settled
        · exact hat.not_settled
      obtain rfl := htidy.promises j i owner call howner hcall hunsettled hnot (by rw [howned, heq, hpromise])
      obtain rfl := Option.some.inj (howner.symm.trans hcall)
      rw [bne_iff_ne] at hother
      exact hother (hsame.symm.trans hid)
    have hissued : promise < env.next_promise := by
      have hlt := htidy.issued i call hcall hnot
      rwa [hpromise] at hlt
    exact (htidy.drop_entries (map_delete_sublist _ _)).settle_promise hissued hnone _

/-- A call goes on. If it has settled, its timer was not armed, and if it cannot be
    answered any more, its request was not pending. -/
theorem advance (htidy : Tidy env calls) {i : Nat} {call : Sending} (hcall : calls[i]? = some call)
    (hrunning : ¬ call.Settled) {rest : Rest}
    (hstage : ({ call with rest := rest } : Sending).Settled ∨ ∃ stage, ({ call with rest := rest } : Sending).At stage)
    (hsettled : ({ call with rest := rest } : Sending).Settled → ∀ timer ∈ env.timers, timer.1 ≠ call.promise)
    (hopen : ({ call with rest := rest } : Sending).At .waiting ∨
      ∀ entry ∈ env.kms.pending_requests, entry.1 ≠ call.request_id) :
    Tidy env (calls.set i { call with rest := rest }) := by
  have hset : ∀ (j : Nat) other, (calls.set i { call with rest := rest })[j]? = some other →
      (j = i ∧ other = { call with rest := rest }) ∨ (j ≠ i ∧ calls[j]? = some other) := by
    intro j other hother
    rw [List.getElem?_set] at hother
    split at hother
    · rename_i heq
      split at hother
      · exact .inl ⟨heq.symm, (Option.some.inj hother).symm⟩
      · contradiction
    · rename_i hne
      exact .inr ⟨Ne.symm hne, hother⟩
  have hkept : ∀ (j : Nat) other, calls[j]? = some other → j ≠ i →
      (calls.set i { call with rest := rest })[j]? = some other := by
    intro j other hother hne
    rw [List.getElem?_set_ne hne.symm, hother]
  have hself : (calls.set i { call with rest := rest })[i]? = some { call with rest := rest } := by
    rw [List.getElem?_set_self (List.getElem?_eq_some_iff.mp hcall).1]
  -- every call has kept its request id and promise, and has not become running again
  have hsame : ∀ (j : Nat) other, (calls.set i { call with rest := rest })[j]? = some other →
      ∃ before, calls[j]? = some before ∧ before.request_id = other.request_id ∧ before.promise = other.promise ∧
        (¬ other.Settled → ¬ before.Settled) := by
    intro j other hother
    obtain ⟨rfl, rfl⟩ | ⟨-, hbefore⟩ := hset j other hother
    · exact ⟨call, hcall, rfl, rfl, fun _ => hrunning⟩
    · exact ⟨other, hbefore, rfl, rfl, id⟩
  exact {
    stages := by
      intro j other hother
      obtain ⟨-, rfl⟩ | ⟨-, hbefore⟩ := hset j other hother
      · exact hstage
      · exact htidy.stages j other hbefore
    ids := by
      intro j k a b ha hb hid
      obtain ⟨a', ha', haid, -, -⟩ := hsame j a ha
      obtain ⟨b', hb', hbid, -, -⟩ := hsame k b hb
      exact htidy.ids j k a' b' ha' hb' (by rw [haid, hbid, hid])
    promises := by
      intro j k a b ha hb hna hnb hpromise
      obtain ⟨a', ha', -, hap, hna'⟩ := hsame j a ha
      obtain ⟨b', hb', -, hbp, hnb'⟩ := hsame k b hb
      exact htidy.promises j k a' b' ha' hb' (hna' hna) (hnb' hnb) (by rw [hap, hbp, hpromise])
    issued := by
      intro j other hother hnot
      obtain ⟨before, hbefore, -, hpromise, hnot'⟩ := hsame j other hother
      rw [← hpromise]
      exact htidy.issued j before hbefore (hnot' hnot)
    entry_ids := htidy.entry_ids
    entry_timers := htidy.entry_timers
    entries := by
      intro entry hmem
      obtain ⟨j, owner, howner, hid, hpromise, hopened⟩ := htidy.entries entry hmem
      by_cases heq : j = i
      · subst heq
        obtain rfl := Option.some.inj (howner.symm.trans hcall)
        obtain hwaiting | hnone := hopen
        · exact ⟨j, _, hself, hid, hpromise, .inr hwaiting⟩
        · exact absurd hid.symm (hnone entry hmem)
      · exact ⟨j, owner, hkept j owner howner heq, hid, hpromise, hopened⟩
    timers := by
      intro timer hmem
      obtain ⟨j, owner, howner, hid, hpromise, hnot⟩ := htidy.timers timer hmem
      by_cases heq : j = i
      · subst heq
        obtain rfl := Option.some.inj (howner.symm.trans hcall)
        exact ⟨j, _, hself, hid, hpromise, fun hdone => hsettled hdone timer hmem hpromise.symm⟩
      · exact ⟨j, owner, hkept j owner howner heq, hid, hpromise, hnot⟩
    responses := htidy.responses }

/-- A call settles whose timer is not armed. -/
theorem settle (htidy : Tidy env calls) {i : Nat} {call : Sending} (hcall : calls[i]? = some call)
    (hrunning : ¬ call.Settled) (hnone : ∀ timer ∈ env.timers, timer.1 ≠ call.promise) (outcome : Except Thrown Value) :
    Tidy env (calls.set i { call with rest := .ret (outcome, ()) }) :=
  htidy.advance hcall hrunning (.inl ⟨outcome, rfl⟩) (fun _ => hnone) (.inr (htidy.no_entry hcall hnone))

section send

variable {call : Sending}

theorem getElem?_append_call (calls : List Sending) (call : Sending) {i : Nat} {other : Sending}
    (hother : (calls ++ [call])[i]? = some other) :
    calls[i]? = some other ∨ (i = calls.length ∧ other = call) := by
  rw [List.getElem?_append] at hother
  split at hother
  · exact .inl hother
  · rename_i hge
    rw [List.getElem?_singleton] at hother
    split at hother
    · exact .inr ⟨by omega, (Option.some.inj hother).symm⟩
    · contradiction

theorem getElem?_append_of_call {calls : List Sending} {i : Nat} {other : Sending} (hother : calls[i]? = some other)
    (call : Sending) : (calls ++ [call])[i]? = some other := by
  rw [List.getElem?_append_left (List.getElem?_eq_some_iff.mp hother).1, hother]

theorem ids_append (htidy : Tidy env calls) (hfresh : call.request_id ∉ calls.map Sending.request_id) {i j : Nat}
    {a b : Sending} (ha : (calls ++ [call])[i]? = some a) (hb : (calls ++ [call])[j]? = some b)
    (hid : a.request_id = b.request_id) : i = j := by
  have hnot : ∀ (k : Nat) other, calls[k]? = some other → other.request_id ≠ call.request_id := by
    intro k other hother heq
    exact hfresh (List.mem_map.mpr ⟨other, List.mem_of_getElem? hother, heq⟩)
  obtain hold | ⟨hi, hnew⟩ := getElem?_append_call calls call ha
  · obtain hold' | ⟨-, hnew'⟩ := getElem?_append_call calls call hb
    · exact htidy.ids i j a b hold hold' hid
    · exact absurd (hnew' ▸ hid) (hnot i a hold)
  · obtain hold' | ⟨hj, -⟩ := getElem?_append_call calls call hb
    · exact absurd (hnew ▸ hid).symm (hnot j b hold')
    · exact hi.trans hj.symm

/-- A call with a fresh request id that is refused. -/
theorem send_refused (htidy : Tidy env calls) (hfresh : call.request_id ∉ calls.map Sending.request_id)
    (hsettled : call.Settled) : Tidy env (calls ++ [call]) where
  stages := by
    intro i other hother
    obtain hother | ⟨-, rfl⟩ := getElem?_append_call calls call hother
    · exact htidy.stages i other hother
    · exact .inl hsettled
  ids i j a b ha hb hid := htidy.ids_append hfresh ha hb hid
  promises := by
    intro i j a b ha hb hna hnb hpromise
    obtain ha | ⟨-, rfl⟩ := getElem?_append_call calls call ha
    · obtain hb | ⟨-, rfl⟩ := getElem?_append_call calls call hb
      · exact htidy.promises i j a b ha hb hna hnb hpromise
      · exact absurd hsettled hnb
    · exact absurd hsettled hna
  issued := by
    intro i other hother hnot
    obtain hother | ⟨-, rfl⟩ := getElem?_append_call calls call hother
    · exact htidy.issued i other hother hnot
    · exact absurd hsettled hnot
  entry_ids := htidy.entry_ids
  entry_timers := htidy.entry_timers
  entries := by
    intro entry hmem
    obtain ⟨i, owner, howner, hrest⟩ := htidy.entries entry hmem
    exact ⟨i, owner, getElem?_append_of_call howner call, hrest⟩
  timers := by
    intro timer hmem
    obtain ⟨i, owner, howner, hrest⟩ := htidy.timers timer hmem
    exact ⟨i, owner, getElem?_append_of_call howner call, hrest⟩
  responses := htidy.responses

/-- A fresh request id is appended to the pending requests. -/
theorem map_set_fresh (htidy : Tidy env calls) {request_id : String}
    (hfresh : request_id ∉ calls.map Sending.request_id) (promise : Nat) :
    map_set env.kms.pending_requests request_id promise = env.kms.pending_requests ++ [(request_id, promise)] := by
  unfold map_set
  rw [if_neg]
  intro hany
  obtain ⟨entry, hmem, hid⟩ := List.any_eq_true.mp hany
  obtain ⟨i, owner, howner, hsame, -⟩ := htidy.entries entry hmem
  exact hfresh (List.mem_map.mpr ⟨owner, List.mem_of_getElem? howner, hsame.trans (by simpa using hid)⟩)

/-- A call with a fresh request id that waits for its HTTP call. -/
theorem send_registered (htidy : Tidy env calls) (hfresh : call.request_id ∉ calls.map Sending.request_id)
    (hpromise : call.promise = env.next_promise) (hposting : call.At .posting) :
    Tidy (env.register call.request_id) (calls ++ [call]) where
  stages := by
    intro i other hother
    obtain hother | ⟨-, rfl⟩ := getElem?_append_call calls call hother
    · exact htidy.stages i other hother
    · exact .inr ⟨.posting, hposting⟩
  ids i j a b ha hb hid := htidy.ids_append hfresh ha hb hid
  promises := by
    intro i j a b ha hb hna hnb hsame
    obtain ha | ⟨hi, rfl⟩ := getElem?_append_call calls call ha
    · have hlt := htidy.issued i a ha hna
      obtain hb | ⟨-, rfl⟩ := getElem?_append_call calls call hb
      · exact htidy.promises i j a b ha hb hna hnb hsame
      · omega
    · obtain hb | ⟨hj, rfl⟩ := getElem?_append_call calls a hb
      · have hlt := htidy.issued j b hb hnb
        omega
      · exact hi.trans hj.symm
  issued := by
    intro i other hother hnot
    show other.promise < env.next_promise + 1
    obtain hother | ⟨-, rfl⟩ := getElem?_append_call calls call hother
    · have hlt := htidy.issued i other hother hnot
      omega
    · omega
  entry_ids := by
    show ((map_set env.kms.pending_requests call.request_id env.next_promise).map Prod.fst).Nodup
    rw [htidy.map_set_fresh hfresh, List.map_append, List.map_singleton]
    refine List.nodup_append.mpr ⟨htidy.entry_ids, List.nodup_singleton _, ?_⟩
    intro id hmem other hother heq
    obtain rfl := List.mem_singleton.mp hother
    subst heq
    obtain ⟨entry, hentry, hid⟩ := List.mem_map.mp hmem
    obtain ⟨i, owner, howner, hsame, -⟩ := htidy.entries entry hentry
    exact hfresh (List.mem_map.mpr ⟨owner, List.mem_of_getElem? howner, hsame.trans hid⟩)
  entry_timers := by
    intro entry hmem
    have hmem : entry ∈ map_set env.kms.pending_requests call.request_id env.next_promise := hmem
    rw [htidy.map_set_fresh hfresh] at hmem
    obtain hmem | hmem := List.mem_append.mp hmem
    · obtain ⟨timer, htimer, heq⟩ := htidy.entry_timers entry hmem
      exact ⟨timer, List.mem_append_left _ htimer, heq⟩
    · obtain rfl := List.mem_singleton.mp hmem
      exact ⟨_, List.mem_append_right _ (List.mem_singleton_self _), rfl⟩
  entries := by
    intro entry hmem
    have hmem : entry ∈ map_set env.kms.pending_requests call.request_id env.next_promise := hmem
    rw [htidy.map_set_fresh hfresh] at hmem
    obtain hmem | hmem := List.mem_append.mp hmem
    · obtain ⟨i, owner, howner, hrest⟩ := htidy.entries entry hmem
      exact ⟨i, owner, getElem?_append_of_call howner call, hrest⟩
    · obtain rfl := List.mem_singleton.mp hmem
      exact ⟨calls.length, call, by simp, rfl, hpromise, .inl hposting⟩
  timers := by
    intro timer hmem
    obtain hmem | hmem := List.mem_append.mp hmem
    · obtain ⟨i, owner, howner, hrest⟩ := htidy.timers timer hmem
      exact ⟨i, owner, getElem?_append_of_call howner call, hrest⟩
    · obtain rfl := List.mem_singleton.mp hmem
      exact ⟨calls.length, call, by simp, rfl, hpromise, hposting.not_settled⟩
  responses := by
    intro response hmem
    obtain ⟨hlt, hunarmed⟩ := htidy.responses response hmem
    refine ⟨Nat.lt_succ_of_lt hlt, fun timer htimer => ?_⟩
    obtain htimer | htimer := List.mem_append.mp htimer
    · exact hunarmed timer htimer
    · obtain rfl := List.mem_singleton.mp htimer
      exact Nat.ne_of_gt hlt

end send

end Tidy

theorem Tidy.resume {s next : Exchange} {i : Nat} {settled : Settled} (htidy : Tidy s.env s.calls)
    {builtins : Builtins} (hdisarmed : Disarmed s (.resume i settled)) (hstep : s.step builtins (.resume i settled) = some next) :
    Tidy next.env next.calls := by
  simp only [Exchange.step] at hstep
  split at hstep
  · contradiction
  · rename_i call hcall
    obtain ⟨outcome, hret⟩ | ⟨stage, hat⟩ := htidy.stages i call hcall
    · simp [hret] at hstep
    · have hrunning := hat.not_settled
      -- a call that gives up has no timer of its own armed
      have hunarmed : ∀ op next, call.rest = .ask op next → GivesUp op settled →
          ∀ timer ∈ s.env.timers, timer.1 ≠ call.promise := by
        intro op next hrest hgives timer hmem heq
        obtain ⟨j, owner, howner, hid, hpromise, hnot⟩ := htidy.timers timer hmem
        obtain rfl := htidy.promises j i owner call howner hcall hnot hrunning (hpromise.trans heq)
        obtain rfl := Option.some.inj (howner.symm.trans hcall)
        exact hdisarmed owner op next hcall hrest hgives timer hmem hid.symm
      cases stage with
      | posting =>
        obtain ⟨req, hrest⟩ := hat
        simp only [hrest, Option.map_eq_some_iff] at hstep
        obtain ⟨result, hanswer, rfl⟩ := hstep
        cases settled with
        | fetched outcome =>
          obtain rfl := Option.some.inj hanswer
          simp only [settle_posted]
          cases outcome with
          | error e => exact htidy.settle hcall hrunning (hunarmed _ _ hrest trivial) _
          | ok http_response =>
            dsimp only
            split
            · have hwaiting : (⟨call.request_id, call.promise, .ask (.response call.promise) answered⟩ : Sending).At .waiting :=
                rfl
              exact htidy.advance hcall hrunning (.inr ⟨_, hwaiting⟩) (fun hdone => absurd hdone hwaiting.not_settled)
                (.inl hwaiting)
            · have hreading : (⟨call.request_id, call.promise, .ask (.text http_response) (read_error http_response)⟩ :
                  Sending).At .reading := ⟨http_response, rfl⟩
              refine (htidy.drop_entries (Tidy.map_delete_sublist _ call.request_id)).advance hcall hrunning
                (.inr ⟨_, hreading⟩) (fun hdone => absurd hdone hreading.not_settled) (.inr fun entry hmem => ?_)
              exact bne_iff_ne.mp (List.mem_filter.mp hmem).2
        | _ => simp [answer] at hanswer
      | waiting =>
        rw [Sending.At] at hat
        simp only [hat, Option.map_eq_some_iff] at hstep
        obtain ⟨result, hanswer, rfl⟩ := hstep
        cases settled with
        | own => exact htidy.settle hcall hrunning (htidy.responses _ (Tidy.mem_of_lookup hanswer)).2 _
        | _ => simp [answer] at hanswer
      | reading =>
        obtain ⟨http_response, hrest⟩ := hat
        simp only [hrest, Option.map_eq_some_iff] at hstep
        obtain ⟨result, hanswer, rfl⟩ := hstep
        cases settled with
        | text outcome =>
          obtain rfl := Option.some.inj hanswer
          obtain ⟨result, hsettle⟩ := @settle_read_error http_response outcome s.env
          rw [hsettle]
          exact htidy.settle hcall hrunning (hunarmed _ _ hrest trivial) result
        | _ => simp [answer] at hanswer

/-- Every step keeps the pending requests tidy, unless a call gives up with its timer
    armed. -/
theorem exchange_step_tidy {builtins : Builtins} {s next : Exchange} {label : ExchangeLabel} (htidy : Tidy s.env s.calls)
    (hdisarmed : Disarmed s label) (hstep : s.step builtins label = some next) : Tidy next.env next.calls := by
  cases label with
  | send request_id wrapped =>
    simp only [Exchange.step, Option.ite_none_left_eq_some, Option.some.injEq] at hstep
    obtain ⟨hfresh, rfl⟩ := hstep
    rw [settle_send]
    split
    · exact htidy.send_refused hfresh ⟨_, rfl⟩
    · have hposting : (⟨request_id, s.env.next_promise, .ask (.http_do (message_request builtins s.env.kms wrapped))
          (posted request_id s.env.next_promise)⟩ : Sending).At .posting := ⟨_, rfl⟩
      exact htidy.send_registered hfresh rfl hposting
  | resume i settled => exact htidy.resume hdisarmed hstep
  | deliver data =>
    obtain rfl := Option.some.inj hstep
    exact htidy.handle_kms_message data
  | timeout promise =>
    simp only [Exchange.step, Option.map_eq_some_iff] at hstep
    obtain ⟨env, hfire, rfl⟩ := hstep
    exact htidy.fire hfire
  | wait millis =>
    obtain rfl := Option.some.inj hstep
    exact htidy.wait millis

theorem Tidy.hygiene {s : Exchange} (htidy : Tidy s.env s.calls) : Hygiene s where
  entry := by
    intro call hmem hsettled entry hentry hid
    obtain ⟨i, hcall⟩ := List.mem_iff_getElem?.mp hmem
    obtain ⟨j, owner, howner, hsame, -, hopen⟩ := htidy.entries entry hentry
    obtain rfl := htidy.ids i j call owner hcall howner (hid.symm.trans hsame.symm)
    obtain rfl := Option.some.inj (howner.symm.trans hcall)
    obtain hat | hat := hopen
    · exact hat.not_settled hsettled
    · exact hat.not_settled hsettled
  timer := by
    intro call hmem hsettled timer htimer hid
    obtain ⟨i, hcall⟩ := List.mem_iff_getElem?.mp hmem
    exact (htidy.timer_of_id hcall htimer hid).2 hsettled
  consumer := by
    intro entry hentry
    obtain ⟨i, owner, howner, hsame, -, hopen⟩ := htidy.entries entry hentry
    refine ⟨owner, List.mem_of_getElem? howner, hsame, ?_⟩
    obtain hat | hat := hopen
    · exact hat.not_settled
    · exact hat.not_settled

/-- A call that gives up with its timer armed settles with it. -/
theorem gives_up_unclean {builtins : Builtins} {s : Exchange} {label : ExchangeLabel} (htidy : Tidy s.env s.calls)
    (harmed : ¬ Disarmed s label) : ∃ next, s.step builtins label = some next ∧ ¬ Hygiene next := by
  cases label with
  | resume i settled =>
    simp only [Disarmed] at harmed
    push Not at harmed
    obtain ⟨call, op, next, hcall, hrest, hgives, timer, hmem, hid⟩ := harmed
    have hbroken : ∀ outcome, ¬ Hygiene { env := s.env, calls := s.calls.set i { call with rest := .ret (outcome, ()) } } := by
      intro outcome hhygiene
      refine hhygiene.timer { call with rest := .ret (outcome, ()) } ?_ ⟨outcome, rfl⟩ timer hmem hid
      exact List.mem_set (List.getElem?_eq_some_iff.mp hcall).1 _
    obtain ⟨outcome, hret⟩ | ⟨stage, hat⟩ := htidy.stages i call hcall
    · rw [hret] at hrest
      contradiction
    · cases stage with
      | posting =>
        obtain ⟨req, hat⟩ := hat
        obtain rfl : op = .http_do req := (Program.ask.inj (hrest.symm.trans hat)).1
        cases settled with
        | fetched outcome =>
          cases outcome with
          | error e =>
            refine ⟨_, ?_, hbroken (.error e)⟩
            simp only [Exchange.step, hcall, hat, answer, Option.map_some, settle_posted]
          | ok http_response => exact hgives.elim
        | _ => exact hgives.elim
      | waiting =>
        obtain rfl : op = .response call.promise := (Program.ask.inj (hrest.symm.trans hat)).1
        exact hgives.elim
      | reading =>
        obtain ⟨http_response, hat⟩ := hat
        obtain rfl : op = .text http_response := (Program.ask.inj (hrest.symm.trans hat)).1
        cases settled with
        | text result =>
          obtain ⟨outcome, hsettle⟩ := @settle_read_error http_response result s.env
          refine ⟨_, ?_, hbroken outcome⟩
          simp only [Exchange.step, hcall, hat, answer, Option.map_some, hsettle]
        | _ => exact hgives.elim
  | _ => exact absurd trivial harmed

/-- Settled calls leave nothing behind throughout a run exactly if no call gives up while
    its timer is armed. -/
theorem pending_hygiene_iff (builtins : Builtins) (kms : KmsClient) (hnone : kms.pending_requests = [])
    (labels : List ExchangeLabel) :
    (exchange builtins kms).Throughout Hygiene (exchange builtins kms).init labels ↔
      (exchange builtins kms).Meets Disarmed (exchange builtins kms).init labels :=
  Machine.throughout_iff_meets (fun _ => Tidy.hygiene) (fun _ _ _ htidy hcond hstep => exchange_step_tidy htidy hcond hstep)
    (fun _ _ htidy hcond => gives_up_unclean htidy hcond) (Tidy.init kms hnone) labels

section sample

/-- A request that times out, and its call that goes on. -/
def timed_out_labels : List ExchangeLabel :=
  [.send "r1" "w1", .resume 0 (.fetched (.ok ⟨202, true⟩)), .wait 30000, .timeout 1, .resume 0 .own]

theorem expired_request_hygiene : (exchange sample_builtins sample_client).Throughout Hygiene
    (exchange sample_builtins sample_client).init timed_out_labels := by
  refine (pending_hygiene_iff sample_builtins sample_client rfl timed_out_labels).mpr ?_
  refine ⟨trivial, fun _ _ => ⟨?_, fun _ _ => ⟨trivial, fun _ _ => ⟨trivial, fun _ _ => ⟨?_, fun _ _ => trivial⟩⟩⟩⟩⟩
  · rintro call op next - - hgives
    cases op <;> exact hgives.elim
  · rintro call op next - - hgives
    cases op <;> exact hgives.elim

/-- A POST that is rejected leaves its request pending and its timer armed. -/
theorem rejected_post_stays_pending : ¬ ∀ builtins kms, kms.pending_requests = [] → ∀ labels,
    (exchange builtins kms).Throughout Hygiene (exchange builtins kms).init labels := by
  intro hclaim
  obtain ⟨-, hsent⟩ := hclaim sample_builtins sample_client rfl
    [.send "r1" "w1", .resume 0 (.fetched (.error (.error "fetch failed")))]
  obtain ⟨-, hrejected⟩ := hsent _ rfl
  have hhygiene : Hygiene _ := hrejected _ rfl
  refine hhygiene.timer _ (List.mem_singleton_self _) ⟨_, rfl⟩ (1, ⟨"r1", 0⟩) ?_ rfl
  exact List.mem_singleton_self _

end sample

end webex.node.kms_client

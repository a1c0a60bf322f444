import WebexHandler.Interaction.Pool
import WebexHandler.Rust.KmsClient.Mailbox

open interaction json transition

namespace webex.rust.kms_client

/-- How far a call of `send_kms_request` has come with its entry in the pending list,
    which is known by its channel. -/
inductive EntryPhase
  | start
  | refused
  | waiting (rx : Nat)
  | removed (rx : Nat)
  | received (rx : Nat) (response : String)
  deriving DecidableEq, Repr

def EntryPhase.channel : EntryPhase → Option Nat
  | .start => none
  | .refused => none
  | .waiting rx => some rx
  | .removed rx => some rx
  | .received rx _ => some rx

def EntryPhase.after : EntryPhase → (op : Op) → Res op → EntryPhase
  | .start, .register_pending _, some rx => .waiting rx
  | .start, .register_pending _, none => .refused
  | .waiting rx, .remove_pending _, _ => .removed rx
  | .waiting rx, .wait_response _ _, .received response => .received rx response
  | .waiting rx, .wait_response _ _, .closed => .removed rx
  | phase, _, _ => phase

/-- A call of `send_kms_request`, with what is left of it. -/
structure Sending where
  request_id : String
  rest : Program Op Res (Except WebexError String × KmsClient)
  phase : EntryPhase := .start

def Sending.result (call : Sending) : Option (Except WebexError String) :=
  match call.rest with
  | .ret (outcome, _) => some outcome
  | .ask _ _ => none

/-- Any number of calls of `send_kms_request` on one client, with every response string
    that has been handled and the channel it was sent on. -/
structure Exchange where
  world : World := {}
  calls : List Sending := []
  handled : List (String × Option Nat) := []

/-- The channels on which the strings of a batch are sent, one after the other. -/
def Mailbox.receivers : Mailbox → List String → List (String × Option Nat)
  | _, [] => []
  | self, wrapped :: rest => (wrapped, self.pending.head?.map Prod.snd) :: (self.handle_response wrapped).receivers rest

inductive ExchangeLabel
  | send (kms : KmsClient) (request_id wrapped : String)
  | perform (call : Nat) (choice : Choice)
  | deliver (data : Value)

namespace Exchange

/-- A call begins with a fresh request id, takes its next operation, or a batch of any
    responses is delivered. -/
def step (crates : Crates) (s : Exchange) : ExchangeLabel → Option Exchange
  | .send kms request_id wrapped =>
    if request_id ∈ s.calls.map Sending.request_id then none
    else some { s with calls := s.calls ++
      [{ request_id := request_id, rest := send_kms_request crates request_id wrapped kms }] }
  | .perform i choice =>
    match s.calls[i]? with
    | none => none
    | some call =>
      match call.rest with
      | .ret _ => none
      | .ask op next => (World.perform op choice s.world).map fun (r, world) =>
          { s with world := world, calls := s.calls.set i { call with rest := next r, phase := call.phase.after op r } }
  | .deliver data => some { s with
      world := { s.world with mailbox := s.world.mailbox.handle_kms_message data }
      handled := s.handled ++ s.world.mailbox.receivers (Value.strings ((kms_messages data).getD [])) }

/-- The response strings that were sent on the channel of a call. -/
def responses (self : Exchange) (call : Sending) : List String :=
  match call.phase.channel with
  | none => []
  | some rx => self.handled.filterMap fun (response, receiver) => if receiver = some rx then some response else none

end Exchange

/-- All interleavings of `send_kms_request` calls and deliveries. -/
def exchange (crates : Crates) : Machine Exchange ExchangeLabel where
  init := {}
  step := Exchange.step crates

/-- The operations of one call on its own entry. -/
def entry_monitor (request_id : String) : Monitor Op Res EntryPhase where
  allowed phase op := match phase, op with
    | .start, .register_pending id => id = request_id
    | .waiting _, .fetch _ => True
    | .waiting _, .remove_pending id => id = request_id
    | .waiting rx, .wait_response channel _ => channel = rx
    | _, _ => False
  moves phase op r phase' := phase' = phase.after op r

/-- A call that returns a response has received it; any other has no entry left. -/
def Settled : Except WebexError String → EntryPhase → Prop
  | .ok response, phase => ∃ rx, phase = .received rx response
  | .error _, phase => phase = .refused ∨ ∃ rx, phase = .removed rx

theorem Settled.not_waiting {outcome : Except WebexError String} {rx : Nat} (hsettled : Settled outcome (.waiting rx)) :
    False := by
  cases outcome with
  | ok response =>
    obtain ⟨_, heq⟩ := hsettled
    cases heq
  | error e =>
    obtain heq | ⟨_, heq⟩ := hsettled
    · cases heq
    · cases heq

theorem send_kms_request_settles (crates : Crates) (request_id wrapped : String) (kms : KmsClient) :
    (send_kms_request crates request_id wrapped).Obeys (entry_monitor request_id) kms .start
      fun outcome _ phase => Settled outcome phase := by
  have hremoved : ∀ rx e, (remove_pending request_id >>= fun _ => (throw e : Kms String)).Obeys
      (entry_monitor request_id) kms (.waiting rx) fun outcome _ phase => Settled outcome phase := by
    intro rx e
    rw [Method.obeys_bind, obeys_remove_pending]
    refine ⟨rfl, ?_⟩
    rintro - phase rfl
    exact .inr ⟨rx, rfl⟩
  unfold send_kms_request
  rw [Method.obeys_bind, Method.obeys_get]
  dsimp only
  rw [Method.obeys_bind, obeys_register_pending]
  refine ⟨rfl, ?_⟩
  rintro registered phase rfl
  cases registered with
  | none => exact .inl rfl
  | some rx =>
    dsimp only
    rw [Method.obeys_bind, obeys_fetch]
    refine ⟨trivial, ?_⟩
    rintro posted phase rfl
    cases posted with
    | error e => exact hremoved rx _
    | ok resp =>
      dsimp only
      split
      · exact hremoved rx _
      · rw [Method.obeys_bind, obeys_wait_response]
        refine ⟨rfl, ?_⟩
        rintro waited phase rfl
        cases waited with
        | received response => exact ⟨rx, rfl⟩
        | closed => exact .inr ⟨rx, rfl⟩
        | timed_out => exact hremoved rx _

/-- What holds between the calls, the mailbox and the responses handled so far. -/
structure Tidy (calls : List Sending) (mailbox : Mailbox) (handled : List (String × Option Nat)) : Prop where
  obeys : ∀ (i : Nat) call, calls[i]? = some call →
    call.rest.Obeys (entry_monitor call.request_id) (fun out phase => Settled out.1 phase) call.phase
  ids : ∀ (i j : Nat) a b, calls[i]? = some a → calls[j]? = some b → a.request_id = b.request_id → i = j
  channels : ∀ (i j : Nat) a b rx, calls[i]? = some a → calls[j]? = some b → a.phase.channel = some rx →
    b.phase.channel = some rx → i = j
  issued : ∀ (i : Nat) call rx, calls[i]? = some call → call.phase.channel = some rx → rx < mailbox.next_rx
  room : mailbox.pending.length ≤ MAX_PENDING_REQUESTS
  pending_ids : (mailbox.pending.map Prod.fst).Nodup
  pending_channels : (mailbox.pending.map Prod.snd).Nodup
  owners : ∀ entry ∈ mailbox.pending, ∃ (i : Nat) (call : Sending), calls[i]? = some call ∧
    call.request_id = entry.1 ∧ call.phase = .waiting entry.2
  unsent : ∀ entry ∈ mailbox.pending, mailbox.sent entry.2 = none
  unissued : ∀ rx, mailbox.next_rx ≤ rx → mailbox.sent rx = none
  sent : ∀ rx response, mailbox.sent rx = some response ↔ (response, some rx) ∈ handled
  receivers : (handled.filterMap Prod.snd).Nodup
  received : ∀ (i : Nat) call rx response, calls[i]? = some call → call.phase = .received rx response →
    mailbox.sent rx = some response

namespace Tidy

variable {calls : List Sending} {mailbox : Mailbox} {handled : List (String × Option Nat)}

/-- A channel that nothing was sent on has not received anything. -/
theorem not_receiver (htidy : Tidy calls mailbox handled) {rx : Nat} (hunsent : mailbox.sent rx = none) :
    rx ∉ handled.filterMap Prod.snd := by
  intro hmem
  obtain ⟨⟨response, receiver⟩, hhandled, hreceiver⟩ := List.mem_filterMap.mp hmem
  obtain rfl : receiver = some rx := hreceiver
  rw [(htidy.sent rx response).mpr hhandled] at hunsent
  cases hunsent

/-- A call that has no more to do with its entry has none in the list. -/
theorem no_entry (htidy : Tidy calls mailbox handled) {i : Nat} {call : Sending} (hcall : calls[i]? = some call)
    (hphase : ∀ rx, call.phase ≠ .waiting rx) : ∀ entry ∈ mailbox.pending, entry.1 ≠ call.request_id := by
  intro entry hentry hid
  obtain ⟨j, other, hother, howner, hwaiting⟩ := htidy.owners entry hentry
  obtain rfl := htidy.ids i j call other hcall hother (hid.symm.trans howner.symm)
  obtain rfl : call = other := by simpa [hcall] using hother
  exact hphase entry.2 hwaiting

/-- A response without a pending request is dropped. -/
theorem drop (htidy : Tidy calls mailbox handled) (wrapped : String) :
    Tidy calls mailbox (handled ++ [(wrapped, none)]) where
  obeys := htidy.obeys
  ids := htidy.ids
  channels := htidy.channels
  issued := htidy.issued
  room := htidy.room
  pending_ids := htidy.pending_ids
  pending_channels := htidy.pending_channels
  owners := htidy.owners
  unsent := htidy.unsent
  unissued := htidy.unissued
  sent rx response := by simp [htidy.sent rx response]
  receivers := by simpa using htidy.receivers
  received := htidy.received

/-- A response resolves the first pending request, which had not received one. -/
theorem resolve (htidy : Tidy calls mailbox handled) (wrapped : String) {request_id : String} {tx : Nat}
    {rest : List (String × Nat)} (hpending : mailbox.pending = (request_id, tx) :: rest) :
    Tidy calls { mailbox with
      pending := rest
      sent := fun rx => if rx = tx then some wrapped else mailbox.sent rx } (handled ++ [(wrapped, some tx)]) := by
  have hfirst : (request_id, tx) ∈ mailbox.pending := by rw [hpending]; exact List.mem_cons_self
  have hrest : ∀ entry ∈ rest, entry ∈ mailbox.pending := by
    intro entry hentry
    rw [hpending]
    exact List.mem_cons_of_mem _ hentry
  have hunsent : mailbox.sent tx = none := htidy.unsent _ hfirst
  have hids := htidy.pending_ids
  have hchannels := htidy.pending_channels
  rw [hpending, List.map_cons, List.nodup_cons] at hids hchannels
  obtain ⟨i, call, hcall, -, hwaiting⟩ := htidy.owners _ hfirst
  have hissued : tx < mailbox.next_rx := htidy.issued i call tx hcall (by rw [hwaiting]; rfl)
  exact {
    obeys := htidy.obeys
    ids := htidy.ids
    channels := htidy.channels
    issued := htidy.issued
    room := by
      have hroom := htidy.room
      rw [hpending, List.length_cons] at hroom
      exact Nat.le_of_succ_le hroom
    pending_ids := hids.2
    pending_channels := hchannels.2
    owners := fun entry hentry => htidy.owners entry (hrest entry hentry)
    unsent := by
      intro entry hentry
      have hne : entry.2 ≠ tx := by
        intro heq
        exact hchannels.1 (List.mem_map.mpr ⟨entry, hentry, heq⟩)
      simpa [hne] using htidy.unsent entry (hrest entry hentry)
    unissued := by
      intro rx hrx
      have hne : rx ≠ tx := (Nat.lt_of_lt_of_le hissued hrx).ne'
      simpa [hne] using htidy.unissued rx hrx
    sent := by
      intro rx response
      by_cases heq : rx = tx
      · subst heq
        have hnever : (response, some rx) ∉ handled := by
          rw [← htidy.sent rx response, hunsent]
          exact nofun
        simp [hnever, eq_comm]
      · simp [heq, htidy.sent rx response]
    receivers := by
      rw [List.filterMap_append, List.nodup_append]
      refine ⟨htidy.receivers, by simp, ?_⟩
      intro rx hrx other hother
      obtain rfl : other = tx := by simpa using hother
      rintro rfl
      exact htidy.not_receiver hunsent hrx
    received := by
      intro j other rx response hother hphase
      have hsent := htidy.received j other rx response hother hphase
      have hne : rx ≠ tx := by
        rintro rfl
        rw [hunsent] at hsent
        cases hsent
      simpa [hne] using hsent }

theorem handle_response (htidy : Tidy calls mailbox handled) (wrapped : String) :
    Tidy calls (mailbox.handle_response wrapped) (handled ++ [(wrapped, mailbox.pending.head?.map Prod.snd)]) := by
  unfold Mailbox.handle_response
  split
  · rename_i hnone
    simpa [hnone] using htidy.drop wrapped
  · rename_i request_id tx rest hpending
    simpa [hpending] using htidy.resolve wrapped hpending

theorem handle_responses (htidy : Tidy calls mailbox handled) (texts : List String) :
    Tidy calls (texts.foldl Mailbox.handle_response mailbox) (handled ++ mailbox.receivers texts) := by
  induction texts generalizing mailbox handled with
  | nil => simpa [Mailbox.receivers] using htidy
  | cons wrapped rest ih => simpa [Mailbox.receivers] using ih (htidy.handle_response wrapped)

theorem deliver (htidy : Tidy calls mailbox handled) (data : Value) :
    Tidy calls (mailbox.handle_kms_message data)
      (handled ++ mailbox.receivers (Value.strings ((kms_messages data).getD []))) := by
  unfold Mailbox.handle_kms_message
  cases kms_messages data with
  | none => simpa [Mailbox.receivers, Value.strings] using htidy
  | some messages => exact htidy.handle_responses _

/-- The entries of a call are its own. -/
theorem owner_eq (htidy : Tidy calls mailbox handled) {i : Nat} {call : Sending} (hcall : calls[i]? = some call)
    {entry : String × Nat} (hentry : entry ∈ mailbox.pending) (hwaiting : call.phase = .waiting entry.2) :
    call.request_id = entry.1 := by
  obtain ⟨j, owner, howner, hid, hphase⟩ := htidy.owners entry hentry
  obtain rfl := htidy.channels i j call owner entry.2 hcall howner (by rw [hwaiting]; rfl) (by rw [hphase]; rfl)
  obtain rfl : call = owner := by simpa [hcall] using howner
  exact hid

/-- A call goes on without a change to the list. Its entry, if it has one, stays its own. -/
theorem set_call (htidy : Tidy calls mailbox handled) {i : Nat} {call call' : Sending} (hcall : calls[i]? = some call)
    (hid : call'.request_id = call.request_id)
    (hobeys : call'.rest.Obeys (entry_monitor call'.request_id) (fun out phase => Settled out.1 phase) call'.phase)
    (hchannel : call'.phase.channel = call.phase.channel)
    (hentry : ∀ entry ∈ mailbox.pending, call.phase = .waiting entry.2 → call'.phase = .waiting entry.2)
    (hreceived : ∀ rx response, call'.phase = .received rx response → mailbox.sent rx = some response) :
    Tidy (calls.set i call') mailbox handled := by
  have hlt : i < calls.length := (List.getElem?_eq_some_iff.mp hcall).1
  -- each call of the new list has the request id and the channel of the one it replaces
  have hold : ∀ (j : Nat) other, (calls.set i call')[j]? = some other → ∃ old, calls[j]? = some old ∧
      other.request_id = old.request_id ∧ other.phase.channel = old.phase.channel := by
    intro j other hother
    obtain ⟨rfl, rfl⟩ | ⟨-, hother⟩ := getElem?_set_cases hother
    · exact ⟨call, hcall, hid, hchannel⟩
    · exact ⟨other, hother, rfl, rfl⟩
  exact {
    obeys := by
      intro j other hother
      obtain ⟨rfl, rfl⟩ | ⟨-, hother⟩ := getElem?_set_cases hother
      · exact hobeys
      · exact htidy.obeys j other hother
    ids := by
      intro j k a b ha hb hsame
      obtain ⟨a', ha', hida, -⟩ := hold j a ha
      obtain ⟨b', hb', hidb, -⟩ := hold k b hb
      exact htidy.ids j k a' b' ha' hb' (by rw [← hida, ← hidb, hsame])
    channels := by
      intro j k a b rx ha hb hrxa hrxb
      obtain ⟨a', ha', -, hcha⟩ := hold j a ha
      obtain ⟨b', hb', -, hchb⟩ := hold k b hb
      exact htidy.channels j k a' b' rx ha' hb' (hcha ▸ hrxa) (hchb ▸ hrxb)
    issued := by
      intro j other rx hother hrx
      obtain ⟨old, hold, -, hch⟩ := hold j other hother
      exact htidy.issued j old rx hold (hch ▸ hrx)
    room := htidy.room
    pending_ids := htidy.pending_ids
    pending_channels := htidy.pending_channels
    owners := by
      intro entry hmem
      obtain ⟨j, owner, howner, hownerid, hwaiting⟩ := htidy.owners entry hmem
      by_cases heq : j = i
      · subst heq
        obtain rfl : call = owner := by simpa [hcall] using howner
        exact ⟨j, call', List.getElem?_set_self hlt, hid.trans hownerid, hentry entry hmem hwaiting⟩
      · exact ⟨j, owner, (List.getElem?_set_ne (Ne.symm heq)).trans howner, hownerid, hwaiting⟩
    unsent := htidy.unsent
    unissued := htidy.unissued
    sent := htidy.sent
    receivers := htidy.receivers
    received := by
      intro j other rx response hother hphase
      obtain ⟨rfl, rfl⟩ | ⟨-, hother⟩ := getElem?_set_cases hother
      · exact hreceived rx response hphase
      · exact htidy.received j other rx response hother hphase }

/-- `pending.retain`. -/
theorem remove_pending (htidy : Tidy calls mailbox handled) (request_id : String) :
    Tidy calls (mailbox.remove_pending request_id) handled where
  obeys := htidy.obeys
  ids := htidy.ids
  channels := htidy.channels
  issued := htidy.issued
  room := (List.length_filter_le _ _).trans htidy.room
  pending_ids := htidy.pending_ids.sublist (List.filter_sublist.map Prod.fst)
  pending_channels := htidy.pending_channels.sublist (List.filter_sublist.map Prod.snd)
  owners entry hentry := htidy.owners entry (List.mem_of_mem_filter hentry)
  unsent entry hentry := htidy.unsent entry (List.mem_of_mem_filter hentry)
  unissued := htidy.unissued
  sent := htidy.sent
  receivers := htidy.receivers
  received := htidy.received

/-- A call registers its entry, on a channel that is new. -/
theorem register_pending (htidy : Tidy calls mailbox handled) {i : Nat} {call call' : Sending}
    (hcall : calls[i]? = some call) (hstart : call.phase = .start) (hid : call'.request_id = call.request_id)
    (hobeys : call'.rest.Obeys (entry_monitor call'.request_id) (fun out phase => Settled out.1 phase) call'.phase)
    (hphase : call'.phase = .waiting mailbox.next_rx) (hroom : mailbox.pending.length < MAX_PENDING_REQUESTS) :
    Tidy (calls.set i call') { mailbox with
      pending := mailbox.pending ++ [(call.request_id, mailbox.next_rx)]
      next_rx := mailbox.next_rx + 1 } handled := by
  have hlt : i < calls.length := (List.getElem?_eq_some_iff.mp hcall).1
  have hunsent : mailbox.sent mailbox.next_rx = none := htidy.unissued _ (Nat.le_refl _)
  -- no entry has the id or the channel of the new one
  have hnoid : ∀ entry ∈ mailbox.pending, entry.1 ≠ call.request_id :=
    htidy.no_entry hcall fun rx heq => nomatch hstart.symm.trans heq
  have hchannel : call'.phase.channel = some mailbox.next_rx := by rw [hphase]; rfl
  have hold : ∀ entry ∈ mailbox.pending, entry.2 < mailbox.next_rx := by
    intro entry hentry
    obtain ⟨j, owner, howner, -, hwaiting⟩ := htidy.owners entry hentry
    exact htidy.issued j owner entry.2 howner (by rw [hwaiting]; rfl)
  exact {
    obeys := by
      intro j other hother
      obtain ⟨rfl, rfl⟩ | ⟨-, hother⟩ := getElem?_set_cases hother
      · exact hobeys
      · exact htidy.obeys j other hother
    ids := by
      intro j k a b ha hb hsame
      obtain ⟨rfl, rfl⟩ | ⟨-, hold_a⟩ := getElem?_set_cases ha
      · obtain ⟨rfl, -⟩ | ⟨-, hold_b⟩ := getElem?_set_cases hb
        · rfl
        · exact htidy.ids j k call b hcall hold_b (hid.symm.trans hsame)
      · obtain ⟨rfl, rfl⟩ | ⟨-, hold_b⟩ := getElem?_set_cases hb
        · exact htidy.ids j k a call hold_a hcall (hsame.trans hid)
        · exact htidy.ids j k a b hold_a hold_b hsame
    channels := by
      intro j k a b rx ha hb hrxa hrxb
      obtain ⟨rfl, rfl⟩ | ⟨-, hold_a⟩ := getElem?_set_cases ha
      · obtain ⟨rfl, -⟩ | ⟨-, hold_b⟩ := getElem?_set_cases hb
        · rfl
        · rw [hchannel, Option.some.injEq] at hrxa
          exact absurd (htidy.issued k b rx hold_b hrxb) (by omega)
      · obtain ⟨rfl, rfl⟩ | ⟨-, hold_b⟩ := getElem?_set_cases hb
        · rw [hchannel, Option.some.injEq] at hrxb
          exact absurd (htidy.issued j a rx hold_a hrxa) (by omega)
        · exact htidy.channels j k a b rx hold_a hold_b hrxa hrxb
    issued := by
      intro j other rx hother hrx
      obtain ⟨rfl, rfl⟩ | ⟨-, hother⟩ := getElem?_set_cases hother
      · rw [hchannel, Option.some.injEq] at hrx
        exact hrx ▸ Nat.lt_succ_self _
      · exact Nat.lt_succ_of_lt (htidy.issued j other rx hother hrx)
    room := by
      rw [List.length_append]
      exact hroom
    pending_ids := by
      rw [List.map_append, List.nodup_append]
      refine ⟨htidy.pending_ids, by simp, ?_⟩
      intro id hmem other hother
      obtain ⟨entry, hentry, rfl⟩ := List.mem_map.mp hmem
      obtain rfl : other = call.request_id := by simpa using hother
      exact hnoid entry hentry
    pending_channels := by
      rw [List.map_append, List.nodup_append]
      refine ⟨htidy.pending_channels, by simp, ?_⟩
      intro rx hmem other hother
      obtain ⟨entry, hentry, rfl⟩ := List.mem_map.mp hmem
      obtain rfl : other = mailbox.next_rx := by simpa using hother
      exact Nat.ne_of_lt (hold entry hentry)
    owners := by
      intro entry hmem
      obtain hmem | hmem := List.mem_append.mp hmem
      · obtain ⟨j, owner, howner, hownerid, hwaiting⟩ := htidy.owners entry hmem
        have hne : j ≠ i := by
          rintro rfl
          obtain rfl : call = owner := by simpa [hcall] using howner
          exact nomatch hstart.symm.trans hwaiting
        exact ⟨j, owner, (List.getElem?_set_ne (Ne.symm hne)).trans howner, hownerid, hwaiting⟩
      · obtain rfl := List.mem_singleton.mp hmem
        exact ⟨i, call', List.getElem?_set_self hlt, hid, hphase⟩
    unsent := by
      intro entry hmem
      obtain hmem | hmem := List.mem_append.mp hmem
      · exact htidy.unsent entry hmem
      · obtain rfl := List.mem_singleton.mp hmem
        exact hunsent
    unissued := fun rx hrx => htidy.unissued rx (Nat.le_of_succ_le hrx)
    sent := htidy.sent
    receivers := htidy.receivers
    received := by
      intro j other rx response hother hreceived
      obtain ⟨rfl, rfl⟩ | ⟨-, hother⟩ := getElem?_set_cases hother
      · exact nomatch hphase.symm.trans hreceived
      · exact htidy.received j other rx response hother hreceived }

/-- A call begins, with a request id that no other call has. -/
theorem send (htidy : Tidy calls mailbox handled) {call : Sending} (hfresh : call.request_id ∉ calls.map Sending.request_id)
    (hstart : call.phase = .start)
    (hobeys : call.rest.Obeys (entry_monitor call.request_id) (fun out phase => Settled out.1 phase) call.phase) :
    Tidy (calls ++ [call]) mailbox handled := by
  have hnone : call.phase.channel = none := by rw [hstart]; rfl
  have hnot : ∀ (i : Nat) other, calls[i]? = some other → other.request_id ≠ call.request_id := by
    intro i other hother heq
    exact hfresh (List.mem_map.mpr ⟨other, List.mem_of_getElem? hother, heq⟩)
  exact {
    obeys := by
      intro i other hother
      obtain hother | ⟨-, rfl⟩ := getElem?_concat_cases hother
      · exact htidy.obeys i other hother
      · exact hobeys
    ids := by
      intro i j a b ha hb hsame
      obtain hold_a | ⟨rfl, rfl⟩ := getElem?_concat_cases ha
      · obtain hold_b | ⟨-, rfl⟩ := getElem?_concat_cases hb
        · exact htidy.ids i j a b hold_a hold_b hsame
        · exact absurd hsame (hnot i a hold_a)
      · obtain hold_b | ⟨rfl, -⟩ := getElem?_concat_cases hb
        · exact absurd hsame.symm (hnot j b hold_b)
        · rfl
    channels := by
      intro i j a b rx ha hb hrxa hrxb
      obtain ha | ⟨-, rfl⟩ := getElem?_concat_cases ha
      · obtain hb | ⟨-, rfl⟩ := getElem?_concat_cases hb
        · exact htidy.channels i j a b rx ha hb hrxa hrxb
        · exact nomatch hnone.symm.trans hrxb
      · exact nomatch hnone.symm.trans hrxa
    issued := by
      intro i other rx hother hrx
      obtain hother | ⟨-, rfl⟩ := getElem?_concat_cases hother
      · exact htidy.issued i other rx hother hrx
      · exact nomatch hnone.symm.trans hrx
    room := htidy.room
    pending_ids := htidy.pending_ids
    pending_channels := htidy.pending_channels
    owners := by
      intro entry hentry
      obtain ⟨i, owner, howner, hrest⟩ := htidy.owners entry hentry
      have hlt : i < calls.length := (List.getElem?_eq_some_iff.mp howner).1
      exact ⟨i, owner, (List.getElem?_append_left hlt).trans howner, hrest⟩
    unsent := htidy.unsent
    unissued := htidy.unissued
    sent := htidy.sent
    receivers := htidy.receivers
    received := by
      intro i other rx response hother hphase
      obtain hother | ⟨-, rfl⟩ := getElem?_concat_cases hother
      · exact htidy.received i other rx response hother hphase
      · exact nomatch hstart.symm.trans hphase }

/-- A call performs its next operation. -/
theorem perform {world world' : World} (htidy : Tidy calls world.mailbox handled) {i : Nat} {call : Sending} {op : Op}
    {next : Res op → Program Op Res (Except WebexError String × KmsClient)} {choice : Choice} {r : Res op}
    (hcall : calls[i]? = some call) (hrest : call.rest = .ask op next)
    (hperform : World.perform op choice world = some (r, world')) :
    Tidy (calls.set i { call with rest := next r, phase := call.phase.after op r }) world'.mailbox handled := by
  have hobeys := htidy.obeys i call hcall
  rw [hrest] at hobeys
  obtain ⟨hallowed, hnext⟩ := hobeys
  have hafter := hnext r _ rfl
  cases hphase : call.phase with
  | start =>
    cases op with
    | register_pending request_id =>
      obtain rfl : request_id = call.request_id := by simpa [entry_monitor, hphase] using hallowed
      cases choice with
      | done =>
        by_cases hfull : MAX_PENDING_REQUESTS ≤ world.mailbox.pending.length
        · simp only [World.perform, Mailbox.register_pending, hfull, if_true] at hperform
          cases hperform
          rw [hphase] at hafter
          refine htidy.set_call hcall rfl hafter ?_ ?_ ?_
          · rw [hphase]
            rfl
          · intro entry _ heq
            exact nomatch hphase.symm.trans heq
          · exact nofun
        · simp only [World.perform, Mailbox.register_pending, hfull, if_false] at hperform
          cases hperform
          rw [hphase] at hafter
          exact htidy.register_pending hcall hphase rfl hafter rfl (Nat.lt_of_not_le hfull)
      | _ => cases hperform
    | _ => simp [entry_monitor, hphase] at hallowed
  | waiting rx =>
    rw [hphase] at hafter
    cases op with
    | fetch req =>
      have hmailbox : world'.mailbox = world.mailbox := by
        cases choice with
        | fetched result answer =>
          simp only [World.perform] at hperform
          split at hperform
          · cases hperform
            cases answer with
            | none => rfl
            | some answer => rfl
          · simp only [Option.ite_none_right_eq_some, Option.some.injEq] at hperform
            cases hperform.2
            rfl
        | _ => cases hperform
      rw [hmailbox]
      refine htidy.set_call hcall rfl hafter ?_ ?_ ?_
      · rw [hphase]
        rfl
      · intro entry _ hwaiting
        exact hphase.symm.trans hwaiting
      · exact nofun
    | remove_pending request_id =>
      obtain rfl : request_id = call.request_id := by simpa [entry_monitor, hphase] using hallowed
      cases choice with
      | done =>
        simp only [World.perform, Option.some.injEq] at hperform
        cases hperform
        have hremoved := htidy.remove_pending call.request_id
        refine hremoved.set_call hcall rfl hafter ?_ ?_ ?_
        · rw [hphase]
          rfl
        · intro entry hentry hwaiting
          have hid : call.request_id = entry.1 := hremoved.owner_eq hcall hentry hwaiting
          have hkept := (List.mem_filter.mp hentry).2
          simp [hid] at hkept
        · exact nofun
      | _ => cases hperform
    | wait_response channel millis =>
      obtain rfl : channel = rx := by simpa [entry_monitor, hphase] using hallowed
      cases choice with
      | received =>
        simp only [World.perform, Option.map_eq_some_iff] at hperform
        obtain ⟨response, hsent, heq⟩ := hperform
        cases heq
        refine htidy.set_call hcall rfl hafter ?_ ?_ ?_
        · rw [hphase]
          rfl
        · intro entry hentry hwaiting
          obtain rfl : channel = entry.2 := by simpa using hphase.symm.trans hwaiting
          rw [htidy.unsent entry hentry] at hsent
          cases hsent
        · intro rx other heq
          cases heq
          exact hsent
      | closed =>
        simp only [World.perform, Option.ite_none_right_eq_some, Option.some.injEq] at hperform
        obtain ⟨⟨-, hgone⟩, heq⟩ := hperform
        cases heq
        refine htidy.set_call hcall rfl hafter ?_ ?_ ?_
        · rw [hphase]
          rfl
        · intro entry hentry hwaiting
          obtain rfl : channel = entry.2 := by simpa using hphase.symm.trans hwaiting
          exact absurd (List.mem_map_of_mem hentry) hgone
        · exact nofun
      | timed_out =>
        simp only [World.perform, Option.ite_none_right_eq_some, Option.some.injEq] at hperform
        obtain ⟨-, heq⟩ := hperform
        cases heq
        refine htidy.set_call hcall rfl hafter ?_ ?_ ?_
        · rw [hphase]
          rfl
        · intro entry _ hwaiting
          exact hphase.symm.trans hwaiting
        · exact nofun
      | _ => cases hperform
    | _ => simp [entry_monitor, hphase] at hallowed
  | refused => simp [entry_monitor, hphase] at hallowed
  | removed rx => simp [entry_monitor, hphase] at hallowed
  | received rx response => simp [entry_monitor, hphase] at hallowed

theorem init : Tidy [] {} [] where
  obeys := by simp
  ids := by simp
  channels := by simp
  issued := by simp
  room := Nat.zero_le _
  pending_ids := List.nodup_nil
  pending_channels := List.nodup_nil
  owners := by simp
  unsent := by simp
  unissued _ _ := rfl
  sent := by simp
  receivers := List.nodup_nil
  received := by simp

/-- The entry of a call is gone once it has settled. -/
theorem settled {outcome : Except WebexError String} (htidy : Tidy calls mailbox handled) {i : Nat} {call : Sending}
    (hcall : calls[i]? = some call) (hresult : call.result = some outcome) : Settled outcome call.phase := by
  have hobeys := htidy.obeys i call hcall
  unfold Sending.result at hresult
  split at hresult
  · rename_i out kms heq
    obtain rfl := Option.some.inj hresult
    rw [heq] at hobeys
    exact hobeys
  · cases hresult

end Tidy

/-- A step of any kind keeps the calls and the pending list in agreement. -/
theorem exchange_step_tidy {crates : Crates} {s next : Exchange} {label : ExchangeLabel}
    (htidy : Tidy s.calls s.world.mailbox s.handled) (hstep : s.step crates label = some next) :
    Tidy next.calls next.world.mailbox next.handled := by
  cases label with
  | send kms request_id wrapped =>
    simp only [Exchange.step, Option.ite_none_left_eq_some, Option.some.injEq] at hstep
    obtain ⟨hfresh, rfl⟩ := hstep
    exact htidy.send hfresh rfl (send_kms_request_settles crates request_id wrapped kms)
  | perform i choice =>
    simp only [Exchange.step] at hstep
    split at hstep
    · cases hstep
    · rename_i call hcall
      split at hstep
      · cases hstep
      · rename_i op next_of hrest
        simp only [Option.map_eq_some_iff] at hstep
        obtain ⟨⟨r, world'⟩, hperform, rfl⟩ := hstep
        exact htidy.perform hcall hrest hperform
  | deliver data =>
    obtain rfl := Option.some.inj hstep
    exact htidy.deliver data

theorem tidy_of_reachable {crates : Crates} {s : Exchange} (hreach : (exchange crates).Reachable Machine.Always s) :
    Tidy s.calls s.world.mailbox s.handled := by
  induction hreach with
  | init => exact Tidy.init
  | step _ _ hstep htidy => exact exchange_step_tidy htidy hstep

/-- At most one string is sent on each channel. -/
theorem responses_length_le_one {handled : List (String × Option Nat)} (rx : Nat)
    (hnodup : (handled.filterMap Prod.snd).Nodup) :
    (handled.filterMap fun (response, receiver) => if receiver = some rx then some response else none).length ≤ 1 := by
  induction handled with
  | nil => simp
  | cons head rest ih =>
    obtain ⟨response, receiver⟩ := head
    by_cases heq : receiver = some rx
    · subst heq
      simp only [List.filterMap_cons, List.nodup_cons] at hnodup
      have hrest : (rest.filterMap fun (response, receiver) =>
          if receiver = some rx then some response else none) = [] := by
        rw [List.filterMap_eq_nil_iff]
        intro entry hentry
        have hne : entry.2 ≠ some rx := by
          intro hsnd
          exact hnodup.1 (List.mem_filterMap.mpr ⟨entry, hentry, hsnd⟩)
        simp [hne]
      simp [hrest]
    · have hrest : (rest.filterMap Prod.snd).Nodup :=
        hnodup.sublist ((List.sublist_cons_self _ _).filterMap Prod.snd)
      simpa [heq] using ih hrest

/-- The pending list is bounded and without duplicates, its entries are those of running
    calls, a call that has returned left none, and responses and calls match at most one
    to one. -/
structure Hygiene (s : Exchange) : Prop where
  room : s.world.mailbox.pending.length ≤ MAX_PENDING_REQUESTS
  distinct : (s.world.mailbox.pending.map Prod.fst).Nodup
  running : ∀ entry ∈ s.world.mailbox.pending, ∃ call ∈ s.calls, call.request_id = entry.1 ∧ call.result = none
  returned : ∀ call ∈ s.calls, ∀ outcome, call.result = some outcome →
    ∀ entry ∈ s.world.mailbox.pending, entry.1 ≠ call.request_id
  one_receiver : ∀ response rx, (response, some rx) ∈ s.handled → ∀ (i j : Nat) a b, s.calls[i]? = some a →
    s.calls[j]? = some b → a.phase.channel = some rx → b.phase.channel = some rx → i = j
  one_response : ∀ call ∈ s.calls, (s.responses call).length ≤ 1
  response : ∀ call ∈ s.calls, ∀ response, call.result = some (.ok response) → s.responses call = [response]

/-- Whatever the order in which requests are registered, sent, answered, timed out and
    given up, the pending list stays bounded and holds the requests of running calls only. -/
theorem pending_hygiene (crates : Crates) (s : Exchange) (hreach : (exchange crates).Reachable Machine.Always s) :
    Hygiene s := by
  have htidy := tidy_of_reachable hreach
  have hone : ∀ call ∈ s.calls, (s.responses call).length ≤ 1 := by
    intro call _
    unfold Exchange.responses
    split
    · exact Nat.zero_le _
    · exact responses_length_le_one _ htidy.receivers
  exact {
    room := htidy.room
    distinct := htidy.pending_ids
    running := by
      intro entry hentry
      obtain ⟨i, call, hcall, hid, hwaiting⟩ := htidy.owners entry hentry
      refine ⟨call, List.mem_of_getElem? hcall, hid, ?_⟩
      cases hresult : call.result with
      | none => rfl
      | some outcome =>
        have hsettled := htidy.settled hcall hresult
        rw [hwaiting] at hsettled
        exact hsettled.not_waiting.elim
    returned := by
      intro call hmem outcome hresult
      obtain ⟨i, hcall⟩ := List.mem_iff_getElem?.mp hmem
      refine htidy.no_entry hcall ?_
      intro rx hwaiting
      have hsettled := htidy.settled hcall hresult
      rw [hwaiting] at hsettled
      exact hsettled.not_waiting
    one_receiver := fun _ rx _ i j a b ha hb hrxa hrxb => htidy.channels i j a b rx ha hb hrxa hrxb
    one_response := hone
    response := by
      intro call hmem response hresult
      obtain ⟨i, hcall⟩ := List.mem_iff_getElem?.mp hmem
      obtain ⟨rx, hphase⟩ : Settled (.ok response) call.phase := htidy.settled hcall hresult
      have hsent := (htidy.sent rx response).mp (htidy.received i call rx response hcall hphase)
      have hin : response ∈ s.responses call := by
        rw [Exchange.responses, hphase]
        exact List.mem_filterMap.mpr ⟨(response, some rx), hsent, by simp⟩
      obtain ⟨first, hfirst⟩ := List.length_eq_one_iff.mp
        (Nat.le_antisymm (hone call hmem) (List.length_pos_of_mem hin))
      rw [hfirst, List.mem_singleton] at hin
      rw [hfirst, hin] }

section sample

/-- A first call times out while a second waits, and one answer reaches the second. -/
def timed_out_labels : List ExchangeLabel :=
  [.send sample_client "r1" "w1", .send sample_client "r2" "w2", .perform 0 .done, .perform 1 .done,
    .perform 0 (.fetched (ok_response 202 []) (some answer_a_jwe)),
    .perform 1 (.fetched (ok_response 202 []) (some answer_b_jwe)), .perform 0 .timed_out, .perform 0 .done,
    .deliver (kms_event answer_a_jwe), .deliver (kms_event answer_b_jwe), .perform 1 .received]

theorem timed_out_hygiene :
    ∃ s, (exchange sample_crates).run (exchange sample_crates).init timed_out_labels = some s ∧ Hygiene s ∧
      s.calls.map Sending.result = [some (.error (.kms "KMS request r1 timed out after 30s")),
        some (.ok answer_a_jwe)] ∧ s.handled = [(answer_a_jwe, some 1), (answer_b_jwe, none)] := by
  have hrun : ((exchange sample_crates).run (exchange sample_crates).init timed_out_labels).map
      (fun s => (s.calls.map Sending.result, s.handled)) =
        some ([some (.error (.kms "KMS request r1 timed out after 30s")), some (.ok answer_a_jwe)],
          [(answer_a_jwe, some 1), (answer_b_jwe, none)]) := by decide
  rw [Option.map_eq_some_iff] at hrun
  obtain ⟨s, hs, hout⟩ := hrun
  simp only [Prod.mk.injEq] at hout
  exact ⟨s, hs, pending_hygiene sample_crates s (Machine.reachable_of_run hs), hout.1, hout.2⟩

end sample

end webex.rust.kms_client

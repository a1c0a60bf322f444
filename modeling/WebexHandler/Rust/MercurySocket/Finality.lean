import WebexHandler.Rust.MercurySocket.Loops

open interaction json transition

namespace webex.rust.mercury_socket

variable (crates : Crates)

def manual : MercuryEvent := .disconnected "manual"

/-- No part of the handling of a text frame writes or sends anything. -/
def unanswered (text : String) : Bool :=
  match parse_text crates text with
  | none => true
  | some message => match event_data message with
    | none => true
    | some (data, event_type) =>
      ((message.get "id").bind Value.as_str).isNone && (mercury_event crates data event_type).isNone

/-- The phase of a read loop that has just taken an item. -/
def item_phase : Option Item → Phase
  | some (.text text) => if unanswered crates text then .silent else .loud
  | some (.close frame) => if (Item.close frame).recoverable then .farewell else .loud
  | some (.error _) => .loud
  | some .other => .silent
  | none => .silent

/-- The read loops and the callers let a `disconnect` be the end. At its return no loop has
    anything left to emit for the item it took last, but for one that may still report a
    Close frame. Up to the next `connect` the loops take only items that nothing is emitted
    for, and at most one Close frame that is not a permanent failure, none if one was still
    to be reported. And if another call overlapped the `disconnect`, a loop on its way to
    that report looks at `should_reconnect` only while a `disconnect` was the last call to
    set it. -/
def Parting (s : State) : Label → Prop
  | .return_call n => s.closed = none → ∀ done overlapped, s.call n = some ⟨.ret (.ok none, ()), done, overlapped⟩ →
      (∀ loop ∈ s.loops, loop.phase ≠ .loud) ∧ s.farewells ≤ 1
  | .read socket => ∀ mark loop, s.closed = some mark → s.loops[socket]? = some loop →
      (∀ item, loop.rest.head = some (.next item) →
        item_phase crates item = .silent ∨ (item_phase crates item = .farewell ∧ mark.closes = 0)) ∧
      (mark.overlapped = true → loop.phase = .farewell → loop.looking = true → s.wanted = false)
  | _ => True

/-- The events that the read loops have sent since a `disconnect`. -/
def emitted (s : State) (mark : Mark) : List (Option Nat × MercuryEvent) :=
  (s.shared.events.drop mark.sent).filter (·.1.isSome)

/-- From the return of a `disconnect` up to the next `connect`, no ack is written, and
    apart from the reports of further `disconnect` calls nothing is emitted but at most
    one report of a close. -/
structure Final (s : State) (mark : Mark) : Prop where
  acks : s.acks.length = mark.acked
  emitted : emitted s mark = [] ∨ ∃ socket, emitted s mark = [(some socket, manual)]
  client : ∀ event ∈ s.shared.events.drop mark.sent, event.1 = none → event.2 = .disconnected "client"

section phases

/-- What an action makes of the phase. With `should_reconnect` down, a Close frame is only
    reported. -/
def Moves (before : Phase) : (action : Action) → Answer action → Phase → Prop
  | .next item, _, after => after = item_phase crates item
  | .get_should_reconnect, value, after =>
    (before = .silent → after = .silent) ∧ (before = .farewell → value = false → after = .farewell)
  | .send _, _, after => before = .farewell → after = .silent
  | .set_should_reconnect value, _, _ => value = false
  | _, _, after => before ≠ .loud → after = before

/-- A loop that handles this item goes from phase to phase, action by action. -/
def Proceeds : Option Item → Bool → Loop → Prop
  | _, _, .ret _ => True
  | item, looked, .ask action next => ∀ r, Moves crates (phase_at item looked (some action)) action r
      (phase_at (action.taken item) (action.looks looked) (next r).head) ∧
        Proceeds (action.taken item) (action.looks looked) (next r)

variable {crates} {item : Option Item} {looked : Bool}

theorem phase_at_send {event : MercuryEvent} (hphase : phase_at item looked (some (.send event)) ≠ .loud) :
    phase_at item looked (some (.send event)) = .farewell ∧ event = manual := by
  cases event with
  | disconnected reason =>
    simp only [phase_at] at hphase ⊢
    split at hphase
    · rename_i htest
      simp only [Bool.and_eq_true, beq_iff_eq] at htest
      exact ⟨if_pos (by simp [htest]), by rw [htest.2, manual]⟩
    · exact absurd rfl hphase
  | _ => exact absurd rfl hphase

/-- Only a Close frame that is not a permanent failure is followed by a farewell. -/
theorem phase_at_send_lost {event : MercuryEvent} (hlost : item.any Item.recoverable = false) :
    phase_at item looked (some (.send event)) = .loud := by
  cases event <;> simp [phase_at, hlost]

/-- What follows the loop is silent. -/
theorem connection_ended_proceeds (hdone : (item.any Item.recoverable && !looked) = false) :
    phase_at item looked connection_ended.head = .silent ∧ Proceeds crates item looked connection_ended := by
  have hsilent : phase_at item looked (some .get_should_reconnect) = .silent := by simp [phase_at, hdone]
  refine ⟨hsilent, ?_⟩
  intro should_reconnect
  rw [hsilent]
  cases should_reconnect with
  | false => exact ⟨⟨fun _ => rfl, nofun⟩, trivial⟩
  | true => exact ⟨⟨fun _ => rfl, nofun⟩, fun _ => ⟨fun _ => rfl, trivial⟩⟩

/-- A permanent failure is reported in full. -/
theorem handle_permanent_close_proceeds {rest : Loop} (error reason : String)
    (hlost : item.any Item.recoverable = false) (hrest : Proceeds crates item looked rest) :
    Proceeds crates item looked (handle_permanent_close error reason >>= fun _ => rest) := by
  have hloud : phase_at item looked (some (.send (.disconnected reason))) = .loud := phase_at_send_lost hlost
  intro _
  refine ⟨rfl, ?_⟩
  intro _
  refine ⟨nofun, ?_⟩
  intro _
  refine ⟨?_, hrest⟩
  intro hfarewell
  exact absurd (hloud.symm.trans hfarewell) nofun

/-- A close that is not permanent is only reported once the flag is down. -/
theorem handle_recoverable_close_proceeds (max_reconnect : Nat) (hfound : item.any Item.recoverable = true) :
    Proceeds crates item false (handle_recoverable_close max_reconnect >>= fun _ => connection_ended) := by
  have hended : phase_at item true connection_ended.head = .silent ∧ Proceeds crates item true connection_ended :=
    connection_ended_proceeds (by simp)
  obtain ⟨hsilent, hended⟩ := hended
  have hfarewell : phase_at item false (some .get_should_reconnect) = .farewell := by simp [phase_at, hfound]
  have hmanual : phase_at item true (some (.send manual)) = .farewell := by simp [phase_at, hfound, manual]
  intro should_reconnect
  rw [hfarewell]
  cases should_reconnect with
  | false => exact ⟨⟨nofun, fun _ _ => hmanual⟩, fun _ => ⟨fun _ => hsilent, hended⟩⟩
  | true =>
    refine ⟨⟨nofun, nofun⟩, ?_⟩
    intro attempt
    refine ⟨fun hloud => absurd rfl hloud, ?_⟩
    cases attempt with
    | none =>
      intro _
      exact ⟨rfl, fun _ => ⟨fun _ => hsilent, hended⟩⟩
    | some attempt =>
      intro _
      refine ⟨nofun, ?_⟩
      intro _
      refine ⟨fun hloud => absurd rfl hloud, ?_⟩
      intro _
      exact ⟨fun _ => hsilent, hended⟩

theorem handle_close_proceeds (max_reconnect : Nat) (frame : Option (UInt16 × String)) :
    phase_at (some (.close frame)) false (some (.set_connected false)) = item_phase crates (some (.close frame)) ∧
      Proceeds crates (some (.close frame)) false
        (handle_close_static max_reconnect ((frame.map Prod.fst).getD 1000) >>= fun _ => connection_ended) := by
  refine ⟨rfl, ?_⟩
  by_cases hcode : permanent ((frame.map Prod.fst).getD 1000) = true
  · have hlost : (some (Item.close frame)).any Item.recoverable = false := by simp [Item.recoverable, hcode]
    have hended : Proceeds crates (some (.close frame)) false connection_ended := (connection_ended_proceeds (by simp [hlost])).2
    have hloud : phase_at (some (.close frame)) false (some .cancel_stability_timer) = .loud := by simp [phase_at, hlost]
    intro _
    refine ⟨fun _ => rfl, ?_⟩
    intro _
    refine ⟨fun hquiet => absurd hloud hquiet, ?_⟩
    split
    · exact handle_permanent_close_proceeds _ _ hlost hended
    split
    · exact handle_permanent_close_proceeds _ _ hlost hended
    · rename_i h4401 h4400
      simp only [permanent, Bool.or_eq_true, beq_iff_eq] at hcode
      exact absurd hcode (by simp [h4401, h4400])
  · have hfound : (some (Item.close frame)).any Item.recoverable = true := by simp [Item.recoverable, hcode]
    simp only [permanent, Bool.or_eq_true, beq_iff_eq, not_or] at hcode
    obtain ⟨h4401, h4400, h4403⟩ := hcode
    have hfarewell : phase_at (some (.close frame)) false (some .get_should_reconnect) = .farewell := by
      simp [phase_at, hfound]
    intro _
    refine ⟨fun _ => rfl, ?_⟩
    intro _
    rw [if_neg h4401, if_neg (by simp [h4400, h4403])]
    refine ⟨fun _ => ?_, handle_recoverable_close_proceeds max_reconnect hfound⟩
    calc phase_at (some (.close frame)) false (some .get_should_reconnect) = .farewell := hfarewell
      _ = phase_at (some (.close frame)) false (some .cancel_stability_timer) := by simp [phase_at, hfound]

theorem send_event_proceeds {rest : Loop} (event : Option MercuryEvent) (hlost : item.any Item.recoverable = false)
    (hrest : Proceeds crates item looked rest) : Proceeds crates item looked (send_event event >>= fun _ => rest) := by
  cases event with
  | none => exact hrest
  | some event =>
    intro _
    refine ⟨?_, hrest⟩
    intro hfarewell
    rw [phase_at_send_lost hlost] at hfarewell
    cases hfarewell

theorem handle_text_proceeds (text : String) {rest : Loop}
    (hstart : phase_at (some (.text text)) false rest.head = .silent) (hrest : Proceeds crates (some (.text text)) false rest) :
    phase_at (some (.text text)) false (handle_text crates text >>= fun _ => rest).head =
        item_phase crates (some (.text text)) ∧
      Proceeds crates (some (.text text)) false (handle_text crates text >>= fun _ => rest) := by
  unfold handle_text
  cases hparsed : parse_text crates text with
  | none => exact ⟨hstart.trans (by simp [item_phase, unanswered, hparsed]), hrest⟩
  | some message =>
    simp only [handle_message_static]
    cases hfound : event_data message with
    | none => exact ⟨hstart.trans (by simp [item_phase, unanswered, hparsed, hfound]), hrest⟩
    | some pair =>
      obtain ⟨data, event_type⟩ := pair
      have hlost : (some (Item.text text)).any Item.recoverable = false := rfl
      have hsent := send_event_proceeds (mercury_event crates data event_type) hlost hrest
      simp only [send_ack, item_phase, unanswered, hparsed, hfound]
      cases (message.get "id").bind Value.as_str with
      | some msg_id => exact ⟨rfl, fun _ => ⟨fun hloud => absurd rfl hloud, hsent⟩⟩
      | none =>
        refine ⟨?_, hsent⟩
        cases mercury_event crates data event_type with
        | none => exact hstart
        | some event => exact phase_at_send_lost hlost

theorem read_loop_head (crates : Crates) (max_reconnect : Nat) (items : List Item) :
    ∃ item, (read_loop crates max_reconnect items).head = some (.next item) := by
  cases items with
  | nil => exact ⟨none, rfl⟩
  | cons item rest => cases item <;> exact ⟨_, rfl⟩

/-- A read loop goes from phase to phase whatever it has handled before. -/
theorem read_loop_proceeds (max_reconnect : Nat) (items : List Item) (item : Option Item) (looked : Bool) :
    Proceeds crates item looked (read_loop crates max_reconnect items) := by
  induction items generalizing item looked with
  | nil =>
    intro _
    exact connection_ended_proceeds rfl
  | cons taken rest ih =>
    have hnext (item : Option Item) (looked : Bool) :
        phase_at item looked (read_loop crates max_reconnect rest).head = .silent := by
      obtain ⟨next, hhead⟩ := read_loop_head crates max_reconnect rest
      rw [hhead]
      rfl
    cases taken with
    | text text => exact fun _ => handle_text_proceeds text (hnext _ _) (ih _ _)
    | close frame => exact fun _ => handle_close_proceeds max_reconnect frame
    | other => exact fun _ => ⟨hnext _ _, ih _ _⟩
    | error message =>
      intro _
      refine ⟨rfl, ?_⟩
      intro _
      refine ⟨nofun, ?_⟩
      intro _
      have hended : phase_at (some (.error message)) false connection_ended.head = .silent ∧
          Proceeds crates (some (.error message)) false connection_ended := connection_ended_proceeds rfl
      exact ⟨fun _ => hended.1, hended.2⟩

end phases

section calls

/-- What a caller is at: a `connect`, or a `disconnect` that may have taken the flag
    down. -/
inductive Errand
  | connecting
  | leaving (stopped : Bool)

def Errand.allows : Errand → Op → Prop
  | .connecting, .act (.send _) => False
  | .connecting, _ => True
  | .leaving _, .act (.set_should_reconnect value) => value = false
  | .leaving _, .act (.set_connected _) => True
  | .leaving _, .act .cancel_stability_timer => True
  | .leaving _, .act (.send event) => event = .disconnected "client"
  | .leaving _, _ => False

def Errand.after : Errand → Op → Errand
  | .leaving _, .act (.set_should_reconnect _) => .leaving true
  | errand, _ => errand

def errand_monitor : Monitor Op Res Errand where
  allowed errand op := errand.allows op
  moves errand op _ errand' := errand' = errand.after op

/-- Only a `disconnect` returns without a socket. -/
def Left (result : Except WebexError (Option Nat)) (errand : Errand) : Prop :=
  (result = .ok none → errand = .leaving true) ∧ ∀ socket, result = .ok (some socket) → errand = .connecting

theorem disconnect_errand : (disconnect ()).Obeys errand_monitor (fun out => Left out.1) (.leaving false) := by
  refine ⟨rfl, ?_⟩
  rintro _ _ rfl
  refine ⟨trivial, ?_⟩
  rintro _ _ rfl
  refine ⟨trivial, ?_⟩
  rintro _ _ rfl
  refine ⟨rfl, ?_⟩
  rintro _ _ rfl
  exact ⟨fun _ => rfl, nofun⟩

theorem errand_request (op : Op) (hallows : Errand.connecting.allows op) :
    Method.Yields errand_monitor (Method.request op : Caller (Res op)) () .connecting fun _ _ errand =>
      errand = .connecting := by
  apply Method.yields_request hallows
  rintro _ _ rfl
  rfl

theorem errand_bind {β : Type} (op : Op) {f : Res op → Caller β} {post : β → Unit → Errand → Prop}
    (hallows : Errand.connecting.allows op) (hf : ∀ r, (f r).Yields errand_monitor () .connecting post) :
    Method.Yields errand_monitor (Method.request op >>= f) () .connecting post := by
  apply Method.yields_bind_request hallows
  rintro r _ rfl
  exact hf r

theorem connect_internal_errand :
    (connect_internal crates).Yields errand_monitor () .connecting fun _ _ errand => errand = .connecting := by
  unfold connect_internal
  apply errand_bind (.act .get_base_url) trivial
  intro base_url
  apply errand_bind .now trivial
  intro timestamp
  apply Method.yields_bind_ofExcept
  intro prepared_url _
  apply errand_bind (.act (.set_connected false)) trivial
  intro _
  apply errand_bind (.connect_async prepared_url) trivial
  intro opened
  apply Method.yields_bind_ofExcept
  intro stream _
  apply errand_bind (.act .get_token) trivial
  intro token
  apply errand_bind .new_v4 trivial
  intro id
  apply errand_bind (.write (authorization_message id token)) trivial
  intro sent
  apply Method.yields_bind_ofExcept
  intro _ _
  apply errand_bind .timeout trivial
  intro timed_out
  apply Method.yields_bind_reject
  intro _
  apply Method.yields_bind_ofExcept
  intro items _
  apply errand_bind (.act (.set_connected true)) trivial
  intro _
  exact errand_request (.spawn_read_loop items) trivial

theorem connect_errand (ws_url token : String) :
    (connect crates ws_url token ()).Obeys errand_monitor (fun out => Left out.1) .connecting := by
  have hconnect : (connect crates ws_url token).Yields errand_monitor () .connecting fun value _ errand =>
      value ≠ none ∧ errand = .connecting := by
    apply errand_bind (.act (.set_token token)) trivial
    intro _
    apply errand_bind (.act (.set_base_url ws_url)) trivial
    intro _
    apply errand_bind (.act (.set_should_reconnect true)) trivial
    intro _
    apply errand_bind (.act .cancel_stability_timer) trivial
    intro _
    apply Method.yields_bind (connect_internal_errand crates)
    rintro socket _ _ rfl
    apply errand_bind (.act (.schedule_attempts_reset socket)) trivial
    intro _
    exact Method.yields_pure ⟨nofun, rfl⟩
  exact Program.Obeys.mono (fun _ _ hout => ⟨fun hnone => absurd rfl (hout _ hnone).1,
    fun socket hsocket => (hout _ hsocket).2⟩) hconnect

end calls

section invariant

variable {crates} {options : Options}

/-- What holds from the return of a `disconnect` up to the next `connect`. Unless another
    call overlapped it, no call sets `should_reconnect` in that time. -/
structure Parted (s : State) (mark : Mark) : Prop where
  alone : mark.overlapped = false → s.wanted = false
  acks : s.acks.length = mark.acked
  bound : mark.sent ≤ s.shared.events.length
  client : ∀ event ∈ s.shared.events.drop mark.sent, event.1 = none → event.2 = .disconnected "client"
  reported : ∀ event ∈ emitted s mark, event.2 = manual
  quiet : ∀ loop ∈ s.loops, loop.phase ≠ .loud
  closes : (emitted s mark).length + s.farewells ≤ mark.closes
  once : mark.closes ≤ 1

/-- What holds of a call in progress. -/
def Engaged (s : State) (call : Calling) : Prop :=
  ∃ errand, call.rest.Obeys errand_monitor (fun out => Left out.1) errand ∧
    (errand = .leaving true → call.overlapped = false → s.wanted = false) ∧
    (errand = .connecting → ∀ mark, s.closed = some mark → mark.overlapped = true)

structure PartingInv (crates : Crates) (s : State) : Prop where
  loops : ∀ loop ∈ s.loops, Proceeds crates loop.item loop.looked loop.rest
  flag : s.wanted = false → s.shared.should_reconnect = false
  apart : Apart s
  calls : ∀ n call, s.call n = some call → Engaged s call
  closed : ∀ mark, s.closed = some mark → Parted s mark

theorem Parted.final {s : State} {mark : Mark} (hparted : Parted s mark) : Final s mark := by
  refine ⟨hparted.acks, ?_, hparted.client⟩
  have hmanual := hparted.reported
  have hone : (emitted s mark).length ≤ 1 :=
    Nat.le_trans (Nat.le_add_right _ _) (Nat.le_trans hparted.closes hparted.once)
  cases hemitted : emitted s mark with
  | nil => exact .inl rfl
  | cons event rest =>
    rw [hemitted] at hmanual hone
    obtain rfl : rest = [] := List.eq_nil_of_length_eq_zero (by simpa using hone)
    obtain ⟨origin, sent⟩ := event
    have hsome : (origin, sent) ∈ emitted s mark := by simp [hemitted]
    obtain ⟨socket, rfl⟩ := Option.isSome_iff_exists.mp (List.mem_filter.mp hsome).2
    have hsent : sent = manual := hmanual _ List.mem_cons_self
    exact .inr ⟨socket, by rw [hsent]⟩

section read

variable {s : State} {socket : Nat} {loop : Reading} {action : Action} {rest : Loop} {mark : Mark}

/-- What one loop does to the number of those that have a Close frame to report. -/
theorem farewells_read (hloop : s.loops[socket]? = some loop) :
    (s.read socket loop action rest).farewells + (if loop.phase = .farewell then 1 else 0) =
      s.farewells + (if (loop.resume action s.shared.time rest).phase = .farewell then 1 else 0) := by
  obtain ⟨hlt, rfl⟩ := List.getElem?_eq_some_iff.mp hloop
  have hcount : (s.read socket s.loops[socket] action rest).farewells = _ := List.countP_set hlt
  have hmem : s.loops[socket].phase = .farewell → 0 < s.farewells := by
    intro hfarewell
    exact List.countP_pos_iff.mpr ⟨_, List.getElem_mem hlt, by simp [hfarewell]⟩
  simp only [beq_iff_eq] at hcount
  rw [hcount]
  change s.loops.countP (·.phase == .farewell) - _ + _ + _ = s.loops.countP (·.phase == .farewell) + _
  change _ → 0 < s.loops.countP (·.phase == .farewell) at hmem
  split
  · rename_i hfarewell
    have hpos := hmem hfarewell
    omega
  · omega

/-- Only `send` adds to the channel. -/
theorem apply_events {origin : Option Nat} {action : Action} {shared : Shared} (hsend : ∀ event, action ≠ .send event) :
    (shared.apply origin action).2.events = shared.events := by
  cases action with
  | send event => exact absurd rfl (hsend event)
  | take_attempt max_reconnect =>
    by_cases hmax : max_reconnect ≤ shared.reconnect_attempts
    · rw [Shared.apply, if_pos hmax]
    · rw [Shared.apply, if_neg hmax]
  | _ => rfl

/-- Only `set_should_reconnect` raises the flag. -/
theorem apply_flag {origin : Option Nat} {action : Action} {shared : Shared}
    (hset : ∀ value, action = .set_should_reconnect value → value = false)
    (hflag : shared.should_reconnect = false) : (shared.apply origin action).2.should_reconnect = false := by
  cases action with
  | set_should_reconnect value => exact hset value rfl
  | take_attempt max_reconnect =>
    by_cases hmax : max_reconnect ≤ shared.reconnect_attempts
    · rw [Shared.apply, if_pos hmax]
      exact hflag
    · rw [Shared.apply, if_neg hmax]
      exact hflag
  | _ => exact hflag

theorem quiet_read (hparted : Parted s mark) (hafter : (loop.resume action s.shared.time rest).phase ≠ .loud) :
    ∀ other ∈ (s.read socket loop action rest).loops, other.phase ≠ .loud := by
  intro other hother
  obtain ⟨n, hfound⟩ := List.mem_iff_getElem?.mp hother
  obtain ⟨-, rfl⟩ | ⟨-, hfound⟩ := getElem?_read hfound
  · exact hafter
  · exact hparted.quiet other (List.mem_of_getElem? hfound)

/-- An action that sends nothing and writes nothing. -/
theorem Parted.read_still {closes : Nat} (hparted : Parted s mark)
    (hsend : ∀ event, action ≠ .send event) (hack : ∀ message, action ≠ .ack message)
    (hafter : (loop.resume action s.shared.time rest).phase ≠ .loud)
    (hcloses : (emitted s mark).length + (s.read socket loop action rest).farewells ≤ closes) (honce : closes ≤ 1) :
    Parted (s.read socket loop action rest) { mark with closes := closes } := by
  have hevents : (s.read socket loop action rest).shared.events = s.shared.events := apply_events hsend
  have hacks : (s.read socket loop action rest).acks = s.acks := by
    cases action with
    | ack message => exact absurd rfl (hack message)
    | _ => rfl
  have hsame : emitted (s.read socket loop action rest) { mark with closes := closes } = emitted s mark := by
    unfold emitted
    rw [hevents]
  refine ⟨hparted.alone, ?_, ?_, ?_, ?_, quiet_read hparted hafter, ?_, honce⟩
  · rw [hacks]
    exact hparted.acks
  · rw [hevents]
    exact hparted.bound
  · rw [hevents]
    exact hparted.client
  · rw [hsame]
    exact hparted.reported
  · rw [hsame]
    exact hcloses

/-- A loop that is not loud reports its Close frame. -/
theorem Parted.read_send {event : MercuryEvent} (hparted : Parted s mark) (hloop : s.loops[socket]? = some loop)
    (hbefore : loop.phase = .farewell) (hevent : event = manual)
    (hafter : (loop.resume (.send event) s.shared.time rest).phase = .silent) :
    Parted (s.read socket loop (.send event) rest) mark := by
  have hevents : (s.read socket loop (.send event) rest).shared.events = s.shared.events ++ [(some socket, event)] := rfl
  have hdrop : (s.read socket loop (.send event) rest).shared.events.drop mark.sent =
      s.shared.events.drop mark.sent ++ [(some socket, event)] := by
    rw [hevents, List.drop_append_of_le_length hparted.bound]
  have hadded : emitted (s.read socket loop (.send event) rest) mark = emitted s mark ++ [(some socket, event)] := by
    unfold emitted
    rw [hdrop, List.filter_append]
    rfl
  have hcounted : (s.read socket loop (.send event) rest).farewells + _ = _ := farewells_read hloop
  rw [if_pos hbefore, hafter, if_neg nofun] at hcounted
  refine ⟨hparted.alone, hparted.acks, ?_, ?_, ?_, quiet_read hparted (by rw [hafter]; nofun), ?_, hparted.once⟩
  · have hbound := hparted.bound
    rw [hevents, List.length_append]
    omega
  · rw [hdrop]
    intro sent hsent horigin
    obtain h | h := List.mem_append.mp hsent
    · exact hparted.client sent h horigin
    · rw [List.mem_singleton.mp h] at horigin
      cases horigin
  · rw [hadded]
    intro sent hsent
    obtain h | h := List.mem_append.mp hsent
    · exact hparted.reported sent h
    · rw [List.mem_singleton.mp h]
      exact hevent
  · have hcloses := hparted.closes
    rw [hadded, List.length_append, List.length_singleton]
    omega

theorem overlapped_after (mark : Mark) (action : Action) : (mark.after action).overlapped = mark.overlapped := by
  unfold Mark.after
  split <;> rfl

/-- Only a Close frame is counted. -/
theorem after_silent {item : Option Item} (mark : Mark) (hsilent : item_phase crates item = .silent) :
    mark.after (.next item) = mark := by
  cases item with
  | none => rfl
  | some item =>
    cases item with
    | close frame =>
      simp only [item_phase] at hsilent
      split at hsilent <;> cases hsilent
    | _ => rfl

theorem after_farewell {item : Option Item} (mark : Mark) (hfarewell : item_phase crates item = .farewell) :
    mark.after (.next item) = { mark with closes := mark.closes + 1 } := by
  cases item with
  | none => cases hfarewell
  | some item =>
    cases item with
    | close frame => rfl
    | text text =>
      simp only [item_phase] at hfarewell
      split at hfarewell <;> cases hfarewell
    | _ => cases hfarewell

/-- The loop is where it was, as far as its phase goes. -/
theorem Parted.read_same (hparted : Parted s mark) (hloop : s.loops[socket]? = some loop)
    (hsend : ∀ event, action ≠ .send event) (hack : ∀ message, action ≠ .ack message)
    (hsame : (loop.resume action s.shared.time rest).phase = loop.phase) :
    Parted (s.read socket loop action rest) mark := by
  have hquiet := hparted.quiet loop (List.mem_of_getElem? hloop)
  have hcloses := hparted.closes
  have hcounted : (s.read socket loop action rest).farewells + _ = s.farewells + _ := farewells_read hloop
  rw [hsame] at hcounted
  refine hparted.read_still hsend hack (hsame ▸ hquiet) ?_ hparted.once
  omega

/-- A loop takes an item. -/
theorem Parted.read_next {item : Option Item} (hparted : Parted s mark) (hloop : s.loops[socket]? = some loop)
    (hbefore : loop.phase = .silent)
    (hafter : (loop.resume (.next item) s.shared.time rest).phase = item_phase crates item)
    (hitem : item_phase crates item = .silent ∨ (item_phase crates item = .farewell ∧ mark.closes = 0)) :
    Parted (s.read socket loop (.next item) rest) (mark.after (.next item)) := by
  obtain hsilent | ⟨hfarewell, hnone⟩ := hitem
  · rw [after_silent mark hsilent]
    exact hparted.read_same hloop (fun _ => Action.noConfusion) (fun _ => Action.noConfusion)
      ((hafter.trans hsilent).trans hbefore.symm)
  · have hcounted : (s.read socket loop (.next item) rest).farewells + _ = s.farewells + _ := farewells_read hloop
    rw [hafter, hbefore, hfarewell, if_neg nofun, if_pos rfl] at hcounted
    have hcloses := hparted.closes
    rw [after_farewell mark hfarewell, hnone]
    refine hparted.read_still (fun _ => Action.noConfusion) (fun _ => Action.noConfusion)
      (by rw [hafter, hfarewell]; nofun) ?_ (Nat.le_refl 1)
    omega

theorem Parted.read {next : Answer action → Loop} (hparted : Parted s mark) (hloop : s.loops[socket]? = some loop)
    (hrest : loop.rest = .ask action next) (hproceeds : Proceeds crates loop.item loop.looked loop.rest)
    (hflag : s.wanted = false → s.shared.should_reconnect = false)
    (hitem : ∀ item, action = .next item →
      item_phase crates item = .silent ∨ (item_phase crates item = .farewell ∧ mark.closes = 0))
    (hlook : mark.overlapped = true → loop.phase = .farewell → loop.looking = true → s.wanted = false) :
    Parted (s.read socket loop action (next (s.shared.apply (some socket) action).1)) (mark.after action) := by
  have hphase : loop.phase = phase_at loop.item loop.looked (some action) := by
    rw [Reading.phase, hrest]
    rfl
  have hquiet : loop.phase ≠ .loud := hparted.quiet loop (List.mem_of_getElem? hloop)
  rw [hrest] at hproceeds
  obtain ⟨hmoves, -⟩ := hproceeds (s.shared.apply (some socket) action).1
  rw [← hphase] at hmoves
  change Moves crates loop.phase action _
    (loop.resume action s.shared.time (next (s.shared.apply (some socket) action).1)).phase at hmoves
  generalize next (s.shared.apply (some socket) action).1 = rest at hmoves ⊢
  cases action with
  | next item => exact hparted.read_next hloop hphase hmoves (hitem item rfl)
  | get_should_reconnect =>
    apply hparted.read_same hloop (fun _ => Action.noConfusion) (fun _ => Action.noConfusion)
    cases hbefore : loop.phase with
    | silent => exact hmoves.1 hbefore
    | loud => exact absurd hbefore hquiet
    | farewell =>
      have hlooking : loop.looking = true := by
        rw [Reading.looking, hrest]
        rfl
      have hwanted : s.wanted = false := by
        cases hover : mark.overlapped with
        | false => exact hparted.alone hover
        | true => exact hlook hover hbefore hlooking
      exact hmoves.2 hbefore (hflag hwanted)
  | send event =>
    rw [hphase] at hquiet
    obtain ⟨hbefore, hevent⟩ := phase_at_send hquiet
    rw [← hphase] at hbefore
    exact hparted.read_send hloop hbefore hevent (hmoves hbefore)
  | ack message => exact absurd hphase hquiet
  | set_should_reconnect value => exact absurd hphase hquiet
  | _ => exact hparted.read_same hloop (fun _ => Action.noConfusion) (fun _ => Action.noConfusion) (hmoves hquiet)

end read

theorem PartingInv.read {s : State} {socket : Nat} {loop : Reading} {action : Action} {next : Answer action → Loop}
    (hinv : PartingInv crates s) (hloop : s.loops[socket]? = some loop)
    (hrest : loop.rest = .ask action next) (hcond : Parting crates s (.read socket)) :
    PartingInv crates (s.read socket loop action (next (s.shared.apply (some socket) action).1)) := by
  have hproceeds := hinv.loops loop (List.mem_of_getElem? hloop)
  have hsteps := hproceeds
  rw [hrest] at hsteps
  obtain ⟨hmoves, hnext⟩ := hsteps (s.shared.apply (some socket) action).1
  refine ⟨?_, ?_, hinv.apart, ?_, ?_⟩
  · intro other hother
    obtain ⟨n, hfound⟩ := List.mem_iff_getElem?.mp hother
    obtain ⟨-, rfl⟩ | ⟨-, hfound⟩ := getElem?_read hfound
    · exact hnext
    · exact hinv.loops other (List.mem_of_getElem? hfound)
  · intro hwanted
    refine apply_flag ?_ (hinv.flag hwanted)
    rintro value rfl
    exact hmoves
  · intro n call hcall
    obtain ⟨errand, hobeys, hstopped, hopen⟩ := hinv.calls n call hcall
    refine ⟨errand, hobeys, hstopped, ?_⟩
    intro hconnecting mark hmark
    obtain ⟨earlier, hearlier, rfl⟩ := Option.map_eq_some_iff.mp hmark
    rw [overlapped_after]
    exact hopen hconnecting earlier hearlier
  · intro mark hmark
    obtain ⟨earlier, hearlier, rfl⟩ := Option.map_eq_some_iff.mp hmark
    obtain ⟨hitem, hlook⟩ := hcond earlier loop hearlier hloop
    refine (hinv.closed earlier hearlier).read hloop hrest hproceeds hinv.flag ?_ hlook
    rintro item rfl
    exact hitem item (by rw [hrest]; rfl)

section perform

variable {s after : State} {op : Op} {r : Res op}

/-- A caller leaves the phases of the loops as they are. -/
theorem Performed.quiet (hperform : Performed crates options s op r after) (hquiet : ∀ loop ∈ s.loops, loop.phase ≠ .loud) :
    (∀ loop ∈ after.loops, loop.phase ≠ .loud) ∧ after.farewells = s.farewells := by
  obtain ⟨hsame, -⟩ | ⟨items, -, -, hadded⟩ := hperform.loops
  · rw [State.farewells, hsame]
    exact ⟨hquiet, rfl⟩
  · obtain ⟨item, hhead⟩ := read_loop_head crates options.max_reconnect_attempts items
    have hsilent (opened_at : Nat) : Reading.phase
        { rest := read_loop crates options.max_reconnect_attempts items, opened_at := opened_at } = .silent := by
      rw [Reading.phase, hhead]
      rfl
    rw [State.farewells, hadded]
    constructor
    · intro loop hloop
      obtain h | h := List.mem_append.mp hloop
      · exact hquiet loop h
      · rw [List.mem_singleton.mp h, hsilent]
        nofun
    · rw [List.countP_append, List.countP_singleton, hsilent]
      rfl

/-- The channel after an operation of a caller, which only a `disconnect` sends to. -/
theorem Performed.events {errand : Errand} (hperform : Performed crates options s op r after) (hallows : errand.allows op) :
    after.shared.events = s.shared.events ∨
      after.shared.events = s.shared.events ++ [(none, .disconnected "client")] := by
  cases hperform with
  | act action =>
    cases action with
    | send event =>
      cases errand with
      | connecting => exact absurd hallows id
      | leaving stopped =>
        right
        rw [Shared.apply, show event = .disconnected "client" from hallows]
    | _ => exact .inl (apply_events fun _ => Action.noConfusion)
  | _ => exact .inl rfl

theorem Performed.acks (hperform : Performed crates options s op r after) : after.acks = s.acks := by
  cases hperform <;> rfl

theorem Performed.flag (hperform : Performed crates options s op r after)
    (hflag : s.wanted = false → s.shared.should_reconnect = false) (hwanted : after.wanted = false) :
    after.shared.should_reconnect = false := by
  cases hperform with
  | act action =>
    cases action with
    | set_should_reconnect value => exact hwanted
    | take_attempt max_reconnect => exact apply_flag (fun _ => Action.noConfusion) (hflag hwanted)
    | _ => exact hflag hwanted
  | _ => exact hflag hwanted

/-- Only `connect` raises the flag, and a `disconnect` that has taken it down keeps it
    down. -/
theorem Performed.stopped {errand : Errand} (hperform : Performed crates options s op r after) (hallows : errand.allows op)
    (hstopped : errand = .leaving true → s.wanted = false) (hleaving : errand.after op = .leaving true) :
    after.wanted = false := by
  rw [hperform.wanted]
  cases errand with
  | connecting => cases hleaving
  | leaving stopped =>
    cases op with
    | act action =>
      cases action with
      | set_should_reconnect value => exact hallows
      | set_connected _ | cancel_stability_timer | send _ => exact hstopped hleaving
      | _ => exact absurd hallows id
    | _ => exact absurd hallows id

theorem Errand.after_connecting {errand : Errand} (hconnecting : errand.after op = .connecting) : errand = .connecting := by
  cases errand with
  | connecting => rfl
  | leaving stopped =>
    cases op with
    | act action => cases action <;> cases hconnecting
    | _ => cases hconnecting

theorem Parted.perform {errand : Errand} {mark : Mark} (hparted : Parted s mark) (hallows : errand.allows op)
    (hopen : errand = .connecting → mark.overlapped = true) (hperform : Performed crates options s op r after) :
    Parted after mark := by
  obtain ⟨hquiet, hfarewells⟩ := hperform.quiet hparted.quiet
  have halone (hmark : mark.overlapped = false) : after.wanted = false := by
    cases errand with
    | connecting => exact absurd ((hopen rfl).symm.trans hmark) nofun
    | leaving stopped =>
      rw [hperform.wanted]
      cases op with
      | act action =>
        cases action with
        | set_should_reconnect value => exact hallows
        | _ => exact hparted.alone hmark
      | _ => exact hparted.alone hmark
  have hacks : after.acks.length = mark.acked := by
    rw [hperform.acks]
    exact hparted.acks
  obtain hevents | hevents := hperform.events hallows
  · have hsame : emitted after mark = emitted s mark := by
      unfold emitted
      rw [hevents]
    refine ⟨halone, hacks, ?_, ?_, ?_, hquiet, ?_, hparted.once⟩
    · rw [hevents]
      exact hparted.bound
    · rw [hevents]
      exact hparted.client
    · rw [hsame]
      exact hparted.reported
    · rw [hsame, hfarewells]
      exact hparted.closes
  · have hdrop : after.shared.events.drop mark.sent =
        s.shared.events.drop mark.sent ++ [(none, .disconnected "client")] := by
      rw [hevents, List.drop_append_of_le_length hparted.bound]
    have hsame : emitted after mark = emitted s mark := by
      unfold emitted
      rw [hdrop, List.filter_append]
      exact List.append_nil _
    refine ⟨halone, hacks, ?_, ?_, ?_, hquiet, ?_, hparted.once⟩
    · have hbound := hparted.bound
      rw [hevents, List.length_append]
      omega
    · rw [hdrop]
      intro event hevent horigin
      obtain h | h := List.mem_append.mp hevent
      · exact hparted.client event h horigin
      · rw [List.mem_singleton.mp h]
    · rw [hsame]
      exact hparted.reported
    · rw [hsame, hfarewells]
      exact hparted.closes

end perform

theorem PartingInv.perform {s after : State} {n : Nat} {op : Op}
    {next : Res op → Program Op Res (Except WebexError (Option Nat) × Unit)} {done : Progress} {overlapped : Bool}
    {r : Res op} (hinv : PartingInv crates s) (hcall : s.call n = some ⟨.ask op next, done, overlapped⟩)
    (hperform : Performed crates options s op r after) (hapart : Apart
      { after with calls := s.calls.set n (some ⟨next r, done.after op r, overlapped⟩) }) :
    PartingInv crates { after with calls := s.calls.set n (some ⟨next r, done.after op r, overlapped⟩) } := by
  obtain ⟨errand, hobeys, hstopped, hopen⟩ := hinv.calls n _ hcall
  refine ⟨?_, hperform.flag hinv.flag, hapart, ?_, ?_⟩
  · intro loop hloop
    obtain ⟨m, hfound⟩ := List.mem_iff_getElem?.mp hloop
    obtain hfound | ⟨items, rfl⟩ := hperform.loop hfound
    · exact hinv.loops loop (List.mem_of_getElem? hfound)
    · exact read_loop_proceeds _ items _ _
  · intro m call hcalling
    obtain ⟨rfl, hgoes⟩ | ⟨hne, hother⟩ := call_set rfl hcalling
    · cases hgoes
      refine ⟨errand.after op, hobeys.2 r _ rfl, ?_, ?_⟩
      · intro hleaving halone
        exact hperform.stopped hobeys.1 (fun h => hstopped h halone) hleaving
      · intro hconnecting mark hmark
        exact hopen (Errand.after_connecting hconnecting) mark (hperform.closed.symm.trans hmark)
    · obtain ⟨errand, hobeys, -, hopen⟩ := hinv.calls m call hother
      refine ⟨errand, hobeys, ?_, ?_⟩
      · intro _ halone
        exact absurd (hinv.apart m n call _ hother hcall halone) (fun heq => hne heq.symm)
      · intro hconnecting mark hmark
        exact hopen hconnecting mark (hperform.closed.symm.trans hmark)
  · intro mark hmark
    change after.closed = some mark at hmark
    rw [hperform.closed] at hmark
    have hparted := (hinv.closed mark hmark).perform hobeys.1 (fun hconnecting => hopen hconnecting mark hmark) hperform
    exact ⟨hparted.alone, hparted.acks, hparted.bound, hparted.client, hparted.reported, hparted.quiet,
      hparted.closes, hparted.once⟩

/-- A call that begins overlaps those in progress. -/
theorem PartingInv.begin_call {s : State} {body : Caller (Option Nat)} {errand : Errand} {closed : Option Mark}
    (hinv : PartingInv crates s) (hbody : (body ()).Obeys errand_monitor (fun out => Left out.1) errand)
    (hstart : errand ≠ .leaving true) (hclosed : ∀ mark, closed = some mark → s.closed = some mark)
    (hopen : errand = .connecting → closed = none) : PartingInv crates (s.begin_call body closed) := by
  refine ⟨hinv.loops, hinv.flag, apart_begin s body closed, ?_, ?_⟩
  · intro n call hcall
    obtain ⟨earlier, hearlier, rfl⟩ | ⟨-, rfl⟩ := call_begin hcall
    · obtain ⟨errand, hobeys, -, hconnects⟩ := hinv.calls n earlier hearlier
      exact ⟨errand, hobeys, fun _ halone => absurd halone nofun,
        fun hconnecting mark hmark => hconnects hconnecting mark (hclosed mark hmark)⟩
    · refine ⟨errand, hbody, fun hleaving => absurd hleaving hstart, ?_⟩
      intro hconnecting mark hmark
      exact absurd ((hopen hconnecting).symm.trans hmark) nofun
  · intro mark hmark
    have hparted := hinv.closed mark (hclosed mark hmark)
    exact ⟨hparted.alone, hparted.acks, hparted.bound, hparted.client, hparted.reported, hparted.quiet,
      hparted.closes, hparted.once⟩

theorem Parted.return_call {s : State} {mark : Mark} (hparted : Parted s mark) (n : Nat) (overlapped : Bool)
    (result : Except WebexError (Option Nat)) : Parted (s.return_call n overlapped result) mark := by
  obtain ⟨halone, hacks, hbound, hclient, hreported, hquiet, hcloses, honce⟩ := hparted
  cases result with
  | error e => exact ⟨halone, hacks, hbound, hclient, hreported, hquiet, hcloses, honce⟩
  | ok socket => cases socket <;> exact ⟨halone, hacks, hbound, hclient, hreported, hquiet, hcloses, honce⟩

theorem PartingInv.return_call {s : State} {n : Nat} {result : Except WebexError (Option Nat)} {done : Progress}
    {overlapped : Bool} (hinv : PartingInv crates s) (hcall : s.call n = some ⟨.ret (result, ()), done, overlapped⟩)
    (hapart : Apart (s.return_call n overlapped result)) (hcond : Parting crates s (.return_call n)) :
    PartingInv crates (s.return_call n overlapped result) := by
  obtain ⟨errand, ⟨hleft, hconnected⟩, hstopped, -⟩ := hinv.calls n _ hcall
  -- The calls that are still in progress are those that overlapped this one.
  have hothers : ∀ m call, (s.return_call n overlapped result).call m = some call →
      m ≠ n ∧ s.call m = some call := by
    intro m call hfound
    obtain ⟨-, hnone⟩ | hother := call_set (calls_return s n overlapped result) hfound
    · cases hnone
    · exact hother
  cases result with
  | error e =>
    refine ⟨hinv.loops, hinv.flag, hapart, fun m call hfound => hinv.calls m call (hothers m call hfound).2, ?_⟩
    intro mark hmark
    exact (hinv.closed mark hmark).return_call n overlapped _
  | ok value =>
    cases value with
    | some socket =>
      refine ⟨hinv.loops, hinv.flag, hapart, fun m call hfound => hinv.calls m call (hothers m call hfound).2, ?_⟩
      intro mark hmark
      exact (hinv.closed mark hmark).return_call n overlapped _
    | none =>
      refine ⟨hinv.loops, hinv.flag, hapart, ?_, ?_⟩
      · intro m call hfound
        obtain ⟨hne, hother⟩ := hothers m call hfound
        obtain ⟨errand, hobeys, hleaving, hopen⟩ := hinv.calls m call hother
        refine ⟨errand, hobeys, hleaving, ?_⟩
        intro hconnecting mark hmark
        obtain rfl : s.closed.getD _ = mark := Option.some.inj hmark
        cases hearlier : s.closed with
        | some earlier => exact hopen hconnecting earlier hearlier
        | none =>
          show overlapped = true
          cases hover : overlapped with
          | true => rfl
          | false => exact absurd (hinv.apart n m _ call hcall hother hover) hne
      · intro mark hmark
        obtain rfl : s.closed.getD _ = mark := Option.some.inj hmark
        cases hearlier : s.closed with
        | some earlier => exact (hinv.closed earlier hearlier).return_call n overlapped _
        | none =>
          obtain ⟨hquiet, hone⟩ := hcond hearlier done overlapped hcall
          have hnone : s.shared.events.drop s.shared.events.length = [] := List.drop_length
          have hopened : Parted s ⟨s.shared.events.length, s.acks.length, overlapped, s.farewells⟩ := by
            refine ⟨hstopped (hleft rfl), rfl, Nat.le_refl _, ?_, ?_, hquiet, ?_, hone⟩
            · rw [hnone]
              exact fun _ hevent => absurd hevent List.not_mem_nil
            · rw [emitted, hnone]
              exact fun _ hevent => absurd hevent List.not_mem_nil
            · rw [emitted, hnone]
              exact Nat.le_of_eq (Nat.zero_add _)
          exact hopened.return_call n overlapped _

/-- A change of the counter, the timer or the clock. -/
theorem PartingInv.tick {s : State} (hinv : PartingInv crates s) (attempts : Nat) (task : Option Reset) (time : Nat) :
    PartingInv crates { s with shared := { s.shared with
      reconnect_attempts := attempts, stability_task := task, time := time } } := by
  refine ⟨hinv.loops, hinv.flag, hinv.apart, hinv.calls, ?_⟩
  intro mark hmark
  have hparted := hinv.closed mark hmark
  exact ⟨hparted.alone, hparted.acks, hparted.bound, hparted.client, hparted.reported, hparted.quiet,
    hparted.closes, hparted.once⟩

theorem PartingInv.step {s next : State} {label : Label} (hinv : PartingInv crates s) (hcond : Parting crates s label)
    (hstep : (tasks crates options).step s label = some next) : PartingInv crates next := by
  have hapart := hinv.apart.step hstep
  cases step_stepped hstep with
  | connect ws_url token =>
    exact hinv.begin_call (connect_errand crates ws_url token) nofun (fun _ hmark => absurd hmark nofun) fun _ => rfl
  | disconnect => exact hinv.begin_call disconnect_errand nofun (fun _ hmark => hmark) (fun heq => absurd heq nofun)
  | perform hcall hperform => exact hinv.perform hcall hperform hapart
  | return_call hcall => exact hinv.return_call hcall hapart hcond
  | read hloop hrest => exact hinv.read hloop hrest hcond
  | fire htask hdue => exact hinv.tick _ _ _
  | wait millis => exact hinv.tick _ _ _

theorem parting_of_reachable {s : State} (hreach : (tasks crates options).Reachable (Parting crates) s) :
    PartingInv crates s := by
  have hinit : PartingInv crates (tasks crates options).init := ⟨nofun, nofun, nofun, nofun, nofun⟩
  exact hreach.invariant hinit fun s label next _ hinv hcond hstep => hinv.step hcond hstep

end invariant

section test

variable {crates} {options : Options}

/-- A test for `Parting`. -/
def parting (crates : Crates) (s : State) : Label → Bool
  | .return_call _ => s.closed.isSome || (s.loops.all (·.phase != .loud) && s.farewells ≤ 1)
  | .read socket => s.closed.all fun mark => (s.loops[socket]?).all fun loop =>
      (match loop.rest.head with
      | some (.next item) => item_phase crates item == .silent || (item_phase crates item == .farewell && mark.closes == 0)
      | _ => true) &&
      (!mark.overlapped || loop.phase != .farewell || !loop.looking || !s.wanted)
  | _ => true

theorem parting_sound {s : State} {label : Label} (htest : parting crates s label = true) : Parting crates s label := by
  cases label with
  | return_call n =>
    intro hopen _ _ _
    simp only [parting, hopen, Option.isSome_none, Bool.false_or, Bool.and_eq_true, decide_eq_true_eq] at htest
    exact ⟨fun loop hloop => by simpa using List.all_eq_true.mp htest.1 loop hloop, htest.2⟩
  | read socket =>
    intro mark loop hmark hloop
    simp only [parting, hmark, hloop, Option.all_some, Bool.and_eq_true] at htest
    obtain ⟨hitem, hlook⟩ := htest
    constructor
    · intro item hhead
      rw [hhead] at hitem
      simpa using hitem
    · intro hover hphase hlooking
      simpa [hover, hphase, hlooking] using hlook
  | _ => trivial

end test

/-- As long as the read loops let it be the end, a `disconnect` is final, whatever state
    it is called in and whatever calls overlap it. -/
theorem disconnect_final_of_parting (options : Options) (s : State)
    (hreach : (tasks crates options).Reachable (Parting crates) s) (mark : Mark) (hmark : s.closed = some mark) :
    Final s mark :=
  ((parting_of_reachable hreach).closed mark hmark).final

/-- A second `connect` has begun when `disconnect` is called, and finishes after it. The
    server closes the first socket in between. -/
def overlapping_labels : List Label :=
  connect_labels 0 [.text "pong", .close none] ++ (connect_labels 1 [.text "pong"]).take 5 ++ disconnect_labels 2 ++
    List.replicate 6 (.read 0) ++ (connect_labels 1 [.text "pong"]).drop 5 ++ [.read 1]

theorem overlapping_disconnect_final :
    ∃ s, (tasks sample_crates ⟨10, 60000⟩).run {} overlapping_labels = some s ∧ s.closed = some ⟨1, 0, true, 1⟩ ∧
      s.shared.should_reconnect = false ∧ s.shared.events.length = 2 ∧ Final s ⟨1, 0, true, 1⟩ := by
  have hobserve : (((tasks sample_crates ⟨10, 60000⟩).run {} overlapping_labels).map fun s =>
      (s.closed, s.shared.should_reconnect, s.shared.events.length)) = some (some ⟨1, 0, true, 1⟩, false, 2) := by
    decide +kernel
  have hmeets : (tasks sample_crates ⟨10, 60000⟩).meets (parting sample_crates) {} overlapping_labels = true := by
    decide +kernel
  obtain ⟨s, hrun, hobserved⟩ := Option.map_eq_some_iff.mp hobserve
  simp only [Prod.mk.injEq] at hobserved
  obtain ⟨hclosed, hflag, hevents⟩ := hobserved
  have hmeets := (Machine.Meets.of_meets hmeets).mono fun _ _ => parting_sound
  have hreach := Machine.Reachable.run .init _ hmeets hrun
  exact ⟨s, hrun, hclosed, hflag, hevents, disconnect_final_of_parting sample_crates ⟨10, 60000⟩ s hreach _ hclosed⟩

def reason : MercuryEvent → String
  | .disconnected reason => reason
  | _ => ""

/-- A read loop is asleep before a reconnect when `disconnect` is called. It wakes up
    after the return and asks for the reconnect all the same. -/
def sleeping_loop_labels : List Label :=
  connect_labels 0 [.close none] ++ List.replicate 6 (.read 0) ++ disconnect_labels 1 ++ List.replicate 2 (.read 0)

theorem sleeping_loop_reconnects :
    ∃ s, (tasks sample_crates ⟨10, 60000⟩).Reachable Machine.Always s ∧ s.closed = some ⟨2, 0, false, 0⟩ ∧
      (emitted s ⟨2, 0, false, 0⟩).map (fun event => reason event.2) = ["reconnect-needed"] ∧
      ¬ Final s ⟨2, 0, false, 0⟩ := by
  have hobserve : (((tasks sample_crates ⟨10, 60000⟩).run {} sleeping_loop_labels).map fun s =>
      (s.closed, (emitted s ⟨2, 0, false, 0⟩).map fun event => reason event.2)) =
      some (some ⟨2, 0, false, 0⟩, ["reconnect-needed"]) := by
    decide
  obtain ⟨s, hrun, hobserved⟩ := Option.map_eq_some_iff.mp hobserve
  rw [Prod.mk.injEq] at hobserved
  obtain ⟨hclosed, hemitted⟩ := hobserved
  refine ⟨s, Machine.reachable_of_run hrun, hclosed, hemitted, ?_⟩
  intro hfinal
  obtain hnone | ⟨socket, hone⟩ := hfinal.emitted
  · simp [hnone] at hemitted
  · simp [hone, manual, reason] at hemitted

end webex.rust.mercury_socket

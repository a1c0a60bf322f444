import WebexHandler.Interaction.Run
import WebexHandler.Rust.Handler.Environment
import WebexHandler.Rust.MercurySocket.Tasks

open interaction json transition

namespace webex.rust.mercury_socket

open handler (Handler handle_mercury_event emitted_by_socket)

/-- What a read loop leaves behind when it runs to its end and nothing else does. -/
def run_loop (socket : Nat) (loop : Loop) (shared : Shared) : Shared :=
  (loop.exec (Shared.apply (some socket)) shared).2

def is_disconnected : MercuryEvent → Bool
  | .disconnected _ => true
  | _ => false

/-- The events that the read loop of `socket` has sent since `before`. -/
def sent_by (socket : Nat) (before after : Shared) : List MercuryEvent :=
  ((after.events.drop before.events.length).filter (·.1 == some socket)).map Prod.snd

/-- The handler's event loop handles events one after the other. -/
def handle_events (crates : handler.Crates) : List MercuryEvent → Handler Unit
  | [] => return ()
  | event :: rest => do
    handle_mercury_event crates (some event)
    handle_events crates rest

/-- The handler's `connected` flag after an operation. -/
def written (flag : Bool) : handler.Op → Bool
  | .release .connected value => value
  | _ => flag

/-- The handler's `connected` flag, as the event loop writes it. -/
def flag_monitor : Monitor handler.Op handler.Res Bool where
  allowed _ _ := True
  moves flag op _ flag' := flag' = written flag op

/-- A lost connection leaves no trace of itself in the socket and is reported once, so
    that a connected handler which handles the events of the loop is no longer so. -/
structure LossReported (socket : Nat) (before after : Shared) : Prop where
  connected : after.connected = false
  reset : after.stability_task.all (!·.pending)
  once : (sent_by socket before after).countP is_disconnected = 1
  cleared : ∀ crates, (handle_events crates (sent_by socket before after)).Obeys flag_monitor () true
    fun _ _ flag => flag = false

/-- The stream of a connection yields a Close frame, and no error before it. -/
def ends_with_close : List Item → Bool
  | [] => false
  | .close _ :: _ => true
  | .error _ :: _ => false
  | .text _ :: rest => ends_with_close rest
  | .other :: rest => ends_with_close rest

section handler_flag

variable {crates : handler.Crates}

/-- The `connected` flag after the event loop has handled an event of a socket. -/
def flag_after (flag : Bool) (event : MercuryEvent) : Bool := flag && !is_disconnected event

theorem flag_request {op : handler.Op} {flag : Bool} {post : Except WebexError (handler.Res op) → Unit → Bool → Prop}
    (hpost : ∀ r, post (.ok r) () (written flag op)) : Method.Obeys flag_monitor (Method.request op) () flag post := by
  refine ⟨trivial, ?_⟩
  rintro r _ rfl
  exact hpost r

theorem handle_mercury_event_flag {event : MercuryEvent} (hemitted : emitted_by_socket event = true) (flag : Bool) :
    (handle_mercury_event crates (some event)).Obeys flag_monitor () flag
      fun result _ flag' => result = .ok () ∧ flag' = flag_after flag event := by
  cases event with
  | connected => exact absurd hemitted nofun
  | disconnected reason =>
    apply Method.obeys_bind.mpr
    apply Method.obeys_bind.mpr
    apply flag_request
    intro _
    apply flag_request
    intro _
    apply flag_request
    intro _
    exact ⟨rfl, (Bool.and_false flag).symm⟩
  | kms_response data =>
    apply Method.obeys_bind.mpr
    apply flag_request
    intro receiver
    have hrelease : (handler.release .kms_response_handler receiver).Obeys flag_monitor () flag
        fun result _ flag' => result = .ok () ∧ flag' = flag_after flag (.kms_response data) :=
      flag_request fun _ => ⟨rfl, (Bool.and_true flag).symm⟩
    cases receiver with
    | none => exact hrelease
    | some mailbox =>
      apply Method.obeys_bind.mpr
      apply flag_request
      intro _
      exact hrelease
  | reconnecting attempt | activity activity | error message =>
    exact flag_request fun _ => ⟨rfl, (Bool.and_true flag).symm⟩

/-- Once one of the events it handles is a loss, the flag is down. -/
theorem handle_events_flag {events : List MercuryEvent} (hemitted : ∀ event ∈ events, emitted_by_socket event = true)
    (flag : Bool) : (handle_events crates events).Obeys flag_monitor () flag
      fun _ _ flag' => flag' = (flag && !events.any is_disconnected) := by
  induction events generalizing flag with
  | nil => exact (Bool.and_true flag).symm
  | cons event rest ih =>
    obtain ⟨hevent, hrest⟩ := List.forall_mem_cons.mp hemitted
    apply Method.Obeys.bind (handle_mercury_event_flag hevent flag)
    · rintro _ _ _ ⟨-, rfl⟩
      apply (ih hrest (flag_after flag event)).mono
      rintro _ _ _ rfl
      simp [flag_after, Bool.and_assoc]
    · rintro _ _ _ ⟨herror, -⟩
      exact absurd herror nofun

end handler_flag

/-- The events of a run of the loop of `socket`, and no others, are added to the
    channel. None of them reports a connection. -/
structure Sends (socket : Nat) (before after : Shared) (events : List MercuryEvent) : Prop where
  added : after.events = before.events ++ events.map (Prod.mk (some socket))
  emitted : ∀ event ∈ events, emitted_by_socket event = true

theorem Sends.sent_by {socket : Nat} {before after : Shared} {events : List MercuryEvent}
    (hsends : Sends socket before after events) : sent_by socket before after = events := by
  unfold mercury_socket.sent_by
  rw [hsends.added, List.drop_left, List.filter_eq_self.mpr, List.map_map]
  · exact List.map_id events
  · simp

theorem Sends.none {socket : Nat} {before after : Shared} (hevents : after.events = before.events) :
    Sends socket before after [] where
  added := by simp [hevents]
  emitted := by simp

theorem Sends.send (socket : Nat) (shared : Shared) {event : MercuryEvent} (hemitted : emitted_by_socket event = true) :
    Sends socket shared (shared.apply (some socket) (.send event)).2 [event] where
  added := rfl
  emitted := by simpa using hemitted

theorem Sends.trans {socket : Nat} {before middle after : Shared} {first second : List MercuryEvent}
    (hfirst : Sends socket before middle first) (hsecond : Sends socket middle after second) :
    Sends socket before after (first ++ second) where
  added := by rw [hsecond.added, hfirst.added, List.map_append, List.append_assoc]
  emitted event hevent := by
    obtain h | h := List.mem_append.mp hevent
    · exact hfirst.emitted event h
    · exact hsecond.emitted event h

variable (crates : Crates) (max_reconnect : Nat)

section loops

variable (socket : Nat) (shared : Shared)

theorem run_loop_bind {α : Type} (p : Program Action Answer α) (f : α → Loop) :
    run_loop socket (p >>= f) shared =
      run_loop socket (f (p.exec (Shared.apply (some socket)) shared).1) (p.exec (Shared.apply (some socket)) shared).2 := by
  unfold run_loop
  rw [Program.exec_bind]

theorem run_connection_ended : run_loop socket connection_ended shared = shared := by
  unfold connection_ended
  rw [run_loop_bind]
  show run_loop socket (if shared.should_reconnect then _ else _) shared = shared
  cases shared.should_reconnect with
  | true => rfl
  | false => rfl

theorem run_send_ack (message : Value) : run_loop socket (send_ack message) shared = shared := by
  unfold send_ack
  cases (message.get "id").bind Value.as_str with
  | none => rfl
  | some msg_id => rfl

/-- What a text frame can bring: neither a loss nor a report of the socket itself. -/
def is_content : MercuryEvent → Bool
  | .kms_response _ => true
  | .activity _ => true
  | _ => false

theorem mercury_event_content {data : Value} {event_type : String} {event : MercuryEvent}
    (hevent : mercury_event crates data event_type = some event) : is_content event = true := by
  unfold mercury_event at hevent
  split at hevent
  · rw [Option.some.injEq] at hevent
    exact hevent ▸ rfl
  split at hevent
  · simp only [Option.bind_eq_bind, Option.bind_eq_some_iff, Option.pure_def, Option.some.injEq] at hevent
    obtain ⟨_, _, _, _, rfl⟩ := hevent
    rfl
  · exact absurd hevent nofun

theorem emitted_of_content {event : MercuryEvent} (hcontent : is_content event = true) :
    emitted_by_socket event = true ∧ is_disconnected event = false := by
  cases event with
  | kms_response data | activity activity => exact ⟨rfl, rfl⟩
  | _ => cases hcontent

/-- The event that a message is turned into, if it is. -/
def message_event (message : Value) : Option MercuryEvent :=
  (event_data message).bind fun found => mercury_event crates found.1 found.2

/-- A message leaves everything but the channel alone. -/
theorem run_handle_message (message : Value) : run_loop socket (handle_message_static crates message) shared =
    { shared with events := shared.events ++ (message_event crates message).toList.map (Prod.mk (some socket)) } := by
  unfold handle_message_static message_event
  cases event_data message with
  | none =>
    show shared = { shared with events := shared.events ++ [] }
    rw [List.append_nil]
  | some found =>
    have hack : ((send_ack message).exec (Shared.apply (some socket)) shared).2 = shared := run_send_ack socket shared message
    show run_loop socket (send_ack message >>= fun _ => send_event (mercury_event crates found.1 found.2)) shared = _
    rw [run_loop_bind, hack, Option.bind_some]
    cases mercury_event crates found.1 found.2 with
    | none =>
      show shared = { shared with events := shared.events ++ [] }
      rw [List.append_nil]
    | some event => rfl

/-- A text frame leaves everything but the channel alone and loses no connection. -/
theorem run_handle_text (text : String) : ∃ events : List MercuryEvent,
    run_loop socket (handle_text crates text) shared =
      { shared with events := shared.events ++ events.map (Prod.mk (some socket)) } ∧
      ∀ event ∈ events, is_content event = true := by
  unfold handle_text
  generalize parse_text crates text = parsed
  cases parsed with
  | none =>
    refine ⟨[], ?_, fun event hevent => absurd hevent List.not_mem_nil⟩
    rw [List.map_nil, List.append_nil]
    rfl
  | some parsed =>
    refine ⟨(message_event crates parsed).toList, run_handle_message crates socket shared parsed, ?_⟩
    intro event hevent
    obtain ⟨found, -, hfound⟩ := Option.bind_eq_some_iff.mp (Option.mem_toList.mp hevent)
    exact mercury_event_content crates hfound

/-- The end of a connection that `handle_close_static` takes care of. -/
structure Closed (before after : Shared) : Prop where
  connected : after.connected = before.connected
  stability_task : after.stability_task = before.stability_task
  sends : ∃ events, Sends socket before after events ∧ events.countP is_disconnected = 1

theorem run_permanent_close (error reason : String) :
    Closed socket shared (run_loop socket (handle_permanent_close error reason) shared) where
  connected := rfl
  stability_task := rfl
  sends := by
    refine ⟨[] ++ ([.error error] ++ [.disconnected reason]), ?_, rfl⟩
    have hstopped : Sends socket shared (shared.apply (some socket) (.set_should_reconnect false)).2 [] :=
      Sends.none rfl
    exact hstopped.trans ((Sends.send socket _ rfl).trans (Sends.send socket _ rfl))

theorem run_recoverable_close :
    Closed socket shared (run_loop socket (handle_recoverable_close max_reconnect) shared) := by
  unfold handle_recoverable_close
  rw [run_loop_bind]
  show Closed socket shared (run_loop socket (if shared.should_reconnect then _ else _) shared)
  cases shared.should_reconnect with
  | false => exact ⟨rfl, rfl, _, Sends.send socket shared rfl, rfl⟩
  | true =>
    simp only [if_true]
    rw [run_loop_bind]
    have htake : (take_attempt max_reconnect).exec (Shared.apply (some socket)) shared =
        shared.apply (some socket) (.take_attempt max_reconnect) := rfl
    rw [htake]
    by_cases hmax : max_reconnect ≤ shared.reconnect_attempts
    · rw [Shared.apply, if_pos hmax]
      refine ⟨rfl, rfl, [] ++ [.disconnected "max-attempts-exceeded"], ?_, rfl⟩
      have hstopped : Sends socket shared (shared.apply (some socket) (.set_should_reconnect false)).2 [] :=
        Sends.none rfl
      exact hstopped.trans (Sends.send socket _ rfl)
    · rw [Shared.apply, if_neg hmax]
      refine ⟨rfl, rfl, [] ++ ([.reconnecting (shared.reconnect_attempts + 1)] ++
        [.disconnected "reconnect-needed"]), ?_, rfl⟩
      have htaken : Sends socket shared { shared with reconnect_attempts := shared.reconnect_attempts + 1 } [] :=
        Sends.none rfl
      exact htaken.trans ((Sends.send socket _ rfl).trans (Sends.send socket _ rfl))

theorem run_handle_close (code : UInt16) :
    Closed socket { shared with connected := false, stability_task := none }
      (run_loop socket (handle_close_static max_reconnect code) shared) := by
  unfold handle_close_static
  rw [run_loop_bind, run_loop_bind]
  show Closed socket _ (run_loop socket (if code = 4401 then _ else _) _)
  split
  · exact run_permanent_close ..
  split
  · exact run_permanent_close ..
  · exact run_recoverable_close ..

/-- The events of a whole run of the loop, and what it leaves behind. -/
theorem run_read_loop (items : List Item) : ∃ events,
    Sends socket shared (run_loop socket (read_loop crates max_reconnect items) shared) events ∧
      (ends_with_close items = false → events.countP is_disconnected = 0) ∧
      (ends_with_close items = true → events.countP is_disconnected = 1 ∧
        (run_loop socket (read_loop crates max_reconnect items) shared).connected = false ∧
        (run_loop socket (read_loop crates max_reconnect items) shared).stability_task = none) := by
  fun_induction ends_with_close items generalizing shared with
  | case1 =>
    unfold read_loop
    rw [run_loop_bind, run_connection_ended]
    exact ⟨[], Sends.none rfl, fun _ => rfl, nofun⟩
  | case2 frame rest =>
    unfold read_loop
    rw [run_loop_bind, run_loop_bind, run_connection_ended]
    obtain ⟨hconnected, htask, events, hsends, hcount⟩ :=
      run_handle_close max_reconnect socket shared ((frame.map Prod.fst).getD 1000)
    exact ⟨events, ⟨hsends.added, hsends.emitted⟩, nofun, fun _ => ⟨hcount, hconnected, htask⟩⟩
  | case3 message rest =>
    unfold read_loop
    rw [run_loop_bind, run_loop_bind, run_loop_bind, run_connection_ended]
    have hsent : Sends socket shared _ [.error message] := Sends.send socket shared rfl
    exact ⟨[.error message], ⟨hsent.added, hsent.emitted⟩, fun _ => rfl, nofun⟩
  | case4 text rest ih =>
    unfold read_loop
    rw [run_loop_bind, run_loop_bind]
    obtain ⟨first, htext, hcontent⟩ := run_handle_text crates socket shared text
    have hfirst : Sends socket shared (run_loop socket (handle_text crates text) shared) first :=
      ⟨by rw [htext], fun event hevent => (emitted_of_content (hcontent event hevent)).1⟩
    have hnone : first.countP is_disconnected = 0 := by
      rw [List.countP_eq_zero]
      intro event hevent
      rw [(emitted_of_content (hcontent event hevent)).2]
      decide
    obtain ⟨second, hsecond, hlost, hclosed⟩ := ih (run_loop socket (handle_text crates text) shared)
    refine ⟨first ++ second, hfirst.trans hsecond, ?_, ?_⟩
    · intro hends
      rw [List.countP_append, hnone, hlost hends]
    · intro hends
      rw [List.countP_append, hnone, (hclosed hends).1]
      exact ⟨rfl, (hclosed hends).2⟩
  | case5 rest ih =>
    unfold read_loop
    rw [run_loop_bind]
    exact ih shared

/-- The loss of a connection is reported exactly when its stream ends with a Close
    frame: the other two ways out of the read loop pass `handle_close_static` by. -/
theorem run_read_loop_reported (items : List Item) :
    LossReported socket shared (run_loop socket (read_loop crates max_reconnect items) shared) ↔
      ends_with_close items = true := by
  obtain ⟨events, hsends, hlost, hclosed⟩ := run_read_loop crates max_reconnect socket shared items
  constructor
  · intro hreported
    by_contra hends
    rw [Bool.not_eq_true] at hends
    have honce := hreported.once
    rw [hsends.sent_by, hlost hends] at honce
    omega
  · intro hends
    obtain ⟨hcount, hconnected, htask⟩ := hclosed hends
    refine ⟨hconnected, by simp [htask], by rw [hsends.sent_by, hcount], ?_⟩
    intro handler_crates
    rw [hsends.sent_by]
    apply (handle_events_flag hsends.emitted true).mono
    rintro _ _ _ rfl
    have hany : events.any is_disconnected = true := by
      rw [List.any_eq_true]
      exact List.countP_pos_iff.mp (by omega)
    simp [hany]

end loops

/-- The read loop of a socket has ended. -/
def State.finished (s : State) (socket : Nat) : Bool :=
  (s.loops[socket]?).any fun loop => loop.rest.head.isNone

variable (options : Options)

/-- The steps of a read loop, taken one after the other, run it to its end. -/
theorem reads_run_loop {socket : Nat} {s : State} {loop : Reading} (hloop : s.loops[socket]? = some loop) :
    ∃ n after, (tasks crates options).run s (List.replicate n (.read socket)) = some after ∧
      after.finished socket = true ∧ after.shared = run_loop socket loop.rest s.shared := by
  obtain ⟨rest, opened_at, ended_at, item, looked⟩ := loop
  induction rest generalizing s ended_at item looked with
  | ret value =>
    refine ⟨0, s, rfl, ?_, rfl⟩
    simp [State.finished, hloop, Program.head]
  | ask action next ih =>
    have hbound : socket < s.loops.length := (List.getElem?_eq_some_iff.mp hloop).1
    have hread : (s.read socket ⟨.ask action next, opened_at, ended_at, item, looked⟩ action
        (next (s.shared.apply (some socket) action).1)).loops[socket]? =
          some ⟨next (s.shared.apply (some socket) action).1, opened_at,
            if action.ends then some s.shared.time else ended_at, action.taken item, action.looks looked⟩ := by
      simp [State.read, Reading.resume, hbound]
    obtain ⟨n, after, hrun, hfinished, hshared⟩ := ih (s.shared.apply (some socket) action).1 _ _ _ hread
    refine ⟨n + 1, after, ?_, hfinished, hshared⟩
    rw [List.replicate_succ, Machine.run]
    simp only [tasks, State.step, hloop, Option.bind_some]
    exact hrun

/-- A read loop ends, whatever its stream yields. The loss of its connection is then
    reported exactly when the stream ended with a Close frame: an error and a plain end
    of the stream pass `handle_close_static` by. -/
theorem loss_reported_iff (s : State) (socket : Nat) (loop : Reading) (items : List Item)
    (hloop : s.loops[socket]? = some loop)
    (hrest : loop.rest = read_loop crates options.max_reconnect_attempts items) :
    ∃ n after, (tasks crates options).run s (List.replicate n (.read socket)) = some after ∧
      after.finished socket = true ∧
      (LossReported socket s.shared after.shared ↔ ends_with_close items = true) := by
  obtain ⟨n, after, hrun, hfinished, hshared⟩ := reads_run_loop crates options hloop
  refine ⟨n, after, hrun, hfinished, ?_⟩
  rw [hshared, hrest]
  exact run_read_loop_reported crates options.max_reconnect_attempts socket s.shared items

/-- A connected socket whose stream has a Close frame left. -/
def sample_state : State where
  shared := { connected := true, stability_task := some ⟨0, 0, true⟩ }
  loops := [{ rest := read_loop sample_crates 10 [.close none], opened_at := 0 }]

theorem close_frame_reported :
    ∃ n after, (tasks sample_crates ⟨10, 60000⟩).run sample_state (List.replicate n (.read 0)) = some after ∧
      after.finished 0 = true ∧
      (LossReported 0 sample_state.shared after.shared ↔ ends_with_close [.close none] = true) :=
  loss_reported_iff sample_crates ⟨10, 60000⟩ sample_state 0 _ [.close none] rfl rfl

/-- The stream of a connection that `connect` has established just ends. The socket
    stays connected, its attempts reset stays armed, and nobody is told. -/
theorem plain_end_unreported :
    ∃ before after, (tasks sample_crates ⟨10, 60000⟩).run {} (connect_labels 0 []) = some before ∧
      before.current = some ⟨0, 0, 0⟩ ∧
      (tasks sample_crates ⟨10, 60000⟩).run before (List.replicate 3 (.read 0)) = some after ∧
      after.finished 0 = true ∧ ¬ LossReported 0 before.shared after.shared := by
  have hobserve : (((tasks sample_crates ⟨10, 60000⟩).run {} (connect_labels 0 [])).bind fun before =>
      ((tasks sample_crates ⟨10, 60000⟩).run before (List.replicate 3 (.read 0))).map fun after =>
        (before.current, after.finished 0, after.shared.connected)) = some (some ⟨0, 0, 0⟩, true, true) := by
    decide
  simp only [Option.bind_eq_some_iff, Option.map_eq_some_iff, Prod.mk.injEq] at hobserve
  obtain ⟨before, hbefore, after, hafter, hcurrent, hfinished, hconnected⟩ := hobserve
  refine ⟨before, after, hbefore, hcurrent, hafter, hfinished, ?_⟩
  intro hreported
  rw [hreported.connected] at hconnected
  exact absurd hconnected nofun

end webex.rust.mercury_socket

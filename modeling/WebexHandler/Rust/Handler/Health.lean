import WebexHandler.Interaction.Timed
import WebexHandler.Rust.Handler.FailedConnect
import WebexHandler.Rust.MercurySocket.FlapStorm
import WebexHandler.Rust.MercurySocket.Loss

open interaction json transition

namespace webex.rust.handler

open device_manager (DeviceManager DeviceRegistration)
open kms_client (KmsClient)
open mercury_socket (Item Shared handle_item is_reconnecting permanent run_loop)

/-- A handler between two calls, with its socket. The sockets are numbered in the order in
    which they were opened. The tasks of the activities and the sweep are left out: they
    write nothing that `status()` reads but the client, and leave that in place. -/
structure Health where
  cells : Cells
  shared : Shared := {}
  /-- Whether the read loop of each socket still runs. -/
  read_loops : List Bool := []
  event_loop : Bool := false
  /-- How many Mercury events the event loop has handled. -/
  handled : Nat := 0
  /-- How many had been sent when the stability timer fired last. -/
  settled : Nat := 0

/-- What stays as it is in the socket while it disconnects. -/
def socket_disconnected (shared : Shared) : Shared :=
  { shared with
    should_reconnect := false
    connected := false
    stability_task := none
    events := shared.events ++ [(none, .disconnected "client")] }

namespace Health

def world (h : Health) : World where
  cells := h.cells
  socket := { connected := h.shared.connected, read_loops := [], next_socket := 0 }

/-- What an operation of a call does to the socket. The clock is read by
    `MercurySocket::connect` alone, which has raised its flag by then. The URL and the token
    that the socket keeps for itself are left out. -/
def after (h : Health) : (op : Op) → Res op → Health
  | .now, _ => { h with shared := { h.shared with should_reconnect := true, stability_task := none } }
  | .open_socket _ _ _, .error _ => { h with shared := { h.shared with connected := false } }
  | .open_socket _ _ _, .ok () => { h with
      shared := { h.shared with
        connected := true
        stability_task := some ⟨h.read_loops.length, h.shared.time, true⟩ }
      read_loops := h.read_loops ++ [true] }
  | .mercury_disconnect, _ => { h with shared := socket_disconnected h.shared }
  | .start_event_loop, _ => { h with event_loop := true }
  | _, _ => h

/-- The servers as a call finds them that looks at the attempts counter. -/
def counted (h : Health) (servers : Servers) : Servers := { servers with attempts := h.shared.reconnect_attempts }

/-- One operation of a call. -/
def respond (servers : Servers) (op : Op) (h : Health) : Res op × Health :=
  let answered := World.respond (h.counted servers) op h.world
  (answered.1, { h.after op answered.1 with cells := answered.2.cells })

/-- A call that has the handler to itself. -/
def call {α : Type} (servers : Servers) (m : Handler α) (h : Health) : Health :=
  ((m ()).exec (Health.respond servers) h).2

/-- The sockets' streams go on, the event loop handles what they bring, the stability timer
    fires, and the consumer makes its calls. -/
inductive Label
  | connect (servers : Servers)
  | disconnect (servers : Servers)
  | reconnect (new_token : String) (servers : Servers)
  | item (socket : Nat) (item : Option Item)
  | event (servers : Servers)
  | fire
  | wait (millis : Nat)

variable (crates : Crates) (ignore_self_messages : Bool) (options : mercury_socket.Options)

/-- A read loop takes an item and handles it. The backoff after an announced attempt is
    not told apart from what follows it. -/
def take (h : Health) (socket : Nat) (item : Option Item) : Health :=
  { h with
    shared := run_loop socket (handle_item crates.socket options.max_reconnect_attempts item) h.shared
    read_loops := if (mercury_socket.Action.next item).ends then h.read_loops.set socket false else h.read_loops }

def step (h : Health) : Label → Option Health
  | .connect servers => some (h.call servers (connect crates ignore_self_messages))
  | .disconnect servers => some (h.call servers disconnect)
  | .reconnect new_token servers => some (h.call servers (reconnect crates ignore_self_messages new_token))
  | .item socket item => if h.read_loops[socket]? = some true then some (h.take crates options socket item) else none
  | .event servers =>
    if h.event_loop then
      (h.shared.events[h.handled]?).map fun event =>
        { h.call servers (handle_mercury_event crates (some event.2)) with handled := h.handled + 1 }
    else none
  | .fire =>
    match h.shared.stability_task with
    | some ⟨socket, armed_at, true⟩ =>
      if armed_at + options.reconnect_stability ≤ h.shared.time then
        some { h with
          shared := { h.shared with reconnect_attempts := 0, stability_task := some ⟨socket, armed_at, false⟩ }
          settled := h.shared.events.length }
      else none
    | _ => none
  | .wait millis => some { h with shared := { h.shared with time := h.shared.time + millis } }

end Health

/-- A new handler with its socket, its event loop and its consumer. -/
def health (crates : Crates) (ignore_self_messages : Bool) (options : mercury_socket.Options) (token : String) :
    Machine Health Health.Label where
  init := { cells := { content := initial_content token, next_mailbox := 0 } }
  step := Health.step crates ignore_self_messages options

section network

/-- What a `connect` of the socket finds in the network. -/
structure Network where
  timestamp : Nat
  new_v4 : String
  connected : Except String (List Item)
  written : Except String Unit
  timed_out : Bool

/-- The socket with its read loops, as the operations of a caller find it. -/
def Network.respond (network : Network) :
    (op : mercury_socket.Op) → Shared × List Bool → mercury_socket.Res op × (Shared × List Bool)
  | .act action, s => ((s.1.apply none action).1, ((s.1.apply none action).2, s.2))
  | .now, s => (network.timestamp, s)
  | .new_v4, s => (network.new_v4, s)
  | .connect_async _, s => (network.connected, s)
  | .write _, s => (network.written, s)
  | .timeout, s => (network.timed_out, s)
  | .spawn_read_loop _, s => (s.2.length, (s.1, s.2 ++ [true]))

/-- Whether the socket opens, once its URL is prepared. -/
def Network.opened (crates : mercury_socket.Crates) (network : Network) : Except WebexError Unit := do
  let stream ← network.connected.mapError fun e => .mercury_connection ("Failed to connect: " ++ e) none
  network.written.mapError fun e => .mercury_connection ("Failed to send auth: " ++ e) none
  if network.timed_out then .error (.mercury_connection "Mercury connection timeout" none)
  let _ ← mercury_socket.wait_ready crates stream
  return ()

variable (crates : Crates)

/-- A `connect` of the socket does what the handler sees of it, and keeps the URL and the
    token. -/
theorem connect_socket (h : Health) (network : Network) (servers : Servers) (hnow : servers.now = network.timestamp)
    (hopened : servers.opened = network.opened crates.socket) (ws_url token : String) :
    let done := (mercury_socket.connect crates.socket ws_url token ()).exec network.respond (h.shared, h.read_loops)
    let seen := (mercury_connect crates ws_url token ()).exec (Health.respond servers) h
    done.1.1.map (fun _ => ()) = seen.1.1 ∧
      done.2 = ({ seen.2.shared with token := token, base_url := ws_url }, seen.2.read_loops) := by
  obtain ⟨fetched, kms, opened, attempts, event, now⟩ := servers
  dsimp only at hnow hopened
  subst hnow hopened
  have hraised : (mercury_connect crates ws_url token ()).exec (Health.respond
      ⟨fetched, kms, network.opened crates.socket, attempts, event, network.timestamp⟩) h =
      ((Method.ofExcept (mercury_socket.prepare_url crates.socket ws_url network.timestamp) >>= fun prepared_url =>
        open_socket ws_url prepared_url token >>= Method.ofExcept : Handler Unit) ()).exec (Health.respond
        ⟨fetched, kms, network.opened crates.socket, attempts, event, network.timestamp⟩) (h.after .now network.timestamp) := rfl
  dsimp only
  rw [hraised]
  unfold mercury_socket.connect mercury_socket.connect_internal
  simp only [Method.exec_bind, mercury_socket.perform, Method.request, Program.exec, Network.respond, Shared.apply,
    mercury_socket.now, mercury_socket.new_v4, mercury_socket.connect_async, mercury_socket.write, mercury_socket.timeout,
    mercury_socket.spawn_read_loop, Method.ofExcept, Method.reject]
  unfold Network.opened
  cases mercury_socket.prepare_url crates.socket ws_url network.timestamp with
  | error e => exact ⟨rfl, rfl⟩
  | ok prepared_url =>
    cases network.connected with
    | error e => exact ⟨rfl, rfl⟩
    | ok stream =>
      cases network.written with
      | error e => exact ⟨rfl, rfl⟩
      | ok sent =>
        cases network.timed_out with
        | true => exact ⟨rfl, rfl⟩
        | false =>
          simp only [Except.mapError, Bind.bind, Except.bind]
          cases mercury_socket.wait_ready crates.socket stream with
          | error e => exact ⟨rfl, rfl⟩
          | ok items => exact ⟨rfl, rfl⟩

/-- So does a `disconnect`. -/
theorem disconnect_socket (h : Health) (network : Network) (servers : Servers) :
    ((mercury_socket.disconnect ()).exec network.respond (h.shared, h.read_loops)).2 =
      ((h.call servers mercury_disconnect).shared, (h.call servers mercury_disconnect).read_loops) := rfl

end network

section calls

variable {crates : Crates} {ignore_self_messages : Bool} {servers : Servers} {α : Type}

/-- A world in which a call runs as it does for the handler. -/
structure Health.Matches (h : Health) (attempts : Nat) (w : World) : Prop where
  cells : w.cells = h.cells
  connected : w.socket.connected = h.shared.connected
  attempts : h.shared.reconnect_attempts = attempts

theorem respond_matches (servers : Servers) (attempts : Nat) (op : Op) (h : Health) (w : World)
    (hmatches : h.Matches attempts w) :
    (Health.respond servers op h).1 = (World.respond { servers with attempts := attempts } op w).1 ∧
      (Health.respond servers op h).2.Matches attempts (World.respond { servers with attempts := attempts } op w).2 := by
  obtain ⟨cells, socket⟩ := w
  obtain ⟨rfl, hconnected, rfl⟩ := hmatches
  cases op with
  | mercury_connected => exact ⟨hconnected.symm, rfl, hconnected, rfl⟩
  | open_socket base_url prepared_url token =>
    refine ⟨rfl, rfl, ?_, ?_⟩
    · show (socket.opened servers.opened).connected =
        (h.after (.open_socket base_url prepared_url token) servers.opened).shared.connected
      cases servers.opened <;> rfl
    · show (h.after (.open_socket base_url prepared_url token) servers.opened).shared.reconnect_attempts = _
      cases servers.opened <;> rfl
  | mercury_disconnect => exact ⟨rfl, rfl, rfl, rfl⟩
  | _ => exact ⟨rfl, rfl, hconnected, rfl⟩

/-- A call leaves the cells as it does whatever the read loops do. -/
theorem exec_of_evaluates {m : Handler α} {h : Health} {r : Except WebexError α} {after : Cells}
    (hm : Evaluates (h.counted servers) true (fun _ _ => True) m h.cells r after) :
    ((m ()).exec (Health.respond servers) h).1.1 = r ∧ (h.call servers m).cells = after := by
  obtain ⟨hresult, hcells, -⟩ := Program.Obeys.exec moves_respond (hm h.world.socket)
  obtain ⟨hsame, hmatches⟩ := Program.exec_related (respond_matches servers h.shared.reconnect_attempts) (m ())
    (show h.Matches h.shared.reconnect_attempts h.world from ⟨rfl, rfl, rfl⟩)
  exact ⟨(congrArg Prod.fst hsame).trans hresult, hmatches.cells.symm.trans hcells⟩

/-- The socket after a call: its counter is as before, and what is new in its channel
    announces no attempt. -/
structure Health.Quiet (before after : Health) : Prop where
  attempts : after.shared.reconnect_attempts = before.shared.reconnect_attempts
  settled : after.settled = before.settled
  events : ∃ added, after.shared.events = before.shared.events ++ added ∧
    ∀ event ∈ added, emitted_by_socket event.2 = true ∧ is_reconnecting event.2 = false

theorem Health.Quiet.trans {h₁ h₂ h₃ : Health} (hfirst : h₁.Quiet h₂) (hthen : h₂.Quiet h₃) : h₁.Quiet h₃ where
  attempts := hthen.attempts.trans hfirst.attempts
  settled := hthen.settled.trans hfirst.settled
  events := by
    obtain ⟨first, hfirst, hquiet⟩ := hfirst.events
    obtain ⟨second, hsecond, hquiet'⟩ := hthen.events
    refine ⟨first ++ second, by rw [hsecond, hfirst, List.append_assoc], ?_⟩
    intro event hevent
    obtain hmem | hmem := List.mem_append.mp hevent
    · exact hquiet event hmem
    · exact hquiet' event hmem

theorem Health.Quiet.of_eq {before after : Health} (hattempts : after.shared.reconnect_attempts = before.shared.reconnect_attempts)
    (hsettled : after.settled = before.settled) (hevents : after.shared.events = before.shared.events) :
    before.Quiet after :=
  ⟨hattempts, hsettled, [], by rw [hevents, List.append_nil], fun _ hmem => absurd hmem List.not_mem_nil⟩

theorem respond_quiet (servers : Servers) (op : Op) (h : Health) : h.Quiet (Health.respond servers op h).2 := by
  cases op with
  | open_socket base_url prepared_url token =>
    have hopened : ∀ r, h.Quiet { h.after (.open_socket base_url prepared_url token) r with cells := h.cells } := by
      intro r
      cases r <;> exact Health.Quiet.of_eq rfl rfl rfl
    exact hopened servers.opened
  | mercury_disconnect =>
    refine ⟨rfl, rfl, [(none, .disconnected "client")], rfl, ?_⟩
    intro event hmem
    obtain rfl := List.mem_singleton.mp hmem
    exact ⟨rfl, rfl⟩
  | _ => exact Health.Quiet.of_eq rfl rfl rfl

/-- No call touches the attempts counter or announces an attempt. -/
theorem call_quiet (servers : Servers) (m : Handler α) (h : Health) : h.Quiet (h.call servers m) :=
  Program.exec_invariant (fun op _ hquiet => hquiet.trans (respond_quiet servers op _)) (m ())
    (Health.Quiet.of_eq rfl rfl rfl)

end calls

section intent

variable {crates : Crates} {ignore_self_messages : Bool} {servers : Servers} {α β : Type}

/-- Whether the socket intends to reconnect, and the mailboxes made so far. -/
structure Intent where
  flag : Bool
  mailboxes : Nat

def Intent.moved (i : Intent) : Op → Intent
  | .now => { i with flag := true }
  | .mercury_disconnect => { i with flag := false }
  | .new_mailbox => { i with mailboxes := i.mailboxes + 1 }
  | _ => i

def intent : Monitor Op Res Intent where
  allowed _ _ := True
  moves i op _ i' := i' = i.moved op

def Health.intent (h : Health) : Intent := ⟨h.shared.should_reconnect, h.cells.next_mailbox⟩

theorem respond_intent (servers : Servers) (op : Op) (h : Health) :
    (Health.respond servers op h).2.intent = h.intent.moved op := by
  cases op with
  | open_socket base_url prepared_url token =>
    have hopened : ∀ r, (h.after (.open_socket base_url prepared_url token) r).shared.should_reconnect =
        h.shared.should_reconnect := by
      intro r
      cases r <;> rfl
    exact congrArg (Intent.mk · h.cells.next_mailbox) (hopened servers.opened)
  | fetch req => rfl
  | kms mailbox op => rfl
  | _ => rfl

/-- What a method leaves of the flag, it leaves of it in the handler. -/
theorem exec_of_intent {m : Handler α} {h : Health} {post : Except WebexError α → Intent → Prop}
    (hm : m.Obeys handler.intent () h.intent fun r _ i => post r i) :
    post ((m ()).exec (Health.respond servers) h).1.1 (h.call servers m).intent := by
  have hfollows := @Program.Obeys.transfer _ _ _ _ _ _ (following (Health.respond servers))
    (fun i (h : Health) => h.intent = i) _ (fun out (h' : Health) => post out.1 h'.intent) (fun _ _ _ _ _ => trivial)
    ?_ ?_ _ _ h rfl hm
  · exact Program.obeys_following hfollows
  · rintro i h op r h' rfl - ⟨rfl, rfl⟩
    exact ⟨_, rfl, respond_intent servers op h⟩
  · rintro out i h rfl hpost
    exact hpost

/-- A method that preserves a property of the flag and the mailboxes. -/
def KeepsIntent (I : Intent → Prop) (m : Handler α) : Prop := Method.Keeps handler.intent (fun _ i => I i) m

variable {I : Intent → Prop}

theorem keeps_intent_request {op : Op} (hop : ∀ i, I i → I (i.moved op)) : KeepsIntent I (Method.request op) := by
  apply Method.keeps_request
  rintro - i hi
  refine ⟨trivial, ?_⟩
  rintro r _ rfl
  exact hop i hi

theorem keeps_intent_bind {m : Handler α} {f : α → Handler β} (hm : KeepsIntent I m)
    (hf : ∀ value, KeepsIntent I (f value)) : KeepsIntent I (m >>= f) :=
  Method.keeps_bind hm hf

theorem keeps_intent_acquire (cell : Cell) : KeepsIntent I (acquire cell) := keeps_intent_request fun _ hi => hi

theorem keeps_intent_release (cell : Cell) (content : Content cell) : KeepsIntent I (release cell content) :=
  keeps_intent_request fun _ hi => hi

theorem keeps_intent_ofExcept (value : Except WebexError α) : KeepsIntent I (Method.ofExcept value) :=
  Method.keeps_ofExcept value

theorem keeps_intent_read_cell (cell : Cell) : KeepsIntent I (read_cell cell) := by
  apply keeps_intent_bind (keeps_intent_acquire cell)
  intro content
  exact keeps_intent_bind (keeps_intent_release cell content) fun _ => keeps_intent_ofExcept (.ok content)

theorem keeps_intent_write_cell (cell : Cell) (content : Content cell) : KeepsIntent I (write_cell cell content) :=
  keeps_intent_bind (keeps_intent_acquire cell) fun _ => keeps_intent_release cell content

theorem keeps_intent_call {Op' : Type} {Res' : Op' → Type} {τ : Type} {inject : Op' → Op}
    {project : ∀ op, Res (inject op) → Res' op} (hinject : ∀ op i, I i → I (i.moved (inject op)))
    (m : Method Op' Res' τ WebexError α) (t : τ) : KeepsIntent I (m.call inject project t) := by
  rintro - i hi
  rw [Method.obeys_call]
  apply Program.obeys_of_kept (fun _ _ _ => trivial) _ _ hi
  rintro i op r i' hi ⟨r', -, rfl⟩
  exact hinject op i hi

theorem keeps_intent_initialize_kms : KeepsIntent I (initialize_kms crates) := by
  apply keeps_intent_bind (keeps_intent_acquire .kms_client)
  intro client
  cases client with
  | none => exact keeps_intent_bind (keeps_intent_release .kms_client none) fun _ => keeps_intent_ofExcept _
  | some client =>
    apply keeps_intent_bind (keeps_intent_call (fun _ _ hi => hi) _ _)
    intro out
    exact keeps_intent_bind (keeps_intent_release .kms_client _) fun _ => keeps_intent_ofExcept _

/-- The rest of `connect_internal` once the socket is open. -/
theorem keeps_intent_opened (reg : DeviceRegistration) : KeepsIntent I (do
    start_event_loop
    let initialized ← initialize_kms crates
    Method.ofExcept initialized
    write_cell .registration (some reg)) := by
  apply keeps_intent_bind (keeps_intent_request fun _ hi => hi)
  intro _
  apply keeps_intent_bind keeps_intent_initialize_kms
  intro initialized
  exact keeps_intent_bind (keeps_intent_ofExcept _) fun _ => keeps_intent_write_cell .registration _

theorem keeps_intent_mercury_connect (hraised : ∀ i, I i → I { i with flag := true }) (ws_url token : String) :
    KeepsIntent I (mercury_connect crates ws_url token) := by
  apply keeps_intent_bind (keeps_intent_request hraised)
  intro timestamp
  apply keeps_intent_bind (keeps_intent_ofExcept _)
  intro prepared_url
  exact keeps_intent_bind (keeps_intent_request fun _ hi => hi) fun opened => keeps_intent_ofExcept opened

/-- What is kept from the new mailbox on is kept by the whole of `connect`: before, no
    operation changes the flag. -/
theorem keeps_intent_connect (hrest : ∀ token reg, KeepsIntent I (do
      let mailbox ← new_mailbox
      write_cell .kms_response_handler (some mailbox)
      write_cell .kms_client
        (some (mailbox, kms_client.new token reg.device_url reg.user_id reg.encryption_service_url))
      mercury_connect crates reg.web_socket_url token
      start_event_loop
      let initialized ← initialize_kms crates
      Method.ofExcept initialized
      write_cell .registration (some reg))) : KeepsIntent I (connect crates ignore_self_messages) := by
  have hinternal : KeepsIntent I (connect_internal crates ignore_self_messages) := by
    apply keeps_intent_bind (keeps_intent_read_cell .token)
    intro token
    apply keeps_intent_bind
    · apply keeps_intent_bind (keeps_intent_acquire .device_manager)
      intro dm
      apply keeps_intent_bind (keeps_intent_call (fun _ _ hi => hi) _ _)
      intro out
      exact keeps_intent_bind (keeps_intent_release .device_manager _) fun _ => keeps_intent_ofExcept _
    intro reg
    apply keeps_intent_bind
    · apply Method.keeps_when
      intro _
      apply keeps_intent_bind (keeps_intent_read_cell .token)
      intro token
      apply keeps_intent_bind (keeps_intent_request fun _ hi => hi)
      intro response
      apply keeps_intent_bind (keeps_intent_ofExcept _)
      intro uuid
      exact keeps_intent_write_cell .bot_person_id _
    intro _
    exact hrest token reg
  apply keeps_intent_bind (keeps_intent_acquire .connecting)
  intro connecting
  apply keeps_intent_bind (keeps_intent_acquire .connected)
  intro connected
  apply keeps_intent_bind (keeps_intent_release .connected _)
  intro _
  apply keeps_intent_bind (keeps_intent_release .connecting _)
  intro _
  apply keeps_intent_bind (keeps_intent_ofExcept _)
  intro _
  apply keeps_intent_bind (keeps_intent_ofExcept _)
  intro _
  apply keeps_intent_bind (keeps_intent_write_cell .connecting _)
  intro _
  apply keeps_intent_bind (Method.keeps_attempt hinternal)
  intro result
  apply keeps_intent_bind (keeps_intent_write_cell .connecting _)
  intro _
  apply keeps_intent_bind (keeps_intent_ofExcept _)
  intro _
  exact keeps_intent_bind (keeps_intent_write_cell .connected _) fun _ => keeps_intent_request fun _ hi => hi

/-- A `connect` does not lower the flag. -/
theorem connect_keeps_flag : KeepsIntent (fun i => i.flag = true) (connect crates ignore_self_messages) := by
  apply keeps_intent_connect
  intro token reg
  apply keeps_intent_bind (keeps_intent_request fun _ hi => hi)
  intro mailbox
  apply keeps_intent_bind (keeps_intent_write_cell .kms_response_handler _)
  intro _
  apply keeps_intent_bind (keeps_intent_write_cell .kms_client _)
  intro _
  exact keeps_intent_bind (keeps_intent_mercury_connect (fun _ _ => rfl) _ _) fun _ => keeps_intent_opened reg

/-- A `connect` leaves the flag as it is, or gets as far as its mailbox. -/
theorem connect_keeps_intent (before : Intent) :
    KeepsIntent (fun i => i = before ∨ before.mailboxes < i.mailboxes) (connect crates ignore_self_messages) := by
  apply keeps_intent_connect
  rintro token reg - i hi
  have hmade : before.mailboxes < (i.moved .new_mailbox).mailboxes := by
    obtain rfl | hmore := hi
    · exact Nat.lt_succ_self _
    · exact Nat.lt_succ_of_lt hmore
  refine ⟨trivial, ?_⟩
  rintro mailbox _ rfl
  refine Program.Obeys.mono (fun _ _ => Or.inr) (Program.obeys_of_kept (fun _ _ _ => trivial) ?_ _ hmade)
  rintro i op r _ hmore rfl
  cases op with
  | new_mailbox => exact Nat.lt_succ_of_lt hmore
  | _ => exact hmore

theorem KeepsIntent.yields {m : Handler α} (hm : KeepsIntent I m) {i : Intent} (hi : I i) :
    m.Yields handler.intent () i fun _ _ i' => I i' :=
  (hm () i hi).mono fun _ _ _ hkept _ _ => hkept

theorem yields_any (m : Handler α) (i : Intent) : m.Yields handler.intent () i fun _ _ _ => True :=
  Method.yields_of_allowed (fun _ _ => trivial) m

theorem connect_internal_intends (i : Intent) :
    (connect_internal crates ignore_self_messages).Yields handler.intent () i fun _ _ i' => i'.flag = true := by
  apply Method.yields_bind (yields_any _ i)
  intro token _ i _
  apply Method.yields_bind (yields_any _ i)
  intro reg _ i _
  apply Method.yields_bind (yields_any _ i)
  intro _ _ i _
  apply Method.yields_bind (yields_any _ i)
  intro mailbox _ i _
  apply Method.yields_bind (yields_any _ i)
  intro _ _ i _
  apply Method.yields_bind (yields_any _ i)
  intro _ _ i _
  have hraised : (mercury_connect crates reg.web_socket_url token).Yields handler.intent () i
      fun _ _ i' => i'.flag = true := by
    apply Method.yields_bind_request trivial
    rintro timestamp _ rfl
    apply @KeepsIntent.yields _ (fun i => i.flag = true) _ _ _ rfl
    apply keeps_intent_bind (keeps_intent_ofExcept _)
    intro prepared_url
    exact keeps_intent_bind (keeps_intent_request fun _ hi => hi) fun opened => keeps_intent_ofExcept opened
  apply Method.yields_bind hraised
  intro _ _ i hflag
  exact (keeps_intent_opened reg).yields hflag

/-- A socket that a successful `connect` has opened intends to reconnect. -/
theorem connect_intends (i : Intent) :
    (connect crates ignore_self_messages).Yields handler.intent () i fun _ _ i' => i'.flag = true := by
  apply Method.yields_bind (yields_any _ i)
  intro connecting _ i _
  apply Method.yields_bind (yields_any _ i)
  intro connected _ i _
  apply Method.yields_bind (yields_any _ i)
  intro _ _ i _
  apply Method.yields_bind (yields_any _ i)
  intro _ _ i _
  apply Method.yields_bind (yields_any _ i)
  intro _ _ i _
  apply Method.yields_bind (yields_any _ i)
  intro _ _ i _
  apply Method.yields_bind (yields_any _ i)
  intro _ _ i _
  apply Method.yields_bind (Method.yields_attempt (connect_internal_intends i))
  intro result _ i hresult
  cases result with
  | error e =>
    apply Method.yields_bind (yields_any _ i)
    intro _ _ i _
    exact Method.yields_bind_ofExcept fun _ heq => nomatch heq
  | ok value =>
    have hflag : i.flag = true := hresult value rfl
    apply KeepsIntent.yields _ hflag
    apply keeps_intent_bind (keeps_intent_write_cell .connecting _)
    intro _
    apply keeps_intent_bind (keeps_intent_ofExcept _)
    intro _
    exact keeps_intent_bind (keeps_intent_write_cell .connected _) fun _ => keeps_intent_request fun _ hi => hi

/-- After a `disconnect` the socket does not intend to reconnect. -/
theorem disconnect_intent (i : Intent) : disconnect.Obeys handler.intent () i fun _ _ i' =>
    i' = ⟨false, i.mailboxes⟩ := by
  have hrest : KeepsIntent (fun i' => i' = ⟨false, i.mailboxes⟩) (do
      let token ← read_cell .token
      unregister_device token
      write_cell .registration none
      write_cell .kms_client none
      write_cell .kms_response_handler none
      write_cell .bot_person_id none) := by
    apply keeps_intent_bind (keeps_intent_read_cell .token)
    intro token
    apply keeps_intent_bind
    · apply keeps_intent_bind (keeps_intent_acquire .registration)
      intro reg
      apply keeps_intent_bind
      · apply Method.keeps_when
        intro _
        apply keeps_intent_bind (keeps_intent_acquire .device_manager)
        intro dm
        apply keeps_intent_bind (keeps_intent_call (fun _ _ hi => hi) _ _)
        intro out
        exact keeps_intent_release .device_manager _
      · intro _
        exact keeps_intent_release .registration _
    intro _
    apply keeps_intent_bind (keeps_intent_write_cell .registration _)
    intro _
    apply keeps_intent_bind (keeps_intent_write_cell .kms_client _)
    intro _
    apply keeps_intent_bind (keeps_intent_write_cell .kms_response_handler _)
    intro _
    exact keeps_intent_write_cell .bot_person_id _
  refine ⟨trivial, ?_⟩
  rintro _ _ rfl
  refine ⟨trivial, ?_⟩
  rintro _ _ rfl
  refine ⟨trivial, ?_⟩
  rintro _ _ rfl
  exact hrest () _ rfl

end intent

end webex.rust.handler

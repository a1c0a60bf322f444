import Mathlib.Data.List.Infix
import WebexHandler.Json
import WebexHandler.Python.MercurySocket.Hang

open json

namespace webex.python.mercury_socket

/-- What `json.loads` makes of a text: a value, a `JSONDecodeError`, or another
    exception, as for a text that is nested too deep. -/
inductive Loaded
  | value (message : Value)
  | decode_error
  | raised

/-- What the socket uses of Python on a text frame. -/
structure Runtime where
  loads : String → Loaded
  /-- `bool` of a number, by its literal. -/
  number_bool : String → Bool
  /-- The ping whose id a message has under `id`. -/
  ping_of : Option Value → Nat

/-- `value.get(key, default)`, which only a dict has. -/
def dict_get (value : Value) (key : String) (default : Value) : Option Value :=
  match value with
  | .object members => some (((Value.object members).get key).getD default)
  | _ => none

/-- `part in value`, with nothing where it raises a `TypeError`. -/
def is_in (part : String) : Value → Option Bool
  | .string s => some (decide (part.toList <:+: s.toList))
  | .array items => some (items.any fun item => item.as_str == some part)
  | .object members => some (members.any fun member => member.1 == part)
  | _ => none

/-- `_is_connection_ready`, with nothing where it raises. -/
def is_connection_ready (message : Value) : Option Bool := do
  let data ← dict_get message "data" (.object [])
  let event_type ← dict_get data "eventType" (.string "")
  if ← is_in "mercury.buffer_state" event_type then return true
  is_in "mercury.registration_status" event_type

theorem is_connection_ready_eq (message : Value) :
    is_connection_ready message =
      ((dict_get message "data" (.object [])).bind (dict_get · "eventType" (.string ""))).bind fun event_type =>
        (is_in "mercury.buffer_state" event_type).bind fun buffered =>
          if buffered then some true else is_in "mercury.registration_status" event_type := by
  simp only [is_connection_ready, Option.bind_eq_bind, Option.bind_assoc]
  rfl

/-- `_handle_activity_envelope`, with nothing where its lookups raise. `startswith` raises
    too, after the ACK and before everything that is routed. -/
def handle_activity_envelope (self : MercurySocket) (message : Value) : Option MercurySocket := do
  let data ← dict_get message "data" (.object [])
  let event_type ← dict_get data "eventType" (.string "")
  return if event_type.as_str.isSome then self.send_ack.emit .envelope else self.send_ack

namespace Runtime

variable (runtime : Runtime)

/-- `bool(value)`. -/
def bool : Value → Bool
  | .null => false
  | .bool b => b
  | .number literal => runtime.number_bool literal
  | .string s => s != ""
  | .array items => !items.isEmpty
  | .object members => !members.isEmpty

/-- The body of the `try` in `_handle_message`, with nothing where a lookup raises. -/
def dispatch (self : MercurySocket) (message : Value) : Option MercurySocket := do
  let msg_type ← dict_get message "type" .null
  if msg_type.as_str = some "pong" then
    return self.handle_pong (runtime.ping_of (message.get "id"))
  let data ← dict_get message "data" (.object [])
  let event_type ← dict_get data "eventType" .null
  if runtime.bool event_type then handle_activity_envelope self message
  else if msg_type.as_str = some "shutdown" then return self.ensure_reconnect
  else return self

/-- `_handle_message`. A lookup that raises has changed nothing before. -/
def handle_message (self : MercurySocket) (message : Value) : MercurySocket :=
  (runtime.dispatch self message).getD self

/-- The body of the `async for` on a text frame, and the code after the loop where an
    exception or the rotation of the socket ends it. -/
def read_text (self : MercurySocket) (read : Nat) (text : String) (close_code : Option Nat) : MercurySocket :=
  if (self.reads read).owned_ws ≠ self.ws then self.read_tail read close_code
  else match runtime.loads text with
    | .decode_error => self
    | .raised => (self.read_failed read).read_tail read close_code
    | .value message =>
      let self := runtime.handle_message self message
      if self.connection_ready then self
      else match is_connection_ready message with
        | some true =>
          { self with connection_ready := true }.start_ping_loop.set_read read { self.reads read with ready := true }
        | some false => self
        | none => (self.read_failed read).read_tail read close_code

end Runtime

/-- A pong, a shutdown notice, or a message with a string as its event type. -/
def addressed (message : Value) : Bool :=
  let msg_type := (message.get "type").bind Value.as_str
  msg_type == some "pong" || msg_type == some "shutdown" ||
    (((message.get "data").bind (·.get "eventType")).bind Value.as_str).isSome

def names_readiness (name : String) : Bool :=
  name == "mercury.buffer_state" || name == "mercury.registration_status"

/-- What may come before readiness: an object without data, or whose data is an object
    with no event type or one that is a string, or a list or an object that does not make
    the socket ready by what it contains. -/
def tolerated (message : Value) : Bool :=
  match message, message.get "data" with
  | .object _, none => true
  | .object _, some (.object members) =>
    match (Value.object members).get "eventType" with
    | none => true
    | some (.string _) => true
    | some (.array items) => addressed message || items.all fun item => !item.as_str.any names_readiness
    | some (.object members) => addressed message || members.all fun member => !names_readiness member.1
    | some _ => false
  | _, _ => false

namespace Runtime

variable (runtime : Runtime)

def message_type (message : Value) : MessageType :=
  if (message.get "type").bind Value.as_str = some "pong" then .pong (runtime.ping_of (message.get "id"))
  else if (message.get "type").bind Value.as_str = some "shutdown" then .shutdown
  else .other

/-- How the tests of the code come out on the event type of a message. -/
def event_type (message : Value) : EventType :=
  match (dict_get message "data" (.object [])).bind (dict_get · "eventType" (.string "")), is_connection_ready message with
  | none, _ => .unreadable
  | some value, none => .malformed (runtime.bool value)
  | some value, some named =>
    if runtime.bool value then
      if value.as_str.isSome then if named then .ready else .other else .collection named
    else .absent

/-- What the text frame is to the socket. An exception of `json.loads` ends the loop as
    an error frame does. -/
def item (text : String) : Item :=
  match runtime.loads text with
  | .decode_error => .other
  | .raised => .error
  | .value message => .message (runtime.message_type message) (runtime.event_type message)

variable {runtime}

/-- Nothing is in an empty string, list or dict. -/
theorem is_in_of_falsy {part : String} {value : Value} (hpart : part ≠ "") (hfalsy : runtime.bool value = false) :
    is_in part value = none ∨ is_in part value = some false := by
  cases value with
  | null | bool | number => exact .inl rfl
  | string s =>
    have hs : s = "" := by simpa [Runtime.bool] using hfalsy
    have hne : part.toList ≠ [] := by simpa using hpart
    right
    simp [is_in, hs, hne]
  | array items =>
    have hitems : items = [] := by simpa [Runtime.bool] using hfalsy
    exact .inr (by rw [hitems]; rfl)
  | object members =>
    have hmembers : members = [] := by simpa [Runtime.bool] using hfalsy
    exact .inr (by rw [hmembers]; rfl)

theorem not_ready_of_falsy {event_type : Value} (hfalsy : runtime.bool event_type = false) {message : Value}
    (hfound : (dict_get message "data" (.object [])).bind (dict_get · "eventType" (.string "")) = some event_type) :
    is_connection_ready message ≠ some true := by
  rw [is_connection_ready_eq, hfound]
  have hregistered : is_in "mercury.registration_status" event_type = none ∨
      is_in "mercury.registration_status" event_type = some false := is_in_of_falsy (by decide) hfalsy
  have hbuffered : is_in "mercury.buffer_state" event_type = none ∨
      is_in "mercury.buffer_state" event_type = some false := is_in_of_falsy (by decide) hfalsy
  obtain hbuffered | hbuffered := hbuffered
  · simp [hbuffered]
  · obtain hregistered | hregistered := hregistered
    · simp [hbuffered, hregistered]
    · simp [hbuffered, hregistered]

theorem event_type_ready (message : Value) :
    (runtime.event_type message).is_connection_ready = is_connection_ready message := by
  unfold Runtime.event_type
  cases hfound : (dict_get message "data" (.object [])).bind (dict_get · "eventType" (.string "")) with
  | none =>
    have hnone : is_connection_ready message = none := by rw [is_connection_ready_eq, hfound]; rfl
    rw [hnone]
    rfl
  | some event_type =>
    cases hready : is_connection_ready message with
    | none => rfl
    | some named =>
      cases htruthy : runtime.bool event_type with
      | false =>
        have hnamed : named = false := by
          by_contra htrue
          rw [Bool.not_eq_false] at htrue
          exact not_ready_of_falsy htruthy hfound (hready.trans (congrArg some htrue))
        simp [htruthy, hnamed, EventType.is_connection_ready]
      | true =>
        cases hstring : event_type.as_str with
        | none => simp [htruthy, hstring, EventType.is_connection_ready]
        | some s => cases named <;> simp [htruthy, hstring, EventType.is_connection_ready]

/-- What the event type is taken for decides the routing: as if absent, by its string, or
    not at all. -/
theorem event_type_of_found {message event_type : Value}
    (hfound : (dict_get message "data" (.object [])).bind (dict_get · "eventType" (.string "")) = some event_type) :
    match runtime.bool event_type, event_type.as_str with
    | false, _ => runtime.event_type message = .absent ∨ runtime.event_type message = .malformed false
    | true, some _ => runtime.event_type message = .ready ∨ runtime.event_type message = .other
    | true, none => (∃ named, runtime.event_type message = .collection named) ∨
      runtime.event_type message = .malformed true := by
  have hready := is_connection_ready_eq message
  rw [hfound, Option.bind_some] at hready
  unfold Runtime.event_type
  rw [hfound]
  cases htruthy : runtime.bool event_type with
  | false => cases is_connection_ready message <;> simp [htruthy]
  | true =>
    cases hstring : event_type.as_str with
    | none => cases is_connection_ready message <;> simp [htruthy, hstring]
    | some s =>
      obtain ⟨named, hnamed⟩ : ∃ named, is_connection_ready message = some named := by
        cases event_type with
        | string s =>
          rw [hready]
          simp only [is_in, Option.bind_some]
          split <;> exact ⟨_, rfl⟩
        | _ => exact absurd hstring nofun
      rw [hnamed]
      cases named <;> simp [htruthy, hstring]

/-- A default that is not truthy either makes no difference to the routing. -/
theorem dispatch_object (self : MercurySocket) (members : List (String × Value))
    (hpong : ((Value.object members).get "type").bind Value.as_str ≠ some "pong") :
    runtime.dispatch self (.object members) =
      ((dict_get (.object members) "data" (.object [])).bind (dict_get · "eventType" (.string ""))).bind fun event_type =>
        if runtime.bool event_type then
          some (if event_type.as_str.isSome then self.send_ack.emit .envelope else self.send_ack)
        else if ((Value.object members).get "type").bind Value.as_str = some "shutdown" then some self.ensure_reconnect
        else some self := by
  have htype : (((Value.object members).get "type").getD .null).as_str =
      ((Value.object members).get "type").bind Value.as_str := by
    cases (Value.object members).get "type" <;> rfl
  simp only [dispatch, handle_activity_envelope, dict_get, Option.bind_eq_bind, Option.bind_some, htype, if_neg hpong,
    Option.pure_def]
  cases ((Value.object members).get "data").getD (.object []) with
  | object fields =>
    cases hget : (Value.object fields).get "eventType" with
    | none =>
      simp only [hget, Option.bind_some, Option.getD_none]
      rfl
    | some event_type => simp only [hget, Option.bind_some, Option.getD_some]
  | _ => rfl

/-- The routing of a message by what it was taken for. -/
theorem handle_message_eq (self : MercurySocket) (message : Value) :
    runtime.handle_message self message =
      self.handle_message (runtime.message_type message) (runtime.event_type message) := by
  unfold Runtime.handle_message
  cases message with
  | object members =>
    by_cases hpong : ((Value.object members).get "type").bind Value.as_str = some "pong"
    · have hdispatch : runtime.dispatch self (.object members) =
          some (self.handle_pong (runtime.ping_of ((Value.object members).get "id"))) := by
        cases htype : (Value.object members).get "type" with
        | none => simp [htype] at hpong
        | some type =>
          have htype' : type.as_str = some "pong" := by simpa [htype] using hpong
          simp [dispatch, dict_get, htype, htype']
      rw [hdispatch, message_type, if_pos hpong]
      rfl
    rw [dispatch_object self members hpong, message_type, if_neg hpong]
    cases hfound : (dict_get (.object members) "data" (.object [])).bind (dict_get · "eventType" (.string "")) with
    | none =>
      have hunreadable : runtime.event_type (.object members) = .unreadable := by
        unfold Runtime.event_type
        rw [hfound]
      rw [hunreadable]
      split <;> rfl
    | some event_type =>
      have hevent_type := @event_type_of_found runtime _ _ hfound
      rw [Option.bind_some]
      cases htruthy : runtime.bool event_type with
      | false =>
        simp only [htruthy] at hevent_type
        rw [if_neg Bool.false_ne_true]
        obtain habsent | hmalformed := hevent_type
        · rw [habsent]
          split <;> rfl
        · rw [hmalformed]
          split <;> rfl
      | true =>
        rw [if_pos rfl]
        cases hstring : event_type.as_str with
        | none =>
          simp only [htruthy, hstring] at hevent_type
          rw [Option.isSome_none, if_neg Bool.false_ne_true, Option.getD_some]
          obtain ⟨named, hcollection⟩ | hmalformed := hevent_type
          · rw [hcollection]
            split <;> rfl
          · rw [hmalformed]
            split <;> rfl
        | some s =>
          simp only [htruthy, hstring] at hevent_type
          rw [Option.isSome_some, if_pos rfl, Option.getD_some]
          obtain hready | hother := hevent_type
          · rw [hready]
            split <;> rfl
          · rw [hother]
            split <;> rfl
  | _ => rfl

/-- The text frames of a socket are items of its machine. -/
theorem read_text_eq {self : MercurySocket} {read ws : Nat} (howned : (self.reads read).owned_ws = some ws)
    (text : String) (close_code : Option Nat) :
    runtime.read_text self read text close_code = self.read_item read (runtime.item text) close_code := by
  unfold read_text MercurySocket.read_item item
  rw [howned]
  cases runtime.loads text with
  | decode_error => rfl
  | raised => rfl
  | value message =>
    cases hready : is_connection_ready message with
    | none => simp only [handle_message_eq, MercurySocket.read_ready, event_type_ready, hready]
    | some named =>
      cases named with
      | false => simp only [handle_message_eq, MercurySocket.read_ready, event_type_ready, hready]
      | true => simp only [handle_message_eq, MercurySocket.read_ready, event_type_ready, hready]

end Runtime

/-- What a frame may not do to the loop that reads it: end it, or report a failed
    connection. Only an addressed frame may do more to the socket than have it send an
    ACK. -/
structure Unharmed (runtime : Runtime) (before : MercurySocket) (read : Nat) (text : String)
    (after : MercurySocket) : Prop where
  reading : (after.reads read).pc = .reading
  current : (after.reads read).owned_ws = after.ws
  no_error : (after.reads read).connect_error = (before.reads read).connect_error
  unchanged : (∀ message, runtime.loads text = .value message → addressed message = false) → { after with acks := before.acks } = before

/-- What a text frame may be: text that `json.loads` rejects with its own error, or that it
    reads, as anything once the socket is ready and as a tolerated message before. -/
def harmless (runtime : Runtime) (self : MercurySocket) (text : String) : Bool :=
  match runtime.loads text with
  | .value message => self.connection_ready || tolerated message
  | .decode_error => true
  | .raised => false

theorem any_or {α : Type} (items : List α) (p q : α → Bool) :
    (items.any p || items.any q) = items.any fun item => p item || q item := by
  induction items with
  | nil => rfl
  | cons item rest ih =>
    simp only [List.any_cons, ← ih]
    cases p item <;> cases q item <;> simp

/-- A list or a dict names readiness by one of its strings or keys. -/
theorem is_in_either (event_type : Value) :
    ((is_in "mercury.buffer_state" event_type).bind fun buffered =>
      if buffered then some true else is_in "mercury.registration_status" event_type) =
    match event_type with
    | .string s => some (decide ("mercury.buffer_state".toList <:+: s.toList) ||
        decide ("mercury.registration_status".toList <:+: s.toList))
    | .array items => some (items.any fun item => item.as_str.any names_readiness)
    | .object members => some (members.any fun member => names_readiness member.1)
    | _ => none := by
  have heither : ∀ buffered registered : Bool,
      ((some buffered).bind fun buffered => if buffered then some true else some registered) =
        some (buffered || registered) := by decide
  cases event_type with
  | null | bool | number => rfl
  | string s => exact heither _ _
  | array items =>
    refine (heither _ _).trans (congrArg some ((any_or _ _ _).trans ?_))
    congr 1
    funext item
    cases item.as_str <;> simp [names_readiness]
  | object members => exact (heither _ _).trans (congrArg some (any_or _ _ _))

/-- A message is tolerated when the readiness test on it returns, and does not make the
    socket ready unless the message is addressed. -/
theorem tolerated_eq (message : Value) :
    tolerated message = match is_connection_ready message with
      | some named => addressed message || !named
      | none => false := by
  rw [is_connection_ready_eq]
  cases message with
  | object members =>
    cases hdata : (Value.object members).get "data" with
    | none =>
      simp only [tolerated, dict_get, hdata, Option.getD_none, Option.bind_some, is_in_either]
      exact (Bool.or_true _).symm
    | some data =>
      cases data with
      | object fields =>
        simp only [tolerated, dict_get, hdata, Option.getD_some, Option.bind_some, is_in_either]
        cases hevent_type : (Value.object fields).get "eventType" with
        | none => exact (Bool.or_true _).symm
        | some event_type =>
          rw [Option.getD_some]
          cases event_type with
          | null | bool | number => rfl
          | string s =>
            have haddressed : addressed (.object members) = true := by
              simp [addressed, hdata, hevent_type, Value.as_str]
            simp only [haddressed, Bool.true_or]
          | array items => simp only [List.not_any_eq_all_not]
          | object entries => simp only [List.not_any_eq_all_not]
      | _ =>
        simp only [tolerated, dict_get, hdata]
        rfl
  | _ => rfl

variable {runtime : Runtime} {self : MercurySocket}

/-- An event type that is found and truthy is that of the message. -/
theorem found_string {members : List (String × Value)} {event_type : Value}
    (hfound : (dict_get (.object members) "data" (.object [])).bind (dict_get · "eventType" (.string "")) = some event_type)
    (htruthy : runtime.bool event_type = true) (hstring : event_type.as_str.isSome = true) :
    addressed (.object members) = true := by
  cases hdata : (Value.object members).get "data" with
  | none =>
    simp only [dict_get, hdata, Option.getD_none, Option.bind_some] at hfound
    cases hfound
    exact absurd htruthy nofun
  | some data =>
    simp only [dict_get, hdata, Option.getD_some, Option.bind_some] at hfound
    cases data with
    | object fields =>
      cases hget : (Value.object fields).get "eventType" with
      | none =>
        simp only [hget, Option.getD_none, Option.some.injEq] at hfound
        subst hfound
        exact absurd htruthy nofun
      | some value =>
        simp only [hget, Option.getD_some, Option.some.injEq] at hfound
        simp [addressed, hdata, hget, hfound, hstring]
    | _ => exact absurd hfound nofun

theorem send_ack_but_acks (self : MercurySocket) : { self.send_ack with acks := self.acks } = self := by
  obtain ⟨acks, hsent⟩ := self.send_ack_eq
  rw [hsent]

theorem handle_message_unaddressed {message : Value} (hmessage : addressed message = false) :
    { runtime.handle_message self message with acks := self.acks } = self := by
  have hparts := hmessage
  simp only [addressed, Bool.or_eq_false_iff, beq_eq_false_iff_ne] at hparts
  obtain ⟨⟨hpong, hshutdown⟩, -⟩ := hparts
  rw [Runtime.handle_message]
  cases message with
  | object members =>
    rw [Runtime.dispatch_object self members hpong, if_neg hshutdown]
    cases hfound : (dict_get (.object members) "data" (.object [])).bind (dict_get · "eventType" (.string "")) with
    | none => rfl
    | some event_type =>
      rw [Option.bind_some]
      by_cases htruthy : runtime.bool event_type = true
      · by_cases hstring : event_type.as_str.isSome = true
        · rw [found_string hfound htruthy hstring] at hmessage
          exact absurd hmessage nofun
        · rw [if_pos htruthy, if_neg hstring]
          exact send_ack_but_acks self
      · rw [if_neg htruthy]
        rfl
  | _ => rfl

theorem handle_close_reads (code : Nat) : (self.handle_close code).reads = self.reads := by
  unfold MercurySocket.handle_close
  dsimp only
  split
  · rfl
  split
  · rfl
  split <;> rfl

theorem read_tail_not_reading (read : Nat) (close_code : Option Nat) :
    ((self.read_tail read close_code).reads read).pc ≠ .reading := by
  unfold MercurySocket.read_tail
  dsimp only
  split
  · split
    · simp only [MercurySocket.set_read, if_true]
      split <;> simp
    · simp [MercurySocket.set_read]
  · rw [handle_close_reads]
    simp [MercurySocket.set_read]

theorem handle_message_connection_ready (type : MessageType) (event_type : EventType) :
    (self.handle_message type event_type).connection_ready = self.connection_ready := by
  obtain ⟨acks, ⟨pong_id, heq⟩ | heq | heq | heq⟩ := self.handle_message_cases type event_type <;>
    exact heq ▸ rfl

/-- The frames that leave the read loop of the current socket as it was. -/
theorem unharmed_iff {read ws : Nat} (hreading : (self.reads read).pc = .reading)
    (howned : (self.reads read).owned_ws = some ws) (hcurrent : self.ws = some ws) (text : String)
    (close_code : Option Nat) :
    Unharmed runtime self read text (runtime.read_text self read text close_code) ↔
      harmless runtime self text = true := by
  have hown : (self.reads read).owned_ws = self.ws := howned.trans hcurrent.symm
  unfold Runtime.read_text harmless
  rw [if_neg (not_not.mpr hown)]
  cases hloads : runtime.loads text with
  | decode_error => exact iff_of_true ⟨hreading, hown, rfl, fun _ => rfl⟩ rfl
  | raised =>
    exact iff_of_false (fun hunharmed => read_tail_not_reading read close_code hunharmed.reading) Bool.false_ne_true
  | value message =>
    have hready : (runtime.handle_message self message).connection_ready = self.connection_ready := by
      rw [Runtime.handle_message_eq, handle_message_connection_ready]
    have hreads : (runtime.handle_message self message).reads = self.reads := by
      rw [Runtime.handle_message_eq, MercurySocket.handle_message_reads]
    have hws : (runtime.handle_message self message).ws = self.ws := by
      rw [Runtime.handle_message_eq, MercurySocket.handle_message_ws]
    have hhandled : Unharmed runtime self read text (runtime.handle_message self message) := by
      refine ⟨by rw [hreads, hreading], by rw [hreads, hws, hown], by rw [hreads], ?_⟩
      intro hunaddressed
      exact handle_message_unaddressed (hunaddressed message hloads)
    dsimp only
    rw [hready, tolerated_eq]
    cases hphase : self.connection_ready with
    | true => exact iff_of_true hhandled rfl
    | false =>
      rw [if_neg Bool.false_ne_true, Bool.false_or]
      cases is_connection_ready message with
      | none =>
        exact iff_of_false (fun hunharmed => read_tail_not_reading read close_code hunharmed.reading) Bool.false_ne_true
      | some named =>
        cases named with
        | false => exact iff_of_true hhandled (Bool.or_true _)
        | true =>
          dsimp only
          rw [Bool.not_true, Bool.or_false]
          constructor
          · intro hunharmed
            by_contra hunaddressed
            have hsame := hunharmed.unchanged fun other hother => by
              rw [hloads, Loaded.value.injEq] at hother
              rw [← hother, Bool.eq_false_iff.mpr hunaddressed]
            have hconnected := congrArg MercurySocket.connection_ready hsame
            rw [hphase] at hconnected
            exact absurd hconnected.symm Bool.false_ne_true
          · intro haddressed
            refine ⟨?_, ?_, ?_, ?_⟩
            · simp [MercurySocket.set_read, hreads, hreading]
            · simp [MercurySocket.set_read, MercurySocket.start_ping_loop, hreads, hws, hown]
            · simp [MercurySocket.set_read, hreads]
            · intro hunaddressed
              rw [hunaddressed message hloads] at haddressed
              exact absurd haddressed Bool.false_ne_true

section sample

/-- `json.loads` on one literal. -/
def null_literal : Runtime where
  loads := fun text => if text = "null" then .value .null else .decode_error
  number_bool := fun literal => literal != "0"
  ping_of := fun _ => 0

/-- The socket when its read loop has just started. -/
def connecting : MercurySocket := ({ max_reconnect_attempts := 10 : MercurySocket }.opened true false).authorized true

theorem rejected_text_unharmed :
    Unharmed null_literal connecting 0 "nul" (null_literal.read_text connecting 0 "nul" none) :=
  (@unharmed_iff null_literal connecting 0 0 rfl rfl rfl "nul" none).mpr rfl

/-- `null` before readiness raises in the readiness test, outside the `try`. -/
theorem null_ends_read_loop :
    ¬ ∀ (runtime : Runtime) (self : MercurySocket) (read ws : Nat) (text : String) (close_code : Option Nat),
      (self.reads read).pc = .reading → (self.reads read).owned_ws = some ws → self.ws = some ws →
        Unharmed runtime self read text (runtime.read_text self read text close_code) := by
  intro hclaim
  have hreading := (hclaim null_literal connecting 0 0 "null" none rfl rfl rfl).reading
  have hended : ((null_literal.read_text connecting 0 "null" none).reads 0).pc = .done := rfl
  rw [hended] at hreading
  exact absurd hreading nofun

end sample

end webex.python.mercury_socket

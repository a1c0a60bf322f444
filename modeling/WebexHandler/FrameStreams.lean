import WebexHandler.Go.MercurySocket.Frames
import WebexHandler.Numbers
import WebexHandler.Rust.MercurySocket.Loss
import WebexHandler.Streams

open json interaction streams

namespace webex

open rust (contains starts_with)
open rust.mercury_socket (Action Crates Item Shared act event_data handle_message_static handle_text is_connection_ready
  mercury_event oversized parse_text read_loop send_ack send_event wait_ready)
open go.mercury_socket (Effect Link Reader as_map as_string handle_message has_event_type is_connection_ready_message
  is_kms_event_type is_shutdown_notice read_goroutine route unmarshal)

/-- What the sockets read with. Each has a JSON library of its own, which refuses texts for
    reasons of its own (a lone surrogate escape, a nesting that is too deep, a number that
    is too large); of a text that both libraries read they make the same document but for
    its numbers, which stand in it as each library holds them. The activity parser that
    each socket is given makes the same of every object. -/
structure Readers where
  crates : Crates
  decode : String → Except String Value
  alike : ∀ text value value', decode text = .ok value → crates.from_str text = .ok value' → value.Alike value'
  parse_activity : Value → rust.MercuryActivity
  same_activity : ∀ members, ∃ activity, crates.activity_from_value (.object members) = .ok activity ∧
    { activity with object := activity.object.finalize_inputs } = parse_activity (.object members)

/-- A text frame of at most 1 MB. -/
structure Frame where
  text : String
  bounded : oversized text = false

/-- What a socket puts out for the frames it reads. -/
inductive Output
  | ack (message : Value)
  | kms_response (data : Value)
  | activity (activity : rust.MercuryActivity)

/-- The number of frames read when the socket is ready, if it gets ready, and what it
    puts out. -/
structure Session where
  ready : Option Nat
  outputs : List Output

def output_of_event : rust.MercuryEvent → Option Output
  | .kms_response data => some (.kms_response data)
  | .activity activity => some (.activity activity)
  | _ => none

def output_of_action : Action → Option Output
  | .ack message => some (.ack message)
  | .send event => output_of_event event
  | _ => none

def output_of_effect : Effect rust.MercuryActivity → Option Output
  | .write message => some (.ack message)
  | .on_kms_response data => some (.kms_response data)
  | .on_activity activity => some (.activity activity)
  | .go_trigger_reconnect => none

variable (readers : Readers)

/-- The Rust socket on the text frames that follow the authorization frame: the setup
    reads up to the readiness message, the read loop what is left. -/
def rust_session (max_reconnect socket : Nat) (shared : Shared) (texts : List String) : Session :=
  match wait_ready readers.crates (texts.map .text) with
  | .error _ => ⟨none, []⟩
  | .ok rest => ⟨some (texts.length - rest.length),
      ((read_loop readers.crates max_reconnect rest).trace (Shared.apply (some socket)) shared).filterMap output_of_action⟩

/-- The Go socket on the same frames. -/
def go_session (link : Nat → Link) (texts : List String) : Session :=
  let reader := read_goroutine readers.parse_activity readers.decode link {} 0 texts
  ⟨reader.ready, reader.effects.filterMap output_of_effect⟩

/-- Whatever a reconnect that the frames start does to the connection, both sockets get
    ready at the same frame, and have put out the same after each frame. -/
def SameStream (frames : List Frame) : Prop :=
  ∀ link, Link.Caused readers.decode link (frames.map Frame.text) → ∀ max_reconnect socket shared count,
    go_session readers link ((frames.map Frame.text).take count) =
      rust_session readers max_reconnect socket shared ((frames.map Frame.text).take count)

/-- The data and the event type of a message that Go takes for an envelope. -/
def envelope (message : Value) : Option (Value × String) :=
  if as_string (message.get "type") = "pong" then none
  else do
    let data ← as_map (message.get "data")
    let event_type ← (data.get "eventType").bind Value.as_str
    return (data, event_type)

/-- What each port reads of a text. -/
def go_message (text : String) : Option Value := unmarshal readers.decode text

def rust_message (text : String) : Option Value := (readers.crates.from_str text).toOption

/-- Go puts out nothing for the frame. -/
def silent (text : String) : Bool := (go_message readers text).all fun message => (envelope message).isNone

/-- The parsers make the same of an activity, or neither makes anything of it. -/
def SameParsed : Option Value → Option Value → Prop
  | some activity_raw, some activity_raw' =>
    if activity_raw.is_object then readers.parse_activity activity_raw = readers.parse_activity activity_raw'
    else (readers.crates.activity_from_value activity_raw').toOption = none
  | _, _ => True

/-- Both sockets make the same of the data of a message, as Go and as Rust have read it. -/
structure SamePayload (data data' : Value) (event_type : String) : Prop where
  not_bare : event_type ≠ "encryption."
  kms : starts_with event_type "encryption." = true → data = data'
  activity : event_type = "conversation.activity" → SameParsed readers (data.get "activity") (data'.get "activity")

/-- Both sockets put out the same for a message that both read, once they are ready. -/
def SameMessage (message message' : Value) : Prop :=
  match envelope message, envelope message' with
  | some (data, event_type), some (data', _) => as_string (message.get "type") ≠ "shutdown" ∧
      ((message.get "id").bind Value.as_str).isSome ∧ SamePayload readers data data' event_type
  | _, _ => True

/-- Rust puts out nothing for a message. -/
def Ignored (message : Value) : Prop :=
  match event_data message with
  | none => True
  | some (data, event_type) => (message.get "id").bind Value.as_str = none ∧
      starts_with event_type "encryption." = false ∧
      (event_type = "conversation.activity" →
        ∀ activity_raw ∈ data.get "activity", (readers.crates.activity_from_value activity_raw).toOption = none)

/-- Both put out the same for a frame. What only one of them reads is nothing to it. -/
def SameFrame (text : String) : Prop :=
  match go_message readers text, rust_message readers text with
  | none, none => True
  | some message, none => envelope message = none
  | none, some message' => Ignored readers message'
  | some message, some message' => SameMessage readers message message'

/-- Rust takes the frame for the readiness message. -/
def rust_ready (text : String) : Bool := ((rust_message readers text).map is_connection_ready).getD false

def go_ready (text : String) : Bool := ((go_message readers text).map is_connection_ready_message).getD false

/-- When the streams are the same. Up to the readiness message and with it, and after a
    shutdown notice, there is nothing that Go puts anything out for; any frame after the
    readiness message gets the same from both; and both take the same frame for the
    readiness message, with no shutdown notice before it. -/
def Agrees : (ready stopped : Bool) → List String → Prop
  | _, _, [] => True
  | ready, stopped, text :: rest =>
    (ready = true → SameFrame readers text) ∧
      (ready = false ∨ stopped = true → silent readers text = true) ∧
      (ready = false →
        go_ready readers text = rust_ready readers text ∧ (rust_ready readers text = true → stopped = false)) ∧
      Agrees (ready || rust_ready readers text) (stopped || is_shutdown_notice readers.decode text) rest

/-- What Go puts out for a message. -/
def go_outputs (message : Value) : List Output :=
  match envelope message with
  | none => []
  | some (data, event_type) =>
    .ack (go.mercury_socket.ack message) :: (route readers.parse_activity data event_type).filterMap output_of_effect

/-- What the read loop of Rust puts out for a message. -/
def rust_outputs (message : Value) : List Output :=
  match event_data message with
  | none => []
  | some (data, event_type) =>
    (((message.get "id").bind Value.as_str).map fun id =>
      Output.ack (.object [("messageId", .string id), ("type", .string "ack")])).toList ++
    ((mercury_event readers.crates data event_type).bind output_of_event).toList

section messages

variable {message : Value}

theorem handle_message_outputs :
    (handle_message readers.parse_activity message).filterMap output_of_effect = go_outputs readers message := by
  unfold handle_message go_outputs envelope has_event_type go.mercury_socket.handle_activity_envelope
  by_cases hpong : as_string (message.get "type") = "pong"
  · simp [hpong]
  rw [if_neg hpong, if_neg hpong]
  cases as_map (message.get "data") with
  | none =>
    simp only [Bool.false_eq_true, if_false, Option.bind_eq_bind, Option.bind_none]
    split
    · rfl
    · rfl
  | some data =>
    have hfound : as_string (data.get "eventType") = ((data.get "eventType").bind Value.as_str).getD "" := rfl
    cases hevent_type : (data.get "eventType").bind Value.as_str with
    | none =>
      simp only [Option.isSome_none, Bool.false_eq_true, if_false, Option.bind_eq_bind, Option.bind_some, hevent_type,
        Option.bind_none]
      split
      · rfl
      · rfl
    | some event_type => simp [hevent_type, hfound, output_of_effect]

/-- Only an object has members, so that the test of Go for one changes nothing. -/
theorem bind_as_map {α : Type} (raw : Option Value) (f : Value → Option α)
    (hf : ∀ value, value.is_object = false → f value = none) :
    (as_map raw).bind f = raw.bind f := by
  cases raw with
  | none => rfl
  | some value =>
    cases value with
    | object members => rfl
    | _ => exact (hf _ rfl).symm

theorem get_of_not_object {value : Value} (hvalue : value.is_object = false) (key : String) : value.get key = none := by
  cases value with
  | object members => exact absurd hvalue nofun
  | _ => rfl

theorem event_data_eq :
    event_data message = if as_string (message.get "type") = "shutdown" then none else envelope message := by
  have htype : ((message.get "type").bind Value.as_str).getD "" = as_string (message.get "type") := rfl
  have hdata := bind_as_map (message.get "data") (fun data => (data.get "eventType").bind Value.as_str |>.bind fun event_type =>
    some (data, event_type)) fun value hvalue => by simp [get_of_not_object hvalue]
  unfold event_data envelope
  simp only [htype, Option.bind_eq_bind, Option.pure_def, hdata]
  by_cases hshutdown : as_string (message.get "type") = "shutdown"
  · simp [hshutdown]
  · simp [hshutdown]

theorem is_kms_event_type_eq (event_type : String) :
    is_kms_event_type event_type = (starts_with event_type "encryption." && event_type != "encryption.") := by
  rw [Bool.eq_iff_iff]
  simp only [is_kms_event_type, starts_with, Bool.and_eq_true, decide_eq_true_eq, beq_iff_eq, List.isPrefixOf_iff_prefix,
    bne_iff_ne, ne_eq]
  constructor
  · rintro ⟨hlong, htake⟩
    refine ⟨htake ▸ List.take_prefix 11 _, ?_⟩
    rintro rfl
    exact absurd hlong (by decide)
  · rintro ⟨⟨rest, hrest⟩, hmore⟩
    have hsplit : event_type = "encryption." ++ String.ofList rest := by
      apply String.toList_inj.mp
      have hlist : (String.ofList rest).toList = rest := String.toList_ofList
      rw [String.toList_append, hlist]
      exact hrest.symm
    refine ⟨?_, by rw [← hrest]; rfl⟩
    have hsize : (String.ofList rest).utf8ByteSize ≠ 0 := by
      intro hzero
      rw [String.utf8ByteSize_eq_zero_iff] at hzero
      apply hmore
      rw [hsplit, hzero, String.append_empty]
    have hprefix : "encryption.".utf8ByteSize = 11 := by decide
    rw [hsplit, String.utf8ByteSize_append, hprefix]
    omega

section alike

variable {found found' : Option Value} (halike : Option.Rel Value.Alike found found')

include halike

theorem bind_as_str_alike : found.bind Value.as_str = found'.bind Value.as_str := by
  cases halike with
  | none => rfl
  | some hvalue => exact hvalue.as_str

theorem as_string_alike : as_string found = as_string found' := congrArg (Option.getD · "") (bind_as_str_alike halike)

theorem as_map_alike : Option.Rel Value.Alike (as_map found) (as_map found') := by
  cases halike with
  | none => exact .none
  | @some value value' hvalue =>
    cases hobject : value.is_object with
    | true =>
      have hobject' := hvalue.is_object.symm.trans hobject
      rw [as_map, as_map, Option.filter_some, Option.filter_some, if_pos hobject, if_pos hobject']
      exact .some hvalue
    | false =>
      have hobject' := hvalue.is_object.symm.trans hobject
      simp only [as_map, Option.filter_some, hobject, hobject']
      exact .none

end alike

/-- Two readings of a message with alike members. -/
def AlikeMembers (message message' : Value) : Prop := ∀ key, Option.Rel Value.Alike (message.get key) (message'.get key)

theorem envelope_alike {message message' : Value} (halike : AlikeMembers message message') :
    Option.Rel (fun found found' => found.1.Alike found'.1 ∧ found.2 = found'.2) (envelope message) (envelope message') := by
  unfold envelope
  rw [as_string_alike (halike "type")]
  split
  · exact .none
  · have hdata := as_map_alike (halike "data")
    generalize as_map (message.get "data") = data at hdata
    generalize as_map (message'.get "data") = data' at hdata
    cases hdata with
    | none => exact .none
    | some hdata =>
      have hevent_type := bind_as_str_alike (hdata.get "eventType")
      simp only [Option.bind_eq_bind, Option.bind_some, Option.pure_def, hevent_type]
      cases (Value.get _ "eventType").bind Value.as_str with
      | none => exact .none
      | some event_type => exact .some ⟨hdata, rfl⟩

theorem same_activity_iff {data data' : Value} (halike : data.Alike data') :
    ((mercury_event readers.crates data' "conversation.activity").bind output_of_event).toList =
      (route readers.parse_activity data "conversation.activity").filterMap output_of_effect ↔
        SameParsed readers (data.get "activity") (data'.get "activity") := by
  have hkms : starts_with "conversation.activity" "encryption." = false := by decide
  have hgo : (route readers.parse_activity data "conversation.activity").filterMap output_of_effect =
      ((as_map (data.get "activity")).map fun activity_raw => .activity (readers.parse_activity activity_raw)).toList := by
    simp only [route, is_kms_event_type_eq, hkms, Bool.false_and, Bool.false_eq_true, if_false, if_true]
    cases as_map (data.get "activity") with
    | none => rfl
    | some activity_raw => rfl
  have hrust : (mercury_event readers.crates data' "conversation.activity").bind output_of_event =
      (data'.get "activity").bind fun activity_raw => (readers.crates.activity_from_value activity_raw).toOption.map
        fun activity => .activity { activity with object := activity.object.finalize_inputs } := by
    simp only [mercury_event, hkms, Bool.false_eq_true, if_false, if_true, Option.bind_eq_bind, Option.pure_def,
      Option.bind_assoc, Option.bind_some, output_of_event, Option.map_eq_bind, Function.comp_def]
  rw [hgo, hrust]
  have hraw := halike.get "activity"
  generalize data.get "activity" = found at hraw
  generalize data'.get "activity" = found' at hraw
  cases hraw with
  | none => exact iff_of_true rfl trivial
  | @some activity_raw activity_raw' hvalue =>
    simp only [Option.bind_some, SameParsed, as_map, Option.filter_some]
    cases hobject : activity_raw.is_object with
    | true =>
      have hobject' := hvalue.is_object.symm.trans hobject
      cases activity_raw' with
      | object members =>
        obtain ⟨activity, hread, hsame⟩ := readers.same_activity members
        simp only [hread, hsame, Except.toOption, if_true, Option.map_some, Option.toList_some, List.cons.injEq, and_true,
          Output.activity.injEq]
        exact eq_comm
      | _ => exact absurd hobject' Bool.false_ne_true
    | false =>
      cases (readers.crates.activity_from_value activity_raw').toOption with
      | none => simp
      | some activity => simp

/-- Rust routes a message as Go does under the condition, and not otherwise. -/
theorem same_payload_iff {data data' : Value} (halike : data.Alike data') (event_type : String) :
    ((mercury_event readers.crates data' event_type).bind output_of_event).toList =
      (route readers.parse_activity data event_type).filterMap output_of_effect ↔ SamePayload readers data data' event_type := by
  by_cases hactivity : event_type = "conversation.activity"
  · subst hactivity
    rw [same_activity_iff readers halike]
    constructor
    · intro hsame
      refine ⟨by decide, ?_, fun _ => hsame⟩
      intro hkms
      exact absurd hkms (by decide)
    · intro hsame
      exact hsame.activity rfl
  cases hkms : starts_with event_type "encryption." with
  | true =>
    by_cases hbare : event_type = "encryption."
    · refine iff_of_false ?_ fun hsame => hsame.not_bare hbare
      subst hbare
      simp [mercury_event, hkms, output_of_event, route, is_kms_event_type_eq]
    · have hrust : (mercury_event readers.crates data' event_type).bind output_of_event = some (.kms_response data') := by
        simp [mercury_event, hkms, output_of_event]
      have hgo : (route readers.parse_activity data event_type).filterMap output_of_effect = [.kms_response data] := by
        simp [route, is_kms_event_type_eq, hkms, hbare, output_of_effect]
      rw [hrust, hgo]
      constructor
      · intro hsame
        obtain rfl := Output.kms_response.inj (List.head_eq_of_cons_eq hsame)
        exact ⟨hbare, fun _ => rfl, fun heq => absurd heq hactivity⟩
      · intro hsame
        rw [hsame.kms hkms]
        rfl
  | false =>
    refine iff_of_true ?_ ⟨?_, ?_, fun heq => absurd heq hactivity⟩
    · simp [route, is_kms_event_type_eq, hkms, hactivity, mercury_event]
    · rintro rfl
      exact absurd hkms (by decide)
    · simp [hkms]

theorem output_of_event_not_ack (event : Option rust.MercuryEvent) (message : Value) :
    Output.ack message ∉ (event.bind output_of_event).toList := by
  cases event with
  | none => exact List.not_mem_nil
  | some event =>
    cases event with
    | kms_response data => simp [output_of_event]
    | activity activity => simp [output_of_event]
    | _ => exact List.not_mem_nil

/-- Of a message that both read: Go acks it, and so does Rust if it has an id and is no
    shutdown notice; the rest is up to the payload. -/
theorem same_message_iff {message message' : Value} (halike : AlikeMembers message message') :
    rust_outputs readers message' = go_outputs readers message ↔ SameMessage readers message message' := by
  have henvelope := envelope_alike halike
  unfold rust_outputs go_outputs SameMessage
  rw [event_data_eq, ← as_string_alike (halike "type"), ← bind_as_str_alike (halike "id")]
  generalize envelope message = found at henvelope
  generalize envelope message' = found' at henvelope
  cases henvelope with
  | none => simp
  | @some found found' hfound =>
    obtain ⟨data, event_type⟩ := found
    obtain ⟨data', _⟩ := found'
    obtain ⟨hdata, rfl⟩ := hfound
    dsimp only
    by_cases hshutdown : as_string (message.get "type") = "shutdown"
    · rw [if_pos hshutdown]
      exact iff_of_false nofun fun hsame => hsame.1 hshutdown
    rw [if_neg hshutdown]
    cases hid : (message.get "id").bind Value.as_str with
    | none =>
      refine iff_of_false ?_ fun hsame => absurd hsame.2.1 (by simp)
      intro (hsame : ((mercury_event readers.crates data' event_type).bind output_of_event).toList = _)
      refine output_of_event_not_ack (mercury_event readers.crates data' event_type) (go.mercury_socket.ack message) ?_
      rw [hsame]
      exact List.mem_cons_self
    | some id =>
      have hack : go.mercury_socket.ack message = .object [("messageId", .string id), ("type", .string "ack")] := by
        rw [go.mercury_socket.ack, as_string, hid, Option.getD_some]
      simp only [Option.map_some, Option.toList_some, List.cons_append, List.nil_append, List.cons.injEq, hack, true_and,
        Option.isSome_some, ne_eq, hshutdown, not_false_eq_true]
      exact same_payload_iff readers hdata event_type

end messages

section frames

/-- What the sockets put out for a text frame once they are ready. -/
def go_frame (text : String) : List Output := ((go_message readers text).map (go_outputs readers)).getD []

def rust_frame (text : String) : List Output := ((rust_message readers text).map (rust_outputs readers)).getD []

variable {readers : Readers} {text : String}

/-- What Go takes for an empty message, a JSON null, has no members for Rust either. -/
theorem alike_members {message message' : Value} (hgo : go_message readers text = some message)
    (hrust : rust_message readers text = some message') : AlikeMembers message message' := by
  intro key
  unfold go_message unmarshal at hgo
  unfold rust_message at hrust
  cases hread' : readers.crates.from_str text with
  | error e => simp [hread', Except.toOption] at hrust
  | ok value' =>
    rw [hread'] at hrust
    obtain rfl := Option.some.inj hrust
    cases hread : readers.decode text with
    | error e => simp [hread] at hgo
    | ok value =>
      have halike := (readers.alike text value value' hread hread').get key
      rw [hread] at hgo
      cases value with
      | object members => exact Option.some.inj hgo ▸ halike
      | null => exact Option.some.inj hgo ▸ halike
      | _ => cases hgo

theorem handle_message_trace (socket : Nat) (shared : Shared) (message : Value) :
    ((handle_message_static readers.crates message).trace (Shared.apply (some socket)) shared).filterMap output_of_action =
      rust_outputs readers message := by
  unfold handle_message_static rust_outputs
  cases event_data message with
  | none => rfl
  | some found =>
    obtain ⟨data, event_type⟩ := found
    simp only [Program.trace_bind, List.filterMap_append]
    congr 1
    · unfold send_ack
      cases (message.get "id").bind Value.as_str with
      | none => rfl
      | some id => rfl
    · cases hevent : mercury_event readers.crates data event_type with
      | none => rfl
      | some event => cases event <;> rfl

theorem handle_text_trace (socket : Nat) (shared : Shared) (hbounded : oversized text = false) :
    ((handle_text readers.crates text).trace (Shared.apply (some socket)) shared).filterMap output_of_action =
      rust_frame readers text := by
  unfold handle_text parse_text rust_frame rust_message
  rw [hbounded]
  simp only [Bool.false_eq_true, if_false]
  cases (readers.crates.from_str text).toOption with
  | none => rfl
  | some message => exact handle_message_trace socket shared message

theorem read_loop_trace (max_reconnect socket : Nat) (shared : Shared) {texts : List String}
    (hbounded : ∀ text ∈ texts, oversized text = false) :
    ((read_loop readers.crates max_reconnect (texts.map .text)).trace (Shared.apply (some socket)) shared).filterMap
      output_of_action = (texts.map (rust_frame readers)).flatten := by
  induction texts generalizing shared with
  | nil =>
    show (Program.trace _ (act (.next none) >>= fun _ => rust.mercury_socket.connection_ended) shared).filterMap _ = []
    rw [Program.trace_bind]
    show (Program.trace _ (act .get_should_reconnect >>= _) shared).filterMap output_of_action = []
    rw [Program.trace_bind]
    show (Program.trace _ (if shared.should_reconnect then _ else _) shared).filterMap output_of_action = []
    cases shared.should_reconnect with
    | true => rfl
    | false => rfl
  | cons text rest ih =>
    simp only [List.map_cons, read_loop, Program.trace_bind, List.filterMap_append, List.flatten_cons]
    rw [handle_text_trace _ _ (hbounded text List.mem_cons_self),
      ih _ fun text htext => hbounded text (List.mem_cons_of_mem _ htext)]
    rfl

theorem silent_iff : silent readers text = true ↔ go_frame readers text = [] := by
  unfold silent go_frame
  cases go_message readers text with
  | none => simp
  | some message =>
    simp only [Option.all_some, Option.map_some, Option.getD_some, Option.isNone_iff_eq_none, go_outputs]
    cases envelope message with
    | none => simp
    | some found => simp

theorem ignored_iff (message : Value) : rust_outputs readers message = [] ↔ Ignored readers message := by
  unfold rust_outputs Ignored
  cases event_data message with
  | none => simp
  | some found =>
    obtain ⟨data, event_type⟩ := found
    have hevent : (mercury_event readers.crates data event_type).bind output_of_event = none ↔
        starts_with event_type "encryption." = false ∧ (event_type = "conversation.activity" →
          ∀ activity_raw ∈ data.get "activity", (readers.crates.activity_from_value activity_raw).toOption = none) := by
      unfold mercury_event
      cases starts_with event_type "encryption." with
      | true => simp [output_of_event]
      | false =>
        by_cases hactivity : event_type = "conversation.activity"
        · cases data.get "activity" with
          | none => simp [hactivity]
          | some activity_raw =>
            cases hread : (readers.crates.activity_from_value activity_raw).toOption with
            | none => simp [hactivity, hread]
            | some activity => simp [hactivity, hread, output_of_event]
        · simp [hactivity]
    simp only [List.append_eq_nil_iff, Option.toList_eq_nil_iff, Option.map_eq_none_iff, hevent]

theorem same_frame_iff : SameFrame readers text ↔ rust_frame readers text = go_frame readers text := by
  unfold SameFrame rust_frame go_frame
  cases hgo : go_message readers text with
  | none =>
    cases rust_message readers text with
    | none => simp
    | some message' => exact (ignored_iff message').symm
  | some message =>
    cases hrust : rust_message readers text with
    | none =>
      simp only [Option.map_some, Option.map_none, Option.getD_some, Option.getD_none, go_outputs]
      cases envelope message with
      | none => simp
      | some found => simp
    | some message' => exact (same_message_iff readers (alike_members hgo hrust)).symm

end frames

section sessions

/-- The number of frames read with the first that passes a readiness test. -/
def ready_at (is_ready : String → Bool) (place : Nat) : List String → Option Nat
  | [] => none
  | text :: rest => if is_ready text then some (place + 1) else ready_at is_ready (place + 1) rest

theorem lt_of_ready_at {is_ready : String → Bool} {place count : Nat} {texts : List String}
    (hready : ready_at is_ready place texts = some count) : place < count := by
  induction texts generalizing place with
  | nil => exact absurd hready nofun
  | cons text rest ih =>
    unfold ready_at at hready
    split at hready
    · simp only [Option.some.injEq] at hready
      omega
    · have hlater := ih hready
      omega

/-- What Rust puts out for each frame, nothing for the readiness message and before. -/
def rust_frames : Bool → List String → List (List Output)
  | _, [] => []
  | ready, text :: rest =>
    (if ready then rust_frame readers text else []) :: rust_frames (ready || rust_ready readers text) rest

variable {texts : List String}

theorem rust_frames_ready : rust_frames readers true texts = texts.map (rust_frame readers) := by
  induction texts with
  | nil => rfl
  | cons text rest ih => simp [rust_frames, ih]

/-- The setup stops with the readiness message and leaves the rest. -/
theorem wait_ready_texts (texts : List String) (place : Nat) :
    (ready_at (rust_ready readers) place texts = none ∧ (rust_frames readers false texts).flatten = [] ∧
      ∃ e, wait_ready readers.crates (texts.map .text) = .error e) ∨
    ∃ before after, texts = before ++ after ∧ ready_at (rust_ready readers) place texts = some (place + before.length) ∧
      (rust_frames readers false texts).flatten = (after.map (rust_frame readers)).flatten ∧
      wait_ready readers.crates (texts.map .text) = .ok (after.map .text) := by
  induction texts generalizing place with
  | nil => exact .inl ⟨rfl, rfl, _, rfl⟩
  | cons text rest ih =>
    have hstep : wait_ready readers.crates ((text :: rest).map .text) =
        if rust_ready readers text then .ok (rest.map .text) else wait_ready readers.crates (rest.map .text) := by
      rw [List.map_cons, wait_ready]
      unfold rust_ready rust_message
      split
      · rename_i message hread
        simp only [hread, Except.toOption, Option.map_some, Option.getD_some]
      · rename_i hread
        simp [hread, Except.toOption]
    rw [hstep]
    cases hready : rust_ready readers text with
    | true =>
      right
      refine ⟨[text], rest, rfl, ?_, ?_, rfl⟩
      · simp [ready_at, hready]
      · simp [rust_frames, hready, rust_frames_ready]
    | false =>
      simp only [ready_at, rust_frames, hready, Bool.false_eq_true, if_false, Bool.or_false, List.flatten_cons, List.nil_append]
      obtain hnone | ⟨before, after, rfl, hat, hflatten, hwait⟩ := ih (place + 1)
      · exact .inl hnone
      · refine .inr ⟨text :: before, after, rfl, ?_, hflatten, hwait⟩
        rw [hat, List.length_cons]
        congr 1
        omega

theorem rust_session_eq (max_reconnect socket : Nat) (shared : Shared) (hbounded : ∀ text ∈ texts, oversized text = false) :
    rust_session readers max_reconnect socket shared texts =
      ⟨ready_at (rust_ready readers) 0 texts, (rust_frames readers false texts).flatten⟩ := by
  unfold rust_session
  obtain ⟨hnone, hflatten, e, hwait⟩ | ⟨before, after, rfl, hat, hflatten, hwait⟩ :=
    wait_ready_texts readers texts 0
  · rw [hwait, hnone, hflatten]
  · rw [hwait, hat, hflatten]
    simp only [List.length_append, List.length_map, Nat.zero_add, Nat.add_sub_cancel]
    rw [read_loop_trace _ _ _ fun text htext => hbounded text (List.mem_append_right _ htext)]

/-- A reader of the Go socket as it is seen from outside. -/
def session_of (reader : Reader rust.MercuryActivity) : Session := ⟨reader.ready, reader.effects.filterMap output_of_effect⟩

variable (reader : Reader rust.MercuryActivity) (place : Nat) (text : String)

abbrev read_one (link : Link) : Reader rust.MercuryActivity :=
  reader.read_frame readers.parse_activity readers.decode place link text

abbrev read_all (link : Nat → Link) (texts : List String) : Reader rust.MercuryActivity :=
  read_goroutine readers.parse_activity readers.decode link reader place texts

theorem read_one_ready (link : Link) : (read_one readers reader place text link).ready =
    if reader.ready.isNone && go_ready readers text then some (place + 1) else reader.ready := by
  unfold read_one Reader.read_frame go_ready go_message
  cases unmarshal readers.decode text with
  | none => simp
  | some message => rfl

theorem read_one_up : session_of (read_one readers reader place text .up) =
    ⟨if reader.ready.isNone && go_ready readers text then some (place + 1) else reader.ready,
      (session_of reader).outputs ++ go_frame readers text⟩ := by
  unfold session_of
  rw [read_one_ready]
  congr 1
  unfold read_one Reader.read_frame go_frame go_message
  cases unmarshal readers.decode text with
  | none => simp
  | some message => simp [handle_message_outputs readers]

/-- It makes no difference to a silent frame whether its ack can be written. -/
theorem read_one_silent (link : Link) (hsilent : go_frame readers text = []) :
    (session_of (read_one readers reader place text link)).outputs = (session_of reader).outputs := by
  show (read_one readers reader place text link).effects.filterMap _ = reader.effects.filterMap _
  unfold go_frame go_message at hsilent
  unfold read_one Reader.read_frame
  cases hread : unmarshal readers.decode text with
  | none => rfl
  | some message =>
    simp only [hread, Option.map_some, Option.getD_some, ← handle_message_outputs, List.filterMap_eq_nil_iff] at hsilent
    simp only [List.filterMap_append, List.append_right_eq_self, List.filterMap_eq_nil_iff]
    intro effect heffect
    apply hsilent
    split at heffect
    · exact heffect
    · exact List.mem_of_mem_filter heffect

/-- A connection that stays up. -/
theorem read_all_up {link : Nat → Link} (hup : ∀ i < texts.length, link (place + i) = .up) :
    session_of (read_all readers reader place link texts) =
      ⟨reader.ready.or (ready_at (go_ready readers) place texts),
        (session_of reader).outputs ++ (texts.map (go_frame readers)).flatten⟩ := by
  induction texts generalizing reader place with
  | nil => simp [read_goroutine, session_of, ready_at]
  | cons text rest ih =>
    have hfirst : link place = .up := hup 0 (by simp)
    have hread : read_all readers reader place link (text :: rest) =
        read_all readers (read_one readers reader place text .up) (place + 1) link rest := by
      simp only [read_all, read_goroutine, hfirst, read_one]
    rw [hread, ih, read_one_up, read_one_ready]
    · simp only [List.map_cons, List.flatten_cons, List.append_assoc, ready_at]
      congr 1
      cases reader.ready with
      | none =>
        cases go_ready readers text with
        | true => rfl
        | false => rfl
      | some count => rfl
    · intro i hi
      rw [Nat.add_assoc, Nat.add_comm 1 i]
      exact hup (i + 1) (by simpa using hi)

/-- A connection that is down right after a frame. -/
theorem read_all_cut {before after : List String} {link : Nat → Link} (hup : ∀ i < before.length, link (place + i) = .up)
    (hdown : link (place + before.length) = .down) :
    read_all readers reader place link (before ++ after) = read_all readers reader place link before := by
  induction before generalizing reader place with
  | nil =>
    cases after with
    | nil => rfl
    | cons text rest =>
      have hfirst : link place = .down := hdown
      simp only [List.nil_append, read_all, read_goroutine, hfirst]
  | cons text rest ih =>
    have hfirst : link place = .up := hup 0 (by simp)
    simp only [List.cons_append, read_all, read_goroutine, hfirst]
    apply ih
    · intro i hi
      rw [Nat.add_assoc, Nat.add_comm 1 i]
      exact hup (i + 1) (by simpa using hi)
    · rw [Nat.add_assoc, Nat.add_comm 1 rest.length]
      exact hdown

end sessions

section agreement

variable {readers} in
theorem rust_frame_of_silent {text : String} (hsame : SameFrame readers text) (hsilent : silent readers text = true) :
    rust_frame readers text = [] :=
  (same_frame_iff.mp hsame).trans (silent_iff.mp hsilent)

/-- The condition holds of every beginning. -/
theorem Agrees.take {ready stopped : Bool} {texts : List String} (hagrees : Agrees readers ready stopped texts) (count : Nat) :
    Agrees readers ready stopped (texts.take count) := by
  induction texts generalizing ready stopped count with
  | nil => simpa using hagrees
  | cons text rest ih =>
    cases count with
    | zero => trivial
    | succ count =>
      obtain ⟨hframe, hsilent, hready, hrest⟩ := hagrees
      exact ⟨hframe, hsilent, hready, ih hrest count⟩

/-- Past a shutdown notice nothing more may come. -/
theorem agrees_stopped {ready : Bool} {texts : List String} (hagrees : Agrees readers ready true texts) (place : Nat) :
    (rust_frames readers ready texts).flatten = [] ∧
      (ready = false → ready_at (rust_ready readers) place texts = none) := by
  induction texts generalizing ready place with
  | nil => exact ⟨rfl, fun _ => rfl⟩
  | cons text rest ih =>
    obtain ⟨hframe, hsilent, hready, hrest⟩ := hagrees
    obtain ⟨hflatten, hat⟩ := ih hrest (place + 1)
    constructor
    · rw [rust_frames, List.flatten_cons, hflatten, List.append_nil]
      cases ready with
      | false => rfl
      | true => exact rust_frame_of_silent (hframe rfl) (hsilent (.inr rfl))
    · rintro rfl
      have hwaiting : rust_ready readers text = false := by
        by_contra hnow
        exact absurd ((hready rfl).2 (Bool.not_eq_false _ ▸ hnow)) nofun
      rw [ready_at, hwaiting]
      exact hat hwaiting

/-- One frame of the Go socket under the condition: it gets ready when Rust does, and
    puts out what Rust does. -/
theorem read_one_agrees {ready stopped : Bool} {reader : Reader rust.MercuryActivity} (place : Nat) {text : String} {link : Link}
    (hframe : ready = true → SameFrame readers text) (hsilent : ready = false ∨ stopped = true → silent readers text = true)
    (hready : ready = false → go_ready readers text = rust_ready readers text)
    (hisSome : reader.ready.isSome = ready) (hlink : link ≠ .up → stopped = true) :
    session_of (read_one readers reader place text link) =
      ⟨reader.ready.or (if rust_ready readers text then some (place + 1) else none),
        (session_of reader).outputs ++ (if ready then rust_frame readers text else [])⟩ := by
  have hnow : (read_one readers reader place text link).ready =
      reader.ready.or (if rust_ready readers text then some (place + 1) else none) := by
    rw [read_one_ready]
    cases hfound : reader.ready with
    | some count => simp
    | none =>
      rw [hfound] at hisSome
      rw [hready hisSome.symm]
      simp
  have hout : (session_of (read_one readers reader place text link)).outputs =
      (session_of reader).outputs ++ (if ready then rust_frame readers text else []) := by
    by_cases hquiet : ready = false ∨ stopped = true
    · rw [read_one_silent readers _ _ _ link (silent_iff.mp (hsilent hquiet))]
      cases ready with
      | false => simp
      | true => rw [if_pos rfl, rust_frame_of_silent (hframe rfl) (hsilent hquiet), List.append_nil]
    · rw [not_or, Bool.not_eq_false] at hquiet
      have hup : link = .up := by
        by_contra hdown
        exact hquiet.2 (hlink hdown)
      rw [hup, read_one_up, hquiet.1, if_pos rfl, same_frame_iff.mp (hframe hquiet.1)]
  show Session.mk _ _ = _
  rw [hnow]
  congr 1

theorem agrees_session {link : Nat → Link} {ready stopped : Bool} {texts : List String}
    (hagrees : Agrees readers ready stopped texts)
    {reader : Reader rust.MercuryActivity} {place : Nat} (hisSome : reader.ready.isSome = ready)
    (hlink : ∀ i < texts.length, link (place + i) ≠ .up → stopped = true ∨
      ∃ text ∈ texts.take i, is_shutdown_notice readers.decode text = true) :
    session_of (read_all readers reader place link texts) =
      ⟨reader.ready.or (ready_at (rust_ready readers) place texts),
        (session_of reader).outputs ++ (rust_frames readers ready texts).flatten⟩ := by
  induction texts generalizing reader place ready stopped with
  | nil => simp [read_goroutine, session_of, ready_at, rust_frames]
  | cons text rest ih =>
    have hfirst : link place ≠ .up → stopped = true := by
      intro hdown
      simpa using hlink 0 (by simp) hdown
    by_cases hdown : link place = .down
    · have hstopped := hfirst (by simp [hdown])
      subst hstopped
      obtain ⟨hflatten, hat⟩ := agrees_stopped readers hagrees place
      have hkept : read_all readers reader place link (text :: rest) = reader := by
        simp only [read_all, read_goroutine, hdown]
      have hready : reader.ready.or (ready_at (rust_ready readers) place (text :: rest)) = reader.ready := by
        cases hfound : reader.ready with
        | some count => rfl
        | none =>
          rw [hfound] at hisSome
          exact hat hisSome.symm
      rw [hkept, hready, hflatten, List.append_nil]
      rfl
    · have hstep : read_all readers reader place link (text :: rest) =
          read_all readers (read_one readers reader place text (link place)) (place + 1) link rest := by
        simp only [read_all, read_goroutine]
      obtain ⟨hframe, hsilent, hready, hrest⟩ := hagrees
      have hone := read_one_agrees readers place hframe hsilent (fun hwaiting => (hready hwaiting).1) hisSome hfirst
      have hnow : (read_one readers reader place text (link place)).ready =
          reader.ready.or (if rust_ready readers text then some (place + 1) else none) := congrArg Session.ready hone
      rw [hstep, ih hrest, hone, hnow]
      · simp only [rust_frames, List.flatten_cons, List.append_assoc, ready_at]
        congr 1
        cases reader.ready with
        | some count => rfl
        | none =>
          cases rust_ready readers text with
          | true => rfl
          | false => rfl
      · rw [hnow, Option.isSome_or, hisSome]
        cases rust_ready readers text with
        | true => rfl
        | false => rfl
      · intro i hi hup
        rw [Nat.add_assoc, Nat.add_comm 1 i] at hup
        obtain hstopped | ⟨notice, hmem, hnotice⟩ := hlink (i + 1) (Nat.succ_lt_succ hi) hup
        · exact .inl (by simp [hstopped])
        · rw [List.take_succ_cons, List.mem_cons] at hmem
          obtain rfl | hmem := hmem
          · exact .inl (by simp [hnotice])
          · exact .inr ⟨notice, hmem, hnotice⟩

/-- What Go puts out for every frame and where it gets ready, when the streams are the
    same, comes to the condition. -/
theorem agrees_of_frames {ready stopped : Bool} {texts : List String} (place : Nat)
    (hframes : rust_frames readers ready texts = texts.map (go_frame readers))
    (hready : ready = false → ready_at (go_ready readers) place texts = ready_at (rust_ready readers) place texts)
    (hstopped : stopped = true → (∀ text ∈ texts, go_frame readers text = []) ∧
      (ready = false → ready_at (go_ready readers) place texts = none))
    (hnotice : ∀ before notice after, texts = before ++ notice :: after →
      is_shutdown_notice readers.decode notice = true → (∀ text ∈ after, go_frame readers text = []) ∧
        (ready = false →
          ready_at (go_ready readers) place (before ++ [notice]) = ready_at (go_ready readers) place texts)) :
    Agrees readers ready stopped texts := by
  induction texts generalizing ready stopped place with
  | nil => trivial
  | cons text rest ih =>
    rw [rust_frames, List.map_cons, List.cons.injEq] at hframes
    have hsame (hwait : ready = false) : go_ready readers text = rust_ready readers text := by
      have hat := hready hwait
      rw [ready_at, ready_at] at hat
      cases hgo : go_ready readers text with
      | true =>
        cases hrust : rust_ready readers text with
        | true => rfl
        | false =>
          rw [hgo, hrust, if_pos rfl, if_neg nofun] at hat
          have hlater := lt_of_ready_at hat.symm
          omega
      | false =>
        cases hrust : rust_ready readers text with
        | false => rfl
        | true =>
          rw [hgo, hrust, if_pos rfl, if_neg nofun] at hat
          have hlater := lt_of_ready_at hat
          omega
    refine ⟨?_, ?_, ?_, ?_⟩
    · rintro rfl
      exact same_frame_iff.mpr hframes.1
    · rintro (rfl | rfl)
      · exact silent_iff.mpr hframes.1.symm
      · exact silent_iff.mpr ((hstopped rfl).1 text List.mem_cons_self)
    · intro hwait
      refine ⟨hsame hwait, fun hrust => ?_⟩
      by_contra hlate
      rw [Bool.not_eq_false] at hlate
      have hnone := (hstopped hlate).2 hwait
      rw [ready_at, hsame hwait, hrust] at hnone
      exact absurd hnone nofun
    · have hwaiting (hnow : (ready || rust_ready readers text) = false) : ready = false ∧ go_ready readers text = false := by
        rw [Bool.or_eq_false_iff] at hnow
        exact ⟨hnow.1, (hsame hnow.1).trans hnow.2⟩
      have hskip (hnow : (ready || rust_ready readers text) = false) (more : List String) :
          ready_at (go_ready readers) place (text :: more) = ready_at (go_ready readers) (place + 1) more := by
        rw [ready_at, (hwaiting hnow).2, if_neg nofun]
      apply ih (place + 1) hframes.2
      · intro hnow
        have hrust : rust_ready readers text = false := (Bool.or_eq_false_iff.mp hnow).2
        have hat := hready (hwaiting hnow).1
        rw [hskip hnow, ready_at, hrust, if_neg nofun] at hat
        exact hat
      · intro hnow
        obtain hbefore | hhere := Bool.or_eq_true_iff.mp hnow
        · refine ⟨fun later hlater => (hstopped hbefore).1 later (List.mem_cons_of_mem _ hlater), ?_⟩
          intro hwait
          rw [← hskip hwait]
          exact (hstopped hbefore).2 (hwaiting hwait).1
        · obtain ⟨hsilent, hat⟩ := hnotice [] text rest rfl hhere
          refine ⟨hsilent, ?_⟩
          intro hwait
          rw [← hskip hwait, ← hat (hwaiting hwait).1]
          exact hskip hwait []
      · rintro before notice after rfl hhere
        obtain ⟨hsilent, hat⟩ := hnotice (text :: before) notice after rfl hhere
        refine ⟨hsilent, ?_⟩
        intro hwait
        rw [← hskip hwait, ← hskip hwait]
        exact hat (hwaiting hwait).1

/-- The Go socket on a connection that goes down after some frames, if it does at all. -/
theorem go_session_cut {link : Nat → Link} (before after : List String) (hup : ∀ i < before.length, link i = .up)
    (hdown : after = [] ∨ link before.length = .down) :
    go_session readers link (before ++ after) =
      ⟨ready_at (go_ready readers) 0 before, (before.map (go_frame readers)).flatten⟩ := by
  have hplace (i : Nat) (hi : i < before.length) : link (0 + i) = .up := by
    rw [Nat.zero_add]
    exact hup i hi
  have hbefore := read_all_up readers {} 0 hplace
  have hcut : read_all readers {} 0 link (before ++ after) = read_all readers {} 0 link before := by
    obtain rfl | hdown := hdown
    · rw [List.append_nil]
    · exact read_all_cut readers {} 0 hplace (by rwa [Nat.zero_add])
  show session_of (read_all readers {} 0 link (before ++ after)) = _
  rw [hcut, hbefore]
  rfl

theorem go_session_up (texts : List String) : go_session readers (fun _ => .up) texts =
    ⟨ready_at (go_ready readers) 0 texts, (texts.map (go_frame readers)).flatten⟩ := by
  have hup : ∀ i < texts.length, (fun _ => Link.up : Nat → Link) i = .up := fun _ _ => rfl
  have hwhole := go_session_cut readers texts [] hup (.inl rfl)
  rwa [List.append_nil] at hwhole

theorem rust_frames_take (ready : Bool) (texts : List String) (count : Nat) :
    rust_frames readers ready (texts.take count) = (rust_frames readers ready texts).take count := by
  induction texts generalizing ready count with
  | nil => simp [rust_frames]
  | cons text rest ih =>
    cases count with
    | zero => rfl
    | succ count => simp only [List.take_succ_cons, rust_frames, ih]

theorem length_rust_frames (ready : Bool) (texts : List String) : (rust_frames readers ready texts).length = texts.length := by
  induction texts generalizing ready with
  | nil => rfl
  | cons text rest ih => simp only [rust_frames, List.length_cons, ih]

/-- The streams are the same with a connection that stays up. -/
theorem frames_eq {texts : List String} (hbounded : ∀ text ∈ texts, oversized text = false)
    (hsame : ∀ count, go_session readers (fun _ => .up) (texts.take count) = rust_session readers 0 0 {} (texts.take count)) :
    rust_frames readers false texts = texts.map (go_frame readers) ∧
      ready_at (go_ready readers) 0 texts = ready_at (rust_ready readers) 0 texts := by
  have hsessions : ∀ count,
      ready_at (go_ready readers) 0 (texts.take count) = ready_at (rust_ready readers) 0 (texts.take count) ∧
      ((texts.take count).map (go_frame readers)).flatten = (rust_frames readers false (texts.take count)).flatten := by
    intro count
    have hcount := hsame count
    rw [go_session_up, rust_session_eq readers 0 0 {} fun text htext => hbounded text (List.mem_of_mem_take htext),
      Session.mk.injEq] at hcount
    exact hcount
  constructor
  · apply streams.eq_of_flatten_take
    · rw [length_rust_frames, List.length_map]
    · intro count
      rw [← rust_frames_take, ← List.map_take]
      exact (hsessions count).2.symm
  · have hwhole := (hsessions texts.length).1
    rwa [List.take_length] at hwhole

/-- A connection that is taken down after `count` frames. -/
def down_after (count : Nat) : Nat → Link := fun place => if place < count then .up else .down

/-- Nothing may follow a shutdown notice: a reconnect may take the connection down
    right after it. -/
theorem frames_after_notice {before after : List String} {notice : String}
    (hnotice : is_shutdown_notice readers.decode notice = true) {session : Session}
    (hsame : ∀ link, Link.Caused readers.decode link (before ++ notice :: after) →
      go_session readers link (before ++ notice :: after) = session) :
    (∀ text ∈ after, go_frame readers text = []) ∧
      ready_at (go_ready readers) 0 (before ++ [notice]) = ready_at (go_ready readers) 0 (before ++ notice :: after) := by
  have hsplit : before ++ notice :: after = (before ++ [notice]) ++ after := by simp
  have hcaused : Link.Caused readers.decode (down_after (before ++ [notice]).length) (before ++ notice :: after) := by
    intro place hdown
    have hlater : (before ++ [notice]).length ≤ place := by
      by_contra hearlier
      exact hdown (if_pos (by omega))
    refine ⟨notice, ?_, hnotice⟩
    rw [hsplit, List.take_append, List.take_of_length_le hlater]
    simp
  have hup : ∀ i < (before ++ [notice]).length, down_after (before ++ [notice]).length i = .up := fun _ hi => if_pos hi
  have hdown : down_after (before ++ [notice]).length (before ++ [notice]).length = .down := if_neg (Nat.lt_irrefl _)
  have hcut := hsame _ hcaused
  rw [← hsame (fun _ => .up) fun _ hdown => absurd rfl hdown, go_session_up, hsplit,
    go_session_cut readers (before ++ [notice]) after hup (.inr hdown), Session.mk.injEq] at hcut
  obtain ⟨hready, houtputs⟩ := hcut
  rw [hsplit]
  refine ⟨?_, hready⟩
  intro text htext
  have hnone : (after.map (go_frame readers)).flatten = [] := by
    rw [← List.append_right_eq_self, ← List.flatten_append, ← List.map_append]
    exact houtputs.symm
  exact List.flatten_eq_nil_iff.mp hnone _ (List.mem_map_of_mem htext)

/-- The sockets agree on a stream exactly when the frames meet the condition. -/
theorem same_stream_iff (frames : List Frame) :
    SameStream readers frames ↔ Agrees readers false false (frames.map Frame.text) := by
  have hbounded : ∀ text ∈ frames.map Frame.text, oversized text = false := by
    intro text htext
    obtain ⟨frame, -, rfl⟩ := List.mem_map.mp htext
    exact frame.bounded
  unfold SameStream
  generalize frames.map Frame.text = texts at hbounded ⊢
  constructor
  · intro hsame
    obtain ⟨hframes, hready⟩ := frames_eq readers hbounded (hsame _ (fun _ hdown => absurd rfl hdown) 0 0 {})
    refine agrees_of_frames readers 0 hframes (fun _ => hready) nofun ?_
    rintro before notice after rfl hnotice
    have hwhole : ∀ link, Link.Caused readers.decode link (before ++ notice :: after) →
        go_session readers link (before ++ notice :: after) = rust_session readers 0 0 {} (before ++ notice :: after) := by
      intro link hcaused
      have hlength := hsame link hcaused 0 0 {} (before ++ notice :: after).length
      rwa [List.take_length] at hlength
    obtain ⟨hsilent, hat⟩ := frames_after_notice readers hnotice hwhole
    exact ⟨hsilent, fun _ => hat⟩
  · intro hagrees link hcaused max_reconnect socket shared count
    rw [rust_session_eq readers _ _ _ fun text htext => hbounded text (List.mem_of_mem_take htext)]
    have hlink : ∀ i < (texts.take count).length, link (0 + i) ≠ .up → false = true ∨
        ∃ text ∈ (texts.take count).take i, is_shutdown_notice readers.decode text = true := by
      intro i hi hdown
      rw [Nat.zero_add] at hdown
      rw [List.length_take] at hi
      rw [List.take_take, Nat.min_eq_left (by omega)]
      exact .inr (hcaused i hdown)
    have hunread : ({} : Reader rust.MercuryActivity).ready.isSome = false := rfl
    exact agrees_session readers (hagrees.take readers count) hunread hlink

/-- A KMS response and a readiness message, as JSON. -/
def sample_frames : List (String × Value) :=
  [("kms", .object [("id", .string "1"), ("data", .object [("eventType", .string "encryption.kms_message")])]),
    ("ready", .object [("id", .string "2"), ("data", .object [("eventType", .string "mercury.buffer_state")])])]

def sample_reading (text : String) : Except String Value :=
  (sample_frames.lookup text).elim (.error "expected value at line 1 column 1") .ok

def sample_readers : Readers where
  crates := {
    from_str := sample_reading
    activity_from_value := fun _ => .ok {}
    parse_url := .ok
    append_pairs := fun url _ => url }
  decode := sample_reading
  alike text value value' hvalue hvalue' := by
    obtain rfl := Except.ok.inj (hvalue.symm.trans hvalue')
    rfl
  parse_activity := fun _ => {}
  same_activity := fun _ => ⟨{}, rfl, rfl⟩

theorem early_frame_not_same_stream : ¬SameStream sample_readers
    [⟨"kms", by unfold oversized; decide⟩, ⟨"ready", by unfold oversized; decide⟩] := by
  intro hsame
  have hup := hsame (fun _ => .up) (fun _ hdown => absurd rfl hdown) 0 0 {} 2
  have hlength : (3 : Nat) = 0 := congrArg (fun session => session.outputs.length) hup
  exact absurd hlength (by decide)

end agreement

end webex

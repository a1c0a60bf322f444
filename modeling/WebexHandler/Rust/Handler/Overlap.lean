import WebexHandler.Rust.Handler.Steps

open interaction json transition

namespace webex.rust.handler

/-- How far a call of `connect` has come: it looks at the two flags under their locks,
    sets `connecting`, executes `connect_internal` and clears `connecting`. -/
inductive Position
  | called
  | looking (connecting : Bool) (connected : Option Bool)
  | refused
  | passed
  | setting
  | inside
  | clearing
  | left
  deriving DecidableEq, Repr

namespace Position

def after : Position → (op : Op) → Res op → Position
  | .called, .acquire .connecting, connecting => .looking connecting none
  | .looking connecting none, .acquire .connected, connected => .looking connecting (some connected)
  | .looking connecting (some connected), .release .connecting _, _ =>
    if connecting || connected then .refused else .passed
  | .passed, .acquire .connecting, _ => .setting
  | .setting, .release .connecting _, _ => .inside
  | .inside, .acquire .connecting, _ => .clearing
  | .clearing, .release .connecting _, _ => .left
  | position, _, _ => position

/-- The lock on `connecting` is held. -/
def holds : Position → Bool
  | .looking _ _ | .setting | .clearing => true
  | _ => false

/-- `connecting` has been set. -/
def has_set : Position → Bool
  | .inside | .clearing => true
  | _ => false

/-- The flags have let the call through, and it has not cleared `connecting` again. -/
def active : Position → Bool
  | .passed | .setting | .inside | .clearing => true
  | _ => false

end Position

/-- A call of `connect`, with what is left of it, whether another call was in progress
    when it took the lock to look at the flags, and how many requests and sockets it
    has opened. -/
structure Caller where
  rest : Program Op Res (Except WebexError Unit × Unit)
  position : Position := .called
  overlapped : Bool := false
  requests : Nat := 0

namespace Caller

def returned (self : Caller) : Bool :=
  match self.rest with
  | .ret _ => true
  | .ask _ _ => false

/-- The flags do not say that the call is in progress, though it is. -/
def unannounced (self : Caller) : Bool :=
  match self.position with
  | .passed | .setting | .clearing => true
  | .left => !self.returned
  | _ => false

def in_progress (self : Caller) : Bool := self.position = .inside || self.unannounced

end Caller

/-- The operations that reach the network. -/
def Op.is_request : Op → Bool
  | .fetch _ | .kms _ (.fetch _) | .open_socket _ _ _ => true
  | _ => false

/-- The operations on the lock of `connecting`. -/
def Op.on_connecting : Op → Bool
  | .acquire .connecting | .release .connecting _ => true
  | _ => false

/-- Any number of calls of `connect`, and the tasks that they and other calls start. -/
structure Callers where
  pool : Pool Op Res Env
  callers : List Caller := []

/-- The calls that other tasks of the consumer may make meanwhile. -/
inductive OtherCall
  | disconnect
  | status

def OtherCall.program : OtherCall → Program Op Res Unit
  | .disconnect => as_task handler.disconnect
  | .status => as_task handler.status

inductive CallersLabel
  | connect
  | other (call : OtherCall)
  | perform (caller : Nat) (choice : Choice)
  | background (task : Nat) (choice : Choice)
  | receive
  | wait (millis : Nat)

namespace Callers

/-- Another call is in progress. -/
def busy (self : Callers) (i : Nat) : Bool :=
  self.callers.zipIdx.any fun (caller, j) => j != i && caller.in_progress

/-- The locks know the callers by even numbers and the other tasks by odd ones. -/
def step (crates : Crates) (ignore_self_messages : Bool) (s : Callers) : CallersLabel → Option Callers
  | .connect => some { s with callers := s.callers ++ [{ rest := connect crates ignore_self_messages () }] }
  | .other call => some { s with pool := { s.pool with tasks := s.pool.tasks ++ [{ rest := call.program }] } }
  | .perform i choice =>
    match s.callers[i]? with
    | none => none
    | some caller =>
      match caller.rest with
      | .ret _ => none
      | .ask op next => (handler.perform crates (2 * i) op choice s.pool.env).map fun (r, env, spawned) =>
          { pool := { env := env, tasks := s.pool.tasks ++ spawned }
            callers := s.callers.set i {
              rest := next r
              position := caller.position.after op r
              overlapped := if caller.position = .called then s.busy i else caller.overlapped
              requests := if op.is_request then caller.requests + 1 else caller.requests } }
  | .background j choice =>
    (s.pool.advance (fun tid => handler.perform crates (2 * tid + 1)) j choice).map fun pool => { s with pool := pool }
  | .receive =>
    match s.pool.env.queue with
    | [] => none
    | _ :: rest => some { s with pool := { s.pool with env := { s.pool.env with queue := rest } } }
  | .wait millis =>
    some { s with pool := { s.pool with env := { s.pool.env with time := s.pool.env.time + millis } } }

/-- A call takes the lock to look at the flags only while they tell of every other call
    that is in progress. -/
def announced (s : Callers) : CallersLabel → Bool
  | .perform i _ =>
    match s.callers[i]? with
    | none => true
    | some caller =>
      caller.position != .called || s.callers.zipIdx.all fun (other, j) => j == i || !other.unannounced
  | _ => true

end Callers

/-- All interleavings of calls of `connect` on a new handler. -/
def callers (crates : Crates) (token : String) (ignore_self_messages : Bool) (capacity : Nat) :
    Machine Callers CallersLabel where
  init := { pool := {
    env := { capacity := capacity, content := initial_content token, next_task := 0 }
    tasks := [] } }
  step := Callers.step crates ignore_self_messages

def already_in_progress : WebexError := .internal "connect() already in progress"

def already_connected : WebexError := .internal "Already connected. Call disconnect() first, or use reconnect()."

/-- The locks of the two flags, and nothing else. -/
def flags_only : Monitor Op Res Unit where
  allowed _ op := match op with
    | .acquire .connected | .release .connected _ | .release .connecting _ => True
    | _ => False
  moves _ _ _ _ := True

/-- At most one call executes `connect_internal`. Every call that found another in
    progress has made no request, and makes none before it returns one of the two
    errors. -/
structure Exclusive (s : Callers) : Prop where
  one_inside : ∀ (i j : Nat) a b, s.callers[i]? = some a → s.callers[j]? = some b → a.position = .inside →
    b.position = .inside → i = j
  refused : ∀ caller ∈ s.callers, caller.overlapped = true → caller.requests = 0 ∧
    caller.rest.Obeys flags_only (fun out _ => out.1 = .error already_in_progress ∨ out.1 = .error already_connected) ()

section aloof

variable {α β : Type} {crates : Crates}

/-- A function that never touches the lock of `connecting`, so that a monitor which
    takes notice of nothing else is not moved by it. -/
def Aloof (m : Handler α) : Prop :=
  ∀ (γ : Type) (mon : Monitor Op Res γ) (view : γ),
    (∀ op, op.on_connecting = false → mon.allowed view op ∧ ∀ r g, mon.moves view op r g → g = view) →
    m.Keeps mon fun _ g => g = view

theorem aloof_request (op : Op) (hop : op.on_connecting = false) : Aloof (Method.request op : Handler (Res op)) := by
  intro γ mon view hmon
  refine Method.keeps_request ?_
  rintro _ _ rfl
  exact hmon op hop

theorem aloof_pure (value : α) : Aloof (pure value : Handler α) := fun _ _ _ _ => Method.keeps_pure value

theorem aloof_ofExcept (value : Except WebexError α) : Aloof (Method.ofExcept value : Handler α) :=
  fun _ _ _ _ => Method.keeps_ofExcept value

theorem aloof_bind {m : Handler α} {f : α → Handler β} (hm : Aloof m) (hf : ∀ value, Aloof (f value)) :
    Aloof (m >>= f) :=
  fun γ mon view hmon => Method.keeps_bind (hm γ mon view hmon) fun value => hf value γ mon view hmon

theorem aloof_when {condition : Bool} {m : Handler Unit} (hm : Aloof m) : Aloof (m.when condition) :=
  fun γ mon view hmon => Method.keeps_when fun _ => hm γ mon view hmon

theorem aloof_acquire (cell : Cell) (hcell : cell ≠ .connecting) : Aloof (acquire cell) := by
  refine aloof_request _ ?_
  cases cell with
  | connecting => exact absurd rfl hcell
  | _ => rfl

theorem aloof_release (cell : Cell) (content : Content cell) (hcell : cell ≠ .connecting) :
    Aloof (release cell content) := by
  refine aloof_request _ ?_
  cases cell with
  | connecting => exact absurd rfl hcell
  | _ => rfl

theorem aloof_read_cell (cell : Cell) (hcell : cell ≠ .connecting) : Aloof (read_cell cell) := by
  apply aloof_bind (aloof_acquire cell hcell)
  intro content
  apply aloof_bind (aloof_release cell content hcell)
  intro _
  exact aloof_pure content

theorem aloof_write_cell (cell : Cell) (content : Content cell) (hcell : cell ≠ .connecting) :
    Aloof (write_cell cell content) := by
  apply aloof_bind (aloof_acquire cell hcell)
  intro _
  exact aloof_release cell content hcell

theorem aloof_call_device (m : device_manager.Dm α) (dm : device_manager.DeviceManager) : Aloof (call_device m dm) := by
  rintro γ mon view hmon _ _ rfl
  refine Method.obeys_call.mpr (Program.obeys_of_inert ?_ ?_ (m dm))
  · intro op
    exact (hmon (.fetch op) rfl).1
  · rintro op r g ⟨_, -, hmove⟩
    exact (hmon (.fetch op) rfl).2 _ g hmove

theorem aloof_call_kms (mailbox : Nat) (m : kms_client.Kms α) (kms : kms_client.KmsClient) :
    Aloof (call_kms mailbox m kms) := by
  rintro γ mon view hmon _ _ rfl
  refine Method.obeys_call.mpr (Program.obeys_of_inert ?_ ?_ (m kms))
  · intro op
    exact (hmon (.kms mailbox op) rfl).1
  · rintro op r g ⟨_, -, hmove⟩
    exact (hmon (.kms mailbox op) rfl).2 _ g hmove

theorem aloof_initialize_kms : Aloof (initialize_kms crates) := by
  unfold initialize_kms
  apply aloof_bind (aloof_acquire .kms_client nofun)
  intro client
  cases client with
  | none =>
    apply aloof_bind (aloof_release .kms_client _ nofun)
    intro _
    exact aloof_pure _
  | some client =>
    apply aloof_bind (aloof_call_kms client.1 _ client.2)
    intro out
    apply aloof_bind (aloof_release .kms_client _ nofun)
    intro _
    exact aloof_pure _

theorem aloof_connect_internal (ignore_self_messages : Bool) : Aloof (connect_internal crates ignore_self_messages) := by
  have hregister : ∀ token, Aloof (register_device crates token) := by
    intro token
    apply aloof_bind (aloof_acquire .device_manager nofun)
    intro dm
    apply aloof_bind (aloof_call_device _ dm)
    intro out
    apply aloof_bind (aloof_release .device_manager _ nofun)
    intro _
    exact aloof_ofExcept _
  have hbot : Aloof (fetch_bot_person_id crates) := by
    apply aloof_bind (aloof_read_cell .token nofun)
    intro token
    apply aloof_bind (aloof_request (.fetch (people_me_request token)) rfl)
    intro response
    apply aloof_bind (aloof_ofExcept _)
    intro uuid
    exact aloof_write_cell .bot_person_id _ nofun
  have hsocket : ∀ ws_url token, Aloof (mercury_connect crates ws_url token) := by
    intro ws_url token
    apply aloof_bind (aloof_request .now rfl)
    intro timestamp
    apply aloof_bind (aloof_ofExcept _)
    intro prepared_url
    apply aloof_bind (aloof_request (.open_socket ws_url prepared_url token) rfl)
    intro opened
    exact aloof_ofExcept _
  unfold connect_internal
  apply aloof_bind (aloof_read_cell .token nofun)
  intro token
  apply aloof_bind (hregister token)
  intro reg
  apply aloof_bind (aloof_when hbot)
  intro _
  apply aloof_bind (aloof_request .new_mailbox rfl)
  intro mailbox
  apply aloof_bind (aloof_write_cell .kms_response_handler _ nofun)
  intro _
  apply aloof_bind (aloof_write_cell .kms_client _ nofun)
  intro _
  apply aloof_bind (hsocket reg.web_socket_url token)
  intro _
  apply aloof_bind (aloof_request .start_event_loop rfl)
  intro _
  apply aloof_bind aloof_initialize_kms
  intro initialized
  apply aloof_bind (aloof_ofExcept _)
  intro _
  exact aloof_write_cell .registration _ nofun

theorem aloof_disconnect : Aloof disconnect := by
  have hunregister : ∀ token, Aloof (unregister_device token) := by
    intro token
    apply aloof_bind (aloof_acquire .registration nofun)
    intro reg
    apply aloof_bind (aloof_when _)
    · intro _
      exact aloof_release .registration _ nofun
    · apply aloof_bind (aloof_acquire .device_manager nofun)
      intro dm
      apply aloof_bind (aloof_call_device _ dm)
      intro out
      exact aloof_release .device_manager _ nofun
  unfold disconnect
  apply aloof_bind (aloof_write_cell .connected _ nofun)
  intro _
  apply aloof_bind (aloof_request .mercury_disconnect rfl)
  intro _
  apply aloof_bind (aloof_read_cell .token nofun)
  intro token
  apply aloof_bind (hunregister token)
  intro _
  apply aloof_bind (aloof_write_cell .registration _ nofun)
  intro _
  apply aloof_bind (aloof_write_cell .kms_client _ nofun)
  intro _
  apply aloof_bind (aloof_write_cell .kms_response_handler _ nofun)
  intro _
  exact aloof_write_cell .bot_person_id _ nofun

theorem aloof_activity_task (activity : MercuryActivity) : Aloof (activity_task crates activity) := by
  have hsend : ∀ event (kms : kms_client.KmsClient),
      Aloof (send event >>= fun _ => (pure kms : Handler kms_client.KmsClient)) := by
    intro event kms
    apply aloof_bind (aloof_request (.send event) rfl)
    intro _
    exact aloof_pure kms
  have hhandle : ∀ mailbox kms bot_id, Aloof (handle_activity_static crates mailbox kms activity bot_id) := by
    intro mailbox kms bot_id
    unfold handle_activity_static
    split
    · apply aloof_bind (aloof_call_kms mailbox _ kms)
      rintro ⟨decrypted, kms⟩
      cases hevent : message_event crates activity.verb bot_id decrypted with
      | none =>
        simp only [hevent, send_event]
        exact aloof_pure kms
      | some event =>
        simp only [hevent, send_event]
        exact hsend event kms
    · split
      · exact hsend _ kms
      · split
        · exact hsend _ kms
        · split
          · apply aloof_bind (aloof_call_kms mailbox _ kms)
            rintro ⟨decrypted, kms⟩
            exact hsend _ kms
          · split
            · exact hsend _ kms
            · exact aloof_pure kms
  unfold activity_task
  apply aloof_bind (aloof_acquire .kms_client nofun)
  intro client
  cases client with
  | none => exact aloof_release .kms_client _ nofun
  | some client =>
    apply aloof_bind (aloof_read_cell .bot_person_id nofun)
    intro bot_id
    apply aloof_bind (hhandle client.1 client.2 bot_id)
    intro kms
    exact aloof_release .kms_client _ nofun

theorem aloof_event_loop : Aloof (event_loop crates) := by
  have hsend : ∀ event : HandlerEvent, Aloof (send event) := fun event => aloof_request (.send event) rfl
  have hrefresh : ∀ token, Aloof (refresh_registration crates token) := by
    intro token
    apply aloof_bind (aloof_acquire .registration nofun)
    intro reg
    split
    · apply aloof_bind (aloof_acquire .device_manager nofun)
      intro dm
      apply aloof_bind (aloof_call_device _ dm)
      rintro ⟨refreshed, dm⟩
      cases refreshed with
      | ok new_reg =>
        apply aloof_bind (aloof_release .registration _ nofun)
        intro _
        apply aloof_bind (aloof_write_cell .registration _ nofun)
        intro _
        exact aloof_release .device_manager _ nofun
      | error e =>
        apply aloof_bind (aloof_release .device_manager _ nofun)
        intro _
        exact aloof_release .registration _ nofun
    · exact aloof_release .registration _ nofun
  unfold event_loop
  apply aloof_bind (aloof_request .next_event rfl)
  intro event
  unfold handle_mercury_event
  split
  · apply aloof_bind (aloof_acquire .recent_activity_ids nofun)
    intro ids
    apply aloof_bind (aloof_request .now rfl)
    intro instant
    exact aloof_release .recent_activity_ids _ nofun
  · rename_i data
    apply aloof_bind (aloof_acquire .kms_response_handler nofun)
    intro handler
    have hforward : Aloof (forward_kms_response data handler) := by
      cases handler with
      | none => exact aloof_pure ()
      | some mailbox => exact aloof_request (.handle_kms_message mailbox data) rfl
    apply aloof_bind hforward
    intro _
    exact aloof_release .kms_response_handler _ nofun
  · rename_i activity
    exact aloof_request (.spawn_activity activity) rfl
  · apply aloof_bind (aloof_read_cell .token nofun)
    intro token
    apply aloof_bind (hrefresh token)
    intro _
    apply aloof_bind aloof_initialize_kms
    intro _
    apply aloof_bind (aloof_write_cell .connected _ nofun)
    intro _
    exact hsend _
  · apply aloof_bind (aloof_write_cell .connected _ nofun)
    intro _
    exact hsend _
  · exact hsend _
  · exact hsend _

end aloof

/-- What a call of `connect` does to the lock of `connecting`, and that it reaches the
    network only while it executes `connect_internal`. -/
def guarding : Monitor Op Res Position where
  allowed position op := match position, op with
    | .called, .acquire .connecting => True
    | .looking _ none, .acquire .connected => True
    | .looking _ (some _), .release .connected _ => True
    | .looking connecting (some _), .release .connecting flag => flag = connecting
    | .passed, .acquire .connecting => True
    | .setting, .release .connecting flag => flag = true
    | .inside, .acquire .connecting => True
    | .inside, op => op.on_connecting = false
    | .clearing, .release .connecting flag => flag = false
    | .left, op => op.on_connecting = false ∧ op.is_request = false
    | _, _ => False
  moves position op r position' := position' = position.after op r

/-- A call that the flags turned away returns the error that says so. -/
def Returned (outcome : Except WebexError Unit) : Position → Prop
  | .refused => outcome = .error already_in_progress ∨ outcome = .error already_connected
  | .left => True
  | _ => False

/-- Away from the lock, a call moves on only when it looks at `connected`. -/
theorem after_other {op : Op} (hop : op.on_connecting = false) (p : Position) (r : Res op) :
    p.after op r = p ∨ ∃ connecting connected, p = .looking connecting none ∧
      p.after op r = .looking connecting (some connected) := by
  unfold Position.after
  split
  case h_2 connecting connected => exact .inr ⟨connecting, connected, rfl, rfl⟩
  case h_8 => exact .inl rfl
  all_goals cases hop

theorem inside_stays {op : Op} (hop : op.on_connecting = false) (r : Res op) : Position.inside.after op r = .inside := by
  obtain hsame | ⟨_, _, heq, -⟩ := after_other hop .inside r
  · exact hsame
  · cases heq

theorem guarding_inside {op : Op} (hop : op.on_connecting = false) : guarding.allowed .inside op := by
  cases op with
  | acquire cell =>
    cases cell with
    | connecting => cases hop
    | _ => exact hop
  | _ => exact hop

section callers

variable {crates : Crates}

/-- `connect` from the end of its look at the flags. -/
theorem connect_passed (ignore_self_messages : Bool) :
    (do
      write_cell .connecting true
      let result ← (connect_internal crates ignore_self_messages).attempt
      write_cell .connecting false
      Method.ofExcept result
      write_cell .connected true
      try_send .connected : Handler Unit).Obeys guarding () .passed fun outcome _ position => Returned outcome position := by
  have hset : (write_cell .connecting true).Obeys guarding () .passed fun outcome _ position =>
      outcome = .ok () ∧ position = .inside := by
    refine Method.obeys_bind_request.mpr ⟨trivial, ?_⟩
    rintro _ _ rfl
    refine ⟨rfl, ?_⟩
    rintro _ _ rfl
    exact ⟨rfl, rfl⟩
  have hclear : (write_cell .connecting false).Obeys guarding () .inside fun outcome _ position =>
      outcome = .ok () ∧ position = .left := by
    refine Method.obeys_bind_request.mpr ⟨trivial, ?_⟩
    rintro _ _ rfl
    refine ⟨rfl, ?_⟩
    rintro _ _ rfl
    exact ⟨rfl, rfl⟩
  have hinternal : ((connect_internal crates ignore_self_messages).attempt).Obeys guarding () .inside
      fun outcome _ position => (∃ result, outcome = .ok result) ∧ position = .inside := by
    rw [Method.obeys_attempt]
    refine (aloof_connect_internal ignore_self_messages Position guarding .inside ?_ () .inside rfl).mono ?_
    · intro op hop
      refine ⟨guarding_inside hop, ?_⟩
      rintro r _ rfl
      exact inside_stays hop r
    · intro result _ position hinside
      exact ⟨⟨result, rfl⟩, hinside⟩
  have hrest : (write_cell .connected true >>= fun _ => try_send .connected).Obeys guarding () .left
      fun _ _ position => position = .left := by
    refine Method.obeys_bind_request.mpr ⟨⟨rfl, rfl⟩, ?_⟩
    rintro _ _ rfl
    refine Method.obeys_bind_request.mpr ⟨⟨rfl, rfl⟩, ?_⟩
    rintro _ _ rfl
    refine ⟨⟨rfl, rfl⟩, ?_⟩
    rintro _ _ rfl
    rfl
  refine hset.bind ?_ fun _ _ _ hpost => nomatch hpost.1
  rintro _ _ _ ⟨-, rfl⟩
  refine hinternal.bind ?_ fun _ _ _ hpost => nomatch hpost.1.choose_spec
  rintro result _ _ ⟨-, rfl⟩
  refine hclear.bind ?_ fun _ _ _ hpost => nomatch hpost.1
  rintro _ _ _ ⟨-, rfl⟩
  rw [Method.obeys_bind, Method.obeys_ofExcept]
  cases result with
  | error e => trivial
  | ok value =>
    refine hrest.mono ?_
    rintro outcome _ _ rfl
    trivial

theorem connect_guarding (ignore_self_messages : Bool) :
    (connect crates ignore_self_messages).Obeys guarding () .called fun outcome _ position => Returned outcome position := by
  unfold connect
  refine Method.obeys_bind_request.mpr ⟨trivial, ?_⟩
  rintro connecting _ rfl
  refine Method.obeys_bind_request.mpr ⟨trivial, ?_⟩
  rintro connected _ rfl
  refine Method.obeys_bind_request.mpr ⟨trivial, ?_⟩
  rintro _ _ rfl
  refine Method.obeys_bind_request.mpr ⟨rfl, ?_⟩
  rintro _ _ rfl
  cases connecting with
  | true => exact .inl rfl
  | false =>
    cases connected with
    | true => exact .inr rfl
    | false => exact connect_passed ignore_self_messages

/-- What holds between the positions of the calls, the owner of the lock of
    `connecting` and the flag behind it. -/
structure FlagLocked (positions : List Position) (owner : Option Nat) (flag : Bool) : Prop where
  holder : ∀ (i : Nat) p, positions[i]? = some p → p.holds = true → owner = some (2 * i)
  looked : ∀ (i : Nat) connecting connected, positions[i]? = some (.looking connecting connected) → flag = connecting
  set : ∀ (i : Nat) p, positions[i]? = some p → p.has_set = true → flag = true
  alone : ∀ (i j : Nat) p q, positions[i]? = some p → positions[j]? = some q → p.active = true → q.active = true → i = j
  clear : ∀ (i j : Nat) connected q, positions[i]? = some (.looking false connected) → positions[j]? = some q →
    q.active = false

namespace FlagLocked

variable {positions : List Position} {owner : Option Nat} {flag : Bool}

theorem call (hlocked : FlagLocked positions owner flag) : FlagLocked (positions ++ [.called]) owner flag where
  holder i p hp hholds := by
    obtain hp | ⟨-, rfl⟩ := getElem?_concat_cases hp
    · exact hlocked.holder i p hp hholds
    · cases hholds
  looked i connecting connected hp := by
    obtain hp | ⟨-, heq⟩ := getElem?_concat_cases hp
    · exact hlocked.looked i connecting connected hp
    · cases heq
  set i p hp hset := by
    obtain hp | ⟨-, rfl⟩ := getElem?_concat_cases hp
    · exact hlocked.set i p hp hset
    · cases hset
  alone i j p q hp hq hactive hactive' := by
    obtain hp | ⟨-, rfl⟩ := getElem?_concat_cases hp
    · obtain hq | ⟨-, rfl⟩ := getElem?_concat_cases hq
      · exact hlocked.alone i j p q hp hq hactive hactive'
      · cases hactive'
    · cases hactive
  clear i j connected q hp hq := by
    obtain hp | ⟨-, heq⟩ := getElem?_concat_cases hp
    · obtain hq | ⟨-, rfl⟩ := getElem?_concat_cases hq
      · exact hlocked.clear i j connected q hp hq
      · rfl
    · cases heq

/-- Another task may take the lock while it is free and give it back. -/
theorem frame (hlocked : FlagLocked positions owner flag) {owner' : Option Nat}
    (howner : ∀ i, owner = some (2 * i) → owner' = some (2 * i)) : FlagLocked positions owner' flag where
  holder i p hp hholds := howner i (hlocked.holder i p hp hholds)
  looked := hlocked.looked
  set := hlocked.set
  alone := hlocked.alone
  clear := hlocked.clear

variable {i : Nat} {p p' : Position}

/-- No other call holds the lock. -/
theorem only_holder (hlocked : FlagLocked positions owner flag) (hp : positions[i]? = some p) (hholds : p.holds = true)
    {j : Nat} {q : Position} (hq : positions[j]? = some q) (hother : j ≠ i) : q.holds = false := by
  cases hheld : q.holds with
  | false => rfl
  | true =>
    have howner := hlocked.holder j q hq hheld
    rw [hlocked.holder i p hp hholds, Option.some.injEq] at howner
    omega

/-- A call goes on without a change to the lock. -/
theorem go_on (hlocked : FlagLocked positions owner flag) (hp : positions[i]? = some p) (hholds : p'.holds = p.holds)
    (hset : p'.has_set = p.has_set) (hactive : p'.active = p.active)
    (hlooking : ∀ connecting connected, p' = .looking connecting connected → ∃ before, p = .looking connecting before) :
    FlagLocked (positions.set i p') owner flag := by
  -- each new position is like the old one in all that the invariant looks at
  have hold : ∀ (j : Nat) q, (positions.set i p')[j]? = some q → ∃ q', positions[j]? = some q' ∧ q.holds = q'.holds ∧
      q.has_set = q'.has_set ∧ q.active = q'.active ∧
      ∀ connecting connected, q = .looking connecting connected → ∃ before, q' = .looking connecting before := by
    intro j q hq
    obtain ⟨rfl, rfl⟩ | ⟨-, hq⟩ := getElem?_set_cases hq
    · exact ⟨p, hp, hholds, hset, hactive, hlooking⟩
    · exact ⟨q, hq, rfl, rfl, rfl, fun _ connected heq => ⟨connected, heq⟩⟩
  exact {
    holder := by
      intro j q hq hheld
      obtain ⟨q', hq', hsame, -⟩ := hold j q hq
      exact hlocked.holder j q' hq' (hsame ▸ hheld)
    looked := by
      intro j connecting connected hq
      obtain ⟨q', hq', -, -, -, hlooking⟩ := hold j _ hq
      obtain ⟨before, rfl⟩ := hlooking connecting connected rfl
      exact hlocked.looked j connecting before hq'
    set := by
      intro j q hq hset
      obtain ⟨q', hq', -, hsame, -⟩ := hold j q hq
      exact hlocked.set j q' hq' (hsame ▸ hset)
    alone := by
      intro j k q₁ q₂ hq₁ hq₂ hactive₁ hactive₂
      obtain ⟨q₁', hq₁', -, -, hsame₁, -⟩ := hold j q₁ hq₁
      obtain ⟨q₂', hq₂', -, -, hsame₂, -⟩ := hold k q₂ hq₂
      exact hlocked.alone j k q₁' q₂' hq₁' hq₂' (hsame₁ ▸ hactive₁) (hsame₂ ▸ hactive₂)
    clear := by
      intro j k connected q hq hq₂
      obtain ⟨q', hq', -, -, -, hlooking⟩ := hold j _ hq
      obtain ⟨before, rfl⟩ := hlooking false connected rfl
      obtain ⟨q₂', hq₂', -, -, hsame, -⟩ := hold k q hq₂
      rw [hsame]
      exact hlocked.clear j k before q₂' hq' hq₂' }

/-- A call takes the free lock. When it does so to look at the flag, an unset one means
    that no other call is active. -/
theorem take (hlocked : FlagLocked positions none flag) (hp : positions[i]? = some p) (hset : p'.has_set = p.has_set)
    (hactive : p'.active = p.active)
    (hlooking : ∀ connecting connected, p' = .looking connecting connected → flag = connecting ∧
      (connecting = false → ∀ (j : Nat) q, j ≠ i → positions[j]? = some q → q.active = false)) :
    FlagLocked (positions.set i p') (some (2 * i)) flag := by
  have hfree : ∀ (j : Nat) q, positions[j]? = some q → q.holds = false := by
    intro j q hq
    cases hheld : q.holds with
    | false => rfl
    | true => exact nomatch hlocked.holder j q hq hheld
  exact {
    holder := by
      intro j q hq hheld
      obtain ⟨rfl, -⟩ | ⟨-, hq⟩ := getElem?_set_cases hq
      · rfl
      · rw [hfree j q hq] at hheld
        cases hheld
    looked := by
      intro j connecting connected hq
      obtain ⟨-, heq⟩ | ⟨-, hq⟩ := getElem?_set_cases hq
      · exact (hlooking connecting connected heq.symm).1
      · exact hlocked.looked j connecting connected hq
    set := by
      intro j q hq hq_set
      obtain ⟨rfl, rfl⟩ | ⟨-, hq⟩ := getElem?_set_cases hq
      · exact hlocked.set j p hp (hset ▸ hq_set)
      · exact hlocked.set j q hq hq_set
    alone := by
      intro j k q₁ q₂ hq₁ hq₂ hactive₁ hactive₂
      obtain ⟨rfl, rfl⟩ | ⟨-, hold₁⟩ := getElem?_set_cases hq₁
      · obtain ⟨rfl, -⟩ | ⟨-, hq₂⟩ := getElem?_set_cases hq₂
        · rfl
        · exact hlocked.alone j k p q₂ hp hq₂ (hactive ▸ hactive₁) hactive₂
      · obtain ⟨rfl, rfl⟩ | ⟨-, hq₂⟩ := getElem?_set_cases hq₂
        · exact hlocked.alone j k q₁ p hold₁ hp hactive₁ (hactive ▸ hactive₂)
        · exact hlocked.alone j k q₁ q₂ hold₁ hq₂ hactive₁ hactive₂
    clear := by
      intro j k connected q hq hq₂
      obtain ⟨rfl, heq⟩ | ⟨-, hq⟩ := getElem?_set_cases hq
      · obtain ⟨-, rfl⟩ | ⟨hother, hq₂⟩ := getElem?_set_cases hq₂
        · rw [← heq]
          rfl
        · exact (hlooking false connected heq.symm).2 rfl k q hother hq₂
      · have hheld := hfree j _ hq
        cases hheld }

/-- A call that holds the lock gives it back. -/
theorem drop (hlocked : FlagLocked positions owner flag) (hp : positions[i]? = some p) (hholds : p.holds = true)
    (hholds' : p'.holds = false) {flag' : Bool} (hset : p'.has_set = true → flag' = true)
    (hflag : flag' = flag ∨ flag' = true ∨ p.active = true)
    (hactive : p'.active = true → p.active = true ∨ ∃ connected, p = .looking false connected) :
    FlagLocked (positions.set i p') none flag' := by
  have hfree : ∀ (j : Nat) q, (positions.set i p')[j]? = some q → q.holds = false := by
    intro j q hq
    obtain ⟨-, rfl⟩ | ⟨hother, hq⟩ := getElem?_set_cases hq
    · exact hholds'
    · exact hlocked.only_holder hp hholds hq hother
  -- an active call beside this one would have been seen at the look
  have halone : p'.active = true → ∀ (j : Nat) q, j ≠ i → positions[j]? = some q → q.active = false := by
    intro hactive' j q hother hq
    obtain hbefore | ⟨connected, rfl⟩ := hactive hactive'
    · cases hq_active : q.active with
      | false => rfl
      | true => exact absurd (hlocked.alone j i q p hq hp hq_active hbefore) hother
    · exact hlocked.clear i j connected q hp hq
  exact {
    holder := by
      intro j q hq hheld
      rw [hfree j q hq] at hheld
      cases hheld
    looked := by
      intro j connecting connected hq
      have hheld := hfree j _ hq
      cases hheld
    set := by
      intro j q hq hq_set
      obtain ⟨-, rfl⟩ | ⟨hother, hq⟩ := getElem?_set_cases hq
      · exact hset hq_set
      · obtain rfl | rfl | hbefore := hflag
        · exact hlocked.set j q hq hq_set
        · rfl
        · have hq_active : q.active = true := by
            cases q with
            | inside => rfl
            | clearing => rfl
            | _ => cases hq_set
          exact absurd (hlocked.alone j i q p hq hp hq_active hbefore) hother
    alone := by
      intro j k q₁ q₂ hq₁ hq₂ hactive₁ hactive₂
      obtain ⟨rfl, rfl⟩ | ⟨hother₁, hold₁⟩ := getElem?_set_cases hq₁
      · obtain ⟨rfl, -⟩ | ⟨hother₂, hq₂⟩ := getElem?_set_cases hq₂
        · rfl
        · rw [halone hactive₁ k q₂ hother₂ hq₂] at hactive₂
          cases hactive₂
      · obtain ⟨rfl, rfl⟩ | ⟨-, hq₂⟩ := getElem?_set_cases hq₂
        · rw [halone hactive₂ j q₁ hother₁ hold₁] at hactive₁
          cases hactive₁
        · exact hlocked.alone j k q₁ q₂ hold₁ hq₂ hactive₁ hactive₂
    clear := by
      intro j k connected q hq _
      have hheld := hfree j _ hq
      cases hheld }

end FlagLocked

/-- The other tasks leave the flag behind `connecting` as they find it. -/
def onlooker : Monitor Op Res (Option Bool) where
  allowed held op := match op with
    | .acquire .connecting => held = none
    | .release .connecting flag => held = some flag
    | _ => True
  moves held op r held' := match op, r with
    | .acquire .connecting, flag => held' = some flag
    | .release .connecting _, _ => held' = none
    | _, _ => held' = held

theorem onlooker_aloof (held : Option Bool) (op : Op) (hop : op.on_connecting = false) :
    onlooker.allowed held op ∧ ∀ r held', onlooker.moves held op r held' → held' = held := by
  cases op with
  | acquire cell =>
    cases cell with
    | connecting => cases hop
    | _ => exact ⟨trivial, fun _ _ hmove => hmove⟩
  | release cell content =>
    cases cell with
    | connecting => cases hop
    | _ => exact ⟨trivial, fun _ _ hmove => hmove⟩
  | _ => exact ⟨trivial, fun _ _ hmove => hmove⟩

theorem onlooker_stays {held : Option Bool} {op : Op} (hop : op.on_connecting = false) (r : Res op) :
    onlooker.moves held op r held := by
  cases op with
  | acquire cell =>
    cases cell with
    | connecting => cases hop
    | _ => rfl
  | release cell content =>
    cases cell with
    | connecting => cases hop
    | _ => rfl
  | _ => rfl

theorem on_connecting_cases {op : Op} (hop : op.on_connecting = true) :
    op = .acquire .connecting ∨ ∃ flag, op = .release .connecting flag := by
  unfold Op.on_connecting at hop
  split at hop
  · exact .inl rfl
  · exact .inr ⟨_, rfl⟩
  · cases hop

theorem aloof_onlooks {α : Type} {m : Handler α} (hm : Aloof m) : (as_task m).Obeys onlooker (fun _ g => g = none) none := by
  rw [as_task, Program.obeys_bind]
  exact hm _ onlooker none (onlooker_aloof none) () none rfl

theorem status_onlooks : (as_task status).Obeys onlooker (fun _ g => g = none) none := by
  have hread : (read_cell .connecting).Keeps onlooker fun _ g => g = none := by
    rintro _ _ rfl
    refine Method.obeys_bind_request.mpr ⟨rfl, ?_⟩
    rintro flag _ rfl
    refine Method.obeys_bind_request.mpr ⟨rfl, ?_⟩
    rintro _ _ rfl
    rfl
  have hrest : ∀ {α : Type} {m : Handler α}, Aloof m → m.Keeps onlooker fun _ g => g = none :=
    fun hm => hm _ onlooker none (onlooker_aloof none)
  have hstatus : status.Keeps onlooker fun _ g => g = none := by
    unfold status
    apply Method.keeps_bind (hrest (aloof_request .mercury_attempts rfl))
    intro reconnect_attempt
    apply Method.keeps_bind (hrest (aloof_request .mercury_connected rfl))
    intro ws_open
    apply Method.keeps_bind (hrest (aloof_read_cell .connected nofun))
    intro is_connected
    apply Method.keeps_bind hread
    intro is_connecting
    apply Method.keeps_bind (hrest (aloof_acquire .kms_client nofun))
    intro kms
    apply Method.keeps_bind (hrest (aloof_acquire .registration nofun))
    intro reg
    apply Method.keeps_bind (hrest (aloof_release .registration _ nofun))
    intro _
    apply Method.keeps_bind (hrest (aloof_release .kms_client _ nofun))
    intro _
    exact Method.keeps_pure _
  rw [as_task, Program.obeys_bind]
  exact hstatus () none rfl

theorem other_call_onlooks (call : OtherCall) : call.program.Obeys onlooker (fun _ g => g = none) none := by
  cases call with
  | disconnect => exact aloof_onlooks aloof_disconnect
  | status => exact status_onlooks

/-- A task that holds the lock of `connecting` knows the flag behind it. -/
structure Scene (positions : List Position) (env : Env) (views : List (Option Bool)) : Prop where
  watched : ∀ (j : Nat) flag, views[j]? = some (some flag) →
    env.owner .connecting = some (2 * j + 1) ∧ env.content .connecting = flag
  locked : FlagLocked positions (env.owner .connecting) (env.content .connecting)

/-- An operation on another lock, or on none, leaves `connecting` alone. -/
theorem performed_frame {tid : Nat} {env env' : Env} {op : Op} {choice : Choice} {r : Res op}
    {spawned : List (Task Op Res)} (hperformed : Performed crates tid env op choice r env' spawned)
    (hop : op.on_connecting = false) :
    env'.owner .connecting = env.owner .connecting ∧ env'.content .connecting = env.content .connecting := by
  cases hperformed with
  | acquire cell hfree =>
    have hcell : Cell.connecting ≠ cell := by
      rintro rfl
      cases hop
    exact ⟨Function.update_of_ne hcell _ _, rfl⟩
  | release cell content =>
    have hcell : Cell.connecting ≠ cell := by
      rintro rfl
      cases hop
    exact ⟨Function.update_of_ne hcell _ _, Function.update_of_ne hcell _ _⟩
  | _ => exact ⟨rfl, rfl⟩

theorem performed_spawns {tid : Nat} {env env' : Env} {op : Op} {choice : Choice} {r : Res op}
    {spawned : List (Task Op Res)} (hperformed : Performed crates tid env op choice r env' spawned) :
    List.Forall₂ (fun task g => task.Obeys onlooker (· = none) g) spawned (spawned.map fun _ => none) := by
  have hloop : ∀ g : Option Bool, g = none → (as_task (event_loop crates)).Obeys onlooker (fun _ g => g = none) g := by
    rintro _ rfl
    exact aloof_onlooks aloof_event_loop
  cases hperformed with
  | start_event_loop hnone => exact .cons (Task.obeys_loop rfl hloop rfl) .nil
  | spawn_activity activity => exact .cons (aloof_onlooks (aloof_activity_task activity)) .nil
  | _ => exact .nil

theorem Scene.spawn {positions : List Position} {env : Env} {views : List (Option Bool)}
    (hscene : Scene positions env views) (spawned : List (Task Op Res)) :
    Scene positions env (views ++ spawned.map fun _ => none) where
  watched j flag hview := by
    rw [List.getElem?_append] at hview
    split at hview
    · exact hscene.watched j flag hview
    · have hmem := List.mem_of_getElem? hview
      simp at hmem
  locked := hscene.locked

/-- The other tasks, whatever they do, keep the scene. -/
theorem onlooker_sound (positions : List Position) :
    Pool.Sound onlooker (· = none) (Scene positions) (fun _ _ _ _ => True)
      (fun tid => perform crates (2 * tid + 1)) := by
  intro tid op choice env r env' spawned views g hscene hg hallowed _ hperform
  have hperformed := perform_performed hperform
  have hspawns := performed_spawns hperformed
  cases hop : op.on_connecting with
  | false =>
    obtain ⟨howner, hcontent⟩ := performed_frame hperformed hop
    have hstay : views.set tid g = views := by
      obtain ⟨hlt, hget⟩ := List.getElem?_eq_some_iff.mp hg
      rw [← hget]
      exact List.set_getElem_self hlt
    have hscene' : Scene positions env' views := by
      refine ⟨?_, ?_⟩
      · rw [howner, hcontent]
        exact hscene.watched
      · rw [howner, hcontent]
        exact hscene.locked
    refine ⟨g, spawned.map fun _ => none, onlooker_stays hop r, ?_, hspawns⟩
    rw [hstay]
    exact hscene'.spawn spawned
  | true =>
    obtain rfl | ⟨flag, rfl⟩ := on_connecting_cases hop
    · cases hperformed with
      | acquire cell hfree =>
        refine ⟨some (env.content .connecting), [], rfl, ?_, .nil⟩
        rw [List.append_nil]
        refine ⟨?_, ?_⟩
        · intro j flag hview
          obtain ⟨rfl, heq⟩ | ⟨-, hview⟩ := getElem?_set_cases hview
          · exact ⟨by simp [Env.set_owner], (Option.some.inj heq).symm⟩
          · exact nomatch hfree.symm.trans (hscene.watched j flag hview).1
        · refine hscene.locked.frame ?_
          intro i howner
          exact nomatch hfree.symm.trans howner
    · cases hperformed with
      | release cell content =>
        obtain rfl : g = some flag := hallowed
        obtain ⟨howner, hflag⟩ := hscene.watched tid flag hg
        refine ⟨none, [], rfl, ?_, .nil⟩
        rw [List.append_nil]
        refine ⟨?_, ?_⟩
        · intro j other hview
          obtain ⟨-, heq⟩ | ⟨hother, hview⟩ := getElem?_set_cases hview
          · cases heq
          · have hsame := (hscene.watched j other hview).1
            rw [howner, Option.some.injEq] at hsame
            omega
        · have hcontent : ((env.store .connecting flag).set_owner .connecting none).content .connecting =
              env.content .connecting := by
            rw [hflag]
            simp [Env.store, Env.set_owner]
          rw [hcontent]
          refine hscene.locked.frame ?_
          intro i heven
          rw [howner, Option.some.injEq] at heven
          omega

/-- The invariant of the runs in which every look at the flags is announced. -/
structure Guarded (s : Callers) : Prop where
  obeys : ∀ caller ∈ s.callers, caller.rest.Obeys guarding (fun out position => Returned out.1 position) caller.position
  called : ∀ caller ∈ s.callers, caller.position = .called → caller.requests = 0 ∧ caller.overlapped = false
  overlapped : ∀ caller ∈ s.callers, caller.overlapped = true → caller.requests = 0 ∧
    (caller.position = .refused ∨ ∃ connected, caller.position = .looking true connected)
  others : ∃ views, s.pool.Obeyed onlooker (· = none) (Scene (s.callers.map Caller.position)) views

/-- What the positions and the lock become when a call performs its next operation. -/
theorem FlagLocked.after {positions : List Position} {i : Nat} {p : Position} {env env' : Env} {op : Op} {choice : Choice}
    {r : Res op} {spawned : List (Task Op Res)}
    (hlocked : FlagLocked positions (env.owner .connecting) (env.content .connecting)) (hp : positions[i]? = some p)
    (hallowed : guarding.allowed p op)
    (hannounced : p = .called → ∀ (j : Nat) q, j ≠ i → positions[j]? = some q → q.active = true → q = .inside)
    (hperformed : Performed crates (2 * i) env op choice r env' spawned) :
    FlagLocked (positions.set i (p.after op r)) (env'.owner .connecting) (env'.content .connecting) := by
  cases hop : op.on_connecting with
  | false =>
    obtain ⟨howner, hcontent⟩ := performed_frame hperformed hop
    rw [howner, hcontent]
    obtain hsame | ⟨connecting, connected, rfl, hlooking⟩ := after_other hop p r
    · rw [hsame]
      exact hlocked.go_on hp rfl rfl rfl fun _ connected heq => ⟨connected, heq⟩
    · rw [hlooking]
      refine hlocked.go_on hp rfl rfl rfl ?_
      rintro _ _ ⟨⟩
      exact ⟨none, rfl⟩
  | true =>
    obtain rfl | ⟨flag, rfl⟩ := on_connecting_cases hop
    · cases hperformed with
      | acquire cell hfree =>
        have howner : (env.set_owner .connecting (some (2 * i))).owner .connecting = some (2 * i) := by
          simp [Env.set_owner]
        rw [hfree] at hlocked
        rw [howner]
        cases p with
        | called =>
          refine hlocked.take hp rfl rfl ?_
          rintro _ _ ⟨⟩
          refine ⟨rfl, ?_⟩
          intro hunset j q hother hq
          cases hactive : q.active with
          | false => rfl
          | true =>
            obtain rfl := hannounced rfl j q hother hq hactive
            exact nomatch hunset.symm.trans (hlocked.set j .inside hq rfl)
        | passed => exact hlocked.take hp rfl rfl nofun
        | inside => exact hlocked.take hp rfl rfl nofun
        | looking connecting connected =>
          cases connected with
          | none => exact hallowed.elim
          | some connected => exact hallowed.elim
        | refused => exact hallowed.elim
        | setting => exact hallowed.elim
        | clearing => exact hallowed.elim
        | left => exact nomatch hallowed.1
    · cases hperformed with
      | release cell content =>
        have howner : ((env.store .connecting flag).set_owner .connecting none).owner .connecting = none := by
          simp [Env.set_owner]
        have hcontent : ((env.store .connecting flag).set_owner .connecting none).content .connecting = flag := by
          simp [Env.store, Env.set_owner]
        rw [howner, hcontent]
        cases p with
        | looking connecting connected =>
          cases connected with
          | none => exact hallowed.elim
          | some connected =>
            obtain rfl : flag = connecting := hallowed
            have hlook : flag = env.content .connecting := (hlocked.looked i flag (some connected) hp).symm
            show FlagLocked (positions.set i (if flag || connected then .refused else .passed)) none flag
            cases hrefused : flag || connected with
            | true => exact hlocked.drop hp rfl rfl nofun (.inl hlook) nofun
            | false =>
              obtain ⟨rfl, -⟩ := Bool.or_eq_false_iff.mp hrefused
              exact hlocked.drop hp rfl rfl nofun (.inl hlook) fun _ => .inr ⟨_, rfl⟩
        | setting =>
          obtain rfl : flag = true := hallowed
          exact hlocked.drop hp rfl rfl (fun _ => rfl) (.inr (.inl rfl)) fun _ => .inl rfl
        | clearing =>
          obtain rfl : flag = false := hallowed
          exact hlocked.drop hp rfl rfl nofun (.inr (.inr rfl)) nofun
        | called => exact hallowed.elim
        | refused => exact hallowed.elim
        | passed => exact hallowed.elim
        | inside => exact nomatch hallowed
        | left => exact nomatch hallowed.1

/-- The first operation of a call is its look at `connecting`. -/
theorem guarding_called {op : Op} (hallowed : guarding.allowed .called op) : op = .acquire .connecting := by
  cases op with
  | acquire cell =>
    cases cell with
    | connecting => rfl
    | _ => exact hallowed.elim
  | _ => exact hallowed.elim

/-- A call that has seen `connecting` set goes on to its refusal, and to nothing else. -/
theorem guarding_looking {connected : Option Bool} {op : Op} (hallowed : guarding.allowed (.looking true connected) op) :
    flags_only.allowed () op ∧ op.is_request = false ∧ ∀ r, (Position.looking true connected).after op r = .refused ∨
      ∃ connected', (Position.looking true connected).after op r = .looking true connected' := by
  cases connected with
  | none =>
    cases op with
    | acquire cell =>
      cases cell with
      | connected => exact ⟨trivial, rfl, fun r => .inr ⟨some r, rfl⟩⟩
      | _ => exact hallowed.elim
    | _ => exact hallowed.elim
  | some connected =>
    cases op with
    | release cell content =>
      cases cell with
      | connected => exact ⟨trivial, rfl, fun _ => .inr ⟨some connected, rfl⟩⟩
      | connecting => exact ⟨trivial, rfl, fun _ => .inl rfl⟩
      | _ => exact hallowed.elim
    | _ => exact hallowed.elim

theorem called_of_after {p : Position} {op : Op} {r : Res op} (hafter : p.after op r = .called) : p = .called := by
  unfold Position.after at hafter
  split at hafter
  case h_3 =>
    split at hafter
    · cases hafter
    · cases hafter
  case h_8 => exact hafter
  all_goals cases hafter

theorem after_ne_called {p : Position} {op : Op} (hallowed : guarding.allowed p op) (r : Res op) :
    p.after op r ≠ .called := by
  intro hcalled
  obtain rfl := called_of_after hcalled
  obtain rfl := guarding_called hallowed
  cases hcalled

/-- A call gives the lock back only while it holds it. -/
theorem guarding_release {p : Position} {flag : Bool} (hallowed : guarding.allowed p (.release .connecting flag)) :
    p.holds = true := by
  cases p with
  | looking connecting connected => rfl
  | setting => rfl
  | clearing => rfl
  | called => exact hallowed.elim
  | refused => exact hallowed.elim
  | passed => exact hallowed.elim
  | inside => exact nomatch hallowed
  | left => exact nomatch hallowed.1

/-- Only a call that executes `connect_internal` is active and announced. -/
theorem active_announced {caller : Caller} (hactive : caller.position.active = true)
    (hannounced : caller.unannounced = false) : caller.position = .inside := by
  unfold Caller.unannounced at hannounced
  cases hposition : caller.position with
  | inside => rfl
  | called => simp [hposition, Position.active] at hactive
  | looking connecting connected => simp [hposition, Position.active] at hactive
  | refused => simp [hposition, Position.active] at hactive
  | left => simp [hposition, Position.active] at hactive
  | passed => simp [hposition] at hannounced
  | setting => simp [hposition] at hannounced
  | clearing => simp [hposition] at hannounced

theorem announced_others {s : Callers} {i : Nat} {choice : Choice} {caller : Caller}
    (hannounced : s.announced (.perform i choice) = true) (hcaller : s.callers[i]? = some caller)
    (hcalled : caller.position = .called) {j : Nat} {other : Caller} (hother : s.callers[j]? = some other)
    (hne : j ≠ i) : other.unannounced = false := by
  simp only [Callers.announced, hcaller, hcalled, bne_self_eq_false, Bool.false_or, List.all_eq_true] at hannounced
  have hone := hannounced (other, j) (List.mem_zipIdx_iff_getElem?.mpr hother)
  simpa [hne] using hone

/-- A call performs an operation, and no other task holds the lock meanwhile. -/
theorem Scene.after {positions : List Position} {views : List (Option Bool)} {i : Nat} {p : Position} {env env' : Env}
    {op : Op} {choice : Choice} {r : Res op} {spawned : List (Task Op Res)} (hscene : Scene positions env views)
    (hp : positions[i]? = some p) (hallowed : guarding.allowed p op)
    (hannounced : p = .called → ∀ (j : Nat) q, j ≠ i → positions[j]? = some q → q.active = true → q = .inside)
    (hperformed : Performed crates (2 * i) env op choice r env' spawned) :
    Scene (positions.set i (p.after op r)) env' views where
  watched j flag hview := by
    obtain ⟨howner, hcontent⟩ := hscene.watched j flag hview
    cases hop : op.on_connecting with
    | false =>
      obtain ⟨hsame, hflag⟩ := performed_frame hperformed hop
      rw [hsame, hflag]
      exact ⟨howner, hcontent⟩
    | true =>
      obtain rfl | ⟨written, rfl⟩ := on_connecting_cases hop
      · cases hperformed with
        | acquire cell hfree => exact nomatch hfree.symm.trans howner
      · have hholder := hscene.locked.holder i p hp (guarding_release hallowed)
        rw [howner, Option.some.injEq] at hholder
        omega
  locked := hscene.locked.after hp hallowed hannounced hperformed

namespace Guarded

variable {s next : Callers}

/-- A call that begins to look while another is in progress sees `connecting` set. -/
theorem busy_content {positions : List Position} {views : List (Option Bool)}
    (hscene : Scene positions s.pool.env views) (hpositions : positions = s.callers.map Caller.position) {i : Nat}
    (hannounced : ∀ (j : Nat) other, s.callers[j]? = some other → j ≠ i → other.unannounced = false)
    (hbusy : s.busy i = true) : s.pool.env.content .connecting = true := by
  simp only [Callers.busy, List.any_eq_true, Bool.and_eq_true, bne_iff_ne, ne_eq] at hbusy
  obtain ⟨⟨other, j⟩, hmem, hne, hprogress⟩ := hbusy
  have hother : s.callers[j]? = some other := List.mem_zipIdx_iff_getElem?.mp hmem
  have hinside : other.position = .inside := by
    simpa [Caller.in_progress, hannounced j other hother hne] using hprogress
  refine hscene.locked.set j .inside ?_ rfl
  rw [hpositions, List.getElem?_map, hother, ← hinside]
  rfl

theorem perform (hguarded : Guarded s) {i : Nat} {choice : Choice} {caller : Caller} {op : Op}
    {next_of : Res op → Program Op Res (Except WebexError Unit × Unit)} {r : Res op} {env : Env}
    {spawned : List (Task Op Res)} (hcaller : s.callers[i]? = some caller) (hrest : caller.rest = .ask op next_of)
    (hannounced : s.announced (.perform i choice) = true)
    (hperform : handler.perform crates (2 * i) op choice s.pool.env = some (r, env, spawned)) :
    Guarded { pool := { env := env, tasks := s.pool.tasks ++ spawned }
              callers := s.callers.set i {
                rest := next_of r
                position := caller.position.after op r
                overlapped := if caller.position = .called then s.busy i else caller.overlapped
                requests := if op.is_request then caller.requests + 1 else caller.requests } } := by
  have hperformed := perform_performed hperform
  have hmem : caller ∈ s.callers := List.mem_of_getElem? hcaller
  have hobeys := hguarded.obeys caller hmem
  rw [hrest] at hobeys
  obtain ⟨hallowed, hnext⟩ := hobeys
  obtain ⟨views, hpool⟩ := hguarded.others
  have hposition : (s.callers.map Caller.position)[i]? = some caller.position := by
    rw [List.getElem?_map, hcaller]
    rfl
  have hinside : caller.position = .called → ∀ (j : Nat) q, j ≠ i →
      (s.callers.map Caller.position)[j]? = some q → q.active = true → q = .inside := by
    intro hcalled j q hne hq hactive
    rw [List.getElem?_map, Option.map_eq_some_iff] at hq
    obtain ⟨other, hother, rfl⟩ := hq
    exact active_announced hactive (announced_others hannounced hcaller hcalled hother hne)
  exact {
    obeys := by
      intro other hother
      obtain hother | rfl := List.mem_or_eq_of_mem_set hother
      · exact hguarded.obeys other hother
      · exact hnext r _ rfl
    called := by
      intro other hother hcalled
      obtain hother | rfl := List.mem_or_eq_of_mem_set hother
      · exact hguarded.called other hother hcalled
      · exact absurd hcalled (after_ne_called hallowed r)
    overlapped := by
      intro other hother hoverlapped
      obtain hother | rfl := List.mem_or_eq_of_mem_set hother
      · exact hguarded.overlapped other hother hoverlapped
      by_cases hcalled : caller.position = .called
      · rw [hcalled] at hallowed
        obtain rfl := guarding_called hallowed
        have hbusy : s.busy i = true := by simpa [hcalled] using hoverlapped
        have hset := busy_content hpool.view rfl
          (fun j other hother hne => announced_others hannounced hcaller hcalled hother hne) hbusy
        refine ⟨(hguarded.called caller hmem hcalled).1, .inr ⟨none, ?_⟩⟩
        cases hperformed with
        | acquire cell hfree =>
          show caller.position.after _ _ = _
          rw [hcalled, hset]
          rfl
      · have hbefore : caller.overlapped = true := by simpa [hcalled] using hoverlapped
        obtain ⟨hrequests, hrefused | ⟨connected, hlooking⟩⟩ := hguarded.overlapped caller hmem hbefore
        · rw [hrefused] at hallowed
          exact hallowed.elim
        · rw [hlooking] at hallowed
          obtain ⟨-, hrequest, hafter⟩ := guarding_looking hallowed
          refine ⟨?_, ?_⟩
          · simpa [hrequest] using hrequests
          · show caller.position.after op r = .refused ∨ ∃ connected, caller.position.after op r = .looking true connected
            rw [hlooking]
            exact hafter r
    others := by
      refine ⟨views ++ spawned.map fun _ => none, ?_, List.rel_append hpool.tasks (performed_spawns hperformed)⟩
      rw [List.map_set]
      exact (hpool.view.after hposition hallowed hinside hperformed).spawn spawned }

theorem step {ignore_self_messages : Bool} {label : CallersLabel} (hguarded : Guarded s)
    (hannounced : s.announced label = true) (hstep : s.step crates ignore_self_messages label = some next) :
    Guarded next := by
  obtain ⟨views, hpool⟩ := hguarded.others
  cases label with
  | connect =>
    obtain rfl := Option.some.inj hstep
    have hcases : ∀ caller, caller ∈ s.callers ++ [{ rest := connect crates ignore_self_messages () }] →
        caller ∈ s.callers ∨ caller = { rest := connect crates ignore_self_messages () } := by
      intro caller hcaller
      simpa using hcaller
    exact {
      obeys := by
        intro caller hcaller
        obtain hcaller | rfl := hcases caller hcaller
        · exact hguarded.obeys caller hcaller
        · exact connect_guarding ignore_self_messages
      called := by
        intro caller hcaller hcalled
        obtain hcaller | rfl := hcases caller hcaller
        · exact hguarded.called caller hcaller hcalled
        · exact ⟨rfl, rfl⟩
      overlapped := by
        intro caller hcaller hoverlapped
        obtain hcaller | rfl := hcases caller hcaller
        · exact hguarded.overlapped caller hcaller hoverlapped
        · cases hoverlapped
      others := by
        refine ⟨views, ?_, hpool.tasks⟩
        rw [List.map_append]
        exact ⟨hpool.view.watched, hpool.view.locked.call⟩ }
  | other call =>
    obtain rfl := Option.some.inj hstep
    have htask : Task.Obeys onlooker (· = none) { rest := call.program } none := other_call_onlooks call
    exact { hguarded with
      others := ⟨views ++ [none], hpool.view.spawn [{ rest := call.program }],
        List.rel_append hpool.tasks (.cons htask .nil)⟩ }
  | perform i choice =>
    simp only [Callers.step] at hstep
    split at hstep
    · cases hstep
    · rename_i caller hcaller
      split at hstep
      · cases hstep
      · rename_i op next_of hrest
        simp only [Option.map_eq_some_iff] at hstep
        obtain ⟨⟨r, env, spawned⟩, hperform, rfl⟩ := hstep
        exact hguarded.perform hcaller hrest hannounced hperform
  | background j choice =>
    simp only [Callers.step, Option.map_eq_some_iff] at hstep
    obtain ⟨pool, hadvance, rfl⟩ := hstep
    exact { hguarded with
      others := hpool.advance (onlooker_sound _) (fun _ _ => trivial) hadvance }
  | receive =>
    simp only [Callers.step] at hstep
    split at hstep
    · cases hstep
    · obtain rfl := Option.some.inj hstep
      exact { hguarded with
        others := ⟨views, ⟨hpool.view.watched, hpool.view.locked⟩, hpool.tasks⟩ }
  | wait millis =>
    obtain rfl := Option.some.inj hstep
    exact { hguarded with
      others := ⟨views, ⟨hpool.view.watched, hpool.view.locked⟩, hpool.tasks⟩ }

theorem init {token : String} {ignore_self_messages : Bool} {capacity : Nat} :
    Guarded (callers crates token ignore_self_messages capacity).init where
  obeys := by simp [callers]
  called := by simp [callers]
  overlapped := by simp [callers]
  others := by
    refine ⟨[], ⟨nofun, ?_⟩, .nil⟩
    exact ⟨nofun, nofun, nofun, nofun, nofun⟩

/-- The rest of a call that has seen `connecting` set, or has been turned away. -/
theorem refusal {caller : Caller}
    (hobeys : caller.rest.Obeys guarding (fun out position => Returned out.1 position) caller.position)
    (hrefusing : caller.position = .refused ∨ ∃ connected, caller.position = .looking true connected) :
    caller.rest.Obeys flags_only
      (fun out _ => out.1 = .error already_in_progress ∨ out.1 = .error already_connected) () := by
  refine hobeys.transfer (fun p _ => p = .refused ∨ ∃ connected, p = .looking true connected) ?_ ?_ ?_ hrefusing
  · rintro p _ op (rfl | ⟨connected, rfl⟩) hallowed
    · exact hallowed.elim
    · exact (guarding_looking hallowed).1
  · rintro p _ op r _ (rfl | ⟨connected, rfl⟩) hallowed -
    · exact hallowed.elim
    · exact ⟨_, rfl, (guarding_looking hallowed).2.2 r⟩
  · rintro out p _ (rfl | ⟨connected, rfl⟩) hreturned
    · exact hreturned
    · exact hreturned.elim

end Guarded

/-- In every run in which each look at the flags is announced, the calls of `connect`
    exclude each other. -/
theorem exclusive_of_announced (crates : Crates) (token : String) (ignore_self_messages : Bool) (capacity : Nat)
    (s : Callers) (hreach : (callers crates token ignore_self_messages capacity).Reachable
      (fun s label => s.announced label = true) s) : Exclusive s := by
  have hguarded : Guarded s := by
    refine hreach.invariant Guarded.init ?_
    intro s label next _ hguarded hannounced hstep
    exact hguarded.step hannounced hstep
  obtain ⟨views, hpool⟩ := hguarded.others
  have hposition : ∀ (i : Nat) caller, s.callers[i]? = some caller →
      (s.callers.map Caller.position)[i]? = some caller.position := by
    intro i caller hcaller
    rw [List.getElem?_map, hcaller]
    rfl
  exact {
    one_inside := by
      intro i j a b ha hb hinside_a hinside_b
      refine hpool.view.locked.alone i j a.position b.position (hposition i a ha) (hposition j b hb) ?_ ?_
      · rw [hinside_a]
        rfl
      · rw [hinside_b]
        rfl
    refused := by
      intro caller hcaller hoverlapped
      obtain ⟨hrequests, hrefusing⟩ := hguarded.overlapped caller hcaller hoverlapped
      exact ⟨hrequests, Guarded.refusal (hguarded.obeys caller hcaller) hrefusing⟩ }

end callers

section sample

/-- The look at the flags of one call, and then its way into `connect_internal`. -/
def look_labels (i : Nat) : List CallersLabel := List.replicate 4 (.perform i .done)
def enter_labels (i : Nat) : List CallersLabel := List.replicate 2 (.perform i .done)

/-- A second call looks while the first executes `connect_internal`. -/
def refused_labels : List CallersLabel :=
  [.connect, .connect] ++ look_labels 0 ++ enter_labels 0 ++ look_labels 1

theorem second_call_refused :
    ∃ s, (callers sample_crates "token" false 8).run (callers sample_crates "token" false 8).init refused_labels =
        some s ∧ s.callers.map Caller.position = [.inside, .refused] ∧ s.callers.map Caller.overlapped = [false, true] ∧
      Exclusive s := by
  have hmeets : (callers sample_crates "token" false 8).meets Callers.announced
      (callers sample_crates "token" false 8).init refused_labels = true := by decide
  have hrun : ((callers sample_crates "token" false 8).run (callers sample_crates "token" false 8).init
      refused_labels).map (fun s => (s.callers.map Caller.position, s.callers.map Caller.overlapped)) =
        some ([.inside, .refused], [false, true]) := by decide
  rw [Option.map_eq_some_iff] at hrun
  obtain ⟨s, hs, hout⟩ := hrun
  obtain ⟨hpositions, hoverlapped⟩ := Prod.mk.inj hout
  exact ⟨s, hs, hpositions, hoverlapped, exclusive_of_announced sample_crates "token" false 8 s
    (Machine.Reachable.run .init refused_labels (Machine.Meets.of_meets hmeets) hs)⟩

/-- Both calls look at the flags before either sets `connecting`. -/
def racing_labels : List CallersLabel :=
  [.connect, .connect] ++ look_labels 0 ++ look_labels 1 ++ enter_labels 0 ++ enter_labels 1

theorem racing_calls_both_inside :
    ¬ ∀ crates token ignore_self_messages capacity s,
      (callers crates token ignore_self_messages capacity).Reachable Machine.Always s → Exclusive s := by
  intro hexclusive
  have hrun : ((callers sample_crates "token" false 8).run (callers sample_crates "token" false 8).init
      racing_labels).map (fun s => s.callers.map Caller.position) = some [.inside, .inside] := by decide
  rw [Option.map_eq_some_iff] at hrun
  obtain ⟨s, hs, hpositions⟩ := hrun
  have hs_exclusive := hexclusive sample_crates "token" false 8 s (Machine.reachable_of_run hs)
  have hinside : ∀ i : Nat, [Position.inside, .inside][i]? = some .inside →
      ∃ caller, s.callers[i]? = some caller ∧ caller.position = .inside := by
    intro i hget
    rwa [← hpositions, List.getElem?_map, Option.map_eq_some_iff] at hget
  obtain ⟨a, ha, hinside_a⟩ := hinside 0 rfl
  obtain ⟨b, hb, hinside_b⟩ := hinside 1 rfl
  exact absurd (hs_exclusive.one_inside 0 1 a b ha hb hinside_a hinside_b) (by omega)

end sample

end webex.rust.handler

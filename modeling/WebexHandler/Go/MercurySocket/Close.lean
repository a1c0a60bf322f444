import Mathlib.Data.List.Basic

namespace webex.go.mercury_socket

inductive SocketError
  | auth (message : String)
  | mercury_connection (message : String) (close_code : Int)
  deriving DecidableEq, Repr

/-- What the socket does that an observer can see: the callbacks it invokes, the
    error it hands to a waiting `connectInternal`, and its calls of `reconnect`. -/
inductive Action
  | on_connected
  | on_disconnected (reason : String)
  | on_reconnecting (attempt : Nat)
  | on_error (err : SocketError)
  | setup_error (err : SocketError)
  | reconnect
  deriving DecidableEq, Repr

/-- The goroutines the socket starts with `go` statements. -/
inductive Goroutine
  | trigger_reconnect
  deriving DecidableEq, Repr

/-- The mutable fields of `MercurySocket`, with connections named by number, and
    the log of what it has done. -/
structure MercurySocket where
  max_reconnect_attempts : Nat
  conn : Option Nat := none
  cancel_fn : Option Nat := none
  connection_ready : Bool := false
  should_reconnect : Bool := false
  reconnecting : Bool := false
  reconnect_attempts : Nat := 0
  pending_pong_id : String := ""
  stability_timer : Bool := false
  actions : List Action := []
  deriving DecidableEq, Repr

/-- `websocket.StatusNormalClosure`. -/
def StatusNormalClosure : Int := 1000

/-- The error of a failed `conn.Read`, with the status that
    `websocket.CloseStatus` would extract from it. -/
structure ReadError where
  close_status : Int
  deriving DecidableEq, Repr

namespace MercurySocket

def act (ms : MercurySocket) (action : Action) : MercurySocket :=
  { ms with actions := ms.actions ++ [action] }

def set_connection_ready (ms : MercurySocket) (v : Bool) : MercurySocket := { ms with connection_ready := v }

def set_should_reconnect (ms : MercurySocket) (v : Bool) : MercurySocket := { ms with should_reconnect := v }

def cancel_stability_timer (ms : MercurySocket) : MercurySocket := { ms with stability_timer := false }

def close_web_socket (ms : MercurySocket) : MercurySocket :=
  { ms with cancel_fn := none, conn := none, pending_pong_id := "" }

/-- `handleClose`, with the goroutines it starts. -/
def handle_close (ms : MercurySocket) (code : Int) : MercurySocket × List Goroutine :=
  let ms := (ms.cancel_stability_timer).set_connection_ready false
  if code = 4401 then
    (((ms.set_should_reconnect false).act (.on_error (.auth "Mercury authorization failed"))).act
      (.on_disconnected "auth-failed"), [])
  else if code = 4400 ∨ code = 4403 then
    (((ms.set_should_reconnect false).act
      (.on_error (.mercury_connection s!"Mercury permanent failure (code {code})" code))).act
      (.on_disconnected "permanent-failure"), [])
  else if ms.should_reconnect then (ms, [.trigger_reconnect])
  else (ms.act (.on_disconnected "manual"), [])

/-- The error branch of the read goroutine of `connectInternal`. The error is
    tested only for being there. -/
def read_failed (ms : MercurySocket) (_err : ReadError) : MercurySocket × List Goroutine :=
  if !ms.connection_ready then
    (ms.act (.setup_error (.mercury_connection "WebSocket closed during setup" 0)), [])
  else ms.handle_close StatusNormalClosure

/-- `reconnect` from a loop head to its backoff sleep, or to its return. The
    deferred function clears `reconnecting` on every return. -/
def reconnect_head (ms : MercurySocket) : MercurySocket :=
  if !ms.should_reconnect then { ms with reconnecting := false }
  else if ms.max_reconnect_attempts ≤ ms.reconnect_attempts then
    { (ms.set_should_reconnect false).act (.on_disconnected "max-attempts-exceeded") with
      reconnecting := false }
  else
    { ms with reconnect_attempts := ms.reconnect_attempts + 1 }.act
      (.on_reconnecting (ms.reconnect_attempts + 1))

/-- `triggerReconnect` up to the first suspension of the `reconnect` it calls. -/
def trigger_reconnect (ms : MercurySocket) : MercurySocket :=
  if ms.reconnecting || !ms.should_reconnect then ms
  else ((close_web_socket { ms with reconnecting := true }).act .reconnect).reconnect_head

/-- A started goroutine up to its first suspension. -/
def run_goroutine (ms : MercurySocket) : Goroutine → MercurySocket
  | .trigger_reconnect => ms.trigger_reconnect

/-- The server closes the connection with status `code`: the read fails with that
    status, and the goroutines the read goroutine starts for it run, at once and up to
    their first suspension. -/
def server_close (ms : MercurySocket) (code : Int) : MercurySocket :=
  let (ms, started) := ms.read_failed ⟨code⟩
  started.foldl run_goroutine ms

/-- The socket holds a connection that has signalled readiness. -/
structure Established (ms : MercurySocket) : Prop where
  conn : ms.conn.isSome = true
  ready : ms.connection_ready = true

/-- The actions a close adds to the log. -/
def new_actions (before after : MercurySocket) : List Action :=
  after.actions.drop before.actions.length

/-- The outcome of a close is the one its status code calls for. Where that is a
    reconnect, the call of `reconnect` counts, also one that finds its attempts spent and
    gives up at once. -/
def CloseClassified (before after : MercurySocket) (code : Int) : Prop :=
  if code = 4401 then
    after.should_reconnect = false ∧ (∃ message, .on_error (.auth message) ∈ new_actions before after) ∧
      (new_actions before after).count (.on_disconnected "auth-failed") = 1 ∧
      .reconnect ∉ new_actions before after
  else if code = 4400 ∨ code = 4403 then
    after.should_reconnect = false ∧
      (new_actions before after).count (.on_disconnected "permanent-failure") = 1 ∧
      .reconnect ∉ new_actions before after
  else before.should_reconnect = true → .reconnect ∈ new_actions before after

/-- Every status takes the path of a normal closure, so the classification in
    `handleClose` never sees the status the server sent. -/
theorem server_close_eq_normal (ms : MercurySocket) (code : Int) :
    ms.server_close code = ms.server_close StatusNormalClosure := rfl

theorem server_close_stopped {ms : MercurySocket} (hest : ms.Established)
    (hstop : ms.should_reconnect = false) (code : Int) :
    new_actions ms (ms.server_close code) = [.on_disconnected "manual"] := by
  obtain ⟨_, hready⟩ := hest
  simp [server_close, read_failed, hready, handle_close, StatusNormalClosure, cancel_stability_timer,
    set_connection_ready, hstop, act, new_actions]

theorem server_close_swallowed {ms : MercurySocket} (hest : ms.Established)
    (hgo : ms.should_reconnect = true) (hbusy : ms.reconnecting = true) (code : Int) :
    new_actions ms (ms.server_close code) = [] := by
  obtain ⟨_, hready⟩ := hest
  simp [server_close, read_failed, hready, handle_close, StatusNormalClosure, cancel_stability_timer,
    set_connection_ready, hgo, run_goroutine, new_actions, trigger_reconnect, hbusy]

theorem server_close_reconnects {ms : MercurySocket} (hest : ms.Established)
    (hgo : ms.should_reconnect = true) (hfree : ms.reconnecting = false) (code : Int) :
    new_actions ms (ms.server_close code) = [.reconnect, .on_disconnected "max-attempts-exceeded"] ∨
      new_actions ms (ms.server_close code) = [.reconnect, .on_reconnecting (ms.reconnect_attempts + 1)] := by
  obtain ⟨_, hready⟩ := hest
  by_cases hmax : ms.max_reconnect_attempts ≤ ms.reconnect_attempts
  · left
    simp [server_close, read_failed, hready, handle_close, StatusNormalClosure, cancel_stability_timer,
      set_connection_ready, hgo, run_goroutine, new_actions, trigger_reconnect, hfree,
      close_web_socket, act, reconnect_head, hmax, set_should_reconnect]
  · right
    simp [server_close, read_failed, hready, handle_close, StatusNormalClosure, cancel_stability_timer,
      set_connection_ready, hgo, run_goroutine, new_actions, trigger_reconnect, hfree,
      close_web_socket, act, reconnect_head, hmax]

/-- No close of an established connection reports an error or one of the two
    reasons reserved for permanent closes. -/
theorem server_close_never_permanent {ms : MercurySocket} (hest : ms.Established) (code : Int) :
    (∀ err, .on_error err ∉ new_actions ms (ms.server_close code)) ∧
      .on_disconnected "auth-failed" ∉ new_actions ms (ms.server_close code) ∧
      .on_disconnected "permanent-failure" ∉ new_actions ms (ms.server_close code) := by
  cases hgo : ms.should_reconnect with
  | false => simp [server_close_stopped hest hgo]
  | true =>
    cases hbusy : ms.reconnecting with
    | true => simp [server_close_swallowed hest hgo hbusy]
    | false =>
      obtain h | h := server_close_reconnects hest hgo hbusy code <;> simp [h]

/-- A close of an established connection has the outcome its status calls for
    exactly when the status is not one of the three permanent ones and, where a
    reconnect is due, no earlier `reconnect` still holds `reconnecting`. -/
theorem server_close_classified_iff (ms : MercurySocket) (hest : ms.Established) (code : Int) :
    CloseClassified ms (ms.server_close code) code ↔
      (code ≠ 4401 ∧ code ≠ 4400 ∧ code ≠ 4403) ∧
        (ms.should_reconnect = true → ms.reconnecting = false) := by
  obtain ⟨herror, hauth, hpermanent⟩ := server_close_never_permanent hest code
  unfold CloseClassified
  by_cases h4401 : code = 4401
  · simp only [h4401, if_true, ne_eq, not_true_eq_false, false_and, iff_false]
    rintro ⟨_, ⟨message, hmessage⟩, _⟩
    exact herror _ (h4401 ▸ hmessage)
  · by_cases hperm : code = 4400 ∨ code = 4403
    · simp only [if_neg h4401, if_pos hperm]
      have hcount := List.count_eq_zero_of_not_mem hpermanent
      constructor
      · rintro ⟨_, hone, _⟩
        omega
      · rintro ⟨⟨_, h4400, h4403⟩, _⟩
        exact absurd hperm (by simp [h4400, h4403])
    · simp only [if_neg h4401, if_neg hperm]
      have hcode : code ≠ 4401 ∧ code ≠ 4400 ∧ code ≠ 4403 := by
        simp only [not_or] at hperm
        exact ⟨h4401, hperm⟩
      simp only [hcode, ne_eq, not_false_eq_true, and_self, true_and]
      refine forall_congr' fun hgo => ?_
      cases hbusy : ms.reconnecting with
      | true => simp [server_close_swallowed hest hgo hbusy]
      | false =>
        obtain h | h := server_close_reconnects hest hgo hbusy code <;> simp [h]

/-- A connected socket that will reconnect on loss. -/
def sample_socket : MercurySocket :=
  { max_reconnect_attempts := 10, conn := some 0, cancel_fn := some 0, connection_ready := true,
    should_reconnect := true }

theorem server_close_1006_classified :
    CloseClassified sample_socket (sample_socket.server_close 1006) 1006 :=
  (server_close_classified_iff sample_socket ⟨rfl, rfl⟩ 1006).mpr ⟨by decide, fun _ => rfl⟩

/-- A 4401 close starts a reconnect and reports nothing. -/
theorem server_close_4401_reconnects :
    sample_socket.Established ∧ .reconnect ∈ new_actions sample_socket (sample_socket.server_close 4401) ∧
      (sample_socket.server_close 4401).should_reconnect = true ∧
      ¬ CloseClassified sample_socket (sample_socket.server_close 4401) 4401 := by
  refine ⟨⟨rfl, rfl⟩, by decide, rfl, ?_⟩
  intro h
  exact absurd h.1 (by decide)

end MercurySocket

end webex.go.mercury_socket

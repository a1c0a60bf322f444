import WebexHandler.Node.Handler.Lifecycle

open transition

namespace webex.node.handler

/-- A run of one handler: the calls in flight, and two facts about the calls
    made so far that the handler itself does not store. -/
structure Session where
  self : WebexMessageHandler
  pending : List Activation := []
  /-- A `connect` has succeeded and no `disconnect` has begun since. -/
  established : Bool := false
  /-- Some `disconnect` has begun. -/
  torn_down : Bool := false
  deriving DecidableEq, Repr

inductive Label
  | call_connect
  | call_disconnect
  | call_reconnect (new_token : String)
  | settle (call : Nat) (outcome : Outcome)
  | mercury (event : SocketEvent)
  deriving DecidableEq, Repr

namespace Session

def continue_with (s : Session) (result : WebexMessageHandler × List Activation) : Session :=
  { s with self := result.1, pending := s.pending ++ result.2 }

/-- The step runs the body of `disconnect`, on its own or for `reconnect`. -/
def disconnects : Label → Bool
  | .call_disconnect => true
  | .call_reconnect new_token => new_token ≠ ""
  | _ => false

/-- The step enters the body of `connect`: the call is made and neither guard
    refuses it. -/
def connects (s : Session) : Label → Bool
  | .call_connect => s.self.connect_admitted
  | .settle call outcome =>
    s.pending[call]?.any (s.self.reconnect_arrives · outcome) && s.self.connect_admitted
  | _ => false

def step (s : Session) : Label → Option Session
  | .call_connect => some (s.continue_with s.self.connect)
  | .call_disconnect =>
    some { s.continue_with (s.self.disconnect none) with established := false, torn_down := true }
  | .call_reconnect new_token =>
    let next := s.continue_with (s.self.reconnect new_token)
    some (if new_token = "" then next else { next with established := false, torn_down := true })
  | .settle call outcome =>
    match s.pending[call]? with
    | none => none
    | some activation =>
      match s.self.settle activation outcome with
      | none => none
      | some result =>
        some { continue_with { s with pending := s.pending.eraseIdx call } result with
          established := s.established || (activation = .connect_kms && outcome = .resolved) }
  | .mercury event => some (s.continue_with (s.self.deliver event))

end Session

/-- Every interleaving of the public calls, the promises they await and the
    socket's events, from a freshly constructed handler. -/
def session (token : String) (ignore_self_messages : Bool) : Machine Session Label where
  init := { self := WebexMessageHandler.new token ignore_self_messages }
  step := Session.step

/-- While a `connect` is in progress or has succeeded, each socket event has
    exactly one listener of the handler. -/
def Routed (s : Session) : Prop :=
  s.self.connecting = true ∨ s.established = true →
    ∀ event : SocketEvent, s.self.listeners.count event = 1

/-- No `disconnect` begins while a `connect` is in progress, and no `connect`
    body is entered once a `disconnect` has begun. -/
def FirstConnectionOnly (s : Session) (label : Label) : Prop :=
  (Session.disconnects label = true → s.self.connecting = false) ∧
    (s.connects label = true → s.torn_down = false)

/-- The bookkeeping behind routing: the constructor's subscriptions are intact
    until the first `disconnect` and gone for good after it, and `connecting` is
    set exactly while one `connect` is in flight. -/
structure Session.Valid (s : Session) : Prop where
  listeners : s.self.listeners =
    if s.torn_down then [] else [.kms_response, .activity, .connected, .disconnected, .reconnecting, .error]
  connects : s.pending.countP Activation.is_connect = if s.self.connecting then 1 else 0

theorem session_init_valid (token : String) (ignore_self_messages : Bool) :
    (session token ignore_self_messages).init.Valid :=
  ⟨rfl, rfl⟩

/-- Under the bookkeeping, routing fails exactly in the states that hold a live
    connection attempt after a `disconnect`. -/
theorem Session.Valid.routed_iff {s : Session} (hvalid : s.Valid) :
    Routed s ↔ (s.torn_down = true → s.self.connecting = false ∧ s.established = false) := by
  unfold Routed
  cases htorn : s.torn_down with
  | false =>
    have hlisteners := hvalid.listeners
    simp only [htorn, Bool.false_eq_true, if_false] at hlisteners
    simp only [hlisteners, Bool.false_eq_true, false_imp_iff, iff_true]
    intro _ event
    cases event <;> rfl
  | true =>
    have hlisteners := hvalid.listeners
    simp only [htorn, if_true] at hlisteners
    simp only [hlisteners, List.count_nil, true_imp_iff]
    constructor
    · intro h
      constructor
      · by_contra hconnecting
        exact absurd (h (.inl (by simpa using hconnecting)) .activity) (by decide)
      · by_contra hestablished
        exact absurd (h (.inr (by simpa using hestablished)) .activity) (by decide)
    · rintro ⟨hconnecting, hestablished⟩ (h | h) <;> simp_all

private theorem countP_eraseIdx_add {call : Nat} {pending : List Activation} {activation : Activation}
    (hcall : pending[call]? = some activation) :
    (pending.eraseIdx call).countP Activation.is_connect + (if activation.is_connect then 1 else 0) =
      pending.countP Activation.is_connect := by
  induction pending generalizing call with
  | nil => simp at hcall
  | cons head rest ih =>
    cases call with
    | zero =>
      simp only [List.getElem?_cons_zero, Option.some.injEq] at hcall
      subst hcall
      simp [List.countP_cons]
    | succ call =>
      simp only [List.getElem?_cons_succ] at hcall
      have := ih hcall
      simp only [List.eraseIdx_cons_succ, List.countP_cons]
      omega

/-- A settling promise keeps the subscriptions, moves `connecting` only with the
    `connect` it belongs to, and enters `connect` only for a `reconnect`. -/
theorem Session.settle_step {s next : Session} {call : Nat} {outcome : Outcome}
    (hvalid : s.Valid) (hstep : s.step (.settle call outcome) = some next) :
    next.Valid ∧ next.torn_down = s.torn_down ∧
      ((s.self.connecting = true ∧ s.connects (.settle call outcome) = false) ∨
        (s.connects (.settle call outcome) = true ∧ next.self.connecting = true) ∨
        (s.connects (.settle call outcome) = false ∧ next.self.connecting = s.self.connecting ∧
          next.established = s.established)) := by
  simp only [Session.step] at hstep
  split at hstep
  · cases hstep
  · rename_i activation hcall
    split at hstep
    · cases hstep
    · rename_i result hsettle
      obtain ⟨after, started⟩ := result
      obtain rfl := (Option.some.inj hstep).symm
      obtain ⟨hlisteners, hcases⟩ := WebexMessageHandler.settle_cases hsettle
      have hcount := countP_eraseIdx_add hcall
      have hpending := hvalid.connects
      have hkeep : after.listeners = if s.torn_down then []
          else [.kms_response, .activity, .connected, .disconnected, .reconnecting, .error] :=
        hlisteners.trans hvalid.listeners
      have hconnects : s.connects (.settle call outcome) =
          (s.self.reconnect_arrives activation outcome && s.self.connect_admitted) := by
        simp [Session.connects, hcall]
      have hbusy : activation.is_connect = true → s.self.connecting = true := by
        intro hconn
        by_contra h
        simp only [hconn, if_true, Bool.not_eq_true] at hcount h
        simp only [h, Bool.false_eq_true, if_false] at hpending
        omega
      rcases hcases with ⟨hconn, hsame, hstarted, _⟩ | ⟨hconn, hend, rfl⟩ |
        ⟨hconn, harrives, hadmitted, hnext, rfl⟩ | ⟨hconn, hrefused, hsame, hstarted⟩
      · have hlive := hbusy hconn
        refine ⟨⟨hkeep, ?_⟩, rfl, .inl ⟨hlive, ?_⟩⟩
        · simp only [Session.continue_with, List.countP_append, hstarted, hsame, hlive, if_true] at hpending ⊢
          simp only [hconn, if_true] at hcount
          omega
        · rw [hconnects]
          cases activation <;> simp_all [Activation.is_connect, WebexMessageHandler.reconnect_arrives]
      · have hlive := hbusy hconn
        refine ⟨⟨hkeep, ?_⟩, rfl, .inl ⟨hlive, ?_⟩⟩
        · simp only [Session.continue_with, List.append_nil, hend, hlive, if_true] at hpending ⊢
          simp only [hconn, if_true] at hcount
          simp only [Bool.false_eq_true, if_false]
          omega
        · rw [hconnects]
          cases activation <;> simp_all [Activation.is_connect, WebexMessageHandler.reconnect_arrives]
      · have hidle : s.self.connecting = false := by
          simp only [WebexMessageHandler.connect_admitted, Bool.and_eq_true, Bool.not_eq_true'] at hadmitted
          exact hadmitted.1
        refine ⟨⟨hkeep, ?_⟩, rfl, .inr (.inl ⟨?_, hnext⟩)⟩
        · simp only [Session.continue_with, List.countP_append, hnext, if_true, hidle,
            Bool.false_eq_true, if_false, hconn] at hpending hcount ⊢
          simp only [List.countP_singleton, Activation.is_connect, if_true]
          omega
        · simp [hconnects, harrives, hadmitted]
      · refine ⟨⟨hkeep, ?_⟩, rfl, .inr (.inr ⟨?_, hsame, ?_⟩)⟩
        · simp only [Session.continue_with, List.countP_append, hstarted, hsame, hconn,
            Bool.false_eq_true, if_false] at hcount ⊢
          omega
        · rw [hconnects]
          simpa using hrefused
        · cases activation <;> simp_all [Activation.is_connect, Session.continue_with]

/-- The bookkeeping survives every step, and a step out of a routed state keeps
    routing exactly when it meets the condition. -/
theorem Session.step_valid_routed {s next : Session} {label : Label} (hvalid : s.Valid)
    (hrouted : s.torn_down = true → s.self.connecting = false ∧ s.established = false)
    (hstep : s.step label = some next) :
    next.Valid ∧ ((next.torn_down = true → next.self.connecting = false ∧ next.established = false) ↔
      FirstConnectionOnly s label) := by
  obtain ⟨hlisteners, hconnects⟩ := hvalid
  cases label with
  | call_connect =>
    obtain rfl := (Option.some.inj hstep).symm
    by_cases hconnecting : s.self.connecting <;> by_cases hconnected : s.self.connected <;>
      cases htorn : s.torn_down <;>
      simp_all [Session.continue_with, WebexMessageHandler.connect, FirstConnectionOnly,
        Session.disconnects, Session.connects, WebexMessageHandler.connect_admitted,
        Activation.is_connect, Session.Valid.mk]
  | call_disconnect =>
    obtain rfl := (Option.some.inj hstep).symm
    refine ⟨⟨rfl, ?_⟩, ?_⟩
    · simp only [Session.continue_with, WebexMessageHandler.disconnect, List.countP_append,
        List.countP_singleton, Activation.is_connect, Bool.false_eq_true, if_false, Nat.add_zero]
      exact hconnects
    · simp [Session.continue_with, WebexMessageHandler.disconnect, FirstConnectionOnly,
        Session.disconnects, Session.connects]
  | call_reconnect new_token =>
    obtain rfl := (Option.some.inj hstep).symm
    by_cases htoken : new_token = ""
    · refine ⟨⟨?_, ?_⟩, ?_⟩ <;>
        simp_all [Session.continue_with, WebexMessageHandler.reconnect, FirstConnectionOnly,
          Session.disconnects, Session.connects]
    · refine ⟨⟨?_, ?_⟩, ?_⟩ <;>
        simp_all [Session.continue_with, WebexMessageHandler.reconnect, WebexMessageHandler.disconnect,
          Activation.is_connect, FirstConnectionOnly, Session.disconnects, Session.connects]
  | settle call outcome =>
    obtain ⟨hnext, htorn, hcases⟩ := Session.settle_step ⟨hlisteners, hconnects⟩ hstep
    refine ⟨hnext, ?_⟩
    rw [htorn]
    rcases hcases with ⟨hlive, hconn⟩ | ⟨hconn, hopen⟩ | ⟨hconn, hsame, hest⟩
    · -- a live `connect` in a routed state means no `disconnect` has begun
      have : s.torn_down = false := by
        by_contra h
        simp [hrouted (by simpa using h)] at hlive
      simp [this, FirstConnectionOnly, Session.disconnects]
    · simp [FirstConnectionOnly, Session.disconnects, hconn, hopen]
    · simpa [FirstConnectionOnly, Session.disconnects, hconn, hsame, hest] using hrouted
  | mercury event =>
    rcases hdeliver : s.self.deliver event with ⟨after, started⟩
    simp only [Session.step, hdeliver, Option.some.injEq] at hstep
    subst hstep
    obtain ⟨hkeep, hconnecting, hstarted⟩ := WebexMessageHandler.deliver_cases hdeliver
    refine ⟨⟨hkeep.trans hlisteners, ?_⟩, ?_⟩
    · simpa [Session.continue_with, hconnecting, hstarted] using hconnects
    · simpa [Session.continue_with, FirstConnectionOnly, Session.disconnects, Session.connects,
        hconnecting] using hrouted

private theorem throughout_iff_meets {token : String} {ignore_self_messages : Bool} {s last : Session}
    (hvalid : s.Valid) (hrouted : Routed s) (labels : List Label)
    (hrun : (session token ignore_self_messages).run s labels = some last) :
    (session token ignore_self_messages).Throughout Routed s labels ↔
      (session token ignore_self_messages).Meets FirstConnectionOnly s labels := by
  induction labels generalizing s with
  | nil => simpa [Machine.Throughout, Machine.Meets] using hrouted
  | cons label rest ih =>
    simp only [Machine.run, Option.bind_eq_some_iff] at hrun
    obtain ⟨next, hnext, hrun⟩ := hrun
    obtain ⟨hnextValid, hiff⟩ := Session.step_valid_routed hvalid (hvalid.routed_iff.mp hrouted) hnext
    rw [← hnextValid.routed_iff] at hiff
    constructor
    · rintro ⟨_, hrest⟩
      have hafter := hrest next hnext
      have hnextRouted : Routed next := by
        cases rest with
        | nil => exact hafter
        | cons => exact hafter.1
      refine ⟨hiff.mp hnextRouted, fun other hother => ?_⟩
      obtain rfl := Option.some.inj (hnext.symm.trans hother)
      exact (ih hnextValid hnextRouted hrun).mp hafter
    · rintro ⟨hcond, hrest⟩
      have hnextRouted := hiff.mpr hcond
      refine ⟨hrouted, fun other hother => ?_⟩
      obtain rfl := Option.some.inj (hnext.symm.trans hother)
      exact (ih hnextValid hnextRouted hrun).mpr (hrest _ hnext)

/-- The exact runs in which routing never breaks: those in which no
    `disconnect` overlaps a `connect` and no `connect` body is entered after a
    `disconnect`, whether called directly or from `reconnect`. The listeners are
    installed by the constructor alone, so every later connection has none. -/
theorem routed_throughout_iff (token : String) (ignore_self_messages : Bool) (labels : List Label)
    (last : Session)
    (hrun : (session token ignore_self_messages).run (session token ignore_self_messages).init labels =
      some last) :
    (session token ignore_self_messages).Throughout Routed (session token ignore_self_messages).init labels ↔
      (session token ignore_self_messages).Meets FirstConnectionOnly
        (session token ignore_self_messages).init labels :=
  throughout_iff_meets (session_init_valid _ _)
    ((session_init_valid token ignore_self_messages).routed_iff.mpr (by simp [session])) labels hrun

/-- A registration as the WDM returns it. -/
def sample_registration : DeviceRegistration where
  web_socket_url := "wss://mercury-connection-a.wbx2.com/ws"
  device_url := "https://wdm-a.wbx2.com/wdm/api/v1/devices/dev-123"
  user_id := "user-1"
  encryption_service_url := "https://encryption-a.wbx2.com"

/-- One complete `connect` of a handler that skips the self-message lookup. -/
def connect_schedule : List Label :=
  [.call_connect, .settle 0 (.registered sample_registration), .settle 0 .resolved, .settle 0 .resolved]

/-- `connect`, `disconnect`, `connect`: the second connection is in progress
    with no listener for any socket event. -/
def reopen_schedule : List Label :=
  connect_schedule ++ [.call_disconnect, .settle 0 .resolved, .settle 0 .resolved, .call_connect]

theorem routed_throughout_first_connection :
    (session "token" false).Throughout Routed (session "token" false).init connect_schedule := by
  refine (routed_throughout_iff "token" false connect_schedule _ rfl).mpr ?_
  refine ⟨⟨nofun, fun _ => rfl⟩, fun next hnext => ?_⟩
  obtain rfl := Option.some.inj hnext
  refine ⟨⟨nofun, nofun⟩, fun next hnext => ?_⟩
  obtain rfl := Option.some.inj hnext
  refine ⟨⟨nofun, nofun⟩, fun next hnext => ?_⟩
  obtain rfl := Option.some.inj hnext
  exact ⟨⟨nofun, nofun⟩, fun _ _ => trivial⟩

/-- After `disconnect`, the next `connect` is in progress while no listener is
    left for `kms:response`, so the key exchange it waits for cannot complete. -/
theorem reopened_connection_unrouted :
    ∃ s, (session "token" false).Reachable Machine.Always s ∧ s.self.connecting = true ∧
      s.self.listeners.count .kms_response = 0 ∧ ¬ Routed s := by
  refine ⟨_, Machine.Reachable.run .init reopen_schedule (Machine.meets_always _ _) rfl, rfl, rfl, ?_⟩
  intro hrouted
  exact absurd (hrouted (.inl rfl) .kms_response) (by decide)

end webex.node.handler

import WebexHandler.Transition.Machine

open transition

namespace webex.node.handler

/-- The `MercurySocket` events the handler subscribes to. -/
inductive SocketEvent
  | kms_response | activity | connected | disconnected | reconnecting | error
  deriving DecidableEq, Repr

structure DeviceRegistration where
  web_socket_url : String
  device_url : String
  user_id : String
  encryption_service_url : String
  deriving DecidableEq, Repr

/-- The constructor arguments a `KmsClient` keeps. -/
structure KmsClient where
  token : String
  device_url : String
  user_id : String
  encryption_service_url : String
  deriving DecidableEq, Repr

/-- The handler together with its own subscriptions on `mercurySocket`, one
    entry for each `on` call that no `removeAllListeners` has undone. -/
structure WebexMessageHandler where
  token : String
  ignore_self_messages : Bool
  connected : Bool := false
  connecting : Bool := false
  registration : Option DeviceRegistration := none
  kms_client : Option KmsClient := none
  message_decryptor : Option (Option KmsClient) := none
  bot_person_id : Option String := none
  listeners : List SocketEvent := []
  deriving DecidableEq, Repr

/-- The asynchronous calls in flight, each named by the `await` it is suspended
    on. A disconnect started by `reconnect` carries the token to continue with. -/
inductive Activation
  | connect_register
  | connect_fetch_bot
  | connect_mercury
  | connect_kms
  | disconnect_mercury (new_token : Option String)
  | disconnect_unregister (new_token : Option String)
  | on_reconnect_refresh
  | on_reconnect_kms
  deriving DecidableEq, Repr

/-- The call is a `connect`, its own or the one inside `reconnect`. -/
def Activation.is_connect : Activation → Bool
  | .connect_register | .connect_fetch_bot | .connect_mercury | .connect_kms => true
  | _ => false

/-- How an awaited promise settles. -/
inductive Outcome
  | resolved
  | registered (reg : DeviceRegistration)
  | person (uuid : String)
  | rejected
  deriving DecidableEq, Repr

namespace WebexMessageHandler

def setup_mercury_listeners (self : WebexMessageHandler) : WebexMessageHandler :=
  { self with listeners := self.listeners ++
      [.kms_response, .activity, .connected, .disconnected, .reconnecting, .error] }

def new (token : String) (ignore_self_messages : Bool) : WebexMessageHandler :=
  setup_mercury_listeners { token, ignore_self_messages }

/-- The guards at the head of `connect`, passed when the body is entered. -/
def connect_admitted (self : WebexMessageHandler) : Bool := !self.connecting && !self.connected

/-- `connect` up to its first `await`. -/
def connect (self : WebexMessageHandler) : WebexMessageHandler × List Activation :=
  if self.connecting then (self, [])
  else if self.connected then (self, [])
  else ({ self with connecting := true }, [.connect_register])

/-- The `catch` block of `connect`. -/
def connect_failed (self : WebexMessageHandler) : WebexMessageHandler × List Activation :=
  ({ self with connecting := false }, [])

/-- Step 2 of `connect`, up to the `await` of step 3. It reads the fields of
    `this.registration`, which an overlapping `disconnect` may have cleared. -/
def connect_create_kms (self : WebexMessageHandler) : WebexMessageHandler × List Activation :=
  match self.registration with
  | none => connect_failed self
  | some reg =>
    ({ self with kms_client := some {
        token := self.token
        device_url := reg.device_url
        user_id := reg.user_id
        encryption_service_url := reg.encryption_service_url } }, [.connect_mercury])

/-- Step 4 of `connect`, the call of `kmsClient.initialize`. -/
def connect_initialize_kms (self : WebexMessageHandler) : WebexMessageHandler × List Activation :=
  if self.kms_client.isSome then (self, [.connect_kms]) else connect_failed self

/-- Step 5 of `connect` to its end. -/
def connect_succeeded (self : WebexMessageHandler) : WebexMessageHandler × List Activation :=
  ({ self with message_decryptor := some self.kms_client, connecting := false, connected := true }, [])

/-- `disconnect` up to its first `await`; `reconnect` passes the token it goes
    on with. -/
def disconnect (self : WebexMessageHandler) (new_token : Option String) :
    WebexMessageHandler × List Activation :=
  ({ self with connected := false, listeners := [] }, [.disconnect_mercury new_token])

/-- The end of `disconnect`, followed by the rest of `reconnect` when it was
    `reconnect` that called it. -/
def disconnect_finished (self : WebexMessageHandler) (new_token : Option String) :
    WebexMessageHandler × List Activation :=
  let cleared := { self with
    registration := none, kms_client := none, message_decryptor := none, bot_person_id := none }
  match new_token with
  | none => (cleared, [])
  | some token => connect { cleared with token }

def reconnect (self : WebexMessageHandler) (new_token : String) :
    WebexMessageHandler × List Activation :=
  if new_token = "" then (self, []) else disconnect self (some new_token)

/-- The second half of `_onReconnect`, from its test of `kmsClient` on. -/
def on_reconnect_init (self : WebexMessageHandler) : WebexMessageHandler × List Activation :=
  if self.kms_client.isSome then (self, [.on_reconnect_kms]) else ({ self with connected := true }, [])

def on_reconnect (self : WebexMessageHandler) : WebexMessageHandler × List Activation :=
  if self.registration.isSome then (self, [.on_reconnect_refresh]) else on_reconnect_init self

/-- The settling promise is the one by which a `reconnect` arrives at its
    `connect` call. -/
def reconnect_arrives (self : WebexMessageHandler) : Activation → Outcome → Bool
  | .disconnect_mercury (some _), .resolved => !self.registration.isSome
  | .disconnect_unregister (some _), .resolved => true
  | .disconnect_unregister (some _), .rejected => true
  | _, _ => false

/-- The code that runs when a suspended call's promise settles. -/
def settle (self : WebexMessageHandler) :
    Activation → Outcome → Option (WebexMessageHandler × List Activation)
  | .connect_register, .registered reg =>
    let self := { self with registration := some reg }
    some (if self.ignore_self_messages then (self, [.connect_fetch_bot]) else connect_create_kms self)
  | .connect_fetch_bot, .person uuid => some (connect_create_kms { self with bot_person_id := some uuid })
  | .connect_mercury, .resolved => some (connect_initialize_kms self)
  | .connect_kms, .resolved => some (connect_succeeded self)
  | .connect_register, .rejected => some (connect_failed self)
  | .connect_fetch_bot, .rejected => some (connect_failed self)
  | .connect_mercury, .rejected => some (connect_failed self)
  | .connect_kms, .rejected => some (connect_failed self)
  | .disconnect_mercury _, .rejected => some (self, [])
  | .disconnect_mercury new_token, .resolved =>
    some (if self.registration.isSome then (self, [.disconnect_unregister new_token])
      else disconnect_finished self new_token)
  | .disconnect_unregister new_token, .resolved => some (disconnect_finished self new_token)
  | .disconnect_unregister new_token, .rejected => some (disconnect_finished self new_token)
  | .on_reconnect_refresh, .registered reg =>
    some (on_reconnect_init { self with registration := some reg })
  | .on_reconnect_refresh, .rejected => some (on_reconnect_init self)
  | .on_reconnect_kms, .resolved => some ({ self with connected := true }, [])
  | .on_reconnect_kms, .rejected => some ({ self with connected := true }, [])
  | _, _ => none

/-- A `MercurySocket` event reaches the handler only through an installed
    listener. -/
def deliver (self : WebexMessageHandler) (event : SocketEvent) :
    WebexMessageHandler × List Activation :=
  if event ∈ self.listeners then
    match event with
    | .disconnected => ({ self with connected := false }, [])
    | .connected => on_reconnect self
    | _ => (self, [])
  else (self, [])

theorem disconnect_finished_cases {self next : WebexMessageHandler} {new_token : Option String}
    {started : List Activation} (hfinish : self.disconnect_finished new_token = (next, started)) :
    next.listeners = self.listeners ∧
      ((new_token.isSome = true ∧ self.connect_admitted = true ∧ next.connecting = true ∧
          started = [.connect_register]) ∨
        (¬ (new_token.isSome = true ∧ self.connect_admitted = true) ∧
          next.connecting = self.connecting ∧ started = [])) := by
  cases new_token with
  | none =>
    obtain ⟨rfl, rfl⟩ := Prod.mk.inj hfinish
    simp
  | some token =>
    by_cases hconnecting : self.connecting <;> by_cases hconnected : self.connected <;>
      simp [disconnect_finished, connect, hconnecting, hconnected] at hfinish <;>
      obtain ⟨rfl, rfl⟩ := hfinish <;> simp [connect_admitted, hconnecting, hconnected]

theorem on_reconnect_init_cases {self next : WebexMessageHandler} {started : List Activation}
    (hinit : self.on_reconnect_init = (next, started)) :
    next.listeners = self.listeners ∧ next.connecting = self.connecting ∧
      started.countP Activation.is_connect = 0 := by
  unfold on_reconnect_init at hinit
  split at hinit <;> obtain ⟨rfl, rfl⟩ := Prod.mk.inj hinit <;> simp [Activation.is_connect]

/-- What settling a promise can do to the part of the handler that decides
    routing: a `connect` goes on or ends, a `reconnect` enters `connect`, and
    every other call leaves `connecting` alone. -/
theorem settle_cases {self next : WebexMessageHandler} {activation : Activation} {outcome : Outcome}
    {started : List Activation} (hsettle : self.settle activation outcome = some (next, started)) :
    next.listeners = self.listeners ∧
      ((activation.is_connect = true ∧ next.connecting = self.connecting ∧
          started.countP Activation.is_connect = 1 ∧ ¬ (activation = .connect_kms ∧ outcome = .resolved)) ∨
        (activation.is_connect = true ∧ next.connecting = false ∧ started = []) ∨
        (activation.is_connect = false ∧ self.reconnect_arrives activation outcome = true ∧
          self.connect_admitted = true ∧ next.connecting = true ∧ started = [.connect_register]) ∨
        (activation.is_connect = false ∧
          ¬ (self.reconnect_arrives activation outcome = true ∧ self.connect_admitted = true) ∧
          next.connecting = self.connecting ∧ started.countP Activation.is_connect = 0)) := by
  cases activation <;> cases outcome <;>
    simp only [settle, Option.some.injEq, reduceCtorEq] at hsettle
  case connect_register.registered reg =>
    by_cases hself : self.ignore_self_messages
    · simp only [hself, if_true, Prod.mk.injEq] at hsettle
      obtain ⟨rfl, rfl⟩ := hsettle
      simp [Activation.is_connect]
    · simp only [hself, Bool.false_eq_true, if_false, connect_create_kms, Prod.mk.injEq] at hsettle
      obtain ⟨rfl, rfl⟩ := hsettle
      simp [Activation.is_connect]
  case connect_fetch_bot.person uuid =>
    unfold connect_create_kms connect_failed at hsettle
    split at hsettle <;> obtain ⟨rfl, rfl⟩ := Prod.mk.inj hsettle <;> simp [Activation.is_connect]
  case connect_mercury.resolved =>
    unfold connect_initialize_kms connect_failed at hsettle
    split at hsettle <;> obtain ⟨rfl, rfl⟩ := Prod.mk.inj hsettle <;> simp [Activation.is_connect]
  case connect_kms.resolved =>
    obtain ⟨rfl, rfl⟩ := Prod.mk.inj hsettle
    simp [Activation.is_connect]
  case connect_register.rejected | connect_fetch_bot.rejected | connect_mercury.rejected |
      connect_kms.rejected =>
    obtain ⟨rfl, rfl⟩ := Prod.mk.inj hsettle
    simp [Activation.is_connect]
  case disconnect_mercury.rejected token =>
    obtain ⟨rfl, rfl⟩ := Prod.mk.inj hsettle
    simp [Activation.is_connect, reconnect_arrives]
  case disconnect_mercury.resolved token =>
    by_cases hreg : self.registration.isSome
    · simp only [hreg, if_true, Prod.mk.injEq] at hsettle
      obtain ⟨rfl, rfl⟩ := hsettle
      cases token <;> simp_all [Activation.is_connect, reconnect_arrives]
    · simp only [hreg, Bool.false_eq_true, if_false] at hsettle
      obtain ⟨hlisteners, h | h⟩ := disconnect_finished_cases hsettle <;>
        cases token <;> simp_all [Activation.is_connect, reconnect_arrives]
  case disconnect_unregister.resolved token | disconnect_unregister.rejected token =>
    obtain ⟨hlisteners, h | h⟩ := disconnect_finished_cases hsettle <;>
      cases token <;> simp_all [Activation.is_connect, reconnect_arrives]
  case on_reconnect_refresh.registered reg | on_reconnect_refresh.rejected =>
    obtain ⟨hlisteners, hconnecting, hstarted⟩ := on_reconnect_init_cases hsettle
    simp_all [Activation.is_connect, reconnect_arrives]
  case on_reconnect_kms.resolved | on_reconnect_kms.rejected =>
    obtain ⟨rfl, rfl⟩ := Prod.mk.inj hsettle
    simp [Activation.is_connect, reconnect_arrives]

/-- A socket event neither installs nor removes a listener and starts at most a
    refresh, never a `connect`. -/
theorem deliver_cases {self next : WebexMessageHandler} {event : SocketEvent} {started : List Activation}
    (hdeliver : self.deliver event = (next, started)) :
    next.listeners = self.listeners ∧ next.connecting = self.connecting ∧
      started.countP Activation.is_connect = 0 := by
  unfold deliver at hdeliver
  split at hdeliver
  · split at hdeliver
    · obtain ⟨rfl, rfl⟩ := Prod.mk.inj hdeliver
      simp
    · unfold on_reconnect at hdeliver
      split at hdeliver
      · obtain ⟨rfl, rfl⟩ := Prod.mk.inj hdeliver
        simp [Activation.is_connect]
      · exact on_reconnect_init_cases hdeliver
    · obtain ⟨rfl, rfl⟩ := Prod.mk.inj hdeliver
      simp
  · obtain ⟨rfl, rfl⟩ := Prod.mk.inj hdeliver
    simp

end WebexMessageHandler

end webex.node.handler

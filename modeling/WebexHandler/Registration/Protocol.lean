import WebexHandler.Interaction.Lockstep
import WebexHandler.Json

open interaction json

namespace webex.registration

/-- Why a call on a device manager fails, with the status of a refusal by the server. -/
inductive Rejection
  | unauthorized
  | refused (status : Option Nat)
  deriving DecidableEq, Repr

/-- A device as its registration describes it. A field that a port takes over from the
    response as it is may have any value. -/
structure Registration where
  web_socket_url : Option Value
  device_url : Option Value
  user_id : Option Value
  services : Value
  encryption_service_url : Value

/-- An endpoint: the default one, or the devices behind a service link. -/
inductive Endpoint (default : String) : String → Prop
  | default : Endpoint default default
  | link (wdm : String) : Endpoint default (wdm ++ "/devices")

/-- No endpoint is a text that ends otherwise. -/
theorem Endpoint.ne {default base other : String} (hbase : Endpoint default base)
    (hdefault : default.toList.getLast? = some 's') (hother : other.toList.getLast? ≠ some 's') : base ≠ other := by
  rintro rfl
  apply hother
  cases hbase with
  | default => exact hdefault
  | link wdm => simp [String.toList_append, List.getLast?_append]

/-- What a device manager keeps: its device, and the endpoint that it has discovered. -/
structure Manager where
  device : Option Value := none
  base : Option String := none

/-- The requests of the protocol. -/
inductive Request
  | catalog (token : String)
  | list (base token : String)
  | create (base token : String)
  | refresh (device : Value) (token : String)
  | reap (device : Value) (token : String)
  | unregister (device : Value) (token : String)

/-- The answer to a creation: its outcome, and the device that the manager has then, where
    the response decides that. -/
structure Created where
  outcome : Except Rejection Registration
  device : Option (Option Value) := none

/-- What the manager learns from an answer. A listing comes down to the client's own devices. -/
@[reducible]
def Answer : Request → Type
  | .catalog _ => String
  | .list _ _ => List Value
  | .create _ _ => Created
  | .refresh _ _ => Except Rejection Registration
  | .reap _ _ => Unit
  | .unregister _ _ => Except Rejection Unit

abbrev Dm (α : Type) : Type := Method Request Answer Manager Rejection α

def ask (req : Request) : Dm (Answer req) := Method.request req

/-- The endpoint is asked for once. -/
def locate (token : String) : Dm String := do
  let self ← get
  match self.base with
  | some base => return base
  | none => do
    let base ← ask (.catalog token)
    modify fun self => { self with base := some base }
    return base

def list (token : String) : Dm (List Value) := do
  let base ← locate token
  ask (.list base token)

/-- The first device of a listing. -/
def find (token : String) : Dm (Option Value) := do
  let own ← list token
  return own.head?

def settle (created : Created) : Dm Registration := do
  modify fun self => { self with device := created.device.getD self.device }
  Method.ofExcept created.outcome

def create (token : String) : Dm Registration := do
  let base ← locate token
  let created ← ask (.create base token)
  settle created

def reap_all (token : String) : List Value → Dm Unit
  | [] => return ()
  | device :: rest => do
    ask (.reap device token)
    reap_all token rest

def reap (token : String) : Dm Unit := do
  let own ← list token
  reap_all token own

def refresh (token : String) : Dm Registration := do
  let self ← get
  let device ← Method.ofExcept (self.device.elim (.error (.refused none)) .ok)
  let outcome ← ask (.refresh device token)
  Method.ofExcept outcome

/-- After a creation that was one too many the own devices are reaped before the next one. -/
def retry (token : String) (e : Rejection) : Dm Registration :=
  if e = .refused (some 403) then do
    reap token
    create token
  else throw e

def register_new (token : String) : Dm Registration := do
  match ← (create token).attempt with
  | .ok reg => return reg
  | .error e => retry token e

/-- The first own device of a listing is taken over if it can still be refreshed. -/
def register (token : String) : Dm Registration := do
  match ← find token with
  | some device => do
    modify fun self => { self with device := some device }
    match ← (refresh token).attempt with
    | .ok reg => return reg
    | .error _ => do
      modify fun self => { self with device := none }
      register_new token
  | none => register_new token

def unregister (token : String) : Dm Unit := do
  let self ← get
  let device ← Method.ofExcept (self.device.elim (.error (.refused none)) .ok)
  let outcome ← ask (.unregister device token)
  Method.ofExcept outcome
  modify fun self => { self with device := none }

end webex.registration

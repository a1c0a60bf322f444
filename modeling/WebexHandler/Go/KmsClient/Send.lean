import WebexHandler.Json
import WebexHandler.Transition.Machine

open transition json

namespace webex.go.kms_client

/-- A KMS answer in flight: the text the client sees, and the request whose POST
    it answers, which the text does not disclose. -/
structure Response where
  answers : Nat
  wrapped : String
  deriving DecidableEq, Repr

/-- Where a call of `sendKmsRequest` stands. -/
inductive Stage
  | absent
  | entered
  | registered
  | locked
  | posted
  | selecting
  | returned (response : Response)
  | rejected
  deriving DecidableEq, Repr

/-- The part of `KmsClient` that `sendKmsRequest` and `HandleKmsMessage` share,
    with request ids as numbers, and the KMS that serves it. -/
structure KmsClient where
  pending_requests : List Nat := []
  kms_request_mu : Option Nat := none
  stage : Nat → Stage := fun _ => .absent
  /-- The buffered channel of each registered request. -/
  ch : Nat → Option Response := fun _ => none
  /-- Answers to accepted POSTs that Mercury has not delivered, in POST order. -/
  outstanding : List Response := []
  /-- Every response handled so far, with the call it was handed to. -/
  handled : List (Response × Option Nat) := []

def MAX_PENDING : Nat := 100

/-- The extraction at the head of `HandleKmsMessage`. -/
def kms_messages (data : Value) : List Value :=
  match (data.get "kmsMessages").bind Value.as_array with
  | some messages => messages
  | none => (((data.get "encryption").bind (·.get "kmsMessages")).bind Value.as_array).getD []

namespace KmsClient

def set_stage (kc : KmsClient) (id : Nat) (stage : Stage) : KmsClient :=
  { kc with stage := fun other => if other = id then stage else kc.stage other }

/-- One string of a batch. The map iteration may yield any registered request
    first, and `choice` names the one it does yield. -/
def resolve (kc : KmsClient) (response : Response) (choice : Nat) : Option KmsClient :=
  if kc.pending_requests = [] then some { kc with handled := kc.handled ++ [(response, none)] }
  else if choice ∈ kc.pending_requests then
    match kc.ch choice with
    | none => some { kc with
        ch := fun other => if other = choice then some response else kc.ch other
        pending_requests := kc.pending_requests.erase choice
        handled := kc.handled ++ [(response, some choice)] }
    | some _ => some { kc with
        pending_requests := kc.pending_requests.erase choice
        handled := kc.handled ++ [(response, none)] }
  else none

/-- The loop of `HandleKmsMessage` over the strings of a batch, under `kc.mu`. -/
def handle_responses : KmsClient → List Response → List Nat → Option KmsClient
  | kc, [], [] => some kc
  | kc, response :: rest, choice :: choices =>
    (kc.resolve response choice).bind (fun next => handle_responses next rest choices)
  | _, _, _ => none

/-- Mercury hands over `data`: its strings are the next answers in POST order,
    and each is delivered exactly once. -/
def handle_kms_message (kc : KmsClient) (data : Value) (choices : List Nat) : Option KmsClient :=
  let texts := Value.strings (kms_messages data)
  let batch := kc.outstanding.take texts.length
  if batch.map Response.wrapped = texts then
    handle_responses { kc with outstanding := kc.outstanding.drop texts.length } batch choices
  else none

end KmsClient

inductive Label
  /-- `GetKey` or `Initialize` calls `sendKmsRequest` with a fresh request id. -/
  | call (id : Nat)
  | register (id : Nat)
  | lock (id : Nat)
  | post (id : Nat) (answer : String)
  | http_ok (id : Nat)
  | deliver (data : Value) (choices : List Nat)
  | receive (id : Nat)

namespace KmsClient

/-- The steps of any number of concurrent `sendKmsRequest` calls and of
    `HandleKmsMessage`, in runs without timeouts and HTTP failures. -/
def step (kc : KmsClient) : Label → Option KmsClient
  | .call id => if kc.stage id = .absent then some (kc.set_stage id .entered) else none
  | .register id =>
    if kc.stage id = .entered then
      if MAX_PENDING ≤ kc.pending_requests.length then some (kc.set_stage id .rejected)
      else some { kc.set_stage id .registered with pending_requests := kc.pending_requests ++ [id] }
    else none
  | .lock id =>
    if kc.stage id = .registered ∧ kc.kms_request_mu = none then
      some { kc.set_stage id .locked with kms_request_mu := some id }
    else none
  | .post id answer =>
    if kc.stage id = .locked then
      some { kc.set_stage id .posted with outstanding := kc.outstanding ++ [⟨id, answer⟩] }
    else none
  | .http_ok id => if kc.stage id = .posted then some (kc.set_stage id .selecting) else none
  | .deliver data choices => kc.handle_kms_message data choices
  | .receive id =>
    match kc.stage id, kc.ch id with
    | .selecting, some response =>
      some { kc.set_stage id (.returned response) with kms_request_mu := none }
    | _, _ => none

end KmsClient

/-- All interleavings, from a client with no request registered. -/
def correlation : Machine KmsClient Label where
  init := {}
  step := KmsClient.step

/-- Every response handled so far went to the call whose POST it answers. -/
def Correlated (kc : KmsClient) : Prop :=
  ∀ response receiver, (response, receiver) ∈ kc.handled → receiver = some response.answers

/-- A request is registered only while no other one is. -/
def RegistersAlone (kc : KmsClient) : Label → Prop
  | .register _ => kc.pending_requests = []
  | _ => True

end webex.go.kms_client

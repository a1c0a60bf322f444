import WebexHandler.Interaction.Program
import WebexHandler.Json

open interaction json

namespace webex.node.kms_client

def KMS_RESPONSE_TIMEOUT : Nat := 30000
def CB_FAILURE_THRESHOLD : Nat := 3
def CB_COOLDOWN_MS : Nat := 30000
def MAX_KMS_ATTEMPTS : Nat := 2

/-- A thrown error, by its class and message. -/
inductive Thrown
  | kms_error (message : String)
  | error (message : String)
  deriving DecidableEq, Repr

def Thrown.message : Thrown → String
  | .kms_error message => message
  | .error message => message

inductive CbState
  | closed
  | open
  | half_open
  deriving DecidableEq, Repr

structure FetchRequest where
  url : String
  method : String
  headers : List (String × String)
  body : Option String
  deriving DecidableEq, Repr

/-- A response whose body is read later, with `json` or `text`. -/
structure FetchResponse where
  status : Nat
  ok : Bool
  deriving DecidableEq, Repr

/-- A key of `node-kms`, with the expiration date that a derived one has. -/
structure EphemeralKey where
  kid : String
  expiration_date : Option Nat
  deriving DecidableEq, Repr

/-- `KMS.Context`. -/
structure Context where
  client_id : String
  user_id : String
  bearer : String
  server_key : Option Value
  ephemeral_key : EphemeralKey

/-- A wrapped `KMS.Request`. -/
structure Wrapped where
  request_id : String
  wrapped : String
  deriving DecidableEq, Repr

/-- `KmsClient`. A pending request is kept with the promise that waits for its response,
    and the mutex is the promise at the end of its chain. -/
structure KmsClient where
  token : String
  device_url : String
  user_id : String
  encryption_service_url : String
  context : Option Context := none
  kms_cluster : String := ""
  key_cache : List (String × Value) := []
  context_expiration : Option Nat := none
  pending_requests : List (String × Nat) := []
  kms_request_mutex : Nat := 0
  cb_state : CbState := .closed
  cb_failures : Nat := 0
  cb_last_failure : Nat := 0

def new (token device_url user_id encryption_service_url : String) : KmsClient where
  token := token
  device_url := device_url
  user_id := user_id
  encryption_service_url := encryption_service_url

/-- What the client does between two awaits, and what it awaits. An update is given the
    time, as `Date.now()` reads it. -/
inductive Op
  | get
  | update (f : Nat → KmsClient → KmsClient)
  | now
  | new_promise
  | resolve (promise : Nat)
  | set_timeout (promise : Nat) (request_id : String)
  | turn (promise : Nat)
  | http_do (req : FetchRequest)
  | json (response : FetchResponse)
  | text (response : FetchResponse)
  | create_ecdh_key
  | as_key (key : EphemeralKey)
  | wrap (context : Option Context) (method uri : String) (jwk : Option Value) (server_key : Bool)
  | unwrap (context : Option Context) (wrapped : Value)
  | derive_ephemeral_key (context : Context) (remote_key : Value)
  | jwk_as_key (jwk : Option Value)
  | response (promise : Nat)
  | sleep (millis : Nat)

@[reducible]
def Res : Op → Type
  | .get => KmsClient
  | .update _ => Unit
  | .now => Nat
  | .new_promise => Nat
  | .resolve _ => Unit
  | .set_timeout _ _ => Unit
  | .turn _ => Unit
  | .http_do _ => Except Thrown FetchResponse
  | .json _ => Except Thrown Value
  | .text _ => Except Thrown String
  | .create_ecdh_key => Except Thrown EphemeralKey
  | .as_key _ => Except Thrown Value
  | .wrap _ _ _ _ _ => Except Thrown Wrapped
  | .unwrap _ _ => Except Thrown Value
  | .derive_ephemeral_key _ _ => Except Thrown EphemeralKey
  | .jwk_as_key _ => Except Thrown Value
  | .response _ => Except Thrown Value
  | .sleep _ => Unit

/-- An asynchronous method of `KmsClient`. -/
abbrev Async (α : Type) : Type := Method Op Res Unit Thrown α

def read : Async KmsClient := Method.request Op.get
def update (f : Nat → KmsClient → KmsClient) : Async Unit := Method.request (Op.update f)
def now : Async Nat := Method.request Op.now
def new_promise : Async Nat := Method.request Op.new_promise
def resolve (promise : Nat) : Async Unit := Method.request (Op.resolve promise)
def set_timeout (promise : Nat) (request_id : String) : Async Unit := Method.request (Op.set_timeout promise request_id)
def turn (promise : Nat) : Async Unit := Method.request (Op.turn promise)
def sleep (millis : Nat) : Async Unit := Method.request (Op.sleep millis)

/-- `await` of a promise that may be rejected. -/
def await {α : Type} (op : Op) (h : Res op = Except Thrown α) : Async α := do
  let outcome ← (Method.request op : Async (Res op))
  Method.ofExcept (h ▸ outcome)

/-- The built-in functions of JavaScript that the client calls. -/
structure Builtins where
  /-- The protocol and host name of a URL, if it parses. -/
  parse_url : String → Option (String × String)
  parse_json : String → Except Thrown Value
  stringify : Value → String
  /-- The conversion to a string, of `undefined` too. -/
  string : Option Value → String
  to_lower_case : String → String

/-- Reading a property. -/
def property (value : Value) (key : String) : Except Thrown (Option Value) :=
  match value with
  | .null => .error (.error ("Cannot read properties of null (reading '" ++ key ++ "')"))
  | value => .ok (value.get key)

/-- The truth value that a condition gives a value. -/
def truthy : Value → Bool
  | .null => false
  | .bool b => b
  | .number literal => (literal.toList.takeWhile fun c => c != 'e' && c != 'E').any fun c => '1' ≤ c && c ≤ '9'
  | .string s => s != ""
  | .array _ => true
  | .object _ => true

def includes (text part : String) : Bool := text.toList.tails.any part.toList.isPrefixOf

variable (builtins : Builtins)

def ALLOWED_DOMAIN_SUFFIXES : List String := [".webex.com", ".wbx2.com", ".ciscospark.com"]

def validate_webex_url (raw_url required_protocol : String) : Except Thrown Unit :=
  match builtins.parse_url raw_url with
  | none => .error (.error ("Invalid URL: " ++ raw_url))
  | some (protocol, hostname) =>
    let host := builtins.to_lower_case hostname
    if protocol ≠ required_protocol then
      .error (.error ("URL protocol must be " ++ required_protocol ++ ", got " ++ protocol))
    else if ALLOWED_DOMAIN_SUFFIXES.any fun suffix =>
        suffix.toList.isSuffixOf host.toList || host.toList == suffix.toList.tail then .ok ()
    else .error (.error ("URL host " ++ host ++ " is not a recognized Webex domain"))

/-- `_withKmsLock`: a call waits for the promise that was at the end of the chain and
    resolves its own when it is done. -/
def with_kms_lock {α : Type} (fn : Async α) : Async α := do
  let self ← read
  let prev := self.kms_request_mutex
  let promise ← new_promise
  update fun _ self => { self with kms_request_mutex := promise }
  turn prev
  let outcome ← fn.attempt
  resolve promise
  Method.ofExcept outcome

/-- `Map.prototype.set` and `delete`, for a map in insertion order. -/
def map_set {α : Type} (entries : List (String × α)) (key : String) (value : α) : List (String × α) :=
  if entries.any (·.1 == key) then entries.map fun entry => if entry.1 == key then (key, value) else entry
  else entries ++ [(key, value)]

def map_delete {α : Type} (entries : List (String × α)) (key : String) : List (String × α) :=
  entries.filter fun entry => entry.1 != key

def message_request (self : KmsClient) (wrapped : String) : FetchRequest where
  url := self.encryption_service_url ++ "/kms/messages"
  method := "POST"
  headers := [("Authorization", "Bearer " ++ self.token), ("Content-Type", "application/json")]
  body := some (builtins.stringify
    (.object [("destination", .string self.kms_cluster), ("kmsMessages", .array [.string wrapped])]))

def send_kms_request (request_id wrapped : String) : Async Value := do
  let self ← read
  Method.reject (100 ≤ self.pending_requests.length) (.kms_error "Too many pending KMS requests")
  let promise ← new_promise
  set_timeout promise request_id
  update fun _ self => { self with pending_requests := map_set self.pending_requests request_id promise }
  let http_response ← await (.http_do (message_request builtins self wrapped)) rfl
  if http_response.ok then await (.response promise) rfl
  else do
    update fun _ self => { self with pending_requests := map_delete self.pending_requests request_id }
    let error_body ← await (.text http_response) rfl
    throw (.kms_error ("KMS HTTP request failed: " ++ toString http_response.status ++ " " ++ error_body))

/-- The `catch` block of `initialize`. -/
def initialization_failed : Thrown → Thrown
  | .kms_error message => .kms_error message
  | .error message => .kms_error ("KMS initialization failed: " ++ message)

/-- The `catch` block around the cluster's validation, which also catches the reading of
    the field. -/
def invalid_kms_cluster (error : Thrown) : Thrown := .kms_error ("Invalid KMS cluster URL: " ++ error.message)

/-- Steps 1 and 2 of `initialize`, the details and the public key of the KMS. -/
def fetch_kms_details : Async (Option Value) := do
  let self ← read
  let response ← await (.http_do {
    url := self.encryption_service_url ++ "/kms/" ++ self.user_id
    method := "GET"
    headers := [("Authorization", "Bearer " ++ self.token)]
    body := none }) rfl
  Method.reject (!response.ok) (.kms_error ("Failed to fetch KMS details: " ++ toString response.status))
  let kms_details ← await (.json response) rfl
  let kms_cluster ← Method.ofExcept ((property kms_details "kmsCluster").mapError invalid_kms_cluster)
  let cluster := builtins.string kms_cluster
  Method.ofExcept ((validate_webex_url builtins cluster "kms:").mapError invalid_kms_cluster)
  update fun _ self => { self with kms_cluster := cluster }
  match kms_details.get "rsaPublicKey" with
  | some (.string s) => do
    let key ← Method.ofExcept (builtins.parse_json s)
    return some key
  | key => return key

/-- Step 6 of `initialize`: the key of the handshake's answer, whose JWK may be nested. -/
def remote_key (body : Value) : Except Thrown Value :=
  match (body.get "key").filter truthy with
  | none => .error (.kms_error ("No key in ECDH response, body keys: " ++
      match body with
      | .object members => String.intercalate ", " (members.map Prod.fst)
      | _ => ""))
  | some remote_key =>
    let key_to_validate := ((remote_key.get "jwk").filter truthy).getD remote_key
    if key_to_validate.get "kty" matches some (.string "EC") ∧ key_to_validate.get "crv" matches some (.string "P-256") then
      .ok remote_key
    else .error (.kms_error ("Invalid KMS remote key: kty=" ++ builtins.string (key_to_validate.get "kty") ++
      ", crv=" ++ builtins.string (key_to_validate.get "crv")))

/-- The body of `initialize`, under the lock. -/
def handshake : Async Unit := do
  let server_key ← fetch_kms_details builtins
  let local_ecdh_key ← await .create_ecdh_key rfl
  let public_jwk ← await (.as_key local_ecdh_key) rfl
  let self ← read
  let context : Context := {
    client_id := self.device_url
    user_id := self.user_id
    bearer := self.token
    server_key := server_key
    ephemeral_key := local_ecdh_key }
  let ecdh_request ← await (.wrap (some context) "create" (self.kms_cluster ++ "/ecdhe") (some public_jwk) true) rfl
  let wrapped_ecdh_response ← send_kms_request builtins ecdh_request.request_id ecdh_request.wrapped
  let body ← await (.unwrap (some context) wrapped_ecdh_response) rfl
  let remote_key ← Method.ofExcept (remote_key builtins body)
  let shared_key ← await (.derive_ephemeral_key context remote_key) rfl
  update fun _ self => { self with
    context := some { context with ephemeral_key := shared_key }
    context_expiration := shared_key.expiration_date.or self.context_expiration }

/-- `initialize`. -/
def initialize_client : Async Unit :=
  with_kms_lock (tryCatch (handshake builtins) fun error => throw (initialization_failed error))

def is_context_expired (self : KmsClient) (now : Nat) : Bool :=
  self.context.isNone || self.context_expiration.elim true fun expiration => expiration < now + 30000

def is_retryable_kms_error (error : Thrown) : Bool :=
  let msg := builtins.to_lower_case error.message
  includes msg "timed out" || includes msg "http request failed" || includes msg "network"

def cb_reset (self : KmsClient) : KmsClient := { self with cb_state := .closed, cb_failures := 0 }

def cb_record_failure (now : Nat) (self : KmsClient) : KmsClient :=
  { self with
    cb_failures := self.cb_failures + 1
    cb_last_failure := now
    cb_state := if CB_FAILURE_THRESHOLD ≤ self.cb_failures + 1 then .open else self.cb_state }

/-- The cache takes a key after it has been emptied when it was full. -/
def cache_key (key_uri : String) (key : Value) (self : KmsClient) : KmsClient :=
  { self with key_cache := map_set (if 100 < self.key_cache.length then [] else self.key_cache) key_uri key }

/-- One attempt of `getKey`. -/
def retrieve_key (key_uri : String) : Async Value := do
  let self ← read
  let request ← await (.wrap self.context "retrieve" key_uri none false) rfl
  let wrapped_key_response ← send_kms_request builtins request.request_id request.wrapped
  let self ← read
  let body ← await (.unwrap self.context wrapped_key_response) rfl
  match (body.get "key").filter truthy with
  | none => throw (.kms_error "No key found in KMS response")
  | some key_object => do
    let jose_key ← await (.jwk_as_key (key_object.get "jwk")) rfl
    update fun _ self => cb_reset (cache_key key_uri jose_key self)
    return jose_key

/-- The loop of `getKey`, with the number of attempts that are left. -/
def get_key_attempts (key_uri : String) : (left attempt : Nat) → Async Value
  | 0, _ => throw (.kms_error "KMS key fetch failed after all attempts")
  | left + 1, attempt => do
    match ← (retrieve_key builtins key_uri).attempt with
    | .ok key => return key
    | .error error =>
      if attempt < MAX_KMS_ATTEMPTS ∧ is_retryable_kms_error builtins error = true then do
        sleep 1000
        get_key_attempts key_uri left (attempt + 1)
      else throw error

def require_context : Async Unit := do
  let self ← read
  Method.reject self.context.isNone (.kms_error "KMS context not initialized")

/-- The breaker check of `getKey`. -/
def check_breaker : Async Unit := do
  let self ← read
  if self.cb_state = .open then do
    let instant ← now
    if CB_COOLDOWN_MS ≤ instant - self.cb_last_failure then
      update fun _ self => { self with cb_state := .half_open }
    else throw (.kms_error "KMS circuit breaker is open — failing fast")
  else return ()

/-- `getKey` after the breaker's check. -/
def after_breaker (key_uri : String) : Async Value := do
  let self ← read
  let instant ← now
  (initialize_client builtins).when (is_context_expired self instant)
  require_context
  with_kms_lock do
    require_context
    get_key_attempts builtins key_uri MAX_KMS_ATTEMPTS 1

/-- `getKey` after the cache: everything that its `catch` block counts as a failure. -/
def fetch_key (key_uri : String) : Async Value := do
  check_breaker
  after_breaker builtins key_uri

/-- The error that the `catch` block of `getKey` throws. -/
def get_key_failed : Thrown → Thrown
  | .kms_error message => .kms_error message
  | .error message => .kms_error ("Failed to get key: " ++ message)

def get_key (key_uri : String) : Async Value := do
  let self ← read
  match self.key_cache.lookup key_uri with
  | some cached_key => return cached_key
  | none => tryCatch (fetch_key builtins key_uri) fun error => do
    update cb_record_failure
    throw (get_key_failed error)

end webex.node.kms_client

import WebexHandler.KeyRetrieval

open interaction json
open webex.key_retrieval

namespace webex.python.key_retrieval

def CB_FAILURE_THRESHOLD : Nat := 3
def CB_COOLDOWN : Nat := 30000
def MAX_ATTEMPTS : Nat := 2

def ALLOWED_WEBEX_DOMAINS : List String := ["webex.com", "wbx2.com", "ciscospark.com", "example.com"]

/-- `dict.get` with a default. -/
def get (value : Value) (key : String) (default : Value) : Except Failure Value :=
  match value with
  | .object _ => .ok ((value.get key).getD default)
  | _ => .error (.other "object has no attribute 'get'")

/-- `value[key]` of a `dict`. -/
def item (value : Value) (key : String) : Except Failure Value :=
  match value with
  | .object _ => (value.get key).elim (.error (.other ("'" ++ key ++ "'"))) .ok
  | _ => .error (.other "indices must be integers or slices, not str")

def truthy : Value → Bool
  | .null => false
  | .bool b => b
  | .number literal => (literal.toList.takeWhile fun c => c != 'e' && c != 'E').any fun c => '1' ≤ c && c ≤ '9'
  | .string s => s != ""
  | .array items => !items.isEmpty
  | .object members => !members.isEmpty

/-- The two places of a field of the key in a response, `body.key` first. -/
def key_field (data : Value) (field : String) : Except Failure Value := do
  let first ← get (← get (← get data "body" (.object [])) "key" (.object [])) field .null
  if truthy first then return first
  else get (← get data "key" (.object [])) field .null

/-- The JWK of a response, which may also be `body.key` itself. -/
def key_data (data : Value) : Except Failure Value := do
  let found ← key_field data "jwk"
  if truthy found then return found
  match (data.get "body").bind (·.get "key") with
  | some key_obj => return (key_obj.get "jwk").getD key_obj
  | none => return found

/-- The text of an optional field in an error message. -/
def text_of : Option Value → String
  | some (.string s) => s
  | _ => "None"

def body_keys (data : Value) : String :=
  match data.get "body" with
  | some (.object members) => "[" ++ String.intercalate ", " (members.map fun entry => "'" ++ entry.1 ++ "'") ++ "]"
  | _ => "[]"

variable (lib : Library)

def validate_webex_url (raw_url required_scheme : String) : Except Failure Unit :=
  match lib.parse_url raw_url with
  | .error e => .error (.other e)
  | .ok (scheme, hostname) =>
    let host := lib.to_lower hostname
    if scheme ≠ required_scheme then
      .error (.other ("URL scheme must be " ++ required_scheme ++ ", got " ++ scheme))
    else if ALLOWED_WEBEX_DOMAINS.any fun domain =>
        host == domain || ('.' :: domain.toList).isSuffixOf host.toList then .ok ()
    else .error (.other ("URL host " ++ host ++ " is not a recognized Webex domain"))

def contains (text part : String) : Bool := text.toList.tails.any part.toList.isPrefixOf

def is_retryable_kms_error (error : Failure) : Bool :=
  let msg := lib.to_lower error.message
  contains msg "timed out" || contains msg "http request failed"

/-- A library call whose exception is not caught here. -/
def call {α : Type} (op : Op) (h : Except Failure α = Res op) : Kms α := check op h.symm id

/-- `_jwe_encrypt`, with a key of either kind. -/
def jwe_encrypt (op : Op) (h : Except (JweStage × Failure) String = Res op) : Kms String :=
  check op h.symm Prod.snd

def message_request (self : KmsClient) (wrapped : String) : FetchRequest where
  url := self.encryption_service_url ++ "/kms/messages"
  method := "POST"
  headers := [("Authorization", "Bearer " ++ self.token), ("Content-Type", "application/json")]
  body := some (.object [("destination", self.kms_cluster), ("kmsMessages", .array [.string wrapped])])

/-- The exception of the POST, which a `KmsError` passes unchanged. -/
def post_failed (request_id : String) : Failure → Kms String
  | .kms_error message => throw (.kms_error message)
  | .other message => do
    update fun _ self => forget request_id self
    throw (.kms_error ("KMS HTTP request failed: " ++ message))

/-- `_send_kms_request` under its lock. -/
def post_and_wait (request_id wrapped : String) : Kms String := do
  update fun _ self => { self with pending_requests := self.pending_requests ++ [request_id] }
  let self ← read
  let posted ← http_do (message_request self wrapped)
  match posted with
  | .error e => post_failed request_id e
  | .ok posted =>
    if posted.ok then do
      let wrapped_response ← response request_id
      match wrapped_response with
      | some wrapped_response => return wrapped_response
      | none => throw (.kms_error ("KMS request " ++ request_id ++ " timed out after 30.0s"))
    else do
      update fun _ self => forget request_id self
      let error_body ← (call (.text posted) rfl).attempt
      match error_body with
      | .ok error_body =>
        throw (.kms_error ("KMS HTTP request failed: " ++ toString posted.status ++ " " ++ error_body))
      | .error e => post_failed request_id e

def send_kms_request (request_id wrapped : String) : Kms String := do
  guard (fun _ self => (self.pending_requests.length < 100, self)) (.kms_error "Too many pending KMS requests")
  lock
  let outcome ← (post_and_wait request_id wrapped).attempt
  unlock
  Method.ofExcept outcome

/-- `_unwrap_kms_response`, for a JWE and for a JWS. -/
def unwrap_kms_response (token : String) (key : DecryptionKey) : Kms String :=
  match List.splitOn '.' token.toList with
  | [_, _, _, _, _] => call (.decrypt key token) rfl
  | [_, payload, _] => call (.decode_payload (String.ofList payload)) rfl
  | parts => throw (.kms_error
      ("Invalid KMS response format: expected 3 or 5 parts, got " ++ toString parts.length))

def client (self : KmsClient) : Value :=
  .object [("clientId", .string self.device_url),
    ("credential", .object [("userId", .string self.user_id), ("bearer", .string self.token)])]

def ecdh_request_body (self : KmsClient) (request_id : String) (public_jwk : Value) : Value :=
  .object [("client", client self), ("method", .string "create"), ("uri", .string (self.cluster_text ++ "/ecdhe")),
    ("requestId", .string request_id), ("jwk", public_jwk)]

def retrieve_body (self : KmsClient) (key_uri request_id : String) : Value :=
  .object [("client", client self), ("method", .string "retrieve"), ("uri", .string key_uri),
    ("requestId", .string request_id)]

/-- `jwk.JWK(**data)`, where the data may be the text of the key. -/
def load_jwk : Value → Kms Value
  | .string text => do
    let data ← call (.parse text) rfl
    call (.import_key data) rfl
  | .object members => call (.import_key (.object members)) rfl
  | _ => throw (.other "argument after ** must be a mapping")

/-- The validation of a cluster, which only a string passes. -/
def validate_cluster : Value → Except Failure Unit
  | .string kms_cluster => validate_webex_url lib kms_cluster "kms"
  | _ => .error (.other "URL scheme must be kms")

/-- Step 1 of `initialize`. The cluster is stored before it is validated. -/
def fetch_kms_details : Kms Value := do
  let self ← read
  let fetched ← http_do {
    url := self.encryption_service_url ++ "/kms/" ++ self.user_id
    method := "GET"
    headers := [("Authorization", "Bearer " ++ self.token)]
    body := none }
  let fetched ← Method.ofExcept fetched
  Method.reject (!fetched.ok) (.kms_error ("Failed to fetch KMS details: " ++ toString fetched.status))
  let kms_details ← call (.json fetched) rfl
  let kms_cluster ← Method.ofExcept (item kms_details "kmsCluster")
  update fun _ self => { self with kms_cluster := kms_cluster }
  Method.ofExcept (validate_cluster lib kms_cluster)
  let rsa_public_key_raw ← Method.ofExcept (item kms_details "rsaPublicKey")
  match rsa_public_key_raw with
  | .string text => call (.parse text) rfl
  | raw => return raw

/-- Steps 2 to 6 of `initialize`: the answer to the handshake, and the pair it is for. -/
def ecdh_exchange (rsa_public_key_raw : Value) : Kms (LocalKey × Value) := do
  let local_ecdh_key ← call .generate_key rfl
  let request_id ← new_request_id
  let self ← read
  let rsa_key ← call (.import_key rsa_public_key_raw) rfl
  let wrapped ← jwe_encrypt (.wrap_rsa rsa_key (ecdh_request_body self request_id local_ecdh_key.public_jwk)) rfl
  let wrapped_response ← send_kms_request request_id wrapped
  let response_body ← unwrap_kms_response wrapped_response (.ecdh local_ecdh_key)
  let response_data ← call (.parse response_body) rfl
  return (local_ecdh_key, response_data)

/-- Step 7 of `initialize`, the key that is shared with the KMS. -/
def derive_shared_key (local_ecdh_key : LocalKey) (response_data : Value) : Kms JsonWebKey := do
  let remote_jwk_data ← Method.ofExcept (key_data response_data)
  Method.reject (!truthy remote_jwk_data)
    (.kms_error ("No key in ECDH response, body keys: " ++ body_keys response_data))
  let remote_ecdh_key ← load_jwk remote_jwk_data
  Method.reject (!(remote_ecdh_key.get "kty" matches some (.string "EC") &&
      remote_ecdh_key.get "crv" matches some (.string "P-256")))
    (.kms_error ("Invalid remote key type: kty=" ++ text_of (remote_ecdh_key.get "kty") ++ ", crv=" ++
      text_of (remote_ecdh_key.get "crv")))
  let remote_key_uri ← Method.ofExcept (key_field response_data "uri")
  let shared_key ← call (.derive local_ecdh_key remote_ecdh_key) rfl
  return { key := shared_key, key_id := (remote_key_uri.as_str).getD "" }

/-- When a context expires, and whether that is a date without an offset. -/
def expiration_of (expiration : Value) (time : Nat) : Nat × Bool :=
  match (expiration.as_str.filter (· != "")).bind fun text => (lib.parse_time text).map (·, lib.naive text) with
  | some dated => dated
  | none => (time + 3600000, false)

/-- The last steps of `initialize`. -/
def finish_handshake (shared_key : JsonWebKey) (response_data : Value) : Kms Unit := do
  store_key shared_key
  let expiration ← Method.ofExcept (key_field response_data "expirationDate")
  update fun time self => { self with
    context_expiration := some (expiration_of lib expiration time).1
    naive_expiration := (expiration_of lib expiration time).2 }
  update fun _ self => { self with initialized := true }

/-- The body of `initialize`. -/
def handshake : Kms Unit := do
  let rsa_public_key_raw ← fetch_kms_details lib
  let (local_ecdh_key, response_data) ← ecdh_exchange rsa_public_key_raw
  let shared_key ← derive_shared_key local_ecdh_key response_data
  finish_handshake lib shared_key response_data

def initialize_client : Kms Unit :=
  tryCatch (handshake lib) fun
    | .kms_error message => throw (.kms_error message)
    | .other message => throw (.kms_error ("KMS initialization failed: " ++ message))

/-- `_is_context_expired`. An expiration without an offset cannot be compared with the
    clock. -/
def is_context_expired (time : Nat) (self : KmsClient) : Except Failure Bool :=
  if self.initialized = false then .ok true
  else match self.context_expiration with
    | none => .ok true
    | some expiration =>
      if self.naive_expiration then .error (.other "can't compare offset-naive and offset-aware datetimes")
      else .ok (expiration < time + 30000)

/-- The breaker check of `get_key`. -/
def check_breaker (time : Nat) (self : KmsClient) : Bool × KmsClient :=
  if self.cb_state = .open then
    if CB_COOLDOWN ≤ time - self.cb_last_failure then (true, { self with cb_state := .half_open }) else (false, self)
  else (true, self)

def cb_reset (self : KmsClient) : KmsClient := { self with cb_state := .closed, cb_failures := 0 }

def cb_record_failure (time : Nat) (self : KmsClient) : KmsClient :=
  { self with
    cb_failures := self.cb_failures + 1
    cb_last_failure := time
    cb_state := if CB_FAILURE_THRESHOLD ≤ self.cb_failures + 1 then .open else self.cb_state }

/-- The cache takes a key after it has been emptied when it was full. -/
def cache_key (key_uri : String) (content_key : Value) (self : KmsClient) : KmsClient :=
  { self with
    key_cache := (key_uri, content_key) ::
      (if 100 < self.key_cache.length then [] else self.key_cache.filter (·.1 != key_uri)) }

/-- The request of an attempt, wrapped with the key and its id as one read finds them. -/
def wrap_request (key_uri request_id : String) : Kms String := do
  let self ← read
  let key ← load_key
  match key with
  | some key => jwe_encrypt (.wrap key key.key_id (retrieve_body self key_uri request_id)) rfl
  | none => throw (.other "'NoneType' object has no attribute 'get'")

/-- The request is sent, and the key read once more for the response. -/
def send_and_unwrap (request_id wrapped : String) : Kms String := do
  let wrapped_response ← send_kms_request request_id wrapped
  let ephemeral_key ← load_key
  match ephemeral_key with
  | some ephemeral_key => unwrap_kms_response wrapped_response (.ephemeral ephemeral_key)
  | none => throw (.other "'NoneType' object has no attribute 'get_op_key'")

/-- The end of a successful attempt. -/
def store_content_key (key_uri response_body : String) : Kms Value := do
  let response_data ← call (.parse response_body) rfl
  let key_data ← Method.ofExcept (key_data response_data)
  Method.reject (!truthy key_data) (.kms_error "No key found in KMS response")
  let content_key ← load_jwk key_data
  update fun _ self => cb_reset (cache_key key_uri content_key self)
  return content_key

/-- One attempt of `get_key`. -/
def retrieve_key (key_uri : String) : Kms Value := do
  let request_id ← new_request_id
  let wrapped ← wrap_request key_uri request_id
  let response_body ← send_and_unwrap request_id wrapped
  store_content_key key_uri response_body

/-- The loop of `get_key`, with the number of attempts that are left. Only a `KmsError`
    is caught inside it. -/
def get_key_attempts (key_uri : String) : (left attempt : Nat) → Kms Value
  | 0, _ => throw (.other "")
  | left + 1, attempt => do
    let outcome ← (retrieve_key key_uri).attempt
    match outcome with
    | .ok content_key => return content_key
    | .error (.other message) => throw (.other message)
    | .error (.kms_error message) =>
      if attempt < MAX_ATTEMPTS ∧ is_retryable_kms_error lib (.kms_error message) = true then do
        sleep 1000
        get_key_attempts key_uri left (attempt + 1)
      else do
        update cb_record_failure
        throw (.kms_error message)

/-- The `try` block of `get_key`. -/
def fetch_key (key_uri : String) : Kms Value := do
  let self ← read
  match self.key_cache.lookup key_uri with
  | some cached => return cached
  | none => do
    let time ← now
    let expired ← Method.ofExcept (is_context_expired time self)
    (initialize_client lib).when expired
    let self ← read
    Method.reject (!self.initialized) (.kms_error "KMS context not initialized")
    let present ← has_key
    Method.reject (!present) (.kms_error "KMS context not initialized")
    guard check_breaker (.kms_error "KMS circuit breaker is open — failing fast")
    get_key_attempts lib key_uri MAX_ATTEMPTS 1

def get_key (key_uri : String) : Kms Value :=
  tryCatch (fetch_key lib key_uri) fun
    | .kms_error message => throw (.kms_error message)
    | .other message => do
      update cb_record_failure
      throw (.kms_error ("Failed to get key: " ++ message))

/-- The Python port. A response resolves the oldest pending request, and the timer of a
    request removes it. -/
def port : Port where
  get_key := get_key lib
  initialize_client := initialize_client lib
  resolves := fun pending request_id => pending.head? == some request_id
  timer_forgets := true

end webex.python.key_retrieval

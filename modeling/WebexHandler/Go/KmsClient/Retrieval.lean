import WebexHandler.KeyRetrieval

open interaction json
open webex.key_retrieval

namespace webex.go.key_retrieval

def CB_FAILURE_THRESHOLD : Nat := 3
def CB_COOLDOWN : Nat := 30000
def MAX_KMS_ATTEMPTS : Nat := 2

def ALLOWED_DOMAIN_SUFFIXES : List String := [".webex.com", ".wbx2.com", ".ciscospark.com"]

/-- `NewKmsErrorWithCause`. -/
def kms_error_with_cause (message : String) (cause : Failure) : Failure :=
  .kms_error (message ++ ": " ++ cause.message)

/-- The error for the call of the JWE encryption that failed. -/
def jwe_failed (new_encrypter encrypt serialize : String) : JweStage × Failure → Failure
  | (.new_encrypter, cause) => kms_error_with_cause new_encrypter cause
  | (.encrypt, cause) => kms_error_with_cause encrypt cause
  | (.serialize, cause) => kms_error_with_cause serialize cause

/-- The dereference of a nil pointer, which ends the program. -/
def nil_dereference : Failure := .other "runtime error: invalid memory address or nil pointer dereference"

def as_map (value : Option Value) : Option Value := value.filter Value.is_object

/-- `body.key` or `key` of a response. -/
def response_key (data : Value) : Option Value :=
  ((as_map (data.get "body")).bind fun body => as_map (body.get "key")).or (as_map (data.get "key"))

def extract_jwk_from_response (data : Value) : Option Value :=
  (response_key data).map fun key => (as_map (key.get "jwk")).getD key

def extract_key_uri (data : Value) : String :=
  (((as_map (data.get "body")).bind fun body => (as_map (body.get "key")).bind fun key =>
      (key.get "uri").bind Value.as_str).or
    ((as_map (data.get "key")).bind fun key => (key.get "uri").bind Value.as_str)).getD ""

/-- `expirationDate` of `body.key`. -/
def extract_expiration (data : Value) : Option String :=
  (as_map (data.get "body")).bind fun body => (as_map (body.get "key")).bind fun key =>
    (key.get "expirationDate").bind Value.as_str

variable (lib : Library)

def validate_webex_url (raw_url required_scheme : String) : Except Failure Unit :=
  match lib.parse_url raw_url with
  | .error e => .error (.other ("invalid URL: " ++ e))
  | .ok (scheme, hostname) =>
    let host := lib.to_lower hostname
    if scheme ≠ required_scheme then
      .error (.other ("URL scheme must be " ++ required_scheme ++ ", got " ++ scheme))
    else if ALLOWED_DOMAIN_SUFFIXES.any fun suffix =>
        suffix.toList.isSuffixOf host.toList || host.toList == suffix.toList.tail then .ok ()
    else .error (.other ("URL host " ++ host ++ " is not a recognized Webex domain"))

def contains (text part : String) : Bool := text.toList.tails.any part.toList.isPrefixOf

def is_retryable_kms_error (error : Failure) : Bool :=
  let msg := lib.to_lower error.message
  contains msg "timed out" || contains msg "http request failed"

def message_request (kc : KmsClient) (wrapped : String) : FetchRequest where
  url := kc.encryption_service_url ++ "/kms/messages"
  method := "POST"
  headers := [("Authorization", "Bearer " ++ kc.token), ("Content-Type", "application/json")]
  body := some (.object [("destination", kc.kms_cluster), ("kmsMessages", .array [.string wrapped])])

def register (request_id : String) (kc : KmsClient) : Bool × KmsClient :=
  if 100 ≤ kc.pending_requests.length then (false, kc)
  else (true, { kc with pending_requests := kc.pending_requests ++ [request_id] })

/-- A request that failed after it was registered. -/
def abandon {α : Type} (request_id : String) (error : Failure) : Kms α := do
  unlock
  update fun _ kc => forget request_id kc
  throw error

def send_kms_request (request_id wrapped : String) : Kms String := do
  guard (fun _ kc => register request_id kc) (.kms_error "too many pending KMS requests")
  lock
  let kc ← read
  let http_resp ← http_do (message_request kc wrapped)
  match http_resp with
  | .error e => abandon request_id (kms_error_with_cause "KMS HTTP request failed" e)
  | .ok http_resp =>
    if http_resp.ok then do
      let response ← response request_id
      match response with
      | some response => do
        unlock
        return response
      | none => abandon request_id (.kms_error ("KMS request " ++ request_id ++ " timed out"))
    else abandon request_id (.kms_error ("KMS HTTP request failed: " ++ toString http_resp.status))

/-- `unwrapKmsResponse`, for a JWE and for a JWS. -/
def unwrap_kms_response (wrapped : String) (key : DecryptionKey) : Kms String :=
  match List.splitOn '.' wrapped.toList with
  | [_, _, _, _, _] => do
    check (.parse_encrypted wrapped) rfl (kms_error_with_cause "Failed to parse KMS response JWE")
    check (.decrypt key wrapped) rfl (kms_error_with_cause "Failed to decrypt KMS response")
  | [_, payload, _] =>
    check (.decode_payload (String.ofList payload)) rfl (kms_error_with_cause "Failed to decode JWS payload")
  | parts => throw (.kms_error
      ("Invalid KMS response format: expected 3 or 5 parts, got " ++ toString parts.length))

def client (kc : KmsClient) : Value :=
  .object [("clientId", .string kc.device_url),
    ("credential", .object [("userId", .string kc.user_id), ("bearer", .string kc.token)])]

def ecdh_request_body (kc : KmsClient) (request_id : String) (public_jwk : Value) : Value :=
  .object [("client", client kc), ("method", .string "create"), ("uri", .string (kc.cluster_text ++ "/ecdhe")),
    ("requestId", .string request_id), ("jwk", public_jwk)]

def retrieve_body (kc : KmsClient) (key_uri request_id : String) : Value :=
  .object [("client", client kc), ("method", .string "retrieve"), ("uri", .string key_uri),
    ("requestId", .string request_id)]

/-- Step 1 of `Initialize`, the details of the KMS and its RSA key. -/
def fetch_kms_details : Kms Value := do
  let kc ← read
  let resp ← check (.http_do {
    url := kc.encryption_service_url ++ "/kms/" ++ kc.user_id
    method := "GET"
    headers := [("Authorization", "Bearer " ++ kc.token)]
    body := none }) rfl (kms_error_with_cause "Failed to fetch KMS details")
  Method.reject (!resp.ok) (.kms_error ("Failed to fetch KMS details: " ++ toString resp.status))
  let kms_details ← check (.details resp) rfl (kms_error_with_cause "Failed to parse KMS details")
  Method.ofExcept ((validate_webex_url lib kms_details.kms_cluster "kms").mapError
    (kms_error_with_cause "untrusted kmsCluster"))
  update fun _ kc => { kc with kms_cluster := .string kms_details.kms_cluster }
  match kms_details.rsa_public_key with
  | none | some .null => throw (.kms_error "Failed to parse RSA public key: unexpected end of JSON input")
  | some (.string text) => do
    let rsa_jwk ← check (.parse text) rfl (kms_error_with_cause "Failed to parse RSA public key")
    check (.import_key rsa_jwk) rfl (kms_error_with_cause "Failed to parse RSA public key")
  | some rsa_jwk => check (.import_key rsa_jwk) rfl (kms_error_with_cause "Failed to parse RSA public key")

def is_ecdsa_public_key (key : Value) : Bool := key.get "kty" matches some (.string "EC") && (key.get "d").isNone

/-- Steps 2 to 6 of `Initialize`: the answer to the handshake, and the pair it is for. -/
def ecdh_exchange (rsa_key : Value) : Kms (LocalKey × Value) := do
  let local_key ← check .generate_key rfl (kms_error_with_cause "Failed to generate ECDH key")
  let request_id ← new_request_id
  let kc ← read
  let wrapped ← check (.wrap_rsa rsa_key (ecdh_request_body kc request_id local_key.public_jwk)) rfl
    (jwe_failed "Failed to create JWE encrypter" "Failed to encrypt ECDH request" "Failed to serialize ECDH request")
  let wrapped_response ← send_kms_request request_id wrapped
  let response ← unwrap_kms_response wrapped_response (.ecdh local_key)
  let response_data ← check (.parse response) rfl (kms_error_with_cause "Failed to parse ECDH response body")
  return (local_key, response_data)

/-- Step 7 of `Initialize`, the key that is shared with the KMS. -/
def derive_shared_key (local_key : LocalKey) (response_data : Value) : Kms JsonWebKey :=
  match extract_jwk_from_response response_data with
  | none => throw (.kms_error "No key in ECDH response")
  | some remote_jwk_data => do
    let remote_jwk ← check (.import_key remote_jwk_data) rfl (kms_error_with_cause "Failed to parse remote ECDH key")
    Method.reject (remote_jwk matches .null) (.kms_error "Remote ECDH key is nil after unmarshaling")
    Method.reject (!is_ecdsa_public_key remote_jwk) (.kms_error "Remote ECDH key is not an ECDSA public key")
    let shared_key ← check (.derive local_key remote_jwk) rfl (kms_error_with_cause "Failed to derive shared key")
    return { key := shared_key, key_id := extract_key_uri response_data }

/-- The last steps of `Initialize`. -/
def finish_handshake (shared_key : JsonWebKey) (response_data : Value) : Kms Unit := do
  store_key shared_key
  update fun _ kc => { kc with initialized := true }
  update fun time kc => { kc with context_expiration := some (time + 3600000) }
  match (extract_expiration response_data).bind lib.parse_time with
  | some expiration => update fun _ kc => { kc with context_expiration := some expiration }
  | none => return ()

/-- `Initialize`. -/
def initialize_client : Kms Unit := do
  let rsa_key ← fetch_kms_details lib
  let (local_key, response_data) ← ecdh_exchange rsa_key
  let shared_key ← derive_shared_key local_key response_data
  finish_handshake lib shared_key response_data

def is_context_expired : Kms Bool := do
  let kc ← read
  if kc.initialized then do
    let kc ← read
    let time ← now
    return kc.context_expiration.elim true fun expiration => expiration < time + 30000
  else return true

/-- The breaker check of `GetKey`. -/
def check_breaker (time : Nat) (kc : KmsClient) : Bool × KmsClient :=
  if kc.cb_state = .open then
    if CB_COOLDOWN ≤ time - kc.cb_last_failure then (true, { kc with cb_state := .half_open }) else (false, kc)
  else (true, kc)

def record_failure (time : Nat) (kc : KmsClient) : KmsClient :=
  { kc with
    cb_failures := kc.cb_failures + 1
    cb_last_failure := time
    cb_state := if CB_FAILURE_THRESHOLD ≤ kc.cb_failures + 1 then .open else kc.cb_state }

/-- The cache takes a key after it has been emptied when it was full. -/
def record_success (key_uri : String) (content_key : Value) (kc : KmsClient) : KmsClient :=
  { kc with
    key_cache := (key_uri, content_key) :: (if 100 < kc.key_cache.length then [] else kc.key_cache.filter (·.1 != key_uri))
    cb_failures := 0
    cb_state := if kc.cb_state = .half_open then .closed else kc.cb_state }

/-- The request of an attempt, wrapped with the key and the key id of two reads. -/
def wrap_request (key_uri request_id : String) : Kms String := do
  let kc ← read
  let recipient ← load_key
  match recipient with
  | none => throw nil_dereference
  | some recipient => do
    let header ← load_key
    match header with
    | none => throw nil_dereference
    | some header =>
      check (.wrap recipient header.key_id (retrieve_body kc key_uri request_id)) rfl
        (jwe_failed "Failed to create JWE encrypter for key retrieval" "Failed to encrypt key retrieval request"
          "Failed to serialize key retrieval request")

/-- The request is sent, and the key read once more for the response. -/
def send_and_unwrap (request_id wrapped : String) : Kms String := do
  let wrapped_response ← send_kms_request request_id wrapped
  let ephemeral_key ← load_key
  match ephemeral_key with
  | some ephemeral_key => unwrap_kms_response wrapped_response (.ephemeral ephemeral_key)
  | none => throw nil_dereference

/-- The end of a successful attempt. -/
def store_content_key (key_uri response : String) : Kms Value := do
  let response_data ← check (.parse response) rfl (kms_error_with_cause "Failed to parse key response body")
  match extract_jwk_from_response response_data with
  | none => throw (.kms_error "No key found in KMS response")
  | some key_jwk_data => do
    let content_key ← check (.import_key key_jwk_data) rfl (kms_error_with_cause "Failed to parse content key")
    update fun _ kc => record_success key_uri content_key kc
    return content_key

/-- The loop of `GetKey`, with the number of attempts that are left. -/
def get_key_attempts (key_uri : String) : (left attempt : Nat) → Kms Value
  | 0, _ => throw (.kms_error "")
  | left + 1, attempt => do
    let request_id ← new_request_id
    let wrapped ← wrap_request key_uri request_id
    let outcome ← (send_and_unwrap request_id wrapped).attempt
    match outcome with
    | .ok response => store_content_key key_uri response
    | .error error =>
      if attempt < MAX_KMS_ATTEMPTS ∧ is_retryable_kms_error lib error = true then do
        sleep 1000
        get_key_attempts key_uri left (attempt + 1)
      else do
        update record_failure
        throw error

/-- `GetKey`. -/
def get_key (key_uri : String) : Kms Value := do
  let kc ← read
  match kc.key_cache.lookup key_uri with
  | some cached => return cached
  | none => do
    let expired ← is_context_expired
    (initialize_client lib).when expired
    guard check_breaker (.kms_error "KMS circuit breaker is open — skipping key fetch")
    let kc ← read
    Method.reject (!kc.initialized) (.kms_error "KMS context not initialized")
    let present ← has_key
    Method.reject (!present) (.kms_error "KMS context not initialized")
    get_key_attempts lib key_uri MAX_KMS_ATTEMPTS 1

/-- The Go port. A response resolves whichever pending request the iteration over the
    map yields, and a request that times out is removed by its own call. -/
def port : Port where
  get_key := get_key lib
  initialize_client := initialize_client lib
  resolves := fun pending request_id => pending.contains request_id
  timer_forgets := false

end webex.go.key_retrieval

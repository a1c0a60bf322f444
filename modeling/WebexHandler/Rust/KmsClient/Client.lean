import WebexHandler.Interaction.Obeys
import WebexHandler.Rust.Types
import WebexHandler.Rust.UrlValidation

open interaction json

namespace webex.rust.kms_client

def KMS_RESPONSE_TIMEOUT : Nat := 30000
def MAX_PENDING_REQUESTS : Nat := 100
def MAX_KEY_CACHE_SIZE : Nat := 100
def CB_FAILURE_THRESHOLD : Nat := 3
def CB_COOLDOWN : Nat := 30000
def MAX_KMS_ATTEMPTS : Nat := 2

inductive CbState
  | closed
  | open
  | half_open
  deriving DecidableEq, Repr

inductive JweKey
  | symmetric (key : Bytes)
  | ecdh_private (secret : Bytes)
  deriving DecidableEq, Repr

/-- The parts of other crates and of the `jwe` module that `KmsClient` calls, with
    the random bytes they draw as an argument. -/
structure Crates where
  from_slice : Bytes → Except String Value
  from_str : String → Except String Value
  to_string : Value → String
  from_utf8_lossy : Bytes → String
  url_safe_no_pad_encode : Bytes → String
  url_safe_no_pad_decode : String → Except String Bytes
  /-- The coordinates of the public key that belongs to a P-256 secret key. -/
  public_point : Bytes → Option Bytes × Option Bytes
  from_sec1_bytes : Bytes → Except String Bytes
  diffie_hellman : Bytes → Bytes → Bytes
  hkdf_sha256 : Bytes → Except String Bytes
  encrypt_rsa_oaep_a256gcm : String → Value → Bytes → Except WebexError String
  encrypt_dir_a256gcm : String → Bytes → String → Bytes → Except WebexError String
  decrypt_jwe : String → JweKey → Except WebexError Bytes

/-- How a wait for the Mercury response ends. -/
inductive Waited
  | received (response : String)
  | closed
  | timed_out
  deriving DecidableEq, Repr

/-- What `KmsClient` asks of its environment: the HTTP client, the clock, the
    random source, and the pending list it shares with `KmsResponseHandler`.
    Times are in milliseconds. -/
inductive Op
  | fetch (req : FetchRequest)
  | now
  | sleep (millis : Nat)
  | new_v4
  | random (len : Nat)
  | register_pending (request_id : String)
  | remove_pending (request_id : String)
  | wait_response (rx : Nat) (millis : Nat)

/-- Registration answers with the receiving end of a new channel, or with nothing
    when the list is full. -/
def Res : Op → Type
  | .fetch _ => Except String FetchResponse
  | .now => Nat
  | .sleep _ => Unit
  | .new_v4 => String
  | .random _ => Bytes
  | .register_pending _ => Option Nat
  | .remove_pending _ => Unit
  | .wait_response _ _ => Waited

structure KmsClient where
  token : String
  device_url : String
  user_id : String
  encryption_service_url : String
  kms_cluster : String := ""
  ephemeral_key : Option Bytes := none
  ephemeral_key_kid : String := ""
  context_expiration : Option Nat := none
  key_cache : List (String × Bytes) := []
  initialized : Bool := false
  cb_state : CbState := .closed
  /-- A `u32` in the source, which only as many failures in a row would overflow. -/
  cb_failures : Nat := 0
  cb_last_failure : Option Nat := none
  deriving DecidableEq, Repr

def new (token device_url user_id encryption_service_url : String) : KmsClient where
  token := token
  device_url := device_url
  user_id := user_id
  encryption_service_url := encryption_service_url

/-- A method of `KmsClient`. -/
abbrev Kms (α : Type) : Type := Method Op Res KmsClient WebexError α

def fetch (req : FetchRequest) : Kms (Except String FetchResponse) := Method.request (Op.fetch req)

def now : Kms Nat := Method.request Op.now

def sleep (millis : Nat) : Kms Unit := Method.request (Op.sleep millis)

def new_v4 : Kms String := Method.request Op.new_v4

def random (len : Nat) : Kms Bytes := Method.request (Op.random len)

def register_pending (request_id : String) : Kms (Option Nat) := Method.request (Op.register_pending request_id)

def remove_pending (request_id : String) : Kms Unit := Method.request (Op.remove_pending request_id)

def wait_response (rx millis : Nat) : Kms Waited := Method.request (Op.wait_response rx millis)

section operations

variable {γ : Type} {mon : Monitor Op Res γ} {self : KmsClient} {g : γ}

@[simp]
theorem obeys_fetch {req : FetchRequest} {post : Except WebexError (Except String FetchResponse) → KmsClient → γ → Prop} :
    (fetch req).Obeys mon self g post ↔
      mon.allowed g (.fetch req) ∧ ∀ r g', mon.moves g (.fetch req) r g' → post (.ok r) self g' := Iff.rfl

@[simp]
theorem obeys_now {post : Except WebexError Nat → KmsClient → γ → Prop} :
    now.Obeys mon self g post ↔ mon.allowed g .now ∧ ∀ r g', mon.moves g .now r g' → post (.ok r) self g' := Iff.rfl

@[simp]
theorem obeys_sleep {millis : Nat} {post : Except WebexError Unit → KmsClient → γ → Prop} :
    (sleep millis).Obeys mon self g post ↔
      mon.allowed g (.sleep millis) ∧ ∀ r g', mon.moves g (.sleep millis) r g' → post (.ok r) self g' := Iff.rfl

@[simp]
theorem obeys_new_v4 {post : Except WebexError String → KmsClient → γ → Prop} :
    new_v4.Obeys mon self g post ↔
      mon.allowed g .new_v4 ∧ ∀ r g', mon.moves g .new_v4 r g' → post (.ok r) self g' := Iff.rfl

@[simp]
theorem obeys_random {len : Nat} {post : Except WebexError Bytes → KmsClient → γ → Prop} :
    (random len).Obeys mon self g post ↔
      mon.allowed g (.random len) ∧ ∀ r g', mon.moves g (.random len) r g' → post (.ok r) self g' := Iff.rfl

@[simp]
theorem obeys_register_pending {request_id : String} {post : Except WebexError (Option Nat) → KmsClient → γ → Prop} :
    (register_pending request_id).Obeys mon self g post ↔ mon.allowed g (.register_pending request_id) ∧
      ∀ r g', mon.moves g (.register_pending request_id) r g' → post (.ok r) self g' := Iff.rfl

@[simp]
theorem obeys_remove_pending {request_id : String} {post : Except WebexError Unit → KmsClient → γ → Prop} :
    (remove_pending request_id).Obeys mon self g post ↔ mon.allowed g (.remove_pending request_id) ∧
      ∀ r g', mon.moves g (.remove_pending request_id) r g' → post (.ok r) self g' := Iff.rfl

@[simp]
theorem obeys_wait_response {rx millis : Nat} {post : Except WebexError Waited → KmsClient → γ → Prop} :
    (wait_response rx millis).Obeys mon self g post ↔ mon.allowed g (.wait_response rx millis) ∧
      ∀ r g', mon.moves g (.wait_response rx millis) r g' → post (.ok r) self g' := Iff.rfl

end operations

/-- `HashMap::insert`. -/
def insert (cache : List (String × Bytes)) (key_uri : String) (key : Bytes) : List (String × Bytes) :=
  (key_uri, key) :: cache.filter (fun entry => entry.1 != key_uri)

def extract_jwk_from_response (data : Value) : Option Value :=
  [["body", "key", "jwk"], ["body", "key"], ["key", "jwk"], ["key"]].findSome? fun path =>
    (pointer data path).filter Value.is_object

def extract_key_uri (data : Value) : Option String :=
  ((pointer data ["body", "key", "uri"]).or (pointer data ["key", "uri"])).bind Value.as_str

def is_retryable_kms_error (err : WebexError) : Bool :=
  let msg := String.ofList (to_lowercase err.to_string.toList)
  contains msg "timed out" || contains msg "http request failed"

/-- The client object of a KMS request body. -/
def client_json (self : KmsClient) : Value :=
  .object [("clientId", .string self.device_url),
    ("credential", .object [("userId", .string self.user_id), ("bearer", .string self.token)])]

def retrieve_body (self : KmsClient) (key_uri request_id : String) : Value :=
  .object [("client", client_json self), ("method", .string "retrieve"), ("uri", .string key_uri),
    ("requestId", .string request_id)]

def ecdh_request_body (self : KmsClient) (request_id : String) (jwk : Value) : Value :=
  .object [("client", client_json self), ("method", .string "create"),
    ("uri", .string (self.kms_cluster ++ "/ecdhe")), ("requestId", .string request_id), ("jwk", jwk)]

def bearer (token : String) : String × String := ("Authorization", "Bearer " ++ token)

variable (crates : Crates)

/-- A three-part response is a JWS, whose payload is taken unverified. -/
def unwrap_kms_response (token : String) (key : JweKey) : Except WebexError Bytes :=
  let dots := token.toList.count '.'
  if dots = 4 then crates.decrypt_jwe token key
  else if dots = 2 then
    let payload := ((token.toList.splitOn '.')[1]?).getD []
    (crates.url_safe_no_pad_decode (String.ofList payload)).mapError fun e =>
      .kms ("Failed to decode JWS payload: " ++ e)
  else .error (.kms ("Invalid KMS response format: expected 3 or 5 parts, got " ++ toString dots ++ " dots"))

/-- The body of a POST to the KMS. -/
def kms_message_body (self : KmsClient) (wrapped : String) : String :=
  crates.to_string (.object [("destination", .string self.kms_cluster), ("kmsMessages", .array [.string wrapped])])

def message_request (self : KmsClient) (wrapped : String) : FetchRequest where
  url := self.encryption_service_url ++ "/kms/messages"
  method := "POST"
  headers := [bearer self.token, ("Content-Type", "application/json")]
  body := some (kms_message_body crates self wrapped)

/-- `send_kms_request`. Serialising a `Value` does not fail, so that error path of
    the source is absent. -/
def send_kms_request (request_id wrapped : String) : Kms String := do
  let self ← get
  match ← register_pending request_id with
  | none =>
    throw (.kms ("Too many pending KMS requests (max: " ++ toString MAX_PENDING_REQUESTS ++ ")"))
  | some rx =>
    match ← fetch (message_request crates self wrapped) with
    | .error e =>
      remove_pending request_id
      throw (.kms ("KMS HTTP request failed: " ++ e))
    | .ok resp =>
      if resp.ok = false then
        remove_pending request_id
        throw (.kms ("KMS HTTP request failed: " ++ toString resp.status ++ " " ++
          crates.from_utf8_lossy resp.body))
      else
        match ← wait_response rx KMS_RESPONSE_TIMEOUT with
        | .received response => return response
        | .closed => throw (.kms ("KMS request " ++ request_id ++ " channel closed"))
        | .timed_out =>
          remove_pending request_id
          throw (.kms ("KMS request " ++ request_id ++ " timed out after " ++
            toString (KMS_RESPONSE_TIMEOUT / 1000) ++ "s"))

def details_request (self : KmsClient) : FetchRequest where
  url := self.encryption_service_url ++ "/kms/" ++ self.user_id
  method := "GET"
  headers := [bearer self.token]
  body := none

/-- The KMS details and the RSA key in them, which may be given as a string or as an
    object. The cluster is stored before it is validated. -/
def parse_kms_details (response : Except String FetchResponse) : Kms Value := do
  let response ← Method.ofExcept (response.mapError fun e => .kms ("Failed to fetch KMS details: " ++ e))
  Method.reject (!response.ok) (.kms ("Failed to fetch KMS details: " ++ toString response.status))
  let kms_details ← Method.ofExcept ((crates.from_slice response.body).mapError fun e =>
    .kms ("Failed to parse KMS details: " ++ e))
  let kms_cluster ← Method.ofExcept (match (index kms_details "kmsCluster").as_str with
    | some cluster => .ok cluster
    | none => .error (.kms "Missing kmsCluster in KMS details"))
  modify fun self => { self with kms_cluster := kms_cluster }
  Method.ofExcept ((url_validation.validate_webex_url kms_cluster "kms").mapError fun e =>
    .kms ("Invalid kmsCluster URL: " ++ e))
  match index kms_details "rsaPublicKey" with
  | .string s => Method.ofExcept ((crates.from_str s).mapError fun e =>
      .kms ("Failed to parse RSA public key string: " ++ e))
  | .object members => return .object members
  | _ => throw (.kms "Invalid rsaPublicKey format")

/-- The first step of `initialize`. -/
def fetch_kms_details : Kms Value := do
  let self ← get
  let response ← fetch (details_request self)
  parse_kms_details crates response

/-- The public key of the handshake as a JWK. -/
def public_jwk (local_secret : Bytes) : Except WebexError Value :=
  match crates.public_point local_secret with
  | (none, _) => .error (.kms "Missing x coordinate")
  | (some _, none) => .error (.kms "Missing y coordinate")
  | (some x_bytes, some y_bytes) => .ok (.object [("kty", .string "EC"), ("crv", .string "P-256"),
      ("x", .string (crates.url_safe_no_pad_encode x_bytes)),
      ("y", .string (crates.url_safe_no_pad_encode y_bytes))])

/-- The remote public key of the handshake. -/
def parse_remote_key (remote_jwk_data : Value) : Except WebexError Bytes := do
  let remote_x ← match (index remote_jwk_data "x").as_str with
    | some x => .ok x
    | none => .error (.kms "Missing x in remote key")
  let remote_y ← match (index remote_jwk_data "y").as_str with
    | some y => .ok y
    | none => .error (.kms "Missing y in remote key")
  let remote_x_bytes ← (crates.url_safe_no_pad_decode remote_x).mapError fun e =>
    .kms ("Failed to decode remote x: " ++ e)
  let remote_y_bytes ← (crates.url_safe_no_pad_decode remote_y).mapError fun e =>
    .kms ("Failed to decode remote y: " ++ e)
  (crates.from_sec1_bytes (0x04 :: (remote_x_bytes ++ remote_y_bytes))).mapError fun e =>
    .kms ("Failed to parse remote public key: " ++ e)

/-- Steps 6 and 7 of `initialize`: the key derived from the handshake's answer, and
    the key's URI. -/
def derive_ephemeral_key (wrapped_response : String) (local_secret : Bytes) : Except WebexError (Bytes × String) := do
  let response_body ← unwrap_kms_response crates wrapped_response (.ecdh_private local_secret)
  let response_data ← (crates.from_slice response_body).mapError fun e =>
    .kms ("Failed to parse ECDH response: " ++ e)
  let remote_jwk_data ← match extract_jwk_from_response response_data with
    | some jwk => .ok jwk
    | none => .error (.kms "No key in ECDH response")
  let kty := ((remote_jwk_data.get "kty").bind Value.as_str).getD ""
  let crv := ((remote_jwk_data.get "crv").bind Value.as_str).getD ""
  if kty ≠ "EC" ∨ crv ≠ "P-256" then
    .error (.kms ("Invalid remote key type: kty=" ++ kty ++ ", crv=" ++ crv))
  let remote_public ← parse_remote_key crates remote_jwk_data
  let derived ← (crates.hkdf_sha256 (crates.diffie_hellman local_secret remote_public)).mapError fun e =>
    .kms ("HKDF derivation failed: " ++ e)
  return (derived, (extract_key_uri response_data).getD "")

/-- `initialize` once the details have been parsed. -/
def handshake (rsa_jwk_value : Value) : Kms Unit := do
  let local_secret ← random 32
  let public_jwk_map ← Method.ofExcept (public_jwk crates local_secret)
  let request_id ← new_v4
  let self ← get
  let seed ← random 44
  let wrapped ← Method.ofExcept (crates.encrypt_rsa_oaep_a256gcm
    (crates.to_string (ecdh_request_body self request_id public_jwk_map)) rsa_jwk_value seed)
  let wrapped_response ← send_kms_request crates request_id wrapped
  let (derived, key_uri) ← Method.ofExcept (derive_ephemeral_key crates wrapped_response local_secret)
  modify fun self => { self with ephemeral_key := some derived, ephemeral_key_kid := key_uri, initialized := true }
  let instant ← now
  modify fun self => { self with context_expiration := some (instant + 3600000) }

/-- `initialize`: the ECDH handshake. -/
def initialize_client : Kms Unit := fetch_kms_details crates >>= handshake crates

def is_context_expired : Kms Bool := do
  let self ← get
  if self.initialized = false then return true
  else match self.context_expiration with
    | some exp => do
      let instant ← now
      return exp - 30000 < instant
    | none => return true

/-- The content key in the answer to a retrieve request. -/
def open_key_response (wrapped_response : String) (ephemeral_key : Bytes) : Except WebexError Bytes := do
  let response_body ← unwrap_kms_response crates wrapped_response (.symmetric ephemeral_key)
  let response_data ← (crates.from_slice response_body).mapError fun e =>
    .kms ("Failed to parse key response: " ++ e)
  let key_jwk_data ← match extract_jwk_from_response response_data with
    | some jwk => .ok jwk
    | none => .error (.kms "No key found in KMS response")
  let k_b64 ← match (index key_jwk_data "k").as_str with
    | some k => .ok k
    | none => .error (.kms "Missing 'k' in content key JWK")
  let k_bytes ← (crates.url_safe_no_pad_decode k_b64).mapError fun e =>
    .kms ("Failed to decode content key: " ++ e)
  if k_bytes.length = 32 then .ok k_bytes else .error (.kms "Content key is not 32 bytes")

/-- `cb_last_failure.map_or(true, |t| t.elapsed() >= CB_COOLDOWN)`. -/
def cooled_down : Option Nat → Kms Bool
  | none => return true
  | some t => do
    let instant ← now
    return CB_COOLDOWN ≤ instant - t

/-- The breaker check of `get_key`. -/
def check_breaker : Kms Unit := do
  let self ← get
  if self.cb_state = .open then do
    let cooled ← cooled_down self.cb_last_failure
    Method.reject (!cooled) (.kms "KMS circuit breaker is open — skipping key fetch")
    modify fun self => { self with cb_state := .half_open }
  else return ()

def record_success (key_uri : String) (content_key : Bytes) (self : KmsClient) : KmsClient :=
  { self with
    key_cache := insert self.key_cache key_uri content_key
    cb_failures := 0
    cb_state := if self.cb_state = .half_open then .closed else self.cb_state }

def record_failure (instant : Nat) (self : KmsClient) : KmsClient :=
  { self with
    cb_failures := self.cb_failures + 1
    cb_last_failure := some instant
    cb_state := if CB_FAILURE_THRESHOLD ≤ self.cb_failures + 1 then .open else self.cb_state }

/-- The attempt loop of `get_key`, with the number of attempts that are left. An
    answer that cannot be opened ends the call without a retry. -/
def get_key_attempts (key_uri : String) : (left attempt : Nat) → Kms Bytes
  | 0, _ => throw (.kms "KMS key fetch failed after all retry attempts")
  | left + 1, attempt => do
    let self ← get
    Method.reject (!self.initialized) (.kms "KMS context not initialized")
    let ephemeral_key ← Method.ofExcept (match self.ephemeral_key with
      | some key => .ok key
      | none => .error (.kms "No ephemeral key"))
    let request_id ← new_v4
    let seed ← random 12
    let wrapped ← Method.ofExcept (crates.encrypt_dir_a256gcm
      (crates.to_string (retrieve_body self key_uri request_id)) ephemeral_key self.ephemeral_key_kid seed)
    match ← (send_kms_request crates request_id wrapped).attempt with
    | .ok wrapped_response => do
      let content_key ← Method.ofExcept (open_key_response crates wrapped_response ephemeral_key)
      modify (record_success key_uri content_key)
      return content_key
    | .error e =>
      if attempt < MAX_KMS_ATTEMPTS ∧ is_retryable_kms_error e = true then do
        sleep 1000
        get_key_attempts key_uri left (attempt + 1)
      else do
        let instant ← now
        modify (record_failure instant)
        throw e

/-- The bound on the cache in `get_key`. -/
def bound_cache : Kms Unit := do
  let self ← get
  Method.when (MAX_KEY_CACHE_SIZE < self.key_cache.length) (modify fun self => { self with key_cache := [] })

/-- The renewal of an expired context in `get_key`. -/
def renew_context : Kms Unit := do
  let expired ← is_context_expired
  (initialize_client crates).when expired

/-- What `get_key` does for a URI that is not cached up to the renewal of the context. -/
def check_context : Kms Unit := do
  bound_cache
  renew_context crates

/-- What it does before its first attempt. -/
def get_key_checks : Kms Unit := do
  check_context crates
  check_breaker

def get_key (key_uri : String) : Kms Bytes := do
  let self ← get
  match self.key_cache.lookup key_uri with
  | some cached => return cached
  | none => do
    get_key_checks crates
    get_key_attempts crates key_uri MAX_KMS_ATTEMPTS 1

/-- What comes after the renewal of the context. -/
def request_key (key_uri : String) : Kms Bytes := do
  check_breaker
  get_key_attempts crates key_uri MAX_KMS_ATTEMPTS 1

/-- The cache after the size check of `get_key`. -/
def trimmed (cache : List (String × Bytes)) : List (String × Bytes) :=
  if MAX_KEY_CACHE_SIZE < cache.length then [] else cache

/-- The client after it. -/
def bounded (self : KmsClient) : KmsClient := { self with key_cache := trimmed self.key_cache }

section parts

variable {crates} {self : KmsClient} {key_uri : String}

theorem get_key_of_cached {cached : Bytes} (hcached : self.key_cache.lookup key_uri = some cached) :
    get_key crates key_uri self = .ret (.ok cached, self) := by
  unfold get_key
  rw [Method.get_bind, hcached]
  rfl

theorem get_key_of_uncached (huncached : self.key_cache.lookup key_uri = none) :
    get_key crates key_uri self =
      (get_key_checks crates >>= fun _ => get_key_attempts crates key_uri MAX_KMS_ATTEMPTS 1) self := by
  unfold get_key
  rw [Method.get_bind, huncached]

theorem obeys_get_key_of_uncached {γ : Type} {mon : Monitor Op Res γ} {g : γ}
    {post : Except WebexError Bytes → KmsClient → γ → Prop} (huncached : self.key_cache.lookup key_uri = none) :
    (get_key crates key_uri).Obeys mon self g post ↔
      (get_key_checks crates >>= fun _ => get_key_attempts crates key_uri MAX_KMS_ATTEMPTS 1).Obeys mon self g post := by
  unfold Method.Obeys
  rw [get_key_of_uncached huncached]

theorem get_key_of_unchecked (huncached : self.key_cache.lookup key_uri = none) :
    get_key crates key_uri self = (check_context crates >>= fun _ => request_key crates key_uri) self := by
  rw [get_key_of_uncached huncached]
  unfold get_key_checks request_key
  rw [Method.bind_assoc]

theorem check_context_eq : check_context crates self = renew_context crates (bounded self) := by
  unfold check_context bound_cache bounded trimmed
  rw [Method.bind_assoc, Method.get_bind]
  by_cases hfull : MAX_KEY_CACHE_SIZE < self.key_cache.length
  · rw [decide_eq_true hfull, if_pos hfull]
    rfl
  · rw [decide_eq_false hfull, if_neg hfull]
    rfl

theorem obeys_get_key_checks {γ : Type} {mon : Monitor Op Res γ} {g : γ}
    {post : Except WebexError Unit → KmsClient → γ → Prop} :
    (get_key_checks crates).Obeys mon self g post ↔
      (renew_context crates >>= fun _ => check_breaker).Obeys mon (bounded self) g post := by
  unfold get_key_checks
  rw [Method.obeys_bind, Method.obeys_bind, Method.Obeys, check_context_eq]
  rfl

end parts

end webex.rust.kms_client

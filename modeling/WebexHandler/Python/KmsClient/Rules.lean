import WebexHandler.Python.KmsClient.Retrieval

open interaction json
open webex.key_retrieval

namespace webex.python.key_retrieval

variable {lib : Library}

theorem post_failed_fails (request_id : String) (error : Failure) : Fails (post_failed request_id error) := by
  cases error with
  | kms_error message => exact fails_throw _
  | other message =>
    apply fails_bind (sends_update _).exchanges
    intro _
    exact fails_throw _

theorem post_and_wait_sends (request_id wrapped : String) : Sends (post_and_wait request_id wrapped) := by
  unfold post_and_wait
  apply sends_bind (sends_update _)
  intro _
  apply sends_bind sends_read
  intro self
  apply sends_bind_http_do
  · intro posted hok
    simp only [hok, if_true]
    apply sends_bind_response
    · intro wrapped_response
      exact sends_pure wrapped_response
    · exact fails_throw _
  · intro posted hrefused
    simp only [hrefused, Bool.false_eq_true, if_false]
    apply fails_bind (sends_update _).exchanges
    intro _
    apply fails_bind (Method.keeps_attempt (exchanges_check (.text posted) trivial))
    intro error_body
    cases error_body with
    | ok error_body => exact fails_throw _
    | error e => exact post_failed_fails request_id e
  · intro e
    exact post_failed_fails request_id e

theorem send_kms_request_sends (request_id wrapped : String) : Sends (send_kms_request request_id wrapped) := by
  unfold send_kms_request
  apply sends_bind sends_guard
  intro _
  apply sends_bind sends_lock
  intro _
  exact sends_attempt_unlock (post_and_wait_sends request_id wrapped)

/-- A response is decrypted with the key it is given only. -/
theorem unwrap_kms_response_keeps {token : String} {key : DecryptionKey} {g : Exchange} (hnone : g.held = none)
    (hallowed : key_held.allowed g (.decrypt key token)) :
    (unwrap_kms_response token key).Obeys key_held () g fun _ _ g' => g'.held = none := by
  unfold unwrap_kms_response
  split
  · refine Method.obeys_bind_request.mpr ⟨hallowed, ?_⟩
    rintro payload _ ⟨rfl, -⟩
    exact hnone
  · exact exchanges_check (.decode_payload _) trivial () g hnone
  · exact hnone

theorem unwrap_kms_response_exchanges (token : String) (local_key : LocalKey) :
    Exchanges (unwrap_kms_response token (.ecdh local_key)) :=
  fun _ _ hnone => unwrap_kms_response_keeps hnone trivial

theorem load_jwk_exchanges (data : Value) : Exchanges (load_jwk data) := by
  unfold load_jwk
  split
  · apply Method.keeps_bind (exchanges_check (.parse _) trivial)
    intro data
    exact exchanges_check (.import_key _) trivial
  · exact exchanges_check (.import_key _) trivial
  · exact Method.keeps_throw _

theorem fetch_kms_details_exchanges : Exchanges (fetch_kms_details lib) := by
  unfold fetch_kms_details
  apply Method.keeps_bind sends_read.exchanges
  intro self
  apply Method.keeps_bind (exchanges_request (.http_do _) trivial)
  intro fetched
  apply Method.keeps_bind (Method.keeps_ofExcept _)
  intro fetched
  apply Method.keeps_bind (Method.keeps_reject _ _)
  intro _
  apply Method.keeps_bind (exchanges_check (.json _) trivial)
  intro kms_details
  apply Method.keeps_bind (Method.keeps_ofExcept _)
  intro kms_cluster
  apply Method.keeps_bind (sends_update _).exchanges
  intro _
  apply Method.keeps_bind (Method.keeps_ofExcept _)
  intro _
  apply Method.keeps_bind (Method.keeps_ofExcept _)
  intro rsa_public_key_raw
  split
  · exact exchanges_check (.parse _) trivial
  · exact Method.keeps_pure _

theorem ecdh_exchange_exchanges (rsa_public_key_raw : Value) : Exchanges (ecdh_exchange rsa_public_key_raw) := by
  unfold ecdh_exchange
  apply Method.keeps_bind (exchanges_check .generate_key trivial)
  intro local_ecdh_key
  apply Method.keeps_bind (exchanges_request .new_request_id trivial)
  intro request_id
  apply Method.keeps_bind sends_read.exchanges
  intro self
  apply Method.keeps_bind (exchanges_check (.import_key _) trivial)
  intro rsa_key
  apply Method.keeps_bind (exchanges_check (.wrap_rsa _ _) trivial)
  intro wrapped
  apply Method.keeps_bind (send_kms_request_sends _ _).exchanges
  intro wrapped_response
  apply Method.keeps_bind (unwrap_kms_response_exchanges wrapped_response local_ecdh_key)
  intro response_body
  apply Method.keeps_bind (exchanges_check (.parse _) trivial)
  intro response_data
  exact Method.keeps_pure _

theorem derive_shared_key_exchanges (local_ecdh_key : LocalKey) (response_data : Value) :
    Exchanges (derive_shared_key local_ecdh_key response_data) := by
  unfold derive_shared_key
  apply Method.keeps_bind (Method.keeps_ofExcept _)
  intro remote_jwk_data
  apply Method.keeps_bind (Method.keeps_reject _ _)
  intro _
  apply Method.keeps_bind (load_jwk_exchanges remote_jwk_data)
  intro remote_ecdh_key
  apply Method.keeps_bind (Method.keeps_reject _ _)
  intro _
  apply Method.keeps_bind (Method.keeps_ofExcept _)
  intro remote_key_uri
  apply Method.keeps_bind (exchanges_check (.derive _ _) trivial)
  intro shared_key
  exact Method.keeps_pure _

theorem handshake_exchanges : Exchanges (handshake lib) := by
  unfold handshake
  apply Method.keeps_bind fetch_kms_details_exchanges
  intro rsa_public_key_raw
  apply Method.keeps_bind (ecdh_exchange_exchanges rsa_public_key_raw)
  rintro ⟨local_ecdh_key, response_data⟩
  apply Method.keeps_bind (derive_shared_key_exchanges local_ecdh_key response_data)
  intro shared_key
  apply Method.keeps_bind (exchanges_request (.store_key _) trivial)
  intro _
  apply Method.keeps_bind (Method.keeps_ofExcept _)
  intro expiration
  apply Method.keeps_bind (sends_update _).exchanges
  intro _
  exact (sends_update _).exchanges

theorem initialize_client_exchanges : Exchanges (initialize_client lib) := by
  apply Method.keeps_tryCatch handshake_exchanges
  intro error
  cases error with
  | kms_error message => exact Method.keeps_throw _
  | other message => exact Method.keeps_throw _

theorem wrap_request_wraps (key_uri request_id : String) : Wraps (wrap_request key_uri request_id) := by
  unfold wrap_request
  apply wraps_bind sends_read.exchanges
  intro self
  apply wraps_bind_load_key
  · exact fails_throw _
  · intro key
    exact check_wrap

theorem send_and_unwrap_finishes (request_id wrapped : String) : Finishes (send_and_unwrap request_id wrapped) :=
  finishes_bind_load_key (send_kms_request_sends request_id wrapped) fun _ _ => unwrap_kms_response_keeps rfl rfl

theorem store_content_key_exchanges (key_uri response_body : String) :
    Exchanges (store_content_key key_uri response_body) := by
  unfold store_content_key
  apply Method.keeps_bind (exchanges_check (.parse _) trivial)
  intro response_data
  apply Method.keeps_bind (Method.keeps_ofExcept _)
  intro key_data
  apply Method.keeps_bind (Method.keeps_reject _ _)
  intro _
  apply Method.keeps_bind (load_jwk_exchanges key_data)
  intro content_key
  apply Method.keeps_bind (sends_update _).exchanges
  intro _
  exact Method.keeps_pure _

theorem retrieve_key_exchanges (key_uri : String) : Exchanges (retrieve_key key_uri) := by
  unfold retrieve_key
  apply Method.keeps_bind (exchanges_request .new_request_id trivial)
  intro request_id
  apply exchanges_bind_wraps (wrap_request_wraps key_uri request_id)
  intro wrapped
  exact finishes_bind (send_and_unwrap_finishes request_id wrapped) fun _ => store_content_key_exchanges _ _

theorem get_key_attempts_exchanges (key_uri : String) (left attempt : Nat) :
    Exchanges (get_key_attempts lib key_uri left attempt) := by
  induction left generalizing attempt with
  | zero => exact Method.keeps_throw _
  | succ left ih =>
    unfold get_key_attempts
    apply Method.keeps_bind (Method.keeps_attempt (retrieve_key_exchanges key_uri))
    intro outcome
    split
    · exact Method.keeps_pure _
    · exact Method.keeps_throw _
    · split
      · exact Method.keeps_bind (exchanges_request (.sleep _) trivial) fun _ => ih _
      · exact Method.keeps_bind (sends_update _).exchanges fun _ => Method.keeps_throw _

theorem fetch_key_exchanges (key_uri : String) : Exchanges (fetch_key lib key_uri) := by
  unfold fetch_key
  apply Method.keeps_bind sends_read.exchanges
  intro self
  split
  · exact Method.keeps_pure _
  · apply Method.keeps_bind (exchanges_request .now trivial)
    intro time
    apply Method.keeps_bind (Method.keeps_ofExcept _)
    intro expired
    apply Method.keeps_bind (Method.keeps_when fun _ => initialize_client_exchanges)
    intro _
    apply Method.keeps_bind sends_read.exchanges
    intro self
    apply Method.keeps_bind (Method.keeps_reject _ _)
    intro _
    apply Method.keeps_bind (exchanges_request .has_key trivial)
    intro present
    apply Method.keeps_bind (Method.keeps_reject _ _)
    intro _
    apply Method.keeps_bind exchanges_guard
    intro _
    exact get_key_attempts_exchanges key_uri _ _

theorem get_key_exchanges (key_uri : String) : Exchanges (get_key lib key_uri) := by
  apply Method.keeps_tryCatch (fetch_key_exchanges key_uri)
  intro error
  cases error with
  | kms_error message => exact Method.keeps_throw _
  | other message => exact Method.keeps_bind (sends_update _).exchanges fun _ => Method.keeps_throw _

end webex.python.key_retrieval

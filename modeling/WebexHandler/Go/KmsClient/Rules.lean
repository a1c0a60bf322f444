import WebexHandler.Go.KmsClient.Retrieval

open interaction json
open webex.key_retrieval

namespace webex.go.key_retrieval

variable {lib : Library}

theorem abandon_fails {α : Type} (request_id : String) (error : Failure) :
    Fails (abandon request_id error : Kms α) := by
  apply fails_bind sends_unlock.exchanges
  intro _
  apply fails_bind (sends_update _).exchanges
  intro _
  exact fails_throw error

theorem send_kms_request_sends (request_id wrapped : String) : Sends (send_kms_request request_id wrapped) := by
  unfold send_kms_request
  apply sends_bind sends_guard
  intro _
  apply sends_bind sends_lock
  intro _
  apply sends_bind sends_read
  intro kc
  apply sends_bind_http_do
  · intro http_resp hok
    simp only [hok, if_true]
    apply sends_bind_response
    · intro response
      exact sends_bind sends_unlock fun _ => sends_pure response
    · exact abandon_fails _ _
  · intro http_resp hrefused
    simp only [hrefused, Bool.false_eq_true, if_false]
    exact abandon_fails _ _
  · intro e
    exact abandon_fails _ _

/-- A response is decrypted with the key it is given only. -/
theorem unwrap_kms_response_keeps {wrapped : String} {key : DecryptionKey} {g : Exchange} (hnone : g.held = none)
    (hallowed : key_held.allowed g (.decrypt key wrapped)) :
    (unwrap_kms_response wrapped key).Obeys key_held () g fun _ _ g' => g'.held = none := by
  unfold unwrap_kms_response
  split
  · refine Method.obeys_bind_request.mpr ⟨trivial, ?_⟩
    rintro parsed _ ⟨rfl, -⟩
    cases parsed with
    | error e => exact hnone
    | ok _ =>
      refine Method.obeys_bind_request.mpr ⟨hallowed, ?_⟩
      rintro plaintext _ ⟨rfl, -⟩
      exact hnone
  · exact exchanges_check (.decode_payload _) trivial () g hnone
  · exact hnone

theorem unwrap_kms_response_exchanges (wrapped : String) (local_key : LocalKey) :
    Exchanges (unwrap_kms_response wrapped (.ecdh local_key)) :=
  fun _ _ hnone => unwrap_kms_response_keeps hnone trivial

theorem fetch_kms_details_exchanges : Exchanges (fetch_kms_details lib) := by
  unfold fetch_kms_details
  apply Method.keeps_bind sends_read.exchanges
  intro kc
  apply Method.keeps_bind (exchanges_check (.http_do _) trivial)
  intro resp
  apply Method.keeps_bind (Method.keeps_reject _ _)
  intro _
  apply Method.keeps_bind (exchanges_check (.details _) trivial)
  intro kms_details
  apply Method.keeps_bind (Method.keeps_ofExcept _)
  intro _
  apply Method.keeps_bind (sends_update _).exchanges
  intro _
  split
  · exact Method.keeps_throw _
  · exact Method.keeps_throw _
  · apply Method.keeps_bind (exchanges_check (.parse _) trivial)
    intro rsa_jwk
    exact exchanges_check (.import_key _) trivial
  · exact exchanges_check (.import_key _) trivial

theorem ecdh_exchange_exchanges (rsa_key : Value) : Exchanges (ecdh_exchange rsa_key) := by
  unfold ecdh_exchange
  apply Method.keeps_bind (exchanges_check .generate_key trivial)
  intro local_key
  apply Method.keeps_bind (exchanges_request .new_request_id trivial)
  intro request_id
  apply Method.keeps_bind sends_read.exchanges
  intro kc
  apply Method.keeps_bind (exchanges_check (.wrap_rsa _ _) trivial)
  intro wrapped
  apply Method.keeps_bind (send_kms_request_sends _ _).exchanges
  intro wrapped_response
  apply Method.keeps_bind (unwrap_kms_response_exchanges wrapped_response local_key)
  intro response
  apply Method.keeps_bind (exchanges_check (.parse _) trivial)
  intro response_data
  exact Method.keeps_pure _

theorem derive_shared_key_exchanges (local_key : LocalKey) (response_data : Value) :
    Exchanges (derive_shared_key local_key response_data) := by
  unfold derive_shared_key
  split
  · exact Method.keeps_throw _
  · apply Method.keeps_bind (exchanges_check (.import_key _) trivial)
    intro remote_jwk
    apply Method.keeps_bind (Method.keeps_reject _ _)
    intro _
    apply Method.keeps_bind (Method.keeps_reject _ _)
    intro _
    apply Method.keeps_bind (exchanges_check (.derive _ _) trivial)
    intro shared_key
    exact Method.keeps_pure _

theorem initialize_client_exchanges : Exchanges (initialize_client lib) := by
  unfold initialize_client
  apply Method.keeps_bind fetch_kms_details_exchanges
  intro rsa_key
  apply Method.keeps_bind (ecdh_exchange_exchanges rsa_key)
  rintro ⟨local_key, response_data⟩
  apply Method.keeps_bind (derive_shared_key_exchanges local_key response_data)
  intro shared_key
  apply Method.keeps_bind (exchanges_request (.store_key _) trivial)
  intro _
  apply Method.keeps_bind (sends_update _).exchanges
  intro _
  apply Method.keeps_bind (sends_update _).exchanges
  intro _
  split
  · exact (sends_update _).exchanges
  · exact Method.keeps_pure _

theorem is_context_expired_exchanges : Exchanges is_context_expired := by
  unfold is_context_expired
  apply Method.keeps_bind sends_read.exchanges
  intro kc
  split
  · apply Method.keeps_bind sends_read.exchanges
    intro kc
    apply Method.keeps_bind (exchanges_request .now trivial)
    intro time
    exact Method.keeps_pure _
  · exact Method.keeps_pure _

/-- The second read finds the key of the first one, which gives the request its id. -/
theorem wrap_request_wraps (key_uri request_id : String) : Wraps (wrap_request key_uri request_id) := by
  unfold wrap_request
  apply wraps_bind sends_read.exchanges
  intro kc
  apply wraps_bind_load_key
  · exact fails_throw _
  · intro key
    refine Method.obeys_bind_request.mpr ⟨trivial, ?_⟩
    rintro header _ ⟨rfl, hheader⟩
    obtain rfl := hheader header rfl key rfl
    simp only [Exchange.after]
    exact check_wrap

theorem send_and_unwrap_finishes (request_id wrapped : String) : Finishes (send_and_unwrap request_id wrapped) :=
  finishes_bind_load_key (send_kms_request_sends request_id wrapped) fun _ _ => unwrap_kms_response_keeps rfl rfl

theorem store_content_key_exchanges (key_uri response : String) : Exchanges (store_content_key key_uri response) := by
  unfold store_content_key
  apply Method.keeps_bind (exchanges_check (.parse _) trivial)
  intro response_data
  split
  · exact Method.keeps_throw _
  · apply Method.keeps_bind (exchanges_check (.import_key _) trivial)
    intro content_key
    apply Method.keeps_bind (sends_update _).exchanges
    intro _
    exact Method.keeps_pure _

theorem get_key_attempts_exchanges (key_uri : String) (left attempt : Nat) :
    Exchanges (get_key_attempts lib key_uri left attempt) := by
  induction left generalizing attempt with
  | zero => exact Method.keeps_throw _
  | succ left ih =>
    unfold get_key_attempts
    apply Method.keeps_bind (exchanges_request .new_request_id trivial)
    intro request_id
    apply exchanges_bind_wraps (wrap_request_wraps key_uri request_id)
    intro wrapped
    apply finishes_bind (finishes_attempt (send_and_unwrap_finishes request_id wrapped))
    intro outcome
    cases outcome with
    | ok response => exact store_content_key_exchanges key_uri response
    | error error =>
      dsimp only
      split
      · exact Method.keeps_bind (exchanges_request (.sleep _) trivial) fun _ => ih _
      · exact Method.keeps_bind (sends_update _).exchanges fun _ => Method.keeps_throw _

theorem get_key_exchanges (key_uri : String) : Exchanges (get_key lib key_uri) := by
  unfold get_key
  apply Method.keeps_bind sends_read.exchanges
  intro kc
  split
  · exact Method.keeps_pure _
  · apply Method.keeps_bind is_context_expired_exchanges
    intro expired
    apply Method.keeps_bind (Method.keeps_when fun _ => initialize_client_exchanges)
    intro _
    apply Method.keeps_bind exchanges_guard
    intro _
    apply Method.keeps_bind sends_read.exchanges
    intro kc
    apply Method.keeps_bind (Method.keeps_reject _ _)
    intro _
    apply Method.keeps_bind (exchanges_request .has_key trivial)
    intro present
    apply Method.keeps_bind (Method.keeps_reject _ _)
    intro _
    exact get_key_attempts_exchanges key_uri _ _

end webex.go.key_retrieval

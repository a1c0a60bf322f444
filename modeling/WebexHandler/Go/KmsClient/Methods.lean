import WebexHandler.Go.KmsClient.Retrieval
import WebexHandler.KeyRetrieval.Methods

open interaction json
open webex.key_retrieval

namespace webex.go.key_retrieval

/-- The updates of the client outside `sendKmsRequest`, but for the last step of the
    handshake. -/
inductive Write (lib : Library) : (Nat → KmsClient → KmsClient) → Prop
  | kms_cluster (kms_cluster : String) (hvalid : validate_webex_url lib kms_cluster "kms" = .ok ()) :
      Write lib fun _ kc => { kc with kms_cluster := .string kms_cluster }
  | lifetime : Write lib fun time kc => { kc with context_expiration := some (time + 3600000) }
  | expiration (expiration : Nat) : Write lib fun _ kc => { kc with context_expiration := some expiration }
  | failure : Write lib record_failure
  | success (key_uri : String) (content_key : Value) : Write lib fun _ kc => record_success key_uri content_key kc

theorem initialize_client_eq (lib : Library) : initialize_client lib = (do
    let rsa_key ← fetch_kms_details lib
    let exchanged ← ecdh_exchange rsa_key
    let shared_key ← derive_shared_key exchanged.1 exchanged.2
    finish_handshake lib shared_key exchanged.2) := rfl

abbrev Rule {γ : Type} (lib : Library) (mon : Monitor Op Res γ) (inv : γ → Prop) : Prop :=
  webex.key_retrieval.Rule send_kms_request (Write lib) check_breaker mon inv

abbrev ContextRule {γ : Type} (lib : Library) (mon : Monitor Op Res γ) (inv : γ → Prop) : Prop :=
  webex.key_retrieval.ContextRule send_kms_request (Write lib) check_breaker mon inv

theorem unwrap_kms_response_plain (wrapped : String) (key : DecryptionKey) : Plain (unwrap_kms_response wrapped key) := by
  unfold unwrap_kms_response
  split
  · apply plain_bind (plain_check rfl)
    intro _
    exact plain_check rfl
  · exact plain_check rfl
  · exact Method.keeps_throw _

theorem derive_shared_key_plain (local_key : LocalKey) (response_data : Value) :
    Plain (derive_shared_key local_key response_data) := by
  unfold derive_shared_key
  split
  · exact Method.keeps_throw _
  · apply plain_bind (plain_check rfl)
    intro remote_jwk
    apply plain_bind (Method.keeps_reject _ _)
    intro _
    apply plain_bind (Method.keeps_reject _ _)
    intro _
    apply plain_bind (plain_check rfl)
    intro shared_key
    exact Method.keeps_pure _

theorem is_context_expired_plain : Plain is_context_expired := by
  unfold is_context_expired
  apply plain_bind (plain_request rfl)
  intro kc
  split
  · apply plain_bind (plain_request rfl)
    intro kc
    apply plain_bind (plain_request rfl)
    intro time
    exact Method.keeps_pure _
  · exact Method.keeps_pure _

variable {γ : Type} {lib : Library} {mon : Monitor Op Res γ} {inv : γ → Prop}

theorem Rule.fetch_kms_details (rule : Rule lib mon inv) : (fetch_kms_details lib).Keeps mon fun _ g => inv g := by
  unfold go.key_retrieval.fetch_kms_details
  apply rule.fetch_check
  intro resp
  apply Method.keeps_bind (Method.keeps_reject _ _)
  intro _
  apply Method.keeps_bind (rule.plain (plain_check rfl))
  intro kms_details
  apply Method.keeps_bind_ofExcept
  intro _ hvalid
  apply Method.keeps_bind (rule.update (.kms_cluster _ (Method.mapError_eq_ok.mp hvalid)))
  intro _
  split
  · exact Method.keeps_throw _
  · exact Method.keeps_throw _
  · apply Method.keeps_bind (rule.plain (plain_check rfl))
    intro rsa_jwk
    exact rule.plain (plain_check rfl)
  · exact rule.plain (plain_check rfl)

theorem Rule.ecdh_exchange (rule : Rule lib mon inv) (rsa_key : Value) :
    (ecdh_exchange rsa_key).Keeps mon fun _ g => inv g := by
  unfold go.key_retrieval.ecdh_exchange
  apply Method.keeps_bind (rule.plain (plain_check rfl))
  intro local_key
  apply Method.keeps_bind (rule.plain (plain_request rfl))
  intro request_id
  apply Method.keeps_bind (rule.plain (plain_request rfl))
  intro kc
  apply Method.keeps_bind (rule.plain (plain_check rfl))
  intro wrapped
  apply Method.keeps_bind (rule.send request_id wrapped)
  intro wrapped_response
  apply Method.keeps_bind (rule.plain (unwrap_kms_response_plain _ _))
  intro response
  apply Method.keeps_bind (rule.plain (plain_check rfl))
  intro response_data
  exact Method.keeps_pure _

theorem Rule.initialize_client (rule : Rule lib mon inv)
    (hfinish : ∀ shared_key response_data, (finish_handshake lib shared_key response_data).Keeps mon fun _ g => inv g) :
    (initialize_client lib).Keeps mon fun _ g => inv g := by
  rw [initialize_client_eq]
  apply Method.keeps_bind rule.fetch_kms_details
  intro rsa_key
  apply Method.keeps_bind (rule.ecdh_exchange rsa_key)
  intro exchanged
  apply Method.keeps_bind (rule.plain (derive_shared_key_plain _ _))
  intro shared_key
  exact hfinish shared_key _

theorem ContextRule.initialize_client (rule : ContextRule lib mon inv) :
    (initialize_client lib).Keeps mon fun _ g => inv g := by
  apply Rule.initialize_client rule.toRule
  intro shared_key response_data
  unfold finish_handshake
  apply Method.keeps_bind (rule.store_key shared_key).request
  intro _
  apply Method.keeps_bind rule.initialized.request
  intro _
  apply Method.keeps_bind (rule.update .lifetime)
  intro _
  split
  · exact rule.update (.expiration _)
  · exact Method.keeps_pure _

theorem Rule.wrap_request (rule : Rule lib mon inv) (hload : KeepsView mon inv .load_key) (key_uri request_id : String) :
    (wrap_request key_uri request_id).Keeps mon fun _ g => inv g := by
  unfold go.key_retrieval.wrap_request
  apply Method.keeps_bind (rule.plain (plain_request rfl))
  intro kc
  apply Method.keeps_bind hload.request
  intro recipient
  cases recipient with
  | none => exact Method.keeps_throw _
  | some recipient =>
    apply Method.keeps_bind hload.request
    intro header
    cases header with
    | none => exact Method.keeps_throw _
    | some header => exact rule.plain (plain_check rfl)

theorem Rule.send_and_unwrap (rule : Rule lib mon inv) (hload : KeepsView mon inv .load_key) (request_id wrapped : String) :
    (send_and_unwrap request_id wrapped).Keeps mon fun _ g => inv g := by
  unfold go.key_retrieval.send_and_unwrap
  apply Method.keeps_bind (rule.send request_id wrapped)
  intro wrapped_response
  apply Method.keeps_bind hload.request
  intro ephemeral_key
  cases ephemeral_key with
  | none => exact Method.keeps_throw _
  | some ephemeral_key => exact rule.plain (unwrap_kms_response_plain _ _)

theorem Rule.store_content_key (rule : Rule lib mon inv) (key_uri response : String) :
    (store_content_key key_uri response).Keeps mon fun _ g => inv g := by
  unfold go.key_retrieval.store_content_key
  apply Method.keeps_bind (rule.plain (plain_check rfl))
  intro response_data
  split
  · exact Method.keeps_throw _
  · apply Method.keeps_bind (rule.plain (plain_check rfl))
    intro content_key
    apply Method.keeps_bind (rule.update (.success key_uri content_key))
    intro _
    exact Method.keeps_pure _

theorem Rule.get_key_attempts (rule : Rule lib mon inv) (hload : KeepsView mon inv .load_key) (key_uri : String)
    (left attempt : Nat) : (get_key_attempts lib key_uri left attempt).Keeps mon fun _ g => inv g := by
  induction left generalizing attempt with
  | zero => exact Method.keeps_throw _
  | succ left ih =>
    unfold go.key_retrieval.get_key_attempts
    apply Method.keeps_bind (rule.plain (plain_request rfl))
    intro request_id
    apply Method.keeps_bind (rule.wrap_request hload key_uri request_id)
    intro wrapped
    apply Method.keeps_bind (Method.keeps_attempt (rule.send_and_unwrap hload request_id wrapped))
    intro outcome
    cases outcome with
    | ok response => exact rule.store_content_key key_uri response
    | error error =>
      dsimp only
      split
      · exact Method.keeps_bind (rule.plain (plain_request rfl)) fun _ => ih _
      · exact Method.keeps_bind (rule.update .failure) fun _ => Method.keeps_throw _

theorem ContextRule.get_key (rule : ContextRule lib mon inv) (key_uri : String) :
    (get_key lib key_uri).Keeps mon fun _ g => inv g := by
  unfold go.key_retrieval.get_key
  apply Method.keeps_bind (rule.plain (plain_request rfl))
  intro kc
  split
  · exact Method.keeps_pure _
  · apply Method.keeps_bind (rule.plain is_context_expired_plain)
    intro expired
    apply Method.keeps_bind (Method.keeps_when fun _ => rule.initialize_client)
    intro _
    apply Method.keeps_bind (keeps_guard rule.check_breaker)
    intro _
    apply Method.keeps_bind (rule.plain (plain_request rfl))
    intro kc
    apply Method.keeps_bind (Method.keeps_reject _ _)
    intro _
    apply Method.keeps_bind rule.has_key.request
    intro present
    apply Method.keeps_bind (Method.keeps_reject _ _)
    intro _
    exact Rule.get_key_attempts rule.toRule rule.load_key key_uri _ _

end webex.go.key_retrieval

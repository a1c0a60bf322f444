import WebexHandler.KeyRetrieval.Methods
import WebexHandler.Python.KmsClient.Retrieval

open interaction json
open webex.key_retrieval

namespace webex.python.key_retrieval

/-- The updates of the client outside `_send_kms_request`, but for the last step of the
    handshake. -/
inductive Write : (Nat → KmsClient → KmsClient) → Prop
  | kms_cluster (kms_cluster : Value) : Write fun _ self => { self with kms_cluster := kms_cluster }
  | expiration (expiration : Nat → Nat × Bool) : Write fun time self =>
      { self with context_expiration := some (expiration time).1, naive_expiration := (expiration time).2 }
  | failure : Write cb_record_failure
  | success (key_uri : String) (content_key : Value) :
      Write fun _ self => cb_reset (cache_key key_uri content_key self)

theorem handshake_eq (lib : Library) : handshake lib = (do
    let rsa_public_key_raw ← fetch_kms_details lib
    let exchanged ← ecdh_exchange rsa_public_key_raw
    let shared_key ← derive_shared_key exchanged.1 exchanged.2
    finish_handshake lib shared_key exchanged.2) := rfl

abbrev Rule {γ : Type} (mon : Monitor Op Res γ) (inv : γ → Prop) : Prop :=
  webex.key_retrieval.Rule send_kms_request Write check_breaker mon inv

abbrev ContextRule {γ : Type} (mon : Monitor Op Res γ) (inv : γ → Prop) : Prop :=
  webex.key_retrieval.ContextRule send_kms_request Write check_breaker mon inv

theorem plain_call {α : Type} {op : Op} {h : Except Failure α = Res op} (hplain : op.plain = true) : Plain (call op h) :=
  plain_check hplain

theorem unwrap_kms_response_plain (token : String) (key : DecryptionKey) : Plain (unwrap_kms_response token key) := by
  unfold unwrap_kms_response
  split
  · exact plain_call rfl
  · exact plain_call rfl
  · exact Method.keeps_throw _

theorem load_jwk_plain (data : Value) : Plain (load_jwk data) := by
  unfold load_jwk
  split
  · apply plain_bind (plain_call rfl)
    intro data
    exact plain_call rfl
  · exact plain_call rfl
  · exact Method.keeps_throw _

theorem derive_shared_key_plain (local_ecdh_key : LocalKey) (response_data : Value) :
    Plain (derive_shared_key local_ecdh_key response_data) := by
  unfold derive_shared_key
  apply plain_bind (Method.keeps_ofExcept _)
  intro remote_jwk_data
  apply plain_bind (Method.keeps_reject _ _)
  intro _
  apply plain_bind (load_jwk_plain _)
  intro remote_ecdh_key
  apply plain_bind (Method.keeps_reject _ _)
  intro _
  apply plain_bind (Method.keeps_ofExcept _)
  intro remote_key_uri
  apply plain_bind (plain_call rfl)
  intro shared_key
  exact Method.keeps_pure _

variable {γ : Type} {lib : Library} {mon : Monitor Op Res γ} {inv : γ → Prop}

theorem Rule.fetch_kms_details (rule : Rule mon inv) : (fetch_kms_details lib).Keeps mon fun _ g => inv g := by
  unfold python.key_retrieval.fetch_kms_details
  apply rule.fetch_bind
  intro fetched
  apply Method.keeps_bind (Method.keeps_ofExcept _)
  intro fetched
  apply Method.keeps_bind (Method.keeps_reject _ _)
  intro _
  apply Method.keeps_bind (rule.plain (plain_call rfl))
  intro kms_details
  apply Method.keeps_bind (Method.keeps_ofExcept _)
  intro kms_cluster
  apply Method.keeps_bind (rule.update (.kms_cluster _))
  intro _
  apply Method.keeps_bind (Method.keeps_ofExcept _)
  intro _
  apply Method.keeps_bind (Method.keeps_ofExcept _)
  intro rsa_public_key_raw
  split
  · exact rule.plain (plain_call rfl)
  · exact Method.keeps_pure _

theorem Rule.ecdh_exchange (rule : Rule mon inv) (rsa_public_key_raw : Value) :
    (ecdh_exchange rsa_public_key_raw).Keeps mon fun _ g => inv g := by
  unfold python.key_retrieval.ecdh_exchange
  apply Method.keeps_bind (rule.plain (plain_call rfl))
  intro local_ecdh_key
  apply Method.keeps_bind (rule.plain (plain_request rfl))
  intro request_id
  apply Method.keeps_bind (rule.plain (plain_request rfl))
  intro self
  apply Method.keeps_bind (rule.plain (plain_call rfl))
  intro rsa_key
  apply Method.keeps_bind (rule.plain (plain_check rfl))
  intro wrapped
  apply Method.keeps_bind (rule.send request_id wrapped)
  intro wrapped_response
  apply Method.keeps_bind (rule.plain (unwrap_kms_response_plain _ _))
  intro response_body
  apply Method.keeps_bind (rule.plain (plain_call rfl))
  intro response_data
  exact Method.keeps_pure _

theorem Rule.initialize_client (rule : Rule mon inv)
    (hfinish : ∀ shared_key response_data, (finish_handshake lib shared_key response_data).Keeps mon fun _ g => inv g) :
    (initialize_client lib).Keeps mon fun _ g => inv g := by
  have hhandshake : (handshake lib).Keeps mon fun _ g => inv g := by
    rw [handshake_eq]
    apply Method.keeps_bind rule.fetch_kms_details
    intro rsa_public_key_raw
    apply Method.keeps_bind (rule.ecdh_exchange rsa_public_key_raw)
    intro exchanged
    apply Method.keeps_bind (rule.plain (derive_shared_key_plain _ _))
    intro shared_key
    exact hfinish shared_key _
  apply Method.keeps_tryCatch hhandshake
  intro e
  cases e with
  | kms_error message => exact Method.keeps_throw _
  | other message => exact Method.keeps_throw _

theorem ContextRule.initialize_client (rule : ContextRule mon inv) :
    (initialize_client lib).Keeps mon fun _ g => inv g := by
  apply Rule.initialize_client rule.toRule
  intro shared_key response_data
  unfold finish_handshake
  apply Method.keeps_bind (rule.store_key shared_key).request
  intro _
  apply Method.keeps_bind (Method.keeps_ofExcept _)
  intro expiration
  apply Method.keeps_bind (rule.update (.expiration _))
  intro _
  exact rule.initialized.request

theorem Rule.wrap_request (rule : Rule mon inv) (hload : KeepsView mon inv .load_key) (key_uri request_id : String) :
    (wrap_request key_uri request_id).Keeps mon fun _ g => inv g := by
  unfold python.key_retrieval.wrap_request
  apply Method.keeps_bind (rule.plain (plain_request rfl))
  intro self
  apply Method.keeps_bind hload.request
  intro key
  cases key with
  | none => exact Method.keeps_throw _
  | some key => exact rule.plain (plain_check rfl)

theorem Rule.send_and_unwrap (rule : Rule mon inv) (hload : KeepsView mon inv .load_key) (request_id wrapped : String) :
    (send_and_unwrap request_id wrapped).Keeps mon fun _ g => inv g := by
  unfold python.key_retrieval.send_and_unwrap
  apply Method.keeps_bind (rule.send request_id wrapped)
  intro wrapped_response
  apply Method.keeps_bind hload.request
  intro ephemeral_key
  cases ephemeral_key with
  | none => exact Method.keeps_throw _
  | some ephemeral_key => exact rule.plain (unwrap_kms_response_plain _ _)

theorem Rule.store_content_key (rule : Rule mon inv) (key_uri response_body : String) :
    (store_content_key key_uri response_body).Keeps mon fun _ g => inv g := by
  unfold python.key_retrieval.store_content_key
  apply Method.keeps_bind (rule.plain (plain_call rfl))
  intro response_data
  apply Method.keeps_bind (Method.keeps_ofExcept _)
  intro key_data
  apply Method.keeps_bind (Method.keeps_reject _ _)
  intro _
  apply Method.keeps_bind (rule.plain (load_jwk_plain _))
  intro content_key
  apply Method.keeps_bind (rule.update (.success key_uri content_key))
  intro _
  exact Method.keeps_pure _

theorem Rule.retrieve_key (rule : Rule mon inv) (hload : KeepsView mon inv .load_key) (key_uri : String) :
    (retrieve_key key_uri).Keeps mon fun _ g => inv g := by
  unfold python.key_retrieval.retrieve_key
  apply Method.keeps_bind (rule.plain (plain_request rfl))
  intro request_id
  apply Method.keeps_bind (rule.wrap_request hload key_uri request_id)
  intro wrapped
  apply Method.keeps_bind (rule.send_and_unwrap hload request_id wrapped)
  intro response_body
  exact rule.store_content_key key_uri response_body

theorem Rule.get_key_attempts (rule : Rule mon inv) (hload : KeepsView mon inv .load_key) (key_uri : String)
    (left attempt : Nat) : (get_key_attempts lib key_uri left attempt).Keeps mon fun _ g => inv g := by
  induction left generalizing attempt with
  | zero => exact Method.keeps_throw _
  | succ left ih =>
    unfold python.key_retrieval.get_key_attempts
    apply Method.keeps_bind (Method.keeps_attempt (rule.retrieve_key hload key_uri))
    intro outcome
    split
    · exact Method.keeps_pure _
    · exact Method.keeps_throw _
    · split
      · exact Method.keeps_bind (rule.plain (plain_request rfl)) fun _ => ih _
      · exact Method.keeps_bind (rule.update .failure) fun _ => Method.keeps_throw _

theorem ContextRule.fetch_key (rule : ContextRule mon inv) (key_uri : String) :
    (fetch_key lib key_uri).Keeps mon fun _ g => inv g := by
  unfold python.key_retrieval.fetch_key
  apply Method.keeps_bind (rule.plain (plain_request rfl))
  intro self
  split
  · exact Method.keeps_pure _
  · apply Method.keeps_bind (rule.plain (plain_request rfl))
    intro time
    apply Method.keeps_bind (Method.keeps_ofExcept _)
    intro expired
    apply Method.keeps_bind (Method.keeps_when fun _ => rule.initialize_client)
    intro _
    apply Method.keeps_bind (rule.plain (plain_request rfl))
    intro self
    apply Method.keeps_bind (Method.keeps_reject _ _)
    intro _
    apply Method.keeps_bind rule.has_key.request
    intro present
    apply Method.keeps_bind (Method.keeps_reject _ _)
    intro _
    apply Method.keeps_bind (keeps_guard rule.check_breaker)
    intro _
    exact Rule.get_key_attempts rule.toRule rule.load_key key_uri _ _

/-- A `get_key` records an error that its body does not expect. -/
theorem Rule.get_key (rule : Rule mon inv) {key_uri : String}
    (hbody : (fetch_key lib key_uri).Keeps mon fun _ g => inv g) : (get_key lib key_uri).Keeps mon fun _ g => inv g := by
  apply Method.keeps_tryCatch hbody
  intro e
  cases e with
  | kms_error message => exact Method.keeps_throw _
  | other message => exact Method.keeps_bind (rule.update .failure) fun _ => Method.keeps_throw _

theorem ContextRule.get_key (rule : ContextRule mon inv) (key_uri : String) :
    (get_key lib key_uri).Keeps mon fun _ g => inv g :=
  Rule.get_key rule.toRule (rule.fetch_key key_uri)

end webex.python.key_retrieval

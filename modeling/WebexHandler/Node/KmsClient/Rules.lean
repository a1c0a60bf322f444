import WebexHandler.Interaction.Obeys
import WebexHandler.Node.KmsClient.Client

open interaction json

namespace webex.node.kms_client

/-- An operation that leaves the mutex and the time of the last failure alone and does
    not open the breaker. -/
def Plain : Op → Prop
  | .update f => ∀ now kms, (f now kms).kms_request_mutex = kms.kms_request_mutex ∧
      (f now kms).cb_last_failure = kms.cb_last_failure ∧ ((f now kms).cb_state = .open → kms.cb_state = .open)
  | .turn _ => False
  | .resolve _ => False
  | _ => True

/-- An invariant that survives the plain operations. -/
def PlainRule {γ : Type} (mon : Monitor Op Res γ) (inv : Unit → γ → Prop) : Prop :=
  ∀ op, Plain op → (Method.request op : Async (Res op)).Keeps mon inv

namespace PlainRule

variable {γ α : Type} {mon : Monitor Op Res γ} {inv : Unit → γ → Prop} {builtins : Builtins}

theorem read (hrule : PlainRule mon inv) : read.Keeps mon inv := hrule .get trivial

theorem await (hrule : PlainRule mon inv) (op : Op) (hplain : Plain op) (h : Res op = Except Thrown α) :
    (await op h).Keeps mon inv :=
  Method.keeps_bind (hrule op hplain) fun _ => Method.keeps_ofExcept _

theorem bind_update (hrule : PlainRule mon inv) {f : Nat → KmsClient → KmsClient} {next : Unit → Async α}
    (hplain : Plain (.update f)) (hnext : (next ()).Keeps mon inv) : (update f >>= next).Keeps mon inv :=
  Method.keeps_bind (hrule (.update f) hplain) fun _ => hnext

theorem send_kms_request (hrule : PlainRule mon inv) (request_id wrapped : String) :
    (send_kms_request builtins request_id wrapped).Keeps mon inv := by
  unfold kms_client.send_kms_request
  apply Method.keeps_bind hrule.read
  intro self
  apply Method.keeps_bind (Method.keeps_reject _ _)
  intro _
  apply Method.keeps_bind (hrule .new_promise trivial)
  intro promise
  apply Method.keeps_bind (hrule (.set_timeout promise request_id) trivial)
  intro _
  apply hrule.bind_update
  · exact fun _ _ => ⟨rfl, rfl, id⟩
  apply Method.keeps_bind (hrule.await (.http_do _) trivial rfl)
  intro http_response
  split
  · exact hrule.await (.response _) trivial rfl
  · apply hrule.bind_update
    · exact fun _ _ => ⟨rfl, rfl, id⟩
    apply Method.keeps_bind (hrule.await (.text _) trivial rfl)
    intro error_body
    exact Method.keeps_throw _

theorem fetch_kms_details (hrule : PlainRule mon inv) : (fetch_kms_details builtins).Keeps mon inv := by
  unfold kms_client.fetch_kms_details
  apply Method.keeps_bind hrule.read
  intro self
  apply Method.keeps_bind (hrule.await (.http_do _) trivial rfl)
  intro response
  apply Method.keeps_bind (Method.keeps_reject _ _)
  intro _
  apply Method.keeps_bind (hrule.await (.json _) trivial rfl)
  intro kms_details
  apply Method.keeps_bind (Method.keeps_ofExcept _)
  intro kms_cluster
  apply Method.keeps_bind (Method.keeps_ofExcept _)
  intro _
  apply hrule.bind_update
  · exact fun _ _ => ⟨rfl, rfl, id⟩
  split
  · exact Method.keeps_bind (Method.keeps_ofExcept _) fun _ => Method.keeps_pure _
  · exact Method.keeps_pure _

theorem handshake (hrule : PlainRule mon inv) : (handshake builtins).Keeps mon inv := by
  unfold kms_client.handshake
  apply Method.keeps_bind hrule.fetch_kms_details
  intro server_key
  apply Method.keeps_bind (hrule.await .create_ecdh_key trivial rfl)
  intro local_ecdh_key
  apply Method.keeps_bind (hrule.await (.as_key _) trivial rfl)
  intro public_jwk
  apply Method.keeps_bind hrule.read
  intro self
  apply Method.keeps_bind (hrule.await (.wrap _ _ _ _ _) trivial rfl)
  intro ecdh_request
  apply Method.keeps_bind (hrule.send_kms_request _ _)
  intro wrapped_ecdh_response
  apply Method.keeps_bind (hrule.await (.unwrap _ _) trivial rfl)
  intro body
  apply Method.keeps_bind (Method.keeps_ofExcept _)
  intro remote_key
  apply Method.keeps_bind (hrule.await (.derive_ephemeral_key _ _) trivial rfl)
  intro shared_key
  apply hrule (.update _)
  exact fun _ _ => ⟨rfl, rfl, id⟩

/-- The callback of `initialize`. -/
theorem initialize_body (hrule : PlainRule mon inv) :
    (tryCatch (kms_client.handshake builtins) fun error => throw (initialization_failed error)).Keeps mon inv :=
  Method.keeps_tryCatch hrule.handshake fun _ => Method.keeps_throw _

theorem retrieve_key (hrule : PlainRule mon inv) (key_uri : String) :
    (retrieve_key builtins key_uri).Keeps mon inv := by
  unfold kms_client.retrieve_key
  apply Method.keeps_bind hrule.read
  intro self
  apply Method.keeps_bind (hrule.await (.wrap _ _ _ _ _) trivial rfl)
  intro request
  apply Method.keeps_bind (hrule.send_kms_request _ _)
  intro wrapped_key_response
  apply Method.keeps_bind hrule.read
  intro self
  apply Method.keeps_bind (hrule.await (.unwrap _ _) trivial rfl)
  intro body
  split
  · exact Method.keeps_throw _
  · apply Method.keeps_bind (hrule.await (.jwk_as_key _) trivial rfl)
    intro jose_key
    apply hrule.bind_update
    · exact fun _ _ => ⟨rfl, rfl, fun heq => nomatch heq⟩
    exact Method.keeps_pure _

theorem get_key_attempts (hrule : PlainRule mon inv) (key_uri : String) (left attempt : Nat) :
    (get_key_attempts builtins key_uri left attempt).Keeps mon inv := by
  induction left generalizing attempt with
  | zero => exact Method.keeps_throw _
  | succ left ih =>
    unfold kms_client.get_key_attempts
    apply Method.keeps_bind (Method.keeps_attempt (hrule.retrieve_key key_uri))
    intro outcome
    cases outcome with
    | ok key => exact Method.keeps_pure _
    | error error =>
      dsimp only
      split
      · exact Method.keeps_bind (hrule (.sleep _) trivial) fun _ => ih _
      · exact Method.keeps_throw _

theorem require_context (hrule : PlainRule mon inv) : require_context.Keeps mon inv :=
  Method.keeps_bind hrule.read fun _ => Method.keeps_reject _ _

/-- The callback of `getKey`. -/
theorem get_key_body (hrule : PlainRule mon inv) (key_uri : String) :
    (do
      kms_client.require_context
      kms_client.get_key_attempts builtins key_uri MAX_KMS_ATTEMPTS 1).Keeps mon inv :=
  Method.keeps_bind hrule.require_context fun _ => hrule.get_key_attempts key_uri _ _

theorem check_breaker (hrule : PlainRule mon inv) : check_breaker.Keeps mon inv := by
  unfold kms_client.check_breaker
  apply Method.keeps_bind hrule.read
  intro self
  split
  · apply Method.keeps_bind (hrule .now trivial)
    intro instant
    split
    · apply hrule (.update _)
      exact fun _ _ => ⟨rfl, rfl, fun heq => nomatch heq⟩
    · exact Method.keeps_throw _
  · exact Method.keeps_pure _

/-- Everything that `getKey` does after the cache, for an invariant that also survives a
    call of the lock. -/
theorem fetch_key (hrule : PlainRule mon inv)
    (hlock : ∀ {β : Type} {fn : Async β}, (∀ inv', PlainRule mon inv' → fn.Keeps mon inv') →
      (with_kms_lock fn).Keeps mon inv) (key_uri : String) :
    (fetch_key builtins key_uri).Keeps mon inv := by
  unfold kms_client.fetch_key
  apply Method.keeps_bind hrule.check_breaker
  intro _
  unfold after_breaker
  apply Method.keeps_bind hrule.read
  intro self
  apply Method.keeps_bind (hrule .now trivial)
  intro instant
  apply Method.keeps_bind (Method.keeps_when fun _ => hlock fun _ hrule => hrule.initialize_body)
  intro _
  apply Method.keeps_bind hrule.require_context
  intro _
  exact hlock fun _ hrule => hrule.get_key_body key_uri

end PlainRule

end webex.node.kms_client

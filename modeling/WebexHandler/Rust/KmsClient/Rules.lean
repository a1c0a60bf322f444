import WebexHandler.Rust.KmsClient.Client

open interaction json

namespace webex.rust.kms_client

/-- The fields that no method of `KmsClient` changes. -/
structure SameConfig (kms kms' : KmsClient) : Prop where
  token : kms'.token = kms.token
  device_url : kms'.device_url = kms.device_url
  user_id : kms'.user_id = kms.user_id
  encryption_service_url : kms'.encryption_service_url = kms.encryption_service_url

theorem SameConfig.refl (self : KmsClient) : SameConfig self self := ⟨rfl, rfl, rfl, rfl⟩

theorem SameConfig.trans {self self' self'' : KmsClient} (h : SameConfig self self') (h' : SameConfig self' self'') :
    SameConfig self self'' :=
  ⟨h'.token.trans h.token, h'.device_url.trans h.device_url, h'.user_id.trans h.user_id,
    h'.encryption_service_url.trans h.encryption_service_url⟩

/-- A wrapped KMS request: a body that a client in `clients` built, encrypted. -/
inductive Wraps (crates : Crates) (clients : KmsClient → Prop) (wrapped : String) : Prop
  | ecdh (self : KmsClient) (hself : clients self) (request_id : String) (jwk rsa_jwk_value : Value) (seed : Bytes)
    (hwrapped : crates.encrypt_rsa_oaep_a256gcm (crates.to_string (ecdh_request_body self request_id jwk)) rsa_jwk_value
      seed = .ok wrapped)
  | retrieve (self : KmsClient) (hself : clients self) (key_uri request_id : String) (ephemeral_key seed : Bytes)
    (hwrapped : crates.encrypt_dir_a256gcm (crates.to_string (retrieve_body self key_uri request_id)) ephemeral_key
      self.ephemeral_key_kid seed = .ok wrapped)

variable {γ : Type} {crates : Crates} {mon : Monitor Op Res γ} {inv : KmsClient → γ → Prop}

theorem keeps_parse_kms_details
    (hcluster : ∀ self g kms_cluster, inv self g → inv { self with kms_cluster := kms_cluster } g)
    (response : Except String FetchResponse) : (parse_kms_details crates response).Keeps mon inv := by
  unfold parse_kms_details
  refine Method.keeps_bind (Method.keeps_ofExcept _) fun response => ?_
  refine Method.keeps_bind (Method.keeps_reject _ _) fun _ => ?_
  refine Method.keeps_bind (Method.keeps_ofExcept _) fun kms_details => ?_
  refine Method.keeps_bind (Method.keeps_ofExcept _) fun kms_cluster => ?_
  refine Method.keeps_bind (Method.keeps_modify fun self g => hcluster self g kms_cluster) fun _ => ?_
  refine Method.keeps_bind (Method.keeps_ofExcept _) fun _ => ?_
  split
  · exact Method.keeps_ofExcept _
  · exact Method.keeps_pure _
  · exact Method.keeps_throw _

/-- What an invariant that may look at the cluster has to survive: the whole first step
    of `initialize`, and changes outside the configuration, the cluster and the cache. -/
structure StepRule (crates : Crates) (mon : Monitor Op Res γ) (inv : KmsClient → γ → Prop) : Prop where
  details : (fetch_kms_details crates).Keeps mon inv
  message : ∀ request_id wrapped, Wraps crates (fun self => ∃ g, inv self g) wrapped →
    (send_kms_request crates request_id wrapped).Keeps mon inv
  now : now.Keeps mon inv
  new_v4 : new_v4.Keeps mon inv
  random : ∀ len, (random len).Keeps mon inv
  context : ∀ self self' g, SameConfig self self' → self'.kms_cluster = self.kms_cluster →
    self'.key_cache = self.key_cache → inv self g → inv self' g

namespace StepRule

theorem initialize_client (hrule : StepRule crates mon inv) : (initialize_client crates).Keeps mon inv := by
  unfold kms_client.initialize_client
  refine Method.keeps_bind hrule.details fun rsa_jwk_value => ?_
  unfold handshake
  refine Method.keeps_bind (hrule.random _) fun local_secret => ?_
  refine Method.keeps_bind (Method.keeps_ofExcept _) fun public_jwk_map => ?_
  refine Method.keeps_bind hrule.new_v4 fun request_id => ?_
  refine Method.keeps_bind_get fun self hself => ?_
  refine Method.keeps_bind (hrule.random _) fun seed => ?_
  refine Method.keeps_bind_ofExcept fun wrapped hwrapped => ?_
  refine Method.keeps_bind (hrule.message _ _ (.ecdh self hself _ _ _ _ hwrapped)) fun wrapped_response => ?_
  refine Method.keeps_bind (Method.keeps_ofExcept _) fun derived => ?_
  refine Method.keeps_bind (Method.keeps_modify fun self g => hrule.context self _ g ⟨rfl, rfl, rfl, rfl⟩ rfl rfl)
    fun _ => ?_
  refine Method.keeps_bind hrule.now fun instant => ?_
  exact Method.keeps_modify fun self g => hrule.context self _ g ⟨rfl, rfl, rfl, rfl⟩ rfl rfl

theorem is_context_expired (hrule : StepRule crates mon inv) : is_context_expired.Keeps mon inv := by
  unfold kms_client.is_context_expired
  refine Method.keeps_bind Method.keeps_get fun self => ?_
  split
  · exact Method.keeps_pure _
  · split
    · exact Method.keeps_bind hrule.now fun instant => Method.keeps_pure _
    · exact Method.keeps_pure _

theorem check_breaker (hrule : StepRule crates mon inv) : check_breaker.Keeps mon inv := by
  unfold kms_client.check_breaker
  refine Method.keeps_bind Method.keeps_get fun self => ?_
  split
  · refine Method.keeps_bind ?_ fun cooled => ?_
    · unfold cooled_down
      split
      · exact Method.keeps_pure _
      · exact Method.keeps_bind hrule.now fun instant => Method.keeps_pure _
    · refine Method.keeps_bind (Method.keeps_reject _ _) fun _ => ?_
      exact Method.keeps_modify fun self g => hrule.context self _ g ⟨rfl, rfl, rfl, rfl⟩ rfl rfl
  · exact Method.keeps_pure _

theorem renew_context (hrule : StepRule crates mon inv) : (renew_context crates).Keeps mon inv := by
  unfold kms_client.renew_context
  refine Method.keeps_bind hrule.is_context_expired fun expired => ?_
  exact Method.keeps_when fun _ => hrule.initialize_client

theorem get_key_checks (hrule : StepRule crates mon inv) (hcache : bound_cache.Keeps mon inv) :
    (get_key_checks crates).Keeps mon inv := by
  unfold kms_client.get_key_checks check_context
  refine Method.keeps_bind ?_ fun _ => hrule.check_breaker
  exact Method.keeps_bind hcache fun _ => hrule.renew_context

/-- `get_key` also needs the pause between attempts and any change of the cache. -/
theorem get_key (hrule : StepRule crates mon inv) (hsleep : ∀ millis, (sleep millis).Keeps mon inv)
    (hconfig : ∀ self self' g, SameConfig self self' → self'.kms_cluster = self.kms_cluster → inv self g → inv self' g) (key_uri : String) :
    (get_key crates key_uri).Keeps mon inv := by
  have hattempts : ∀ left attempt, (get_key_attempts crates key_uri left attempt).Keeps mon inv := by
    intro left
    induction left with
    | zero => exact fun attempt => Method.keeps_throw _
    | succ left ih =>
      intro attempt
      unfold get_key_attempts
      refine Method.keeps_bind_get fun self hself => ?_
      refine Method.keeps_bind (Method.keeps_reject _ _) fun _ => ?_
      refine Method.keeps_bind (Method.keeps_ofExcept _) fun ephemeral_key => ?_
      refine Method.keeps_bind hrule.new_v4 fun request_id => ?_
      refine Method.keeps_bind (hrule.random _) fun seed => ?_
      refine Method.keeps_bind_ofExcept fun wrapped hwrapped => ?_
      have hmessage := hrule.message request_id wrapped (.retrieve self hself _ _ _ _ hwrapped)
      refine Method.keeps_bind (Method.keeps_attempt hmessage) fun outcome => ?_
      split
      · refine Method.keeps_bind (Method.keeps_ofExcept _) fun content_key => ?_
        refine Method.keeps_bind (Method.keeps_modify fun self g => hconfig self _ g ⟨rfl, rfl, rfl, rfl⟩ rfl) fun _ => ?_
        exact Method.keeps_pure _
      · split
        · exact Method.keeps_bind (hsleep _) fun _ => ih _
        · refine Method.keeps_bind hrule.now fun instant => ?_
          refine Method.keeps_bind (Method.keeps_modify fun self g => hconfig self _ g ⟨rfl, rfl, rfl, rfl⟩ rfl) fun _ => ?_
          exact Method.keeps_throw _
  have hcache : bound_cache.Keeps mon inv := by
    unfold bound_cache
    refine Method.keeps_bind Method.keeps_get fun self => ?_
    exact Method.keeps_when fun _ => Method.keeps_modify fun self g => hconfig self _ g ⟨rfl, rfl, rfl, rfl⟩ rfl
  unfold kms_client.get_key
  refine Method.keeps_bind Method.keeps_get fun self => ?_
  split
  · exact Method.keeps_pure _
  · exact Method.keeps_bind (hrule.get_key_checks hcache) fun _ => hattempts _ _

end StepRule

/-- What an invariant has to survive for `initialize` and the checks of `get_key` to
    keep it: the details request, an exchange with the KMS, the clock and the random
    source, and any change outside the configuration and the cache. -/
structure Rule (crates : Crates) (mon : Monitor Op Res γ) (inv : KmsClient → γ → Prop) : Prop where
  details : ∀ self g, inv self g → mon.allowed g (.fetch (details_request self)) ∧
    ∀ r g', mon.moves g (.fetch (details_request self)) r g' → inv self g'
  message : ∀ request_id wrapped, (send_kms_request crates request_id wrapped).Keeps mon inv
  now : now.Keeps mon inv
  new_v4 : new_v4.Keeps mon inv
  random : ∀ len, (random len).Keeps mon inv
  context : ∀ self self' g, SameConfig self self' → self'.key_cache = self.key_cache → inv self g → inv self' g

namespace Rule

theorem fetch_kms_details (hrule : Rule crates mon inv) : (fetch_kms_details crates).Keeps mon inv := by
  have hparse : ∀ response, (parse_kms_details crates response).Keeps mon inv :=
    keeps_parse_kms_details fun self g _ => hrule.context self _ g ⟨rfl, rfl, rfl, rfl⟩ rfl
  intro self g hinv
  unfold kms_client.fetch_kms_details
  rw [Method.obeys_bind, Method.obeys_get]
  simp only [Method.obeys_bind, obeys_fetch]
  obtain ⟨hallowed, hmoves⟩ := hrule.details self g hinv
  exact ⟨hallowed, fun response g' hmove => hparse response self g' (hmoves response g' hmove)⟩

theorem step_rule (hrule : Rule crates mon inv) : StepRule crates mon inv where
  details := hrule.fetch_kms_details
  message request_id wrapped _ := hrule.message request_id wrapped
  now := hrule.now
  new_v4 := hrule.new_v4
  random := hrule.random
  context self self' g hsame _ hcache := hrule.context self self' g hsame hcache

theorem initialize_client (hrule : Rule crates mon inv) : (initialize_client crates).Keeps mon inv :=
  hrule.step_rule.initialize_client

theorem is_context_expired (hrule : Rule crates mon inv) : is_context_expired.Keeps mon inv :=
  hrule.step_rule.is_context_expired

theorem renew_context (hrule : Rule crates mon inv) : (renew_context crates).Keeps mon inv :=
  hrule.step_rule.renew_context

theorem check_breaker (hrule : Rule crates mon inv) : check_breaker.Keeps mon inv :=
  hrule.step_rule.check_breaker

theorem get_key (hrule : Rule crates mon inv) (hsleep : ∀ millis, (sleep millis).Keeps mon inv)
    (hconfig : ∀ self self' g, SameConfig self self' → inv self g → inv self' g) (key_uri : String) :
    (get_key crates key_uri).Keeps mon inv :=
  hrule.step_rule.get_key hsleep (fun self self' g hsame _ => hconfig self self' g hsame) key_uri

end Rule

end webex.rust.kms_client

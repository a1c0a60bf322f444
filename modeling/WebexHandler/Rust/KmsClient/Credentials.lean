import WebexHandler.Rust.KmsClient.Rules

open interaction json

namespace webex.rust.kms_client

/-- A request made by clients with the given token: its header is theirs, and so is the
    body inside a wrapped KMS request. -/
inductive Carries (crates : Crates) (token : String) : FetchRequest → Prop
  | details (self : KmsClient) (hself : self.token = token) : Carries crates token (details_request self)
  | message (self : KmsClient) (hself : self.token = token) (wrapped : String)
    (hwraps : Wraps crates (fun client => client.token = token) wrapped) :
    Carries crates token (message_request crates self wrapped)

theorem Wraps.mono {crates : Crates} {clients clients' : KmsClient → Prop} {wrapped : String}
    (himp : ∀ self, clients self → clients' self) (hwraps : Wraps crates clients wrapped) :
    Wraps crates clients' wrapped := by
  cases hwraps with
  | ecdh self hself request_id jwk rsa_jwk_value seed hwrapped =>
    exact .ecdh self (himp self hself) request_id jwk rsa_jwk_value seed hwrapped
  | retrieve self hself key_uri request_id ephemeral_key seed hwrapped =>
    exact .retrieve self (himp self hself) key_uri request_id ephemeral_key seed hwrapped

variable {γ : Type} {crates : Crates} {mon : Monitor Op Res γ} {token : String} {view : γ}

/-- In this view the monitor permits the requests with the token and everything that is
    not a request, and the view does not change. -/
structure Carrier (crates : Crates) (mon : Monitor Op Res γ) (token : String) (view : γ) : Prop where
  fetch : ∀ req, Carries crates token req → mon.allowed view (.fetch req)
  other : ∀ op, (∀ req, op ≠ .fetch req) → mon.allowed view op
  stays : ∀ op r g, mon.moves view op r g → g = view

namespace Carrier

/-- The client's token, in the view that stays. -/
def Has (token : String) (view : γ) (kms : KmsClient) (g : γ) : Prop := kms.token = token ∧ g = view

theorem keeps_other (hmon : Carrier crates mon token view) (op : Op) (hop : ∀ req, op ≠ .fetch req) :
    (Method.request op : Kms (Res op)).Keeps mon (Has token view) := by
  refine Method.keeps_request ?_
  rintro kms g ⟨htoken, rfl⟩
  exact ⟨hmon.other op hop, fun r g' hmove => ⟨htoken, hmon.stays op r g' hmove⟩⟩

theorem keeps_fetch (hmon : Carrier crates mon token view) {req : FetchRequest} (hcarries : Carries crates token req) :
    (kms_client.fetch req).Keeps mon (Has token view) := by
  refine Method.keeps_request ?_
  rintro kms g ⟨htoken, rfl⟩
  exact ⟨hmon.fetch req hcarries, fun r g' hmove => ⟨htoken, hmon.stays _ r g' hmove⟩⟩

theorem send_kms_request (hmon : Carrier crates mon token view) (request_id : String) {wrapped : String}
    (hwraps : Wraps crates (fun client => client.token = token) wrapped) :
    (send_kms_request crates request_id wrapped).Keeps mon (Has token view) := by
  have hremoved : ∀ e, (remove_pending request_id >>= fun _ => (throw e : Kms String)).Keeps mon (Has token view) := by
    intro e
    apply Method.keeps_bind (hmon.keeps_other (.remove_pending request_id) nofun)
    intro _
    exact Method.keeps_throw e
  unfold kms_client.send_kms_request
  apply Method.keeps_bind_get
  rintro self ⟨_, hself, -⟩
  apply Method.keeps_bind (hmon.keeps_other (.register_pending request_id) nofun)
  intro registered
  split
  · exact Method.keeps_throw _
  · apply Method.keeps_bind (hmon.keeps_fetch (.message self hself wrapped hwraps))
    intro posted
    split
    · exact hremoved _
    · split
      · exact hremoved _
      · apply Method.keeps_bind (hmon.keeps_other (.wait_response _ _) nofun)
        intro waited
        split
        · exact Method.keeps_pure _
        · exact Method.keeps_throw _
        · exact hremoved _

theorem step_rule (hmon : Carrier crates mon token view) : StepRule crates mon (Has token view) where
  details := by
    unfold kms_client.fetch_kms_details
    apply Method.keeps_bind_get
    rintro self ⟨_, hself, -⟩
    apply Method.keeps_bind (hmon.keeps_fetch (.details self hself))
    intro response
    exact keeps_parse_kms_details (fun _ _ _ hhas => hhas) response
  message request_id wrapped hwraps :=
    hmon.send_kms_request request_id (hwraps.mono fun _ ⟨_, hself, _⟩ => hself)
  now := hmon.keeps_other .now nofun
  new_v4 := hmon.keeps_other .new_v4 nofun
  random len := hmon.keeps_other (.random len) nofun
  context self self' g hsame _ _ hhas := ⟨hsame.token.trans hhas.1, hhas.2⟩

theorem initialize_client (hmon : Carrier crates mon token view) :
    (initialize_client crates).Keeps mon (Has token view) :=
  hmon.step_rule.initialize_client

theorem get_key (hmon : Carrier crates mon token view) (key_uri : String) :
    (get_key crates key_uri).Keeps mon (Has token view) := by
  refine hmon.step_rule.get_key (fun millis => hmon.keeps_other (.sleep millis) nofun) ?_ key_uri
  intro self self' g hsame _ hhas
  exact ⟨hsame.token.trans hhas.1, hhas.2⟩

end Carrier

end webex.rust.kms_client

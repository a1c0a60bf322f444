import WebexHandler.Rust.KmsClient.Mailbox
import WebexHandler.Rust.KmsClient.Rules

open interaction json transition

namespace webex.rust.kms_client

open url_validation (Accepted)

/-- The URL a `KmsClient` builds its requests from has been accepted. -/
def TrustedClient (kms : KmsClient) : Prop := Accepted "https" kms.encryption_service_url

theorem TrustedClient.details_request {kms : KmsClient} (htrusted : TrustedClient kms) :
    Accepted "https" (details_request kms).url := by
  show Accepted "https" (kms.encryption_service_url ++ "/kms/" ++ kms.user_id)
  rw [String.append_assoc]
  exact htrusted.append_path (by simp [String.toList_append])

theorem TrustedClient.message_request {kms : KmsClient} (htrusted : TrustedClient kms) (crates : Crates)
    (wrapped : String) : Accepted "https" (message_request crates kms wrapped).url :=
  htrusted.append_path (by decide)

variable {γ : Type} {crates : Crates} {mon : Monitor Op Res γ}

/-- A monitor that permits the requests to accepted URLs, and everything else. -/
structure Confines (mon : Monitor Op Res γ) : Prop where
  fetch : ∀ g req, Accepted "https" req.url → mon.allowed g (.fetch req)
  other : ∀ g op, (∀ req, op ≠ .fetch req) → mon.allowed g op

namespace Confines

theorem ensures_other (hmon : Confines mon) (op : Op) (hop : ∀ req, op ≠ .fetch req) :
    (Method.request op : Kms (Res op)).Ensures mon TrustedClient fun _ => True :=
  Method.ensures_request (fun g => hmon.other g op hop) fun _ _ _ _ => trivial

theorem send_kms_request (hmon : Confines mon) (request_id wrapped : String) :
    (send_kms_request crates request_id wrapped).Ensures mon TrustedClient fun _ => True := by
  have hremoved : ∀ e, (remove_pending request_id >>= fun _ => (throw e : Kms String)).Ensures mon TrustedClient
      fun _ => True :=
    fun e => Method.ensures_bind (hmon.ensures_other _ nofun) fun _ _ => Method.ensures_throw e
  unfold kms_client.send_kms_request
  refine Method.ensures_bind Method.ensures_get fun self htrusted => ?_
  refine Method.ensures_bind (hmon.ensures_other _ nofun) fun registered _ => ?_
  split
  · exact Method.ensures_throw _
  · refine Method.ensures_bind (Method.ensures_request
      (fun g => hmon.fetch g _ (htrusted.message_request crates wrapped)) fun _ _ _ _ => trivial) fun posted _ => ?_
    split
    · exact hremoved _
    · split
      · exact hremoved _
      · refine Method.ensures_bind (hmon.ensures_other _ nofun) fun waited _ => ?_
        split
        · exact Method.ensures_pure trivial
        · exact Method.ensures_throw _
        · exact hremoved _

theorem rule (hmon : Confines mon) : Rule crates mon fun kms _ => TrustedClient kms where
  details _ g htrusted := ⟨hmon.fetch g _ htrusted.details_request, fun _ _ _ => htrusted⟩
  message request_id wrapped := (hmon.send_kms_request request_id wrapped).keeps
  now := (hmon.ensures_other .now nofun).keeps
  new_v4 := (hmon.ensures_other .new_v4 nofun).keeps
  random len := (hmon.ensures_other (.random len) nofun).keeps
  context self self' g hsame _ htrusted := by
    rw [TrustedClient, hsame.encryption_service_url]
    exact htrusted

theorem get_key (hmon : Confines mon) (key_uri : String) :
    (get_key crates key_uri).Keeps mon fun kms _ => TrustedClient kms := by
  refine hmon.rule.get_key (fun millis => (hmon.ensures_other (.sleep millis) nofun).keeps) ?_ key_uri
  intro self self' g hsame htrusted
  rw [TrustedClient, hsame.encryption_service_url]
  exact htrusted

end Confines

/-- The monitor of a `KmsClient` on its own. -/
def confinement : Monitor Op Res Unit where
  allowed _ op := ∀ req, op = .fetch req → Accepted "https" req.url
  moves _ _ _ _ := True

theorem confines_session : Confines confinement where
  fetch _ _ haccepted _ heq := Op.fetch.inj heq ▸ haccepted
  other _ _ hop req heq := absurd heq (hop req)

/-- The fields of the client, and what is left of the running call, confine the token. -/
def SessionTrusted (s : Session) : Prop := s.Keeps confinement TrustedClient

theorem SessionTrusted.step {s next : Session} {label : Label} (htrusted : SessionTrusted s)
    (hstep : s.step crates label = some next) : SessionTrusted next :=
  Session.Keeps.step confines_session.get_key confines_session.rule.initialize_client (fun _ _ _ _ _ _ _ => trivial)
    htrusted hstep

/-- Every request of a `KmsClient` that was given an accepted URL goes to an accepted
    URL, whatever the answers. -/
theorem session_confined {kms : KmsClient} (htrusted : TrustedClient kms) {s : Session}
    (hreach : (session crates kms).Reachable Machine.Always s) {req : FetchRequest}
    (hhead : s.head = some (.fetch req)) : Accepted "https" req.url := by
  have hsession : SessionTrusted s := by
    refine hreach.invariant ?_ ?_
    · exact ⟨htrusted, trivial⟩
    · exact fun s label next _ htrusted _ hstep => htrusted.step hstep
  exact hsession.allowed hhead req rfl

end webex.rust.kms_client

import WebexHandler.Rust.KmsClient.Mailbox
import WebexHandler.Rust.KmsClient.Rules

open interaction json transition

namespace webex.rust.kms_client

/-- A request is registered only when no answer to an earlier POST is in flight. -/
def drained (world : World) : Op → Bool
  | .register_pending _ => world.outstanding.isEmpty
  | _ => true

/-- Where the request of the running call stands. -/
inductive Phase
  | idle
  | registered (request_id : String) (rx : Nat)
  | posted (request_id : String) (rx : Nat) (req : FetchRequest)

structure View where
  phase : Phase
  accepted : List (FetchRequest × String)

/-- The protocol of `send_kms_request`. A response is received as the answer to the
    POST just made. -/
def mailbox_monitor : Monitor Op Res View where
  allowed g
    | .fetch req => req.method = "POST" → ∃ request_id rx, g.phase = .registered request_id rx
    | .register_pending _ => g.phase = .idle
    | .remove_pending request_id => ∃ rx req, g.phase = .posted request_id rx req
    | .wait_response rx _ => ∃ request_id req, g.phase = .posted request_id rx req
    | _ => True
  moves g
    | .fetch req, _, g' => g.accepted ⊆ g'.accepted ∧
        if req.method = "POST" then
          ∀ request_id rx, g.phase = .registered request_id rx → g'.phase = .posted request_id rx req
        else g'.phase = g.phase
    | .register_pending _, none, g' => g' = g
    | .register_pending request_id, some rx, g' => g' = { g with phase := .registered request_id rx }
    | .remove_pending _, _, g' => g' = { g with phase := .idle }
    | .wait_response _ _, .received response, g' => g' = { g with phase := .idle } ∧
        ∀ request_id rx req, g.phase = .posted request_id rx req → (req, response) ∈ g.accepted
    | .wait_response _ _, .closed, g' => g' = { g with phase := .idle }
    | .wait_response _ _, .timed_out, g' => g' = g
    | _, _, g' => g' = g

/-- What the environment looks like in each phase while requests register drained:
    the only pending entry is the running call's, and an answer in flight or in the
    channel is the one to its POST. -/
def PhaseView (world : World) : Phase → Prop
  | .idle => world.mailbox.pending = []
  | .registered request_id rx =>
    world.mailbox.pending = [(request_id, rx)] ∧ world.mailbox.sent rx = none ∧
    rx < world.mailbox.next_rx ∧ world.outstanding = []
  | .posted request_id rx req =>
    world.last_post = some req ∧
    ((world.mailbox.pending = [(request_id, rx)] ∧ world.mailbox.sent rx = none ∧
        rx < world.mailbox.next_rx ∧
        (world.outstanding = [] ∨
          ∃ response, world.outstanding = [(req, response)] ∧ (req, response) ∈ world.accepted)) ∨
      (world.mailbox.pending = [] ∧
        ∃ response, world.mailbox.sent rx = some response ∧ (req, response) ∈ world.accepted))

structure WorldView (world : World) (g : View) : Prop where
  accepted : world.accepted = g.accepted
  fresh : ∀ rx, world.mailbox.next_rx ≤ rx → world.mailbox.sent rx = none
  consumed : ∀ post response, (post, response) ∈ world.consumed →
    ∃ req, post = some req ∧ (req, response) ∈ world.accepted
  phase : PhaseView world g.phase

theorem WorldView.post {world : World} {g : View} (hview : WorldView world g) (req : FetchRequest)
    (answer : Option String) {request_id : String} {rx : Nat} (hphase : g.phase = .registered request_id rx) :
    ∃ g', g.accepted ⊆ g'.accepted ∧ g'.phase = .posted request_id rx req ∧ WorldView (world.post req answer) g' := by
  obtain ⟨hpending, hsent, hrx, houtstanding⟩ : PhaseView world (.registered request_id rx) := hphase ▸ hview.phase
  cases answer with
  | none =>
    refine ⟨{ g with phase := .posted request_id rx req }, List.Subset.refl _, rfl, ?_⟩
    exact ⟨hview.accepted, hview.fresh, hview.consumed, rfl, .inl ⟨hpending, hsent, hrx, .inl houtstanding⟩⟩
  | some response =>
    refine ⟨⟨.posted request_id rx req, g.accepted ++ [(req, response)]⟩, List.subset_append_left _ _, rfl, ?_⟩
    refine ⟨by simp [World.post, hview.accepted], hview.fresh, ?_, rfl, .inl ⟨hpending, hsent, hrx, .inr ?_⟩⟩
    · intro post other hmem
      obtain ⟨sent, hpost, hsent⟩ := hview.consumed post other hmem
      exact ⟨sent, hpost, List.mem_append_left _ hsent⟩
    · exact ⟨response, by simp [World.post, houtstanding], by simp [World.post]⟩

/-- The environment keeps to the protocol as long as every request registers
    drained. -/
theorem mailbox_sound :
    mailbox_monitor.Sound WorldView (fun world op => drained world op = true) World.perform := by
  intro op choice world world' r g hview hallowed hdrained hperform
  cases op with
  | fetch req =>
    cases choice with
    | fetched result answer =>
      simp only [World.perform] at hperform
      split at hperform
      · rename_i hmethod
        simp only [Option.some.injEq] at hperform
        obtain ⟨rfl, rfl⟩ := hperform
        obtain ⟨request_id, rx, hphase⟩ := hallowed hmethod
        obtain ⟨g', haccepted, hposted, hview'⟩ := hview.post req answer hphase
        refine ⟨g', ⟨haccepted, ?_⟩, hview'⟩
        rw [if_pos hmethod]
        intro other_id other_rx hother
        rw [hphase, Phase.registered.injEq] at hother
        rw [hposted, hother.1, hother.2]
      · rename_i hmethod
        split at hperform
        · simp only [Option.some.injEq] at hperform
          obtain ⟨rfl, rfl⟩ := hperform
          exact ⟨g, ⟨List.Subset.refl _, by rw [if_neg hmethod]⟩, hview⟩
        · simp at hperform
    | _ => simp [World.perform] at hperform
  | now =>
    cases choice with
    | instant now =>
      simp only [World.perform, Option.some.injEq] at hperform
      obtain ⟨rfl, rfl⟩ := hperform
      exact ⟨g, rfl, hview⟩
    | _ => simp [World.perform] at hperform
  | sleep millis =>
    cases choice with
    | elapsed =>
      simp only [World.perform, Option.some.injEq] at hperform
      obtain ⟨rfl, rfl⟩ := hperform
      exact ⟨g, rfl, hview⟩
    | _ => simp [World.perform] at hperform
  | new_v4 =>
    cases choice with
    | uuid id =>
      simp only [World.perform, Option.some.injEq] at hperform
      obtain ⟨rfl, rfl⟩ := hperform
      exact ⟨g, rfl, hview⟩
    | _ => simp [World.perform] at hperform
  | random len =>
    cases choice with
    | bytes drawn =>
      simp only [World.perform, Option.some.injEq] at hperform
      obtain ⟨rfl, rfl⟩ := hperform
      exact ⟨g, rfl, hview⟩
    | _ => simp [World.perform] at hperform
  | register_pending request_id =>
    cases choice with
    | done =>
      simp only [World.perform, Option.some.injEq] at hperform
      obtain ⟨rfl, rfl⟩ := hperform
      have hpending : world.mailbox.pending = [] := by
        have hphase := hview.phase
        rw [show g.phase = .idle from hallowed] at hphase
        exact hphase
      have hregister : world.mailbox.register_pending request_id =
          (some world.mailbox.next_rx, { world.mailbox with
            pending := [(request_id, world.mailbox.next_rx)], next_rx := world.mailbox.next_rx + 1 }) := by
        simp [Mailbox.register_pending, hpending, MAX_PENDING_REQUESTS]
      rw [hregister]
      refine ⟨{ g with phase := .registered request_id world.mailbox.next_rx }, rfl, hview.accepted, ?_, hview.consumed,
        rfl, hview.fresh _ (Nat.le_refl _), Nat.lt_succ_self _, List.isEmpty_iff.mp hdrained⟩
      exact fun rx hrx => hview.fresh rx (Nat.le_of_succ_le hrx)
    | _ => simp [World.perform] at hperform
  | remove_pending request_id =>
    cases choice with
    | done =>
      simp only [World.perform, Option.some.injEq] at hperform
      obtain ⟨rfl, rfl⟩ := hperform
      obtain ⟨rx, req, hphase⟩ := hallowed
      have hposted := hview.phase
      rw [hphase] at hposted
      refine ⟨{ g with phase := .idle }, rfl, hview.accepted, hview.fresh, hview.consumed, ?_⟩
      obtain ⟨-, ⟨hpending, -⟩ | ⟨hpending, -⟩⟩ := hposted
      · simp [PhaseView, Mailbox.remove_pending, hpending]
      · simp [PhaseView, Mailbox.remove_pending, hpending]
    | _ => simp [World.perform] at hperform
  | wait_response rx millis =>
    obtain ⟨request_id, req, hphase⟩ := hallowed
    have hposted := hview.phase
    rw [hphase] at hposted
    obtain ⟨hpost, hposted⟩ := hposted
    cases choice with
    | received =>
      simp only [World.perform, Option.map_eq_some_iff] at hperform
      obtain ⟨response, hsent, rfl, rfl⟩ := hperform
      obtain ⟨-, hnone, -⟩ | ⟨hpending, answer, hanswer, haccepted⟩ := hposted
      · simp [hnone] at hsent
      · obtain rfl : answer = response := by simpa [hanswer] using hsent
        refine ⟨{ g with phase := .idle }, ⟨rfl, ?_⟩, hview.accepted, hview.fresh, ?_, hpending⟩
        · intro other_id other_rx other hother
          rw [hphase, Phase.posted.injEq] at hother
          rw [← hother.2.2, ← hview.accepted]
          exact haccepted
        · intro post other hmem
          simp only [List.mem_append, List.mem_singleton, Prod.mk.injEq] at hmem
          obtain hmem | ⟨rfl, rfl⟩ := hmem
          · exact hview.consumed post other hmem
          · exact ⟨req, hpost, haccepted⟩
    | closed =>
      simp only [World.perform, Option.ite_none_right_eq_some] at hperform
      obtain ⟨⟨hnone, hgone⟩, -⟩ := hperform
      obtain ⟨hpending, -⟩ | ⟨-, answer, hanswer, -⟩ := hposted
      · simp [hpending] at hgone
      · simp [hanswer] at hnone
    | timed_out =>
      simp only [World.perform, Option.ite_none_right_eq_some, Option.some.injEq] at hperform
      obtain ⟨-, rfl, rfl⟩ := hperform
      exact ⟨g, rfl, hview⟩
    | _ => simp [World.perform] at hperform

theorem handle_responses_idle {mailbox : Mailbox} (hpending : mailbox.pending = []) (texts : List String) :
    texts.foldl Mailbox.handle_response mailbox = mailbox := by
  induction texts with
  | nil => rfl
  | cons text rest ih =>
    have hstep : mailbox.handle_response text = mailbox := by simp [Mailbox.handle_response, hpending]
    rw [List.foldl_cons, hstep, ih]

theorem handle_kms_message_eq (mailbox : Mailbox) (data : Value) :
    mailbox.handle_kms_message data =
      (Value.strings ((kms_messages data).getD [])).foldl Mailbox.handle_response mailbox := by
  unfold Mailbox.handle_kms_message
  cases kms_messages data with
  | none => rfl
  | some messages => rfl

/-- A delivery never takes a request out of its phase. -/
theorem WorldView.deliver {world world' : World} {g : View} (hview : WorldView world g) {data : Value}
    (hdeliver : world.deliver data = some world') : WorldView world' g := by
  simp only [World.deliver, handle_kms_message_eq] at hdeliver
  generalize Value.strings ((kms_messages data).getD []) = texts at hdeliver
  split at hdeliver
  · rename_i hbatch
    simp only [Option.some.injEq] at hdeliver
    subst hdeliver
    -- without a pending request nothing is sent, and without an answer in flight
    -- the batch is empty
    have hidle : world.mailbox.pending = [] →
        texts.foldl Mailbox.handle_response world.mailbox = world.mailbox :=
      fun hpending => handle_responses_idle hpending texts
    have hnone : world.outstanding = [] → texts = [] := by
      intro houtstanding
      simpa [houtstanding] using hbatch.symm
    have hphase := hview.phase
    cases hg : g.phase with
    | idle =>
      rw [hg] at hphase
      have hmailbox := hidle hphase
      refine ⟨hview.accepted, ?_, hview.consumed, ?_⟩
      · simpa [hmailbox] using hview.fresh
      · rw [hg]
        simpa [PhaseView, hmailbox] using hphase
    | registered request_id rx =>
      rw [hg] at hphase
      obtain rfl := hnone hphase.2.2.2
      refine ⟨hview.accepted, hview.fresh, hview.consumed, ?_⟩
      rw [hg]
      simpa [PhaseView] using hphase
    | posted request_id rx req =>
      rw [hg] at hphase
      obtain ⟨hpost, ⟨hpending, hsent, hrx, houtstanding⟩ | ⟨hpending, hsent⟩⟩ := hphase
      · obtain houtstanding | ⟨response, houtstanding, haccepted⟩ := houtstanding
        · obtain rfl := hnone houtstanding
          refine ⟨hview.accepted, hview.fresh, hview.consumed, ?_⟩
          rw [hg]
          exact ⟨hpost, .inl ⟨hpending, hsent, hrx, .inl (by simp [houtstanding])⟩⟩
        · rw [houtstanding] at hbatch
          match texts, hbatch with
          | [], _ =>
            refine ⟨hview.accepted, hview.fresh, hview.consumed, ?_⟩
            rw [hg]
            exact ⟨hpost, .inl ⟨hpending, hsent, hrx, .inr ⟨response, by simp [houtstanding], haccepted⟩⟩⟩
          | text :: rest, hbatch =>
            simp only [List.length_cons, List.take_succ_cons, List.take_nil, List.map_cons, List.map_nil,
              List.cons.injEq] at hbatch
            obtain ⟨rfl, rfl⟩ := hbatch
            have hstep : world.mailbox.handle_response response = { world.mailbox with
                pending := [], sent := fun other => if other = rx then some response else world.mailbox.sent other } := by
              simp [Mailbox.handle_response, hpending]
            simp only [List.foldl_cons, List.foldl_nil, hstep]
            refine ⟨hview.accepted, ?_, hview.consumed, ?_⟩
            · intro other hother
              have hne : other ≠ rx := by
                rintro rfl
                exact absurd hrx (Nat.not_lt.mpr hother)
              simpa [hne] using hview.fresh other hother
            · rw [hg]
              exact ⟨hpost, .inr ⟨rfl, response, by simp, haccepted⟩⟩
      · have hmailbox := hidle hpending
        refine ⟨hview.accepted, ?_, hview.consumed, ?_⟩
        · simpa [hmailbox] using hview.fresh
        · rw [hg]
          exact ⟨hpost, .inr (by simpa [hmailbox] using And.intro hpending hsent)⟩
  · simp at hdeliver

variable {crates : Crates} {self : KmsClient} {g : View}

/-- A response that `send_kms_request` returns is the KMS's answer to its POST. -/
theorem send_kms_request_obeys (hidle : g.phase = .idle) (request_id wrapped : String) :
    (send_kms_request crates request_id wrapped).Obeys mailbox_monitor self g fun r self' g' =>
      self' = self ∧ g'.phase = .idle ∧ g.accepted ⊆ g'.accepted ∧
      ∀ response, r = .ok response → (message_request crates self wrapped, response) ∈ g'.accepted := by
  simp only [send_kms_request, Method.obeys_bind, Method.obeys_get, obeys_register_pending]
  refine ⟨hidle, ?_⟩
  rintro (_ | rx) g₁ hregistered
  · obtain rfl : g₁ = g := hregistered
    simp [hidle]
  · obtain rfl : g₁ = { g with phase := .registered request_id rx } := hregistered
    simp only [Method.obeys_bind, obeys_fetch]
    refine ⟨fun _ => ⟨request_id, rx, rfl⟩, ?_⟩
    rintro result g₂ ⟨haccepted, hposted⟩
    rw [if_pos (show (message_request crates self wrapped).method = "POST" from rfl)] at hposted
    have hphase := hposted request_id rx rfl
    -- every exit below leaves the pending list without the request
    have hremove : ∀ e : WebexError,
        (do remove_pending request_id; throw e : Kms String).Obeys mailbox_monitor self g₂ fun r self' g' =>
          self' = self ∧ g'.phase = .idle ∧ g.accepted ⊆ g'.accepted ∧
          ∀ response, r = .ok response → (message_request crates self wrapped, response) ∈ g'.accepted := by
      intro e
      simp only [Method.obeys_bind, obeys_remove_pending]
      refine ⟨⟨rx, _, hphase⟩, ?_⟩
      rintro _ g₃ rfl
      exact ⟨rfl, rfl, haccepted, by simp⟩
    cases result with
    | error e => exact hremove _
    | ok resp =>
      simp only
      split
      · exact hremove _
      · simp only [Method.obeys_bind, obeys_wait_response]
        refine ⟨⟨request_id, _, hphase⟩, ?_⟩
        rintro (response | _ | _) g₃ hwaited
        · obtain ⟨rfl, hanswer⟩ := hwaited
          refine ⟨rfl, rfl, haccepted, ?_⟩
          rintro _ ⟨⟩
          exact hanswer request_id rx _ hphase
        · obtain rfl : g₃ = { g₂ with phase := .idle } := hwaited
          exact ⟨rfl, rfl, haccepted, by simp⟩
        · obtain rfl : g₃ = g₂ := hwaited
          exact hremove _

end webex.rust.kms_client

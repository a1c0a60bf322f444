import WebexHandler.Rust.KmsClient.Breaker

open interaction json transition

namespace webex.rust.kms_client

/-- What the next answers of a call are about. -/
inductive Topic
  | idle
  | details
  | handshake (local_secret : Bytes)
  | retrieve
  deriving DecidableEq, Repr

/-- What the answers have brought: the ephemeral key of the last handshake, and the content
    key of the call. -/
structure Hearing where
  topic : Topic := .idle
  ephemeral_key : Option Bytes := none
  content_key : Option Bytes := none
  deriving DecidableEq, Repr

section hearing

variable (crates : Crates)

/-- A response from the KMS: the end of a handshake, or the answer to a retrieve request,
    opened with the ephemeral key. -/
def Hearing.received (g : Hearing) (response : String) : Hearing :=
  match g.topic with
  | .handshake local_secret =>
    { g with
      topic := .idle
      ephemeral_key := (derive_ephemeral_key crates response local_secret).toOption.elim g.ephemeral_key fun derived =>
        some derived.1 }
  | _ =>
    { g with
      topic := .idle
      content_key := g.ephemeral_key.bind fun key => (open_key_response crates response key).toOption }

/-- One more answer. A handshake begins with the KMS details, a retrieve request with its
    registration. -/
def Hearing.after (g : Hearing) : Reply → Hearing
  | .fetched _ => if g.topic = .idle then { g with topic := .details } else g
  | .drawn bytes => if g.topic = .details then { g with topic := .handshake bytes } else g
  | .registered (some _) => if g.topic = .idle then { g with topic := .retrieve } else g
  | .waited (.received response) => g.received crates response
  | .waited .closed => { g with topic := .idle }
  | .removed => { g with topic := .idle }
  | _ => g

/-- The answers of a call, with what they bring as the view. -/
abbrev hearing (replies : List Reply) : Monitor Op Res Hearing := answered reply (Hearing.after crates) replies

variable {crates} {replies : List Reply} {kms self : KmsClient} {g : Hearing}

theorem moves_hearing {g' : Hearing} {op : Op} {r : Res op} (hmoves : (hearing crates replies).moves g op r g') :
    g' = g.after crates (reply_of op r) := by
  obtain ⟨choice, -, hreply, rfl⟩ := hmoves
  rw [reply_eq_some hreply]

/-- The client has the ephemeral key that was heard, and no content key was heard yet. -/
structure Attuned (kms : KmsClient) (g : Hearing) : Prop where
  ephemeral_key : kms.ephemeral_key = g.ephemeral_key
  content_key : g.content_key = none

/-- The client is between two exchanges with the KMS. -/
structure Idle (kms : KmsClient) (g : Hearing) : Prop extends Attuned kms g where
  topic : g.topic = .idle

theorem Attuned.set_topic (hattuned : Attuned kms g) (topic : Topic) : Attuned kms { g with topic := topic } :=
  ⟨hattuned.ephemeral_key, hattuned.content_key⟩

/-- A registered request: the exchange is under way, and its response is the one that was
    awaited. -/
theorem after_registered (htopic : g.topic = .idle ∨ ∃ local_secret, g.topic = .handshake local_secret) (rx : Nat) :
    ∃ topic, topic ≠ .idle ∧ g.after crates (.registered (some rx)) = { g with topic := topic } ∧
      ∀ response, ({ g with topic := topic } : Hearing).received crates response = g.received crates response := by
  obtain hidle | ⟨local_secret, hhandshake⟩ := htopic
  · refine ⟨.retrieve, by decide, by simp [Hearing.after, hidle], fun response => ?_⟩
    simp [Hearing.received, hidle]
  · refine ⟨g.topic, by simp [hhandshake], if_neg (by simp [hhandshake]), fun _ => rfl⟩

/-- A request ends with a response that is heard, or with nothing new. -/
theorem send_kms_request_heard (htopic : g.topic = .idle ∨ ∃ local_secret, g.topic = .handshake local_secret)
    (request_id wrapped : String) :
    (send_kms_request crates request_id wrapped).Obeys (hearing crates replies) self g fun outcome self' g' =>
      self' = self ∧ ((∃ response, outcome = .ok response ∧ g' = g.received crates response) ∨
        ∃ e, outcome = .error e ∧ g' = { g with topic := g'.topic } ∧ (g.topic = .idle → g'.topic = .idle)) := by
  unfold send_kms_request
  rw [Method.obeys_bind, Method.obeys_get]
  simp only [Method.obeys_bind, obeys_register_pending]
  refine ⟨trivial, ?_⟩
  intro rx g₁ hmoves
  have hregistered := moves_hearing hmoves
  cases rx with
  | none => exact ⟨rfl, .inr ⟨_, rfl, by rw [hregistered]; rfl, fun hidle => by rw [hregistered]; exact hidle⟩⟩
  | some rx =>
    obtain ⟨topic, hbusy, htopic, hreceived⟩ := @after_registered crates g htopic rx
    obtain rfl : g₁ = { g with topic := topic } := hregistered.trans htopic
    simp only [Method.obeys_bind, obeys_fetch]
    refine ⟨trivial, ?_⟩
    intro result g₂ hmoves
    obtain rfl : g₂ = { g with topic := topic } := (moves_hearing hmoves).trans (if_neg hbusy)
    have hremove : ∀ e : WebexError, (do remove_pending request_id; throw e : Kms String).Obeys (hearing crates replies)
        self { g with topic := topic } fun outcome self' g' => self' = self ∧
          ((∃ response, outcome = .ok response ∧ g' = g.received crates response) ∨
            ∃ e, outcome = .error e ∧ g' = { g with topic := g'.topic } ∧ (g.topic = .idle → g'.topic = .idle)) := by
      intro e
      rw [Method.obeys_bind, obeys_remove_pending]
      refine ⟨trivial, ?_⟩
      intro _ g₃ hmoves
      obtain rfl : g₃ = { g with topic := .idle } := moves_hearing hmoves
      exact ⟨rfl, .inr ⟨e, rfl, rfl, fun _ => rfl⟩⟩
    cases result with
    | error e => exact hremove _
    | ok resp =>
      dsimp only
      split
      · exact hremove _
      · rw [Method.obeys_bind, obeys_wait_response]
        refine ⟨trivial, ?_⟩
        intro outcome g₃ hmoves
        have hwaited := moves_hearing hmoves
        cases outcome with
        | received response => exact ⟨rfl, .inl ⟨response, rfl, hwaited.trans (hreceived response)⟩⟩
        | closed => exact ⟨rfl, .inr ⟨_, rfl, by rw [hwaited]; rfl, fun _ => by rw [hwaited]; rfl⟩⟩
        | timed_out =>
          obtain rfl : g₃ = { g with topic := topic } := hwaited
          exact hremove _

theorem now_heard : now.Keeps (hearing crates replies) Idle := by
  intro kms g hidle
  refine ⟨trivial, fun instant g' hmoves => ?_⟩
  obtain rfl : g' = g := moves_hearing hmoves
  exact hidle

theorem is_context_expired_heard : is_context_expired.Keeps (hearing crates replies) Idle := by
  unfold is_context_expired
  apply Method.keeps_bind Method.keeps_get
  intro self
  split
  · exact Method.keeps_pure _
  · split
    · exact Method.keeps_bind now_heard fun _ => Method.keeps_pure _
    · exact Method.keeps_pure _

theorem check_breaker_heard : check_breaker.Keeps (hearing crates replies) Idle := by
  have hcooled : ∀ last, (cooled_down last).Keeps (hearing crates replies) Idle := by
    intro last
    cases last with
    | none => exact Method.keeps_pure _
    | some t => exact Method.keeps_bind now_heard fun _ => Method.keeps_pure _
  unfold check_breaker
  apply Method.keeps_bind Method.keeps_get
  intro self
  split
  · apply Method.keeps_bind (hcooled _)
    intro cooled
    apply Method.keeps_bind (Method.keeps_reject _ _)
    intro _
    exact Method.keeps_modify fun _ _ hidle => ⟨⟨hidle.ephemeral_key, hidle.content_key⟩, hidle.topic⟩
  · exact Method.keeps_pure _

theorem parse_kms_details_heard (response : Except String FetchResponse) :
    (parse_kms_details crates response).Keeps (hearing crates replies) fun kms g => Attuned kms g ∧ g.topic = .details := by
  unfold parse_kms_details
  apply Method.keeps_bind (Method.keeps_ofExcept _)
  intro response
  apply Method.keeps_bind (Method.keeps_reject _ _)
  intro _
  apply Method.keeps_bind (Method.keeps_ofExcept _)
  intro kms_details
  apply Method.keeps_bind (Method.keeps_ofExcept _)
  intro kms_cluster
  refine Method.keeps_bind (Method.keeps_modify fun _ _ hattuned => ?_) fun _ => ?_
  · exact ⟨⟨hattuned.1.ephemeral_key, hattuned.1.content_key⟩, hattuned.2⟩
  apply Method.keeps_bind (Method.keeps_ofExcept _)
  intro _
  split
  · exact Method.keeps_ofExcept _
  · exact Method.keeps_pure _
  · exact Method.keeps_throw _

/-- A handshake that succeeds ends with the ephemeral key that its response brings. -/
theorem initialize_client_heard (hidle : Idle kms g) :
    (initialize_client crates).Obeys (hearing crates replies) kms g fun outcome kms' g' =>
      Attuned kms' g' ∧ (outcome = .ok () → g'.topic = .idle) := by
  have hfailed : ∀ (e : WebexError) (kms' : KmsClient) (g' : Hearing), Attuned kms' g' →
      Attuned kms' g' ∧ ((.error e : Except WebexError Unit) = .ok () → g'.topic = .idle) :=
    fun _ _ _ hattuned => ⟨hattuned, fun heq => nomatch heq⟩
  unfold initialize_client fetch_kms_details
  rw [Method.bind_assoc, Method.obeys_bind, Method.obeys_get]
  dsimp only
  rw [Method.bind_assoc, Method.obeys_bind, obeys_fetch]
  refine ⟨trivial, fun response g₁ hmoves => ?_⟩
  obtain rfl : g₁ = { g with topic := .details } := (moves_hearing hmoves).trans (if_pos hidle.topic)
  dsimp only
  apply (parse_kms_details_heard response kms _ ⟨hidle.toAttuned.set_topic _, rfl⟩).bind _ fun e kms' g' hkept =>
    hfailed e kms' g' hkept.1
  intro rsa_jwk_value kms₁ g₁ hkept
  unfold handshake
  rw [Method.obeys_bind, obeys_random]
  refine ⟨trivial, fun local_secret g₂ hmoves => ?_⟩
  obtain rfl : g₂ = { g₁ with topic := .handshake local_secret } := (moves_hearing hmoves).trans (if_pos hkept.2)
  have hattuned : Attuned kms₁ { g₁ with topic := .handshake local_secret } := hkept.1.set_topic _
  generalize hg₂ : ({ g₁ with topic := .handshake local_secret } : Hearing) = g₂ at hattuned
  have htopic : g₂.topic = .handshake local_secret := by rw [← hg₂]
  dsimp only
  rw [Method.obeys_bind, Method.obeys_ofExcept]
  cases public_jwk crates local_secret with
  | error e => exact hfailed e _ _ hattuned
  | ok public_jwk_map =>
    dsimp only
    rw [Method.obeys_bind, obeys_new_v4]
    refine ⟨trivial, fun request_id g₃ hmoves => ?_⟩
    obtain rfl : g₃ = g₂ := moves_hearing hmoves
    dsimp only
    rw [Method.obeys_bind, Method.obeys_get]
    dsimp only
    rw [Method.obeys_bind, obeys_random]
    refine ⟨trivial, fun seed g₄ hmoves => ?_⟩
    obtain rfl : g₄ = g₃ := (moves_hearing hmoves).trans (if_neg (by simp [htopic]))
    dsimp only
    rw [Method.obeys_bind, Method.obeys_ofExcept]
    split
    · rename_i wrapped hwrapped
      apply (send_kms_request_heard (.inr ⟨local_secret, htopic⟩) request_id wrapped).bind
      · rintro wrapped_response _ g₅ ⟨rfl, ⟨response, hresponse, rfl⟩ | ⟨e, he, -⟩⟩
        · obtain rfl := Except.ok.inj hresponse
          rw [Method.obeys_bind, Method.obeys_ofExcept]
          cases hderived : derive_ephemeral_key crates wrapped_response local_secret with
          | error e =>
            refine hfailed e _ _ ⟨?_, ?_⟩
            · simp [Hearing.received, htopic, hderived, hattuned.ephemeral_key, Except.toOption]
            · simp [Hearing.received, htopic, hattuned.content_key]
          | ok derived =>
            simp only [Method.obeys_bind, Method.obeys_modify, obeys_now]
            refine ⟨trivial, fun instant g₅ hmoves => ?_⟩
            obtain rfl := moves_hearing hmoves
            refine ⟨⟨?_, ?_⟩, fun _ => ?_⟩
            all_goals simp [Hearing.received, Hearing.after, reply_of, htopic, hderived, hattuned.content_key, Except.toOption]
        · cases he
      · rintro e _ g₅ ⟨rfl, ⟨response, hresponse, -⟩ | ⟨e', -, heq, -⟩⟩
        · cases hresponse
        · rw [heq]
          exact hfailed e _ _ (hattuned.set_topic _)
    · rename_i e he
      exact hfailed e _ _ hattuned

theorem get_key_checks_heard (hidle : Idle kms g) :
    (get_key_checks crates).Obeys (hearing crates replies) kms g fun outcome kms' g' =>
      Attuned kms' g' ∧ (outcome = .ok () → g'.topic = .idle) := by
  have hfailed : ∀ (e : WebexError) (kms' : KmsClient) (g' : Hearing), Idle kms' g' →
      Attuned kms' g' ∧ ((.error e : Except WebexError Unit) = .ok () → g'.topic = .idle) :=
    fun _ _ _ hidle => ⟨hidle.toAttuned, fun heq => nomatch heq⟩
  have hbounded : Idle (bounded kms) g := ⟨⟨hidle.ephemeral_key, hidle.content_key⟩, hidle.topic⟩
  have hrenewed : (renew_context crates).Obeys (hearing crates replies) (bounded kms) g
      fun outcome kms' g' => Attuned kms' g' ∧ (outcome = .ok () → g'.topic = .idle) := by
    unfold renew_context
    apply (is_context_expired_heard (bounded kms) g hbounded).bind _ (hfailed · · ·)
    intro expired kms₁ g₁ hidle
    cases expired with
    | true => exact initialize_client_heard hidle
    | false => exact ⟨hidle.toAttuned, fun _ => hidle.topic⟩
  rw [obeys_get_key_checks]
  apply hrenewed.bind
  · intro _ kms₂ g₂ hready
    refine (check_breaker_heard kms₂ g₂ ⟨hready.1, hready.2 rfl⟩).mono ?_
    exact fun _ _ _ hidle => ⟨hidle.toAttuned, fun _ => hidle.topic⟩
  · intro e kms₂ g₂ hready
    exact ⟨hready.1, fun heq => nomatch heq⟩

/-- The loop of attempts returns a key exactly if one is heard. -/
theorem get_key_attempts_heard (key_uri : String) (left attempt : Nat) (hidle : Idle kms g) :
    (get_key_attempts crates key_uri left attempt).Obeys (hearing crates replies) kms g fun outcome kms' g' =>
      kms'.ephemeral_key = g'.ephemeral_key ∧ outcome.toOption = g'.content_key := by
  have hfailed : ∀ (e : WebexError) (kms' : KmsClient) (g' : Hearing), Idle kms' g' →
      kms'.ephemeral_key = g'.ephemeral_key ∧ (.error e : Except WebexError Bytes).toOption = g'.content_key :=
    fun _ _ _ hidle => ⟨hidle.ephemeral_key, hidle.content_key.symm⟩
  induction left generalizing attempt kms g with
  | zero => exact hfailed _ kms g hidle
  | succ left ih =>
    unfold get_key_attempts
    rw [Method.obeys_bind, Method.obeys_get]
    dsimp only
    rw [Method.obeys_bind, Method.obeys_reject]
    refine ⟨fun _ => hfailed _ kms g hidle, fun _ => ?_⟩
    dsimp only
    rw [Method.obeys_bind, Method.obeys_ofExcept]
    cases hkey : kms.ephemeral_key with
    | none =>
      have hkept := hfailed (.kms "No ephemeral key") kms g hidle
      rw [hkey] at hkept
      exact hkept
    | some ephemeral_key =>
      dsimp only
      rw [Method.obeys_bind, obeys_new_v4]
      refine ⟨trivial, fun request_id g₁ hmoves => ?_⟩
      obtain rfl : g₁ = g := moves_hearing hmoves
      dsimp only
      rw [Method.obeys_bind, obeys_random]
      refine ⟨trivial, fun seed g₂ hmoves => ?_⟩
      obtain rfl : g₂ = g₁ := (moves_hearing hmoves).trans (if_neg (by simp [hidle.topic]))
      dsimp only
      rw [Method.obeys_bind, Method.obeys_ofExcept]
      split
      · rename_i wrapped hwrapped
        rw [Method.obeys_bind, Method.obeys_attempt]
        apply (send_kms_request_heard (.inl hidle.topic) request_id wrapped).mono
        rintro outcome kms₁ g₃ ⟨rfl, ⟨response, rfl, rfl⟩ | ⟨e, rfl, heq, htopic⟩⟩
        · dsimp only
          rw [Method.obeys_bind, Method.obeys_ofExcept]
          have hheard : (g₂.received crates response).content_key =
              (open_key_response crates response ephemeral_key).toOption := by
            simp [Hearing.received, hidle.topic, ← hidle.ephemeral_key, hkey]
          have hkept : (g₂.received crates response).ephemeral_key = kms₁.ephemeral_key := by
            simp [Hearing.received, hidle.topic, hidle.ephemeral_key]
          cases hopens : open_key_response crates response ephemeral_key with
          | ok content_key => exact ⟨hkept.symm, by rw [hheard, hopens]⟩
          | error e => exact ⟨hkept.symm, by rw [hheard, hopens]⟩
        · have hidle₃ : Idle kms₁ g₃ := by
            rw [heq]
            exact ⟨hidle.toAttuned.set_topic _, htopic hidle.topic⟩
          dsimp only
          split
          · rw [Method.obeys_bind, obeys_sleep]
            refine ⟨trivial, fun _ g₄ hmoves => ?_⟩
            obtain rfl : g₄ = g₃ := moves_hearing hmoves
            exact ih (attempt + 1) hidle₃
          · rw [Method.obeys_bind, obeys_now]
            refine ⟨trivial, fun instant g₄ hmoves => ?_⟩
            obtain rfl : g₄ = g₃ := moves_hearing hmoves
            exact hfailed e (record_failure instant kms₁) g₄
              ⟨⟨hidle₃.ephemeral_key, hidle₃.content_key⟩, hidle₃.topic⟩
      · exact hfailed _ kms _ hidle

/-- A `get_key` on a URI that is not cached returns a key exactly if its answers bring one. -/
theorem get_key_heard {key_uri : String} (huncached : kms.key_cache.lookup key_uri = none) (hidle : Idle kms g) :
    (get_key crates key_uri).Obeys (hearing crates replies) kms g fun outcome kms' g' =>
      kms'.ephemeral_key = g'.ephemeral_key ∧ outcome.toOption = g'.content_key := by
  rw [obeys_get_key_of_uncached huncached]
  apply (get_key_checks_heard hidle).bind
  · intro _ kms' g' hready
    exact get_key_attempts_heard key_uri _ _ ⟨hready.1, hready.2 rfl⟩
  · intro e kms' g' hready
    exact ⟨hready.1.ephemeral_key, hready.1.content_key.symm⟩

end hearing

section answers

variable (crates : Crates)

/-- What the answers of a call bring to a client with an ephemeral key. -/
def heard (ephemeral_key : Option Bytes) (replies : List Reply) : Hearing :=
  replies.foldl (Hearing.after crates) { ephemeral_key := ephemeral_key }

/-- The URIs whose keys the answers of a run bring. -/
def answered_uris : Option Bytes → List Invocation → List String
  | _, [] => []
  | ephemeral_key, .get_key key_uri replies :: rest =>
    let hearing := heard crates ephemeral_key replies
    (hearing.content_key.map fun _ => key_uri).toList ++ answered_uris hearing.ephemeral_key rest
  | ephemeral_key, .initialize_client replies :: rest => answered_uris (heard crates ephemeral_key replies).ephemeral_key rest

variable {crates}

theorem get_key_take_heard {kms kms' : KmsClient} {key_uri : String} {outcome : Except WebexError Bytes} {replies : List Reply}
    (huncached : kms.key_cache.lookup key_uri = none)
    (htake : (get_key crates key_uri kms).take reply replies = some ((outcome, kms'), [])) :
    kms'.ephemeral_key = (heard crates kms.ephemeral_key replies).ephemeral_key ∧
      outcome.toOption = (heard crates kms.ephemeral_key replies).content_key := by
  have hidle : Idle kms { ephemeral_key := kms.ephemeral_key } := ⟨⟨rfl, rfl⟩, rfl⟩
  have hobeys : (get_key crates key_uri).Obeys (hearing crates replies) kms { ephemeral_key := kms.ephemeral_key } _ :=
    get_key_heard huncached hidle
  obtain ⟨used, hused, hheard⟩ := Program.Obeys.take hobeys (List.Subset.refl _) htake
  rw [heard, hused, List.append_nil]
  exact hheard

theorem initialize_client_take_heard {kms kms' : KmsClient} {outcome : Except WebexError Unit} {replies : List Reply}
    (htake : (initialize_client crates kms).take reply replies = some ((outcome, kms'), [])) :
    kms'.ephemeral_key = (heard crates kms.ephemeral_key replies).ephemeral_key := by
  have hidle : Idle kms { ephemeral_key := kms.ephemeral_key } := ⟨⟨rfl, rfl⟩, rfl⟩
  have hobeys : (initialize_client crates).Obeys (hearing crates replies) kms { ephemeral_key := kms.ephemeral_key } _ :=
    initialize_client_heard hidle
  obtain ⟨used, hused, hheard⟩ := Program.Obeys.take hobeys (List.Subset.refl _) htake
  rw [heard, hused, List.append_nil]
  exact hheard.1.ephemeral_key

end answers

end webex.rust.kms_client

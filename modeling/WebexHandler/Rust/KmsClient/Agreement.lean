import WebexHandler.Rust.KmsClient.Protocol

open interaction json transition

namespace webex.rust.kms_client

/-- `req` asks the KMS for the key of `key_uri`, wrapped under `ephemeral_key`. -/
def Retrieves (crates : Crates) (key_uri : String) (ephemeral_key : Bytes) (req : FetchRequest) : Prop :=
  ∃ self request_id seed wrapped,
    crates.encrypt_dir_a256gcm (crates.to_string (retrieve_body self key_uri request_id)) ephemeral_key
      self.ephemeral_key_kid seed = .ok wrapped ∧
    req = message_request crates self wrapped

/-- The KMS sent `key` in answer to a retrieve request for `key_uri`. -/
def SentFor (crates : Crates) (accepted : List (FetchRequest × String)) (key_uri : String) (key : Bytes) : Prop :=
  ∃ req answer ephemeral_key, (req, answer) ∈ accepted ∧ Retrieves crates key_uri ephemeral_key req ∧
    open_key_response crates answer ephemeral_key = .ok key

/-- Keys are returned and cached under the URI they were sent for, and a call takes
    only the answer to its own POST. -/
structure Agreement (crates : Crates) (s : Session) : Prop where
  returned : ∀ key_uri key, (key_uri, key) ∈ s.returned → SentFor crates s.world.accepted key_uri key
  cached : ∀ key_uri key, s.kms.key_cache.lookup key_uri = some key → SentFor crates s.world.accepted key_uri key
  consumed : ∀ post response, (post, response) ∈ s.world.consumed →
    ∃ req, post = some req ∧ (req, response) ∈ s.world.accepted

/-- The same as a condition on the steps of a session. -/
def registers_drained (s : Session) : Label → Bool
  | .perform _ => s.head.elim true (drained s.world)
  | _ => true

def RegistersDrained (s : Session) (label : Label) : Prop := registers_drained s label = true

variable {crates : Crates} {self : KmsClient} {g : View}

/-- Between requests: the cached keys are still `cache` and the accepted POSTs have
    only grown. -/
def Between (accepted : List (FetchRequest × String)) (cache : List (String × Bytes)) (self : KmsClient) (g : View) :
    Prop :=
  g.phase = .idle ∧ accepted ⊆ g.accepted ∧ self.key_cache = cache

/-- The handshake and the checks of `get_key` leave the cached keys alone. -/
theorem between_rule (accepted : List (FetchRequest × String)) (cache : List (String × Bytes)) :
    Rule crates mailbox_monitor (Between accepted cache) where
  details := by
    rintro self g ⟨hidle, haccepted, hcache⟩
    refine ⟨fun hpost => absurd hpost (by simp [details_request]), ?_⟩
    rintro r g' ⟨hgrown, hphase⟩
    rw [if_neg (by simp [details_request])] at hphase
    exact ⟨hphase.trans hidle, List.Subset.trans haccepted hgrown, hcache⟩
  message := by
    rintro request_id wrapped self g ⟨hidle, haccepted, hcache⟩
    refine (send_kms_request_obeys hidle request_id wrapped).mono ?_
    rintro r _ g' ⟨rfl, hidle', hgrown, -⟩
    exact ⟨hidle', List.Subset.trans haccepted hgrown, hcache⟩
  now := Method.keeps_request fun _ _ hbetween => ⟨trivial, fun _ _ hsame => hsame ▸ hbetween⟩
  new_v4 := Method.keeps_request fun _ _ hbetween => ⟨trivial, fun _ _ hsame => hsame ▸ hbetween⟩
  random := fun _ => Method.keeps_request fun _ _ hbetween => ⟨trivial, fun _ _ hsame => hsame ▸ hbetween⟩
  context := by
    rintro self self' g - hsame ⟨hidle, haccepted, hcache⟩
    exact ⟨hidle, haccepted, hsame.trans hcache⟩

/-- Every cached key was sent for the URI it is cached under. -/
def CacheAgrees (crates : Crates) (self : KmsClient) (accepted : List (FetchRequest × String)) : Prop :=
  ∀ key_uri key, self.key_cache.lookup key_uri = some key → SentFor crates accepted key_uri key

/-- What a `get_key` guarantees when it ends. -/
def KeyReply (crates : Crates) (key_uri : String) (r : Except WebexError Bytes) (self : KmsClient) (g : View) : Prop :=
  g.phase = .idle ∧ CacheAgrees crates self g.accepted ∧ ∀ key, r = .ok key → SentFor crates g.accepted key_uri key

theorem SentFor.mono {accepted accepted' : List (FetchRequest × String)} (hgrown : accepted ⊆ accepted')
    {key_uri : String} {key : Bytes} (hsent : SentFor crates accepted key_uri key) :
    SentFor crates accepted' key_uri key := by
  obtain ⟨req, answer, ephemeral_key, hmem, hsent⟩ := hsent
  exact ⟨req, answer, ephemeral_key, hgrown hmem, hsent⟩

theorem lookup_filter_ne (cache : List (String × Bytes)) {key_uri other : String} (hne : other ≠ key_uri) :
    (cache.filter fun entry => entry.1 != key_uri).lookup other = cache.lookup other := by
  induction cache with
  | nil => rfl
  | cons entry rest ih =>
    by_cases hentry : entry.1 = key_uri
    · have hother : (other == entry.1) = false := by simpa [hentry] using hne
      rw [List.filter_cons_of_neg (by simp [hentry]), ih, List.lookup_cons, hother]
    · rw [List.filter_cons_of_pos (by simpa using hentry), List.lookup_cons, List.lookup_cons, ih]

theorem lookup_insert (cache : List (String × Bytes)) (key_uri other : String) (key : Bytes) :
    (insert cache key_uri key).lookup other = if other = key_uri then some key else cache.lookup other := by
  by_cases heq : other = key_uri
  · simp [insert, heq]
  · have hne : (other == key_uri) = false := by simpa using heq
    rw [insert, List.lookup_cons, hne, if_neg heq, lookup_filter_ne cache heq]

theorem CacheAgrees.mono {accepted accepted' : List (FetchRequest × String)} (hgrown : accepted ⊆ accepted')
    (hcache : CacheAgrees crates self accepted) : CacheAgrees crates self accepted' :=
  fun key_uri key hlookup => (hcache key_uri key hlookup).mono hgrown

theorem CacheAgrees.record_success {accepted : List (FetchRequest × String)} (hcache : CacheAgrees crates self accepted)
    {key_uri : String} {key : Bytes} (hsent : SentFor crates accepted key_uri key) :
    CacheAgrees crates (record_success key_uri key self) accepted := by
  intro other found hlookup
  simp only [kms_client.record_success, lookup_insert] at hlookup
  split at hlookup
  · rename_i heq
    obtain rfl : key = found := by simpa using hlookup
    exact heq ▸ hsent
  · exact hcache other found hlookup

/-- The attempt loop: the answer that is opened is the one to the retrieve request of
    the same attempt. -/
theorem get_key_attempts_obeys (key_uri : String) (left attempt : Nat) {g : View}
    (hidle : g.phase = .idle) (hcache : CacheAgrees crates self g.accepted) :
    (get_key_attempts crates key_uri left attempt).Obeys mailbox_monitor self g (KeyReply crates key_uri) := by
  induction left generalizing attempt g with
  | zero => exact ⟨hidle, hcache, by simp⟩
  | succ left ih =>
    have hfailed : ∀ e : WebexError, KeyReply crates key_uri (.error e) self g :=
      fun e => ⟨hidle, hcache, by simp⟩
    simp only [get_key_attempts, Method.obeys_bind, Method.obeys_get, Method.obeys_reject]
    refine ⟨fun _ => hfailed _, fun _ => ?_⟩
    cases self.ephemeral_key with
    | none => exact hfailed _
    | some ephemeral_key =>
      simp only [Method.obeys_ofExcept, obeys_new_v4, obeys_random]
      refine ⟨trivial, ?_⟩
      rintro request_id _ rfl
      refine ⟨trivial, ?_⟩
      rintro seed _ rfl
      cases hwrapped : crates.encrypt_dir_a256gcm (crates.to_string (retrieve_body self key_uri request_id))
        ephemeral_key self.ephemeral_key_kid seed with
      | error e => exact hfailed _
      | ok wrapped =>
        simp only [Method.obeys_attempt]
        refine (send_kms_request_obeys hidle request_id wrapped).mono ?_
        rintro r self g' ⟨rfl, hidle', hgrown, hanswer⟩
        have hcache' := hcache.mono hgrown
        cases r with
        | ok wrapped_response =>
          have hretrieves : Retrieves crates key_uri ephemeral_key (message_request crates self wrapped) :=
            ⟨self, request_id, seed, wrapped, hwrapped, rfl⟩
          simp only [Method.obeys_bind, Method.obeys_ofExcept]
          cases hopen : open_key_response crates wrapped_response ephemeral_key with
          | error e => exact ⟨hidle', hcache', by simp⟩
          | ok content_key =>
            have hsent : SentFor crates g'.accepted key_uri content_key :=
              ⟨_, wrapped_response, ephemeral_key, hanswer wrapped_response rfl, hretrieves, hopen⟩
            refine ⟨hidle', hcache'.record_success hsent, ?_⟩
            rintro _ ⟨⟩
            exact hsent
        | error e =>
          simp only
          split
          · simp only [Method.obeys_bind, obeys_sleep]
            refine ⟨trivial, ?_⟩
            rintro _ _ rfl
            exact ih (attempt + 1) hidle' hcache'
          · simp only [Method.obeys_bind, obeys_now]
            refine ⟨trivial, ?_⟩
            rintro instant _ rfl
            exact ⟨hidle', hcache', by simp⟩

/-- The steps of `get_key` before its first attempt keep the cache as it is. -/
theorem Between.cache_agrees {self' : KmsClient} {g' : View} (hcache : CacheAgrees crates self g.accepted)
    (hbetween : Between g.accepted self.key_cache self' g') : CacheAgrees crates self' g'.accepted := by
  obtain ⟨-, hgrown, hsame⟩ := hbetween
  intro key_uri key hlookup
  rw [hsame] at hlookup
  exact (hcache key_uri key hlookup).mono hgrown

theorem get_key_obeys (key_uri : String) (hidle : g.phase = .idle) (hcache : CacheAgrees crates self g.accepted) :
    (get_key crates key_uri).Obeys mailbox_monitor self g (KeyReply crates key_uri) := by
  simp only [get_key, Method.obeys_bind, Method.obeys_get]
  cases hlookup : self.key_cache.lookup key_uri with
  | some cached =>
    refine ⟨hidle, hcache, ?_⟩
    rintro _ ⟨⟩
    exact hcache key_uri cached hlookup
  | none =>
    have hbounded : CacheAgrees crates (bounded self) g.accepted := by
      unfold bounded trimmed
      split
      · simp [CacheAgrees]
      · exact hcache
    have hfailed : ∀ e self' g', Between g.accepted (bounded self).key_cache self' g' →
        KeyReply crates key_uri (.error e) self' g' :=
      fun e self' g' hbetween => ⟨hbetween.1, hbetween.cache_agrees hbounded, by simp⟩
    have hrule : Rule crates mailbox_monitor (Between g.accepted (bounded self).key_cache) :=
      between_rule g.accepted (bounded self).key_cache
    have hchecks : (renew_context crates >>= fun _ => check_breaker).Keeps mailbox_monitor
        (Between g.accepted (bounded self).key_cache) :=
      Method.keeps_bind hrule.renew_context fun _ => hrule.check_breaker
    simp only
    rw [Method.obeys_bind, obeys_get_key_checks]
    refine (hchecks (bounded self) g ⟨hidle, List.Subset.refl _, rfl⟩).mono ?_
    intro outcome self' g' hbetween
    cases outcome with
    | ok _ => exact get_key_attempts_obeys key_uri _ _ hbetween.1 (hbetween.cache_agrees hbounded)
    | error e => exact hfailed e self' g' hbetween

theorem perform_accepted {op : Op} {choice : Choice} {world world' : World} {r : Res op}
    (hperform : World.perform op choice world = some (r, world')) : world.accepted ⊆ world'.accepted := by
  unfold World.perform at hperform
  split at hperform
  · rename_i req result answer
    split at hperform
    · simp only [Option.some.injEq] at hperform
      obtain ⟨-, rfl⟩ := hperform
      cases answer with
      | none => exact List.Subset.refl _
      | some response => exact List.subset_append_left _ _
    · simp only [Option.ite_none_right_eq_some, Option.some.injEq] at hperform
      obtain ⟨-, -, rfl⟩ := hperform
      exact List.Subset.refl _
  all_goals
    simp only [Option.map_eq_some_iff, Option.ite_none_right_eq_some, Option.some.injEq,
      reduceCtorEq] at hperform
  all_goals grind

/-- What holds of a session at every moment: the environment is in some phase, the
    running call will end with a proper reply, and the keys handed out so far agree. -/
structure SessionAgrees (crates : Crates) (s : Session) : Prop where
  returned : ∀ key_uri key, (key_uri, key) ∈ s.returned → SentFor crates s.world.accepted key_uri key
  cached : CacheAgrees crates s.kms s.world.accepted
  call : ∃ g, WorldView s.world g ∧ match s.call with
    | none => g.phase = .idle
    | some (.get_key key_uri rest) =>
      rest.Obeys mailbox_monitor (fun out g' => KeyReply crates key_uri out.1 out.2 g') g
    | some (.initialize_client rest) =>
      rest.Obeys mailbox_monitor (fun out g' => g'.phase = .idle ∧ CacheAgrees crates out.2 g'.accepted) g

theorem SessionAgrees.agreement {s : Session} (hagrees : SessionAgrees crates s) : Agreement crates s := by
  obtain ⟨g, hview, -⟩ := hagrees.call
  exact ⟨hagrees.returned, hagrees.cached, hview.consumed⟩

theorem advance_accepted {α : Type} {rest rest' : Program Op Res α} {choice : Choice} {world world' : World}
    (hadvance : rest.advance World.perform choice world = some (rest', world')) :
    world.accepted ⊆ world'.accepted := by
  cases rest with
  | ret value => simp [Program.advance] at hadvance
  | ask op next =>
    simp only [Program.advance, Option.map_eq_some_iff, Prod.mk.injEq] at hadvance
    obtain ⟨⟨r, after⟩, hperform, -, rfl⟩ := hadvance
    exact perform_accepted hperform

/-- Every step of a session keeps the keys in agreement, as long as requests register
    drained. -/
theorem SessionAgrees.step {s next : Session} (hagrees : SessionAgrees crates s) {label : Label}
    (hdrained : RegistersDrained s label) (hstep : s.step crates label = some next) :
    SessionAgrees crates next := by
  obtain ⟨hreturned, hcached, g, hview, hcall⟩ := hagrees
  cases label with
  | get_key key_uri =>
    simp only [Session.step, Option.ite_none_right_eq_some, Option.some.injEq] at hstep
    obtain ⟨hfree, rfl⟩ := hstep
    rw [Option.isNone_iff_eq_none] at hfree
    simp only [hfree] at hcall
    exact ⟨hreturned, hcached, g, hview, get_key_obeys key_uri hcall (hview.accepted ▸ hcached)⟩
  | initialize_client =>
    simp only [Session.step, Option.ite_none_right_eq_some, Option.some.injEq] at hstep
    obtain ⟨hfree, rfl⟩ := hstep
    rw [Option.isNone_iff_eq_none] at hfree
    simp only [hfree] at hcall
    have hobeys : (initialize_client crates).Obeys mailbox_monitor s.kms g fun _ kms g' =>
        g'.phase = .idle ∧ CacheAgrees crates kms g'.accepted := by
      refine ((between_rule g.accepted s.kms.key_cache).initialize_client s.kms g
        ⟨hcall, List.Subset.refl _, rfl⟩).mono fun _ kms g' hbetween => ?_
      exact ⟨hbetween.1, hbetween.cache_agrees (hview.accepted ▸ hcached)⟩
    exact ⟨hreturned, hcached, g, hview, hobeys⟩
  | perform choice =>
    have hhead : ∀ op, s.head = some op → drained s.world op = true := by
      intro op hop
      simpa [RegistersDrained, registers_drained, hop] using hdrained
    simp only [Session.step, Session.perform] at hstep
    split at hstep
    · simp at hstep
    · rename_i key_uri rest hsome
      simp only [Option.map_eq_some_iff] at hstep
      obtain ⟨⟨rest', world⟩, hadvance, rfl⟩ := hstep
      simp only [hsome] at hcall
      have hgrown := advance_accepted hadvance
      obtain ⟨g', hview', hobeys⟩ := hcall.advance mailbox_sound hview
        (fun op hop => hhead op (by simpa [Session.head, hsome] using hop)) hadvance
      exact ⟨fun uri key hmem => (hreturned uri key hmem).mono hgrown, hcached.mono hgrown, g', hview', hobeys⟩
    · rename_i rest hsome
      simp only [Option.map_eq_some_iff] at hstep
      obtain ⟨⟨rest', world⟩, hadvance, rfl⟩ := hstep
      simp only [hsome] at hcall
      have hgrown := advance_accepted hadvance
      obtain ⟨g', hview', hobeys⟩ := hcall.advance mailbox_sound hview
        (fun op hop => hhead op (by simpa [Session.head, hsome] using hop)) hadvance
      exact ⟨fun uri key hmem => (hreturned uri key hmem).mono hgrown, hcached.mono hgrown, g', hview', hobeys⟩
  | return_call =>
    simp only [Session.step, Session.return_call] at hstep
    split at hstep
    · rename_i key_uri key kms hsome
      simp only [Option.some.injEq] at hstep
      subst hstep
      simp only [hsome] at hcall
      obtain ⟨hidle, hcache, hkey⟩ := hcall
      rw [← hview.accepted] at hcache hkey
      refine ⟨?_, hcache, g, hview, hidle⟩
      intro uri found hmem
      simp only [List.mem_append, List.mem_singleton, Prod.mk.injEq] at hmem
      obtain hmem | ⟨rfl, rfl⟩ := hmem
      · exact hreturned uri found hmem
      · exact hkey found rfl
    · rename_i key_uri e kms hsome
      simp only [Option.some.injEq] at hstep
      subst hstep
      simp only [hsome] at hcall
      exact ⟨hreturned, hview.accepted ▸ hcall.2.1, g, hview, hcall.1⟩
    · rename_i r kms hsome
      simp only [Option.some.injEq] at hstep
      subst hstep
      simp only [hsome] at hcall
      exact ⟨hreturned, hview.accepted ▸ hcall.2, g, hview, hcall.1⟩
    · simp at hstep
  | deliver data =>
    simp only [Session.step, Option.map_eq_some_iff] at hstep
    obtain ⟨world, hdeliver, rfl⟩ := hstep
    have haccepted : world.accepted = s.world.accepted := by
      rw [(hview.deliver hdeliver).accepted, hview.accepted]
    refine ⟨?_, ?_, g, hview.deliver hdeliver, hcall⟩
    · rw [haccepted]
      exact hreturned
    · rw [haccepted]
      exact hcached

/-- As long as a request is registered only when no earlier answer is in flight,
    every key is returned and cached for the URI the KMS sent it for. -/
theorem agreement_of_registers_drained (crates : Crates) (token device_url user_id encryption_service_url : String)
    {s : Session}
    (hreach : (session crates (new token device_url user_id encryption_service_url)).Reachable RegistersDrained s) :
    Agreement crates s := by
  refine SessionAgrees.agreement (hreach.invariant ?_ ?_)
  · refine ⟨nofun, nofun, ⟨.idle, []⟩, ⟨rfl, fun _ _ => rfl, nofun, rfl⟩, rfl⟩
  · intro s label next _ hagrees hdrained hstep
    exact hagrees.step hdrained hstep

section sample

/-- Two keys are asked for, and each answer arrives in time. -/
def prompt_labels : List Label :=
  handshake_labels ++ ([.get_key "kms://ciscospark.com/keys/a", .perform (.instant 1000)] : List Label) ++
    post_labels "r1" answer_a_jwe ++
    ([.deliver (kms_event answer_a_jwe), .perform .received, .return_call,
      .get_key "kms://ciscospark.com/keys/b", .perform (.instant 2000)] : List Label) ++
    post_labels "r2" answer_b_jwe ++
    ([.deliver (kms_event answer_b_jwe), .perform .received, .return_call] : List Label)

/-- The first key's answer is late: the call times out and its retry fails, and the
    answer arrives while the second key is asked for. -/
def late_labels : List Label :=
  handshake_labels ++ ([.get_key "kms://ciscospark.com/keys/a", .perform (.instant 1000)] : List Label) ++
    post_labels "r1" answer_a_jwe ++
    ([.perform .timed_out, .perform .done, .perform .elapsed, .perform (.uuid "r2"), .perform (.bytes []),
      .perform .done, .perform (.fetched (.error "connection refused") none), .perform .done,
      .perform (.instant 33000), .return_call, .get_key "kms://ciscospark.com/keys/b", .perform (.instant 34000)] : List Label) ++
    post_labels "r3" answer_b_jwe ++
    ([.deliver (kms_event answer_a_jwe), .perform .received, .return_call] : List Label)

/-- What is observed of a run: the keys it returned and cached, and the bodies of the
    POSTs with their answers. -/
structure Observed where
  returned : List (String × Bytes)
  cached : List (String × Bytes)
  posts : List (Option String × String)
  deriving DecidableEq

def observe (s : Session) : Observed where
  returned := s.returned
  cached := s.kms.key_cache
  posts := s.world.accepted.map fun post => (post.1.body, post.2)

theorem prompt_answers_agree :
    ∃ s, (session sample_crates sample_client).run { kms := sample_client } prompt_labels = some s ∧
      s.returned = [("kms://ciscospark.com/keys/a", key_a), ("kms://ciscospark.com/keys/b", key_b)] ∧
      Agreement sample_crates s := by
  have hobserve : (((session sample_crates sample_client).run { kms := sample_client } prompt_labels).map
      fun s => s.returned) = some [("kms://ciscospark.com/keys/a", key_a), ("kms://ciscospark.com/keys/b", key_b)] := by
    decide +kernel
  have hmeets : (session sample_crates sample_client).meets registers_drained { kms := sample_client }
      prompt_labels = true := by
    decide +kernel
  simp only [Option.map_eq_some_iff] at hobserve
  obtain ⟨s, hrun, hreturned⟩ := hobserve
  refine ⟨s, hrun, hreturned, ?_⟩
  exact agreement_of_registers_drained sample_crates _ _ _ _
    (Machine.Reachable.run .init prompt_labels (Machine.Meets.of_meets hmeets) hrun)

/-- In the sample, a POST retrieves a key only if its body says so. -/
theorem Retrieves.body {key_uri : String} {ephemeral_key : Bytes} {req : FetchRequest}
    (hretrieves : Retrieves sample_crates key_uri ephemeral_key req) : req.body = some ("retrieve " ++ key_uri) := by
  obtain ⟨self, request_id, seed, wrapped, hwrapped, rfl⟩ := hretrieves
  obtain rfl : "retrieve" ++ " " ++ key_uri = wrapped := Except.ok.inj hwrapped
  rfl

/-- The answer to the first key's POST, which timed out, is taken as the answer to the
    second key's, and the first key is returned for the second URI. -/
theorem late_answer_breaks_agreement :
    ∃ s, (session sample_crates sample_client).Reachable Machine.Always s ∧
      ("kms://ciscospark.com/keys/b", key_a) ∈ s.returned ∧
      s.kms.key_cache.lookup "kms://ciscospark.com/keys/b" = some key_a ∧ ¬ Agreement sample_crates s := by
  have hobserve : (((session sample_crates sample_client).run { kms := sample_client } late_labels).map
      observe) = some {
        returned := [("kms://ciscospark.com/keys/b", key_a)]
        cached := [("kms://ciscospark.com/keys/b", key_a)]
        posts := [(some "create kms://ciscospark.com/ecdhe", handshake_jwe),
          (some "retrieve kms://ciscospark.com/keys/a", answer_a_jwe),
          (some "retrieve kms://ciscospark.com/keys/b", answer_b_jwe)] } := by
    decide +kernel
  simp only [Option.map_eq_some_iff, observe, Observed.mk.injEq] at hobserve
  obtain ⟨s, hrun, hreturned, hcache, haccepted⟩ := hobserve
  refine ⟨s, Machine.reachable_of_run hrun, by simp [hreturned], by simp [hcache], ?_⟩
  intro hagreement
  obtain ⟨req, answer, ephemeral_key, hmem, hretrieves, hopen⟩ :=
    hagreement.returned "kms://ciscospark.com/keys/b" key_a (by simp [hreturned])
  have hpost : (req.body, answer) ∈ s.world.accepted.map fun post => (post.1.body, post.2) :=
    List.mem_map.mpr ⟨(req, answer), hmem, rfl⟩
  rw [haccepted, hretrieves.body] at hpost
  -- the only retrieve request for the second URI was answered with the second key
  obtain rfl : answer = answer_b_jwe := by
    simpa [List.mem_cons] using hpost
  have hother : open_key_response sample_crates answer_b_jwe [] = .ok key_b := by decide +kernel
  rw [show open_key_response sample_crates answer_b_jwe ephemeral_key =
    open_key_response sample_crates answer_b_jwe [] from rfl, hother] at hopen
  exact absurd hopen (by decide)

end sample

end webex.rust.kms_client

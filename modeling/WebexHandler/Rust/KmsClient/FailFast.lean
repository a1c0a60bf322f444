import WebexHandler.Rust.KmsClient.Breaker

open interaction json transition

namespace webex.rust.kms_client

/-- A call that may not use the network, whose clock readings are given. The view is
    the number of readings so far. -/
def offline (clock : Nat → Nat) : Monitor Op Res Nat where
  allowed _ op := ∀ req rx millis, op ≠ .fetch req ∧ op ≠ .wait_response rx millis
  moves reading op r reading' :=
    match op, r with
    | .now, instant => instant = clock reading ∧ reading' = reading + 1
    | _, _ => reading' = reading

/-- What a call that fails fast leaves alone. -/
structure SameContext (kms kms' : KmsClient) : Prop where
  ephemeral_key : kms'.ephemeral_key = kms.ephemeral_key
  ephemeral_key_kid : kms'.ephemeral_key_kid = kms.ephemeral_key_kid
  context_expiration : kms'.context_expiration = kms.context_expiration
  initialized : kms'.initialized = kms.initialized
  kms_cluster : kms'.kms_cluster = kms.kms_cluster
  breaker : SameBreaker kms kms'

/-- A `get_key` returns an error without an HTTP request and without waiting for a
    Mercury response, and leaves the context and the breaker as they are. -/
def FailsFast (crates : Crates) (kms : KmsClient) (key_uri : String) (clock : Nat → Nat) : Prop :=
  (get_key crates key_uri).Obeys (offline clock) kms 0 fun outcome kms' _ =>
    (∃ e, outcome = .error e) ∧ SameContext kms kms'

/-- The context is one that `is_context_expired` accepts at an instant. -/
def ContextLive (kms : KmsClient) (instant : Nat) : Prop :=
  kms.initialized = true ∧ ∃ exp, kms.context_expiration = some exp ∧ instant ≤ exp - 30000

variable {crates : Crates} {kms : KmsClient} {key_uri : String} {clock : Nat → Nat}

theorem offline_allows_now (reading : Nat) : (offline clock).allowed reading .now :=
  fun _ _ _ => ⟨nofun, nofun⟩

theorem is_context_expired_offline (reading : Nat) :
    is_context_expired.Obeys (offline clock) kms reading fun outcome kms' _ =>
      ∃ expired, outcome = .ok expired ∧ (expired = false ↔ ContextLive kms (clock reading)) ∧ kms' = kms := by
  unfold is_context_expired
  rw [Method.obeys_bind, Method.obeys_get]
  dsimp only
  split
  · rename_i hinit
    exact ⟨true, rfl, by simp [ContextLive, hinit], rfl⟩
  · rename_i hinit
    cases hexp : kms.context_expiration with
    | none => exact ⟨true, rfl, by simp [ContextLive, hexp], rfl⟩
    | some exp =>
      rw [Method.obeys_bind, obeys_now]
      refine ⟨offline_allows_now reading, ?_⟩
      rintro instant reading' ⟨rfl, rfl⟩
      refine ⟨decide (exp - 30000 < clock reading), rfl, ?_, rfl⟩
      rw [decide_eq_false_iff_not, Nat.not_lt]
      constructor
      · intro hle
        exact ⟨by simpa using hinit, exp, hexp, hle⟩
      · rintro ⟨-, exp', hexp', hle⟩
        rw [hexp, Option.some.injEq] at hexp'
        exact hexp' ▸ hle

/-- While the cooldown lasts, the check of an open breaker reads the clock and fails. -/
theorem check_breaker_offline {last : Nat} (hopen : kms.cb_state = .open) (hlast : kms.cb_last_failure = some last)
    (hcooling : ∀ reading, clock reading < last + CB_COOLDOWN) (reading : Nat) :
    check_breaker.Obeys (offline clock) kms reading fun outcome kms' _ => (∃ e, outcome = .error e) ∧ kms' = kms := by
  unfold check_breaker
  rw [Method.obeys_bind, Method.obeys_get]
  dsimp only
  rw [if_pos hopen, hlast, cooled_down, Method.obeys_bind, Method.obeys_bind, obeys_now]
  refine ⟨offline_allows_now reading, ?_⟩
  rintro instant reading' ⟨rfl, rfl⟩
  have hshort : ¬ CB_COOLDOWN ≤ clock reading - last := by
    have hbound := hcooling reading
    unfold CB_COOLDOWN at hbound ⊢
    omega
  simp only [hshort, decide_false, Bool.not_false, Method.obeys_pure, Method.obeys_bind, Method.obeys_reject,
    forall_const, Bool.true_eq_false, IsEmpty.forall_iff, and_true]
  exact ⟨_, rfl⟩

/-- An expired context is renewed over the network before the breaker is looked at. -/
theorem initialize_client_not_offline {post : Except WebexError Unit → KmsClient → Nat → Prop} (reading : Nat) :
    ¬ (initialize_client crates).Obeys (offline clock) kms reading post := by
  intro hobeys
  unfold initialize_client fetch_kms_details at hobeys
  rw [Method.obeys_bind, Method.obeys_bind, Method.obeys_get] at hobeys
  dsimp only at hobeys
  rw [Method.obeys_bind, obeys_fetch] at hobeys
  exact (hobeys.1 _ 0 0).1 rfl

/-- A context that has not expired is left as it is. -/
theorem renew_context_offline (hlive : ContextLive kms (clock 0)) :
    (renew_context crates).Obeys (offline clock) kms 0 fun outcome kms' _ => outcome = .ok () ∧ kms' = kms := by
  unfold renew_context
  apply (is_context_expired_offline 0).bind
  · rintro expired kms₁ reading ⟨expired', heq, hexpired, rfl⟩
    cases heq
    rw [hexpired.mpr hlive]
    exact ⟨rfl, rfl⟩
  · rintro e kms₁ reading ⟨expired, heq, -⟩
    cases heq

theorem renew_context_not_offline {post : Except WebexError Unit → KmsClient → Nat → Prop}
    (hexpired : ¬ ContextLive kms (clock 0)) : ¬ (renew_context crates).Obeys (offline clock) kms 0 post := by
  unfold renew_context is_context_expired
  intro hobeys
  rw [Method.obeys_bind, Method.obeys_bind, Method.obeys_get] at hobeys
  dsimp only at hobeys
  split at hobeys
  · exact initialize_client_not_offline 0 hobeys
  · rename_i hinit
    cases hexp : kms.context_expiration with
    | none =>
      rw [hexp] at hobeys
      exact initialize_client_not_offline 0 hobeys
    | some exp =>
      rw [hexp, Method.obeys_bind, obeys_now] at hobeys
      have hafter := hobeys.2 (clock 0) 1 ⟨rfl, rfl⟩
      have hlate : exp - 30000 < clock 0 := by
        rw [← Nat.not_le]
        exact fun hle => hexpired ⟨by simpa using hinit, exp, hexp, hle⟩
      dsimp only at hafter
      rw [Method.obeys_pure, decide_eq_true hlate] at hafter
      exact initialize_client_not_offline 1 hafter

theorem not_fails_fast_of_expired (huncached : kms.key_cache.lookup key_uri = none)
    (hexpired : ¬ ContextLive kms (clock 0)) : ¬ FailsFast crates kms key_uri clock := by
  unfold FailsFast
  rw [obeys_get_key_of_uncached huncached, Method.obeys_bind, obeys_get_key_checks, Method.obeys_bind]
  exact renew_context_not_offline hexpired

/-- While the cooldown of an open breaker lasts, a `get_key` on a URI that is not cached
    fails fast exactly when the context has not expired. -/
theorem open_breaker_fails_fast_iff (crates : Crates) (kms : KmsClient) (key_uri : String) (clock : Nat → Nat)
    (last : Nat) (huncached : kms.key_cache.lookup key_uri = none) (hopen : kms.cb_state = .open)
    (hlast : kms.cb_last_failure = some last) (hcooling : ∀ reading, clock reading < last + CB_COOLDOWN) :
    FailsFast crates kms key_uri clock ↔ ContextLive kms (clock 0) := by
  constructor
  · intro hfast
    by_contra hexpired
    exact not_fails_fast_of_expired huncached hexpired hfast
  · intro hlive
    unfold FailsFast
    rw [obeys_get_key_of_uncached huncached, Method.obeys_bind, obeys_get_key_checks]
    have hrenewed : ContextLive (bounded kms) (clock 0) := hlive
    apply (renew_context_offline hrenewed).bind
    · rintro _ _ reading ⟨-, rfl⟩
      apply (check_breaker_offline (by exact hopen) (by exact hlast) hcooling reading).mono
      rintro outcome kms' reading ⟨⟨e, rfl⟩, rfl⟩
      exact ⟨⟨e, rfl⟩, rfl, rfl, rfl, rfl, rfl, rfl, rfl, rfl⟩
    · rintro e _ reading ⟨heq, -⟩
      cases heq

section sample

/-- A client whose breaker opened at 6000, with a context that lasts until an hour. -/
def opened_client : KmsClient :=
  { sample_client with
    kms_cluster := "kms://ciscospark.com", ephemeral_key := some sample_derived, initialized := true,
    context_expiration := some 3600000, cb_state := .open, cb_failures := 3, cb_last_failure := some 6000 }

/-- A second after the breaker opened, the next call fails fast. -/
theorem open_breaker_fails_fast :
    FailsFast sample_crates opened_client "kms://ciscospark.com/keys/a" fun _ => 7000 := by
  refine (open_breaker_fails_fast_iff sample_crates opened_client _ _ 6000 rfl rfl rfl ?_).mpr ?_
  · intro reading
    decide
  · exact ⟨rfl, 3600000, rfl, by decide⟩

/-- The last minute of a context, in which three fetches are refused. -/
def late_refused_calls : List Invocation :=
  [.initialize_client (handshake_replies 0), .get_key "kms://ciscospark.com/keys/a" (refused_replies 3560000),
    .get_key "kms://ciscospark.com/keys/a" (refused_replies 3562000),
    .get_key "kms://ciscospark.com/keys/a" (refused_replies 3564000)]

/-- Six seconds after the breaker opened the context expires, and the next call renews
    it over the network. -/
theorem expired_context_renewed_while_open :
    ∃ s, (ledger sample_crates sample_client).Reachable Machine.Always s ∧ s.kms.cb_state = .open ∧
      s.kms.cb_last_failure = some 3565000 ∧ 3571000 < 3565000 + CB_COOLDOWN ∧ s.kms.key_cache = [] ∧
      ¬ FailsFast sample_crates s.kms "kms://ciscospark.com/keys/a" fun _ => 3571000 := by
  have hobserve : (((ledger sample_crates sample_client).run { kms := sample_client } late_refused_calls).map
      fun s => (s.kms.cb_state, s.kms.cb_last_failure, s.kms.key_cache.isEmpty, s.kms.context_expiration)) =
        some (.open, some 3565000, true, some 3600000) := by
    decide +kernel
  simp only [Option.map_eq_some_iff, Prod.mk.injEq] at hobserve
  obtain ⟨s, hrun, hopen, hlast, hcache, hexp⟩ := hobserve
  rw [List.isEmpty_iff] at hcache
  refine ⟨s, Machine.reachable_of_run hrun, hopen, hlast, by decide, hcache, ?_⟩
  apply not_fails_fast_of_expired (by rw [hcache]; rfl)
  rintro ⟨-, exp, hexp', hle⟩
  rw [hexp, Option.some.injEq] at hexp'
  omega

end sample

end webex.rust.kms_client

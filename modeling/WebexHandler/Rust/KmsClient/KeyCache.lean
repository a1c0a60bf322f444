import Mathlib.Data.List.Dedup
import Mathlib.Data.List.Perm.Subperm
import WebexHandler.Rust.KmsClient.Hearing

open interaction json transition

namespace webex.rust.kms_client

theorem trimmed_of_bounded {cache : List (String × Bytes)} (hsize : cache.length ≤ MAX_KEY_CACHE_SIZE) :
    trimmed cache = cache := by
  unfold trimmed
  rw [if_neg (by omega)]

theorem insert_of_uncached {cache : List (String × Bytes)} {key_uri : String} (key : Bytes)
    (huncached : cache.lookup key_uri = none) : insert cache key_uri key = (key_uri, key) :: cache := by
  unfold insert
  congr 1
  rw [List.filter_eq_self]
  intro entry hentry
  have hne := List.lookup_eq_none_iff.mp huncached entry hentry
  simpa [bne, BEq.comm] using hne

/-- How a `get_key` ends and what the cache holds then. -/
inductive Cached (key_uri : String) (cache : List (String × Bytes)) :
    Except WebexError Bytes → List (String × Bytes) → Prop
  | hit (key : Bytes) (hcached : cache.lookup key_uri = some key) : Cached key_uri cache (.ok key) cache
  | fetched (key : Bytes) (huncached : cache.lookup key_uri = none) :
      Cached key_uri cache (.ok key) (insert (trimmed cache) key_uri key)
  | failed (e : WebexError) (huncached : cache.lookup key_uri = none) :
      Cached key_uri cache (.error e) (trimmed cache)

section get_key

variable {γ : Type} {crates : Crates} {mon : Monitor Op Res γ} {key_uri : String} {cache : List (String × Bytes)}

/-- Every attempt but the successful one leaves the cache alone. -/
theorem get_key_attempts_cached (hfree : ∀ g op, mon.allowed g op) (huncached : cache.lookup key_uri = none)
    (left attempt : Nat) {kms : KmsClient} (g : γ) (hkms : kms.key_cache = trimmed cache) :
    (get_key_attempts crates key_uri left attempt).Obeys mon kms g fun outcome kms' _ =>
      Cached key_uri cache outcome kms'.key_cache := by
  have hfailed : ∀ (e : WebexError) (kms' : KmsClient) (g' : γ), kms'.key_cache = trimmed cache →
      Cached key_uri cache (.error e) kms'.key_cache := by
    intro e kms' _ hkms'
    rw [hkms']
    exact .failed e huncached
  have hrequest : ∀ op, (Method.request op : Kms (Res op)).Keeps mon fun kms _ => kms.key_cache = trimmed cache :=
    keeps_free_request hfree
  induction left generalizing attempt kms g with
  | zero => exact hfailed _ kms g hkms
  | succ left ih =>
    unfold get_key_attempts
    rw [Method.obeys_bind, Method.obeys_get]
    dsimp only
    apply (Method.keeps_reject _ _ kms g hkms).bind _ (hfailed · · ·)
    intro _ kms₁ g₁ hkms₁
    apply (Method.keeps_ofExcept _ kms₁ g₁ hkms₁).bind _ (hfailed · · ·)
    intro ephemeral_key kms₂ g₂ hkms₂
    apply (hrequest .new_v4 kms₂ g₂ hkms₂).bind _ (hfailed · · ·)
    intro request_id kms₃ g₃ hkms₃
    apply (hrequest (.random 12) kms₃ g₃ hkms₃).bind _ (hfailed · · ·)
    intro seed kms₄ g₄ hkms₄
    apply (Method.keeps_ofExcept _ kms₄ g₄ hkms₄).bind _ (hfailed · · ·)
    intro wrapped kms₅ g₅ hkms₅
    apply (Method.keeps_attempt (send_kms_request_keeps hfree request_id wrapped) kms₅ g₅ hkms₅).bind _ (hfailed · · ·)
    intro outcome kms₆ g₆ hkms₆
    cases outcome with
    | ok wrapped_response =>
      apply (Method.keeps_ofExcept _ kms₆ g₆ hkms₆).bind _ (hfailed · · ·)
      intro content_key kms₇ g₇ hkms₇
      show Cached key_uri cache (.ok content_key) (insert kms₇.key_cache key_uri content_key)
      rw [hkms₇]
      exact .fetched content_key huncached
    | error e =>
      dsimp only
      split
      · apply (hrequest (.sleep 1000) kms₆ g₆ hkms₆).bind _ (hfailed · · ·)
        intro _ kms₇ g₇ hkms₇
        exact ih (attempt + 1) g₇ hkms₇
      · apply (hrequest .now kms₆ g₆ hkms₆).bind _ (hfailed · · ·)
        intro instant kms₇ g₇ hkms₇
        exact hfailed e (record_failure instant kms₇) g₇ hkms₇

theorem get_key_checks_cached (hfree : ∀ g op, mon.allowed g op) (kms : KmsClient) (g : γ) :
    (get_key_checks crates).Obeys mon kms g fun _ kms' _ => kms'.key_cache = trimmed kms.key_cache := by
  rw [obeys_get_key_checks]
  have hkeeps : (renew_context crates >>= fun _ => check_breaker).Keeps mon
      fun kms' _ => kms'.key_cache = trimmed kms.key_cache := by
    apply Method.keeps_bind
    · exact renew_context_keeps hfree fun _ _ hsame hkms => hsame.key_cache.trans hkms
    intro _
    unfold check_breaker
    apply Method.keeps_bind Method.keeps_get
    intro self
    split
    · apply Method.keeps_bind (cooled_down_keeps hfree _)
      intro cooled
      apply Method.keeps_bind (Method.keeps_reject _ _)
      intro _
      exact Method.keeps_modify fun _ _ hkms => hkms
    · exact Method.keeps_pure _
  exact hkeeps (bounded kms) g rfl

theorem get_key_cached (hfree : ∀ g op, mon.allowed g op) (kms : KmsClient) (g : γ) :
    (get_key crates key_uri).Obeys mon kms g fun outcome kms' _ => Cached key_uri kms.key_cache outcome kms'.key_cache := by
  cases hcached : kms.key_cache.lookup key_uri with
  | some cached =>
    rw [Method.Obeys, get_key_of_cached hcached]
    exact .hit cached hcached
  | none =>
    rw [obeys_get_key_of_uncached hcached]
    apply (get_key_checks_cached hfree kms g).bind
    · intro _ kms' g' hkms'
      exact get_key_attempts_cached hfree hcached MAX_KMS_ATTEMPTS 1 g' hkms'
    · intro e kms' g' hkms'
      rw [hkms']
      exact .failed e hcached

end get_key

section invocations

variable (crates : Crates)

/-- The client after a whole call, with whatever answers it gets. -/
def invoke (kms : KmsClient) : Invocation → Option KmsClient
  | .get_key key_uri replies =>
    match (get_key crates key_uri kms).take reply replies with
    | some ((_, kms'), []) => some kms'
    | _ => none
  | .initialize_client replies =>
    match (initialize_client crates kms).take reply replies with
    | some ((_, kms'), []) => some kms'
    | _ => none

/-- Every sequence of calls on a client, with every outcome. -/
def invocations (kms : KmsClient) : Machine KmsClient Invocation where
  init := kms
  step := invoke crates

/-- The cache is within its bound, and no `get_key` that fails now removes a key. -/
structure CacheBounded (kms : KmsClient) : Prop where
  size : kms.key_cache.length ≤ MAX_KEY_CACHE_SIZE
  kept : ∀ key_uri replies e kms', (get_key crates key_uri kms).take reply replies = some ((.error e, kms'), []) →
    kms.key_cache ⊆ kms'.key_cache

variable {crates}

theorem get_key_take_cached {kms kms' : KmsClient} {key_uri : String} {outcome : Except WebexError Bytes}
    {replies rest : List Reply} (htake : (get_key crates key_uri kms).take reply replies = some ((outcome, kms'), rest)) :
    Cached key_uri kms.key_cache outcome kms'.key_cache := by
  have hobeys : (get_key crates key_uri).Obeys (scripted replies) kms false _ :=
    get_key_cached (fun _ _ => trivial) kms false
  obtain ⟨used, -, hcached⟩ := Program.Obeys.take hobeys (List.Subset.refl _) htake
  exact hcached

theorem initialize_client_take_cached {kms kms' : KmsClient} {outcome : Except WebexError Unit}
    {replies rest : List Reply}
    (htake : (initialize_client crates kms).take reply replies = some ((outcome, kms'), rest)) :
    kms'.key_cache = kms.key_cache := by
  have hkeeps : (initialize_client crates).Keeps (scripted replies) fun kms' _ => kms'.key_cache = kms.key_cache :=
    initialize_client_keeps (fun _ _ => trivial) fun _ _ hsame hkms => hsame.key_cache.trans hkms
  obtain ⟨used, -, hsame⟩ := Program.Obeys.take (hkeeps kms false rfl) (List.Subset.refl _) htake
  exact hsame

/-- A bounded cache loses nothing to a failure. -/
theorem cacheBounded_iff {kms : KmsClient} : CacheBounded crates kms ↔ kms.key_cache.length ≤ MAX_KEY_CACHE_SIZE := by
  refine ⟨fun hbounded => hbounded.size, fun hsize => ⟨hsize, ?_⟩⟩
  intro key_uri replies e kms' htake
  have hcached := get_key_take_cached htake
  generalize kms'.key_cache = cache' at hcached
  cases hcached with
  | failed e huncached =>
    rw [trimmed_of_bounded hsize]
    exact List.Subset.refl _

/-- A call on a client whose cache is within its bound adds the URI that its answers bring a key
    for, which is a new one. -/
theorem invoke_adds {kms next : KmsClient} (hsize : kms.key_cache.length ≤ MAX_KEY_CACHE_SIZE) {call : Invocation}
    (hstep : invoke crates kms call = some next) :
    ∃ added : Option String,
      (∀ rest, answered_uris crates kms.ephemeral_key (call :: rest) =
        added.toList ++ answered_uris crates next.ephemeral_key rest) ∧
      next.key_cache.map Prod.fst = added.toList ++ kms.key_cache.map Prod.fst ∧
      ∀ uri ∈ added, uri ∉ kms.key_cache.map Prod.fst := by
  cases call with
  | get_key key_uri replies =>
    simp only [kms_client.invoke] at hstep
    split at hstep
    · rename_i outcome kms' htake
      obtain rfl := Option.some.inj hstep
      cases hlookup : kms.key_cache.lookup key_uri with
      | some cached =>
        rw [get_key_of_cached hlookup] at htake
        simp only [Program.take, Option.some.injEq, Prod.mk.injEq] at htake
        obtain ⟨⟨rfl, rfl⟩, rfl⟩ := htake
        exact ⟨none, fun _ => rfl, rfl, by simp⟩
      | none =>
        obtain ⟨hkey, houtcome⟩ := get_key_take_heard hlookup htake
        have hcached := get_key_take_cached htake
        generalize kms'.key_cache = cache' at hcached
        refine ⟨outcome.toOption.map fun _ => key_uri, fun rest => ?_, ?_, ?_⟩
        · rw [answered_uris, hkey, houtcome]
        · cases hcached with
          | hit key hcached =>
            rw [hlookup] at hcached
            cases hcached
          | fetched key _ =>
            rw [trimmed_of_bounded hsize, insert_of_uncached key hlookup]
            rfl
          | failed e _ =>
            rw [trimmed_of_bounded hsize]
            rfl
        · intro uri huri hmem
          obtain ⟨_, -, rfl⟩ := Option.map_eq_some_iff.mp huri
          obtain ⟨entry, hentry, rfl⟩ := List.mem_map.mp hmem
          simpa using List.lookup_eq_none_iff.mp hlookup entry hentry
    · cases hstep
  | initialize_client replies =>
    simp only [kms_client.invoke] at hstep
    split at hstep
    · rename_i outcome kms' htake
      obtain rfl := Option.some.inj hstep
      refine ⟨none, fun rest => ?_, ?_, by simp⟩
      · rw [answered_uris, initialize_client_take_heard htake]
        rfl
      · rw [initialize_client_take_cached htake]
        rfl
    · cases hstep

theorem throughout_bounded_iff {start kms last : KmsClient} (hsize : kms.key_cache.length ≤ MAX_KEY_CACHE_SIZE)
    (hdistinct : (kms.key_cache.map Prod.fst).Nodup) {calls : List Invocation}
    (hrun : (invocations crates start).run kms calls = some last) :
    (invocations crates start).Throughout (CacheBounded crates) kms calls ↔
      (kms.key_cache.map Prod.fst ++ answered_uris crates kms.ephemeral_key calls).dedup.length ≤ MAX_KEY_CACHE_SIZE := by
  induction calls generalizing kms with
  | nil =>
    rw [answered_uris, List.append_nil, hdistinct.dedup, List.length_map]
    exact cacheBounded_iff
  | cons call rest ih =>
    simp only [Machine.run, Option.bind_eq_some_iff] at hrun
    obtain ⟨next, hstep, hrun⟩ := hrun
    obtain ⟨added, hanswered, hadded, hnew⟩ := invoke_adds hsize hstep
    have hnodup : (next.key_cache.map Prod.fst).Nodup := by
      rw [hadded]
      cases added with
      | none => exact hdistinct
      | some uri => exact List.nodup_cons.mpr ⟨hnew uri rfl, hdistinct⟩
    have hperm : (kms.key_cache.map Prod.fst ++ answered_uris crates kms.ephemeral_key (call :: rest)).Perm
        (next.key_cache.map Prod.fst ++ answered_uris crates next.ephemeral_key rest) := by
      rw [hanswered, hadded, ← List.append_assoc]
      exact List.perm_append_comm.append_right _
    have hthroughout : (invocations crates start).Throughout (CacheBounded crates) kms (call :: rest) ↔
        (invocations crates start).Throughout (CacheBounded crates) next rest := by
      refine ⟨fun hall => hall.2 next hstep, fun hrest => ⟨cacheBounded_iff.mpr hsize, ?_⟩⟩
      intro other hother
      obtain rfl : next = other := Option.some.inj (hstep.symm.trans hother)
      exact hrest
    rw [hthroughout, hperm.dedup.length_eq]
    by_cases hroom : next.key_cache.length ≤ MAX_KEY_CACHE_SIZE
    · exact ih hroom hnodup hrun
    · refine iff_of_false (fun hrest => hroom (cacheBounded_iff.mp hrest.head)) fun hfew => hroom ?_
      have hsubset : next.key_cache.map Prod.fst ⊆
          (next.key_cache.map Prod.fst ++ answered_uris crates next.ephemeral_key rest).dedup :=
        fun uri huri => List.mem_dedup.mpr (List.mem_append_left _ huri)
      have hle := (List.subperm_of_subset hnodup hsubset).length_le
      rw [List.length_map] at hle
      exact hle.trans hfew

/-- The cache of a new client is bounded, and failures remove no key, throughout a run exactly
    when the KMS answers the run's requests with the keys of at most `MAX_KEY_CACHE_SIZE`
    different URIs. -/
theorem key_cache_bounded_iff (crates : Crates) (token device_url user_id encryption_service_url : String)
    (calls : List Invocation) {last : KmsClient}
    (hrun : (invocations crates (new token device_url user_id encryption_service_url)).run
      (new token device_url user_id encryption_service_url) calls = some last) :
    (invocations crates (new token device_url user_id encryption_service_url)).Throughout (CacheBounded crates)
        (new token device_url user_id encryption_service_url) calls ↔
      (answered_uris crates none calls).dedup.length ≤ MAX_KEY_CACHE_SIZE :=
  throughout_bounded_iff (Nat.zero_le _) (by exact List.nodup_nil) hrun

end invocations

section sample

/-- A handshake and the fetches of 101 different keys. -/
def filling_calls : List Invocation :=
  .initialize_client (handshake_replies 0) :: (List.range 101).map fun i =>
    .get_key (toString i) (answered_replies 1000 answer_a_jwe)

/-- A fetch of one more key that fails. -/
def failing_call : Invocation := .get_key "kms://ciscospark.com/keys/last" (refused_replies 2000)

/-- The client after the handshake, with the keys fetched since. -/
def ready_client (key_cache : List (String × Bytes)) : KmsClient :=
  { sample_client with
    kms_cluster := "kms://ciscospark.com"
    ephemeral_key := some sample_derived
    context_expiration := some 3600000
    key_cache := key_cache
    initialized := true }

theorem get_key_bounded {kms : KmsClient} {key_uri : String} (huncached : kms.key_cache.lookup key_uri = none)
    (hsize : kms.key_cache.length ≤ MAX_KEY_CACHE_SIZE) (crates : Crates) :
    get_key crates key_uri kms = (renew_context crates >>= fun _ => request_key crates key_uri) kms := by
  have hkept : bounded kms = kms := by rw [bounded, trimmed_of_bounded hsize]
  rw [get_key_of_unchecked huncached]
  show (check_context crates kms).bind _ = (renew_context crates kms).bind _
  rw [check_context_eq, hkept]

/-- Whatever the key and the other keys, the answer is opened and its key cached. -/
theorem invoke_fetch {cache : List (String × Bytes)} {key_uri : String} (huncached : cache.lookup key_uri = none)
    (hsize : cache.length ≤ MAX_KEY_CACHE_SIZE) :
    invoke sample_crates (ready_client cache) (.get_key key_uri (answered_replies 1000 answer_a_jwe)) =
      some (ready_client ((key_uri, key_a) :: cache)) := by
  have htake : (get_key sample_crates key_uri (ready_client cache)).take reply
      (answered_replies 1000 answer_a_jwe) =
        some ((.ok key_a, ready_client (insert cache key_uri key_a)), []) := by
    rw [get_key_bounded huncached hsize]
    rfl
  simp only [invoke, htake, insert_of_uncached key_a huncached]

/-- The cache after the fetches of `n` different keys. -/
def filled (n : Nat) : List (String × Bytes) := (List.range n).reverse.map fun i => (toString i, key_a)

theorem run_fetches {n : Nat} (hn : n ≤ 101) :
    (invocations sample_crates sample_client).run (ready_client []) ((List.range n).map fun i =>
      .get_key (toString i) (answered_replies 1000 answer_a_jwe)) = some (ready_client (filled n)) := by
  induction n with
  | zero => rfl
  | succ n ih =>
    have huncached : (filled n).lookup (toString n) = none := by
      refine List.lookup_eq_none_iff.mpr ?_
      intro entry hentry
      obtain ⟨i, hi, rfl⟩ := List.mem_map.mp hentry
      have hlt : i < n := by simpa using hi
      exact bne_iff_ne.mpr (toString_ne (by omega))
    have hsize : (filled n).length ≤ MAX_KEY_CACHE_SIZE := by
      simp only [filled, List.length_map, List.length_reverse, List.length_range, MAX_KEY_CACHE_SIZE]
      omega
    have hnext : (invocations sample_crates sample_client).step (ready_client (filled n))
        (.get_key (toString n) (answered_replies 1000 answer_a_jwe)) =
          some (ready_client ((toString n, key_a) :: filled n)) := invoke_fetch huncached hsize
    rw [List.range_succ, List.map_append, Machine.run_append, ih (by omega), Option.bind_some, List.map_singleton,
      Machine.run_singleton, hnext]
    simp [filled, List.range_succ]

theorem answered_key_bounded :
    (invocations sample_crates sample_client).Throughout (CacheBounded sample_crates) sample_client
      [.initialize_client (handshake_replies 0),
        .get_key "kms://ciscospark.com/keys/a" (answered_replies 1000 answer_a_jwe)] := by
  have hrun : ((invocations sample_crates sample_client).run sample_client
      [.initialize_client (handshake_replies 0),
        .get_key "kms://ciscospark.com/keys/a" (answered_replies 1000 answer_a_jwe)]).isSome = true := by
    decide
  obtain ⟨last, hlast⟩ := Option.isSome_iff_exists.mp hrun
  exact (key_cache_bounded_iff sample_crates "token" "https://wdm-a.wbx2.com/wdm/api/v1/devices/dev-123" "user-1"
    "https://encryption-a.wbx2.com" _ hlast).mpr (by decide)

/-- The 101st key is inserted into a full cache, and a call that fails then empties it. -/
theorem full_cache_overflows :
    ∃ s next, (invocations sample_crates sample_client).Reachable Machine.Always s ∧ s.key_cache.length = 101 ∧
      invoke sample_crates s failing_call = some next ∧ next.key_cache = [] ∧ ¬ CacheBounded sample_crates s := by
  have hready : (invocations sample_crates sample_client).step sample_client (.initialize_client (handshake_replies 0)) =
      some (ready_client []) := by decide
  have hrun : (invocations sample_crates sample_client).run sample_client filling_calls =
      some (ready_client (filled 101)) := by
    rw [filling_calls, Machine.run, hready, Option.bind_some]
    exact run_fetches (Nat.le_refl 101)
  have hlength : (filled 101).length = 101 := by simp [filled]
  have hlast : (invoke sample_crates (ready_client (filled 101)) failing_call).map (·.key_cache) =
      some [] := by decide +kernel
  obtain ⟨next, hfailing, hempty⟩ := Option.map_eq_some_iff.mp hlast
  refine ⟨_, next, Machine.reachable_of_run hrun, hlength, hfailing, hempty, ?_⟩
  rw [cacheBounded_iff]
  exact Nat.not_le.mpr (hlength ▸ Nat.lt_succ_self 100)

end sample

end webex.rust.kms_client

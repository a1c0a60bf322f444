import WebexHandler.Node.KmsClient.Calls
import WebexHandler.Node.KmsClient.Rules

open interaction json transition

namespace webex.node.kms_client

/-- An update leaves the time of the last failure alone and does not open the breaker. -/
def Keeping (f : Nat → KmsClient → KmsClient) : Prop :=
  ∀ now kms, (f now kms).cb_last_failure = kms.cb_last_failure ∧ ((f now kms).cb_state = .open → kms.cb_state = .open)

/-- A call records its failure at most once, and ends with it. The view is whether it
    has. -/
def breaker_monitor : Monitor Op Res Bool where
  allowed recorded op := recorded = false ∧
    match op with
    | .update f => f = cb_record_failure ∨ Keeping f
    | _ => True
  moves _ op _ recorded' :=
    match op with
    | .update f => (f = cb_record_failure ∧ recorded' = true) ∨ (Keeping f ∧ recorded' = false)
    | _ => recorded' = false

/-- The recording has not happened yet. -/
def Unrecorded (_ : Unit) (recorded : Bool) : Prop := recorded = false

theorem not_keeping_record_failure : ¬ Keeping cb_record_failure := by
  intro hkeeping
  have hlast := (hkeeping 1 (new "" "" "" "")).1
  simp [cb_record_failure, new] at hlast

section methods

variable {builtins : Builtins}

theorem keeps_unrecorded (op : Op) (hop : ∀ f, op = .update f → Keeping f) :
    (Method.request op : Async (Res op)).Keeps breaker_monitor Unrecorded := by
  apply Method.keeps_request
  rintro _ recorded rfl
  cases op with
  | update f =>
    refine ⟨⟨rfl, .inr (hop f rfl)⟩, ?_⟩
    rintro _ recorded' (⟨rfl, -⟩ | ⟨-, rfl⟩)
    · exact absurd (hop _ rfl) not_keeping_record_failure
    · rfl
  | _ => exact ⟨⟨rfl, trivial⟩, fun _ _ hmoves => hmoves⟩

theorem plain_unrecorded : PlainRule breaker_monitor Unrecorded := by
  intro op hplain
  apply keeps_unrecorded
  rintro f rfl now kms
  exact (hplain now kms).2

theorem keeps_with_kms_lock {α : Type} {fn : Async α} (hfn : fn.Keeps breaker_monitor Unrecorded) :
    (with_kms_lock fn).Keeps breaker_monitor Unrecorded := by
  unfold with_kms_lock
  apply Method.keeps_bind plain_unrecorded.read
  intro self
  apply Method.keeps_bind (plain_unrecorded .new_promise trivial)
  intro promise
  apply Method.keeps_bind (keeps_unrecorded (.update _) ?_)
  · intro _
    apply Method.keeps_bind (keeps_unrecorded (.turn _) fun _ => nofun)
    intro _
    apply Method.keeps_bind (Method.keeps_attempt hfn)
    intro outcome
    apply Method.keeps_bind (keeps_unrecorded (.resolve _) fun _ => nofun)
    intro _
    exact Method.keeps_ofExcept outcome
  · rintro f ⟨⟩ _ _
    exact ⟨rfl, id⟩

theorem initialize_client_keeps : (initialize_client builtins).Keeps breaker_monitor Unrecorded :=
  keeps_with_kms_lock plain_unrecorded.initialize_body

theorem fetch_key_keeps (key_uri : String) : (fetch_key builtins key_uri).Keeps breaker_monitor Unrecorded :=
  plain_unrecorded.fetch_key (fun hbody => keeps_with_kms_lock (hbody _ plain_unrecorded)) key_uri

/-- A `getKey` records its failure exactly when it fails. -/
def Recorded {α : Type} (out : Except Thrown α × Unit) (recorded : Bool) : Prop :=
  recorded = true ↔ ∃ error, out.1 = .error error

theorem get_key_obeys (key_uri : String) :
    (get_key builtins key_uri ()).Obeys breaker_monitor Recorded false := by
  have hcall : (get_key builtins key_uri).Obeys breaker_monitor () false
      fun outcome state recorded => Recorded (outcome, state) recorded := by
    unfold get_key
    apply Method.obeys_bind_request.mpr
    refine ⟨⟨rfl, trivial⟩, ?_⟩
    rintro self recorded rfl
    split
    · simp [Recorded]
    · rw [Method.obeys_tryCatch]
      apply (fetch_key_keeps key_uri () false rfl).mono
      rintro outcome _ recorded rfl
      cases outcome with
      | ok key => simp [Recorded]
      | error error =>
        dsimp only
        rw [Method.obeys_bind]
        refine ⟨⟨rfl, .inl rfl⟩, ?_⟩
        rintro _ recorded (⟨-, rfl⟩ | ⟨hkeeping, -⟩)
        · exact ⟨fun _ => ⟨_, rfl⟩, fun _ => rfl⟩
        · exact absurd hkeeping not_keeping_record_failure
  exact hcall

end methods

section segments

variable {builtins : Builtins} {env : Runtime} {key_uri : String}

/-- A program stops at a promise, with the client as given. -/
def Awaits {α : Type} (out : Program Op Res α × Runtime) (kms : KmsClient) : Prop :=
  ∃ op next, out.1 = .ask op next ∧ ∃ promise, out.2.kms = { kms with kms_request_mutex := promise }

theorem Awaits.bind {α β : Type} {p : Program Op Res α} {kms : KmsClient} (hawaits : Awaits (p.settle sync env) kms)
    (f : α → Program Op Res β) : Awaits ((p.bind f).settle sync env) kms := by
  obtain ⟨op, next, hask, promise, hkms⟩ := hawaits
  have hsettle : p.settle sync env = (.ask op next, (p.settle sync env).2) := Prod.ext hask rfl
  rw [Program.settle_bind_ask hsettle]
  exact ⟨op, _, rfl, promise, hkms⟩

/-- A call joins the queue of the mutex. -/
theorem with_kms_lock_awaits {α : Type} (fn : Async α) : Awaits ((with_kms_lock fn ()).settle sync env) env.kms :=
  ⟨.turn env.kms.kms_request_mutex, _, rfl, env.next_promise, rfl⟩

/-- What `check_breaker` does, in one segment. -/
theorem check_breaker_settle_cooled (hopen : env.kms.cb_state = .open)
    (hcooled : CB_COOLDOWN_MS ≤ env.time - env.kms.cb_last_failure) :
    (check_breaker ()).settle sync env =
      (.ret (.ok (), ()), { env with kms := { env.kms with cb_state := .half_open } }) := by
  show ((if env.kms.cb_state = .open then _ else _ : Async Unit) ()).settle sync env = _
  rw [if_pos hopen]
  show ((if CB_COOLDOWN_MS ≤ env.time - env.kms.cb_last_failure then _ else _ : Async Unit) ()).settle sync env = _
  rw [if_pos hcooled]
  rfl

theorem check_breaker_settle_open (hopen : env.kms.cb_state = .open)
    (hcooling : ¬ CB_COOLDOWN_MS ≤ env.time - env.kms.cb_last_failure) :
    (check_breaker ()).settle sync env =
      (.ret (.error (.kms_error "KMS circuit breaker is open — failing fast"), ()), env) := by
  show ((if env.kms.cb_state = .open then _ else _ : Async Unit) ()).settle sync env = _
  rw [if_pos hopen]
  show ((if CB_COOLDOWN_MS ≤ env.time - env.kms.cb_last_failure then _ else _ : Async Unit) ()).settle sync env = _
  rw [if_neg hcooling]
  rfl

/-- With or without a new context, a call that passes the breaker goes on to the KMS. -/
theorem after_breaker_awaits : Awaits ((after_breaker builtins key_uri ()).settle sync env) env.kms := by
  show Awaits ((((initialize_client builtins).when (is_context_expired env.kms env.time) ()).bind _).settle sync env) _
  cases hexpired : is_context_expired env.kms env.time with
  | true => exact Awaits.bind (with_kms_lock_awaits _) _
  | false =>
    have hcontext : env.kms.context.isNone = false := by
      simp only [is_context_expired, Bool.or_eq_false_iff] at hexpired
      exact hexpired.1
    have hrequire : (require_context ()).settle sync env = (.ret (.ok (), ()), env) := by
      show ((Method.reject env.kms.context.isNone _ : Async Unit) ()).settle sync env = _
      rw [hcontext]
      rfl
    show Awaits (((require_context ()).bind _).settle sync env) _
    rw [Program.settle_bind_ret hrequire]
    exact with_kms_lock_awaits _

theorem settle_read_bind {α : Type} (f : KmsClient → Async α) :
    ((read >>= f) ()).settle sync env = (f env.kms ()).settle sync env := rfl

theorem get_key_settle (huncached : env.kms.key_cache.lookup key_uri = none) :
    (get_key builtins key_uri ()).settle sync env = ((tryCatch (fetch_key builtins key_uri) fun error => do
      update cb_record_failure
      throw (get_key_failed error) : Async Value) ()).settle sync env := by
  unfold get_key
  rw [settle_read_bind, huncached]

/-- A call on an open breaker that has cooled down makes it half-open and goes on. -/
theorem get_key_probes (builtins : Builtins) (huncached : env.kms.key_cache.lookup key_uri = none) (hopen : env.kms.cb_state = .open)
    (hcooled : CB_COOLDOWN_MS ≤ env.time - env.kms.cb_last_failure) :
    Awaits ((get_key builtins key_uri ()).settle sync env) { env.kms with cb_state := .half_open } := by
  rw [get_key_settle huncached]
  apply Awaits.bind
  show Awaits (((check_breaker ()).bind _).settle sync env) _
  rw [Program.settle_bind_ret (check_breaker_settle_cooled hopen hcooled)]
  exact after_breaker_awaits

/-- A call on an open breaker that has not is rejected, and is recorded as a failure. -/
theorem get_key_rejected (builtins : Builtins) (huncached : env.kms.key_cache.lookup key_uri = none) (hopen : env.kms.cb_state = .open)
    (hcooling : ¬ CB_COOLDOWN_MS ≤ env.time - env.kms.cb_last_failure) :
    (get_key builtins key_uri ()).settle sync env =
      (.ret (.error (.kms_error "KMS circuit breaker is open — failing fast"), ()),
        { env with kms := cb_record_failure env.time env.kms }) := by
  have hfetch : (fetch_key builtins key_uri ()).settle sync env =
      (.ret (.error (.kms_error "KMS circuit breaker is open — failing fast"), ()), env) := by
    show ((check_breaker ()).bind _).settle sync env = _
    rw [Program.settle_bind_ret (check_breaker_settle_open hopen hcooling)]
    rfl
  rw [get_key_settle huncached]
  show ((fetch_key builtins key_uri ()).bind _).settle sync env = _
  rw [Program.settle_bind_ret hfetch]
  rfl

/-- The clock and the breaker within a segment that begins at `start`. -/
def During (start env : Runtime) (recorded : Bool) : Prop :=
  env.time = start.time ∧
  if recorded then env.kms.cb_last_failure = start.time
  else env.kms.cb_last_failure = start.kms.cb_last_failure ∧ (env.kms.cb_state = .open → start.kms.cb_state = .open)

theorem sync_during {start : Runtime} (op : Op) (env env' : Runtime) (r : Res op) (recorded : Bool)
    (hduring : During start env recorded) (hallowed : breaker_monitor.allowed recorded op)
    (hsync : sync op env = some (r, env')) :
    ∃ recorded', breaker_monitor.moves recorded op r recorded' ∧ During start env' recorded' := by
  obtain ⟨rfl, hop⟩ := hallowed
  obtain ⟨htime, hlast⟩ := hduring
  cases op with
  | update f =>
    cases hsync
    obtain rfl | hkeeping := hop
    · exact ⟨true, .inl ⟨rfl, rfl⟩, htime, htime⟩
    · obtain ⟨hsame, hopened⟩ := hkeeping env.time env.kms
      exact ⟨false, .inr ⟨hkeeping, rfl⟩, htime, hsame.trans hlast.1, fun hopen => hlast.2 (hopened hopen)⟩
  | get | now | new_promise | resolve | set_timeout =>
    cases hsync
    exact ⟨false, rfl, htime, hlast⟩
  | _ => cases hsync

/-- A segment of a call: it keeps to the monitor, and the last failure is dated now if
    the call recorded one. -/
theorem settle_during {α : Type} {post : α → Bool → Prop} {p : Program Op Res α} (env : Runtime)
    (hobeys : p.Obeys breaker_monitor post false) :
    ∃ recorded, (p.settle sync env).1.Obeys breaker_monitor post recorded ∧
      During env (p.settle sync env).2 recorded :=
  hobeys.settle sync_during ⟨rfl, rfl, id⟩

end segments

section runs

variable {builtins : Builtins}

/-- What is left of a call keeps to the monitor. -/
def Call.Sound : Call → Prop
  | .get_key _ (.ask op next) => (Program.ask op next).Obeys breaker_monitor Recorded false
  | .initialize_client (.ask op next) => (Program.ask op next).Obeys breaker_monitor (fun _ => Unrecorded ()) false
  | _ => True

/-- The breaker's time of the last failure is that of the last failure of a call that
    the breaker did not reject. -/
structure Dated (kms : KmsClient) (last : Option Nat) : Prop where
  failed_at : ∀ time, last = some time → kms.cb_last_failure = time
  opened : kms.cb_state = .open → last.isSome = true

theorem Dated.of_same {kms kms' : KmsClient} {last : Option Nat} (hdated : Dated kms last)
    (hsame : kms'.cb_last_failure = kms.cb_last_failure ∧ (kms'.cb_state = .open → kms.cb_state = .open)) :
    Dated kms' last :=
  ⟨fun time htime => hsame.1.trans (hdated.failed_at time htime), fun hopen => hdated.opened (hsame.2 hopen)⟩

structure Tracked (s : State) : Prop where
  dated : Dated s.env.kms s.last_real_failure
  calls : ∀ call ∈ s.calls, call.Sound

/-- The end of a segment of a `getKey`. -/
theorem get_key_segment {env : Runtime} {last : Option Nat} {p : Program Op Res (Except Thrown Value × Unit)}
    (hobeys : p.Obeys breaker_monitor Recorded false) (hdated : Dated env.kms last) (key_uri : String) :
    Dated (p.settle sync env).2.kms (failure_after (p.settle sync env).1 env.time last) ∧
      (Call.get_key key_uri (p.settle sync env).1).Sound := by
  obtain ⟨recorded, hrest, -, hduring⟩ := settle_during env hobeys
  generalize p.settle sync env = out at hrest hduring
  obtain ⟨rest, env'⟩ := out
  cases rest with
  | ret value =>
    obtain ⟨outcome, _⟩ := value
    cases outcome with
    | error error =>
      obtain rfl : recorded = true := hrest.mpr ⟨error, rfl⟩
      refine ⟨⟨?_, fun _ => rfl⟩, trivial⟩
      rintro time ⟨⟩
      exact hduring
    | ok key =>
      have hunrecorded : recorded = false := by
        rw [← Bool.not_eq_true]
        intro hrecorded
        obtain ⟨error, heq⟩ := hrest.mp hrecorded
        cases heq
      subst hunrecorded
      exact ⟨hdated.of_same hduring, trivial⟩
  | ask op next =>
    obtain rfl : recorded = false := hrest.1.1
    exact ⟨hdated.of_same hduring, hrest⟩

theorem initialize_segment {env : Runtime} {p : Program Op Res (Except Thrown Unit × Unit)}
    (hobeys : p.Obeys breaker_monitor (fun _ => Unrecorded ()) false) :
    ((p.settle sync env).2.kms.cb_last_failure = env.kms.cb_last_failure ∧
      ((p.settle sync env).2.kms.cb_state = .open → env.kms.cb_state = .open)) ∧
    (Call.initialize_client (p.settle sync env).1).Sound := by
  obtain ⟨recorded, hrest, -, hduring⟩ := settle_during env hobeys
  generalize p.settle sync env = out at hrest hduring
  obtain ⟨rest, env'⟩ := out
  cases rest with
  | ret value =>
    obtain rfl : recorded = false := hrest
    exact ⟨hduring, trivial⟩
  | ask op next =>
    obtain rfl : recorded = false := hrest.1.1
    exact ⟨hduring, hrest⟩

theorem Tracked.begin_get_key {s : State} (htracked : Tracked s) {key_uri : String}
    (hadmitted : fails_fast s.env.kms key_uri s.env.time = false) : Tracked (s.begin_get_key builtins key_uri) := by
  obtain ⟨hlast, hsound⟩ := get_key_segment (get_key_obeys key_uri) htracked.dated key_uri
  refine ⟨?_, ?_⟩
  · simp only [State.begin_get_key, hadmitted, Bool.false_eq_true, if_false]
    exact hlast
  · intro call hmem
    simp only [State.begin_get_key, List.mem_append, List.mem_singleton] at hmem
    obtain hmem | rfl := hmem
    · exact htracked.calls call hmem
    · exact hsound

theorem Tracked.begin_initialize {s : State} (htracked : Tracked s) : Tracked (s.begin_initialize builtins) := by
  have hobeys : (initialize_client builtins ()).Obeys breaker_monitor (fun _ => Unrecorded ()) false :=
    initialize_client_keeps () false rfl
  obtain ⟨hlast, hsound⟩ := initialize_segment hobeys
  refine ⟨htracked.dated.of_same hlast, ?_⟩
  intro call hmem
  simp only [State.begin_initialize, List.mem_append, List.mem_singleton] at hmem
  obtain hmem | rfl := hmem
  · exact htracked.calls call hmem
  · exact hsound

/-- After an await a call still keeps to the monitor. -/
theorem obeys_answer {α : Type} {post : α → Bool → Prop} {op : Op} {next : Res op → Program Op Res α}
    {settled : Settled} {env : Runtime} {r : Res op}
    (hobeys : (Program.ask op next).Obeys breaker_monitor post false) (hanswer : answer op settled env = some r) :
    (next r).Obeys breaker_monitor post false := by
  apply hobeys.2 r false
  cases op with
  | update f => simp [answer] at hanswer
  | _ => rfl

theorem Tracked.resume {s next : State} (htracked : Tracked s) {call : Nat} {settled : Settled}
    (hresume : s.resume call settled = some next) : Tracked next := by
  unfold State.resume at hresume
  split at hresume
  · rename_i key_uri op rest hcall
    simp only [Option.map_eq_some_iff] at hresume
    obtain ⟨r, hanswer, rfl⟩ := hresume
    have hsound := htracked.calls _ (List.mem_of_getElem? hcall)
    obtain ⟨hlast, hsound⟩ := get_key_segment (obeys_answer hsound hanswer) htracked.dated key_uri
    refine ⟨hlast, ?_⟩
    intro other hmem
    obtain hmem | rfl := List.mem_or_eq_of_mem_set hmem
    · exact htracked.calls other hmem
    · exact hsound
  · rename_i op rest hcall
    simp only [Option.map_eq_some_iff] at hresume
    obtain ⟨r, hanswer, rfl⟩ := hresume
    have hsound := htracked.calls _ (List.mem_of_getElem? hcall)
    obtain ⟨hlast, hsound⟩ := initialize_segment (obeys_answer hsound hanswer)
    refine ⟨htracked.dated.of_same hlast, ?_⟩
    intro other hmem
    obtain hmem | rfl := List.mem_or_eq_of_mem_set hmem
    · exact htracked.calls other hmem
    · exact hsound
  · cases hresume

theorem handle_kms_message_breaker (env : Runtime) (data : Value) :
    (env.handle_kms_message data).kms.cb_last_failure = env.kms.cb_last_failure ∧
      (env.handle_kms_message data).kms.cb_state = env.kms.cb_state := by
  unfold Runtime.handle_kms_message
  generalize Runtime.kms_messages data = messages
  induction messages generalizing env with
  | nil => exact ⟨rfl, rfl⟩
  | cons wrapped rest ih =>
    rw [List.foldl_cons, (ih _).1, (ih _).2]
    unfold Runtime.resolve_first
    split
    · exact ⟨rfl, rfl⟩
    · exact ⟨rfl, rfl⟩

theorem fire_breaker {env env' : Runtime} {promise : Nat} (hfire : env.fire promise = some env') :
    env'.kms.cb_last_failure = env.kms.cb_last_failure ∧ env'.kms.cb_state = env.kms.cb_state := by
  unfold Runtime.fire at hfire
  split at hfire
  · cases hfire
  · split at hfire
    · cases hfire
      exact ⟨rfl, rfl⟩
    · cases hfire

/-- A call that the open breaker is about to reject is not made. -/
def Admitted (s : State) : Label → Prop
  | .get_key key_uri => fails_fast s.env.kms key_uri s.env.time = false
  | _ => True

theorem Tracked.step {s next : State} {label : Label} (htracked : Tracked s) (hadmitted : Admitted s label)
    (hstep : s.step builtins label = some next) : Tracked next := by
  cases label with
  | get_key key_uri =>
    cases hstep
    exact htracked.begin_get_key hadmitted
  | initialize_client =>
    cases hstep
    exact htracked.begin_initialize
  | resume call settled => exact htracked.resume hstep
  | deliver data =>
    cases hstep
    obtain ⟨hlast, hstate⟩ := handle_kms_message_breaker s.env data
    exact ⟨htracked.dated.of_same ⟨hlast, fun hopen => hstate ▸ hopen⟩, htracked.calls⟩
  | timeout promise =>
    simp only [State.step, Option.map_eq_some_iff] at hstep
    obtain ⟨env, hfire, rfl⟩ := hstep
    obtain ⟨hlast, hstate⟩ := fire_breaker hfire
    exact ⟨htracked.dated.of_same ⟨hlast, fun hopen => hstate ▸ hopen⟩, htracked.calls⟩
  | wait millis =>
    cases hstep
    exact ⟨htracked.dated, htracked.calls⟩

/-- What is claimed of a `getKey` on an open breaker: a rejected one leaves the breaker's
    record alone, and one made a cooldown after the last failure that was not a
    rejection makes the breaker half-open and goes on to the KMS. -/
def RecoversIndependently (builtins : Builtins) (s : State) : Label → Prop
  | .get_key key_uri =>
    let out := (kms_client.get_key builtins key_uri ()).settle sync s.env
    s.env.kms.key_cache.lookup key_uri = none → s.env.kms.cb_state = .open →
      (out.1 = .ret (.error (.kms_error "KMS circuit breaker is open — failing fast"), ()) →
        out.2.kms.cb_last_failure = s.env.kms.cb_last_failure ∧ out.2.kms.cb_failures = s.env.kms.cb_failures) ∧
      (∀ last, s.last_real_failure = some last → last + CB_COOLDOWN_MS ≤ s.env.time →
        out.2.kms.cb_state = .half_open ∧ ∃ op next, out.1 = .ask op next)
  | _ => True

/-- No `getKey` that needs the KMS is made while the breaker is open and the cooldown
    since the last failure that was not a rejection lasts. -/
def Spaced (s : State) : Label → Prop
  | .get_key key_uri => s.env.kms.key_cache.lookup key_uri = none → s.env.kms.cb_state = .open →
      ∀ last, s.last_real_failure = some last → last + CB_COOLDOWN_MS ≤ s.env.time
  | _ => True

theorem fails_fast_iff {kms : KmsClient} {key_uri : String} {time : Nat} :
    fails_fast kms key_uri time = true ↔ kms.key_cache.lookup key_uri = none ∧ kms.cb_state = .open ∧
      ¬ CB_COOLDOWN_MS ≤ time - kms.cb_last_failure := by
  simp [fails_fast, and_assoc]

/-- Under the invariant, the breaker rejects exactly the calls that come too early after
    a failure that was not a rejection. -/
theorem Tracked.admitted_iff {s : State} (htracked : Tracked s) (label : Label) : Admitted s label ↔ Spaced s label := by
  cases label with
  | get_key key_uri =>
    simp only [Admitted, Spaced, ← Bool.not_eq_true, fails_fast_iff, not_and, not_not]
    constructor
    · intro hcooled huncached hopen last hlast
      have hwaited := hcooled huncached hopen
      rw [htracked.dated.failed_at last hlast] at hwaited
      unfold CB_COOLDOWN_MS at hwaited ⊢
      omega
    · intro hspaced huncached hopen
      obtain ⟨last, hlast⟩ := Option.isSome_iff_exists.mp (htracked.dated.opened hopen)
      have hwaited := hspaced huncached hopen last hlast
      rw [htracked.dated.failed_at last hlast]
      omega
  | _ => exact Iff.rfl

theorem recovers_iff_admitted (s : State) (label : Label) : RecoversIndependently builtins s label ↔ Admitted s label := by
  cases label with
  | get_key key_uri =>
    simp only [Admitted, ← Bool.not_eq_true, fails_fast_iff]
    constructor
    · rintro hrecovers ⟨huncached, hopen, hcooling⟩
      have hrejected := get_key_rejected builtins huncached hopen hcooling
      have hsame := ((hrecovers huncached hopen).1 (by rw [hrejected])).2
      rw [hrejected] at hsame
      simp [cb_record_failure] at hsame
    · intro hadmitted huncached hopen
      have hcooled : CB_COOLDOWN_MS ≤ s.env.time - s.env.kms.cb_last_failure := by
        by_contra hcooling
        exact hadmitted ⟨huncached, hopen, hcooling⟩
      obtain ⟨op, next, hask, promise, hkms⟩ := get_key_probes builtins huncached hopen hcooled
      refine ⟨?_, ?_⟩
      · intro hrejected
        rw [hask] at hrejected
        cases hrejected
      · intro last _ _
        exact ⟨by rw [hkms], op, next, hask⟩
  | _ => exact Iff.rfl

/-- Recovery is independent of the rejected calls exactly in the runs that have none: those
    in which no call comes within the cooldown after a failure that was not a rejection. -/
theorem recovery_independent_iff (builtins : Builtins) (token device_url user_id encryption_service_url : String)
    (labels : List Label) :
    let client := calls builtins (new token device_url user_id encryption_service_url)
    client.Meets (RecoversIndependently builtins) client.init labels ↔ client.Meets Spaced client.init labels := by
  intro client
  have hinit : Tracked client.init := ⟨⟨nofun, fun heq => nomatch heq⟩, fun _ hmem => nomatch hmem⟩
  constructor
  · apply Machine.Meets.of_invariant _ _ hinit
    · intro s label next htracked hrecovers hstep
      exact htracked.step ((recovers_iff_admitted s label).mp hrecovers) hstep
    · intro s label htracked hrecovers
      exact (htracked.admitted_iff label).mp ((recovers_iff_admitted s label).mp hrecovers)
  · apply Machine.Meets.of_invariant _ _ hinit
    · intro s label next htracked hspaced hstep
      exact htracked.step ((htracked.admitted_iff label).mpr hspaced) hstep
    · intro s label htracked hspaced
      exact (recovers_iff_admitted s label).mpr ((htracked.admitted_iff label).mpr hspaced)

end runs

section sample

/-- A call whose request for the KMS details is refused. -/
def refused_labels (call : Nat) : List Label :=
  [.get_key "kms://ciscospark.com/keys/a", .resume call .own, .resume call (.fetched (.error (.error "fetch failed")))]

/-- Three refused calls, and a call after twenty seconds and another after thirty. -/
def early_call_labels : List Label :=
  refused_labels 0 ++ refused_labels 1 ++ refused_labels 2 ++
    [.wait 20000, .get_key "kms://ciscospark.com/keys/a", .wait 10000]

/-- A cooldown after the last refused call the breaker still rejects, because it has
    rejected a call in between. -/
theorem rejected_call_delays_recovery :
    ∃ s, (calls sample_builtins sample_client).Reachable Machine.Always s ∧ s.env.kms.cb_state = .open ∧
      s.last_real_failure = some 0 ∧ s.env.time = CB_COOLDOWN_MS ∧
      ¬ RecoversIndependently sample_builtins s (.get_key "kms://ciscospark.com/keys/a") := by
  have hobserve : (((calls sample_builtins sample_client).run { env := { kms := sample_client } } early_call_labels).map
      fun s => (s.env.kms.cb_state, s.last_real_failure, s.env.time, s.env.kms.cb_last_failure,
        s.env.kms.key_cache.isEmpty)) = some (.open, some 0, 30000, 20000, true) := by
    decide
  simp only [Option.map_eq_some_iff, Prod.mk.injEq] at hobserve
  obtain ⟨s, hrun, hopen, hreal, htime, hlast, hcache⟩ := hobserve
  refine ⟨s, Machine.reachable_of_run hrun, hopen, hreal, htime, ?_⟩
  rw [recovers_iff_admitted, Admitted, Bool.not_eq_false, fails_fast_iff]
  rw [List.isEmpty_iff] at hcache
  exact ⟨by rw [hcache]; rfl, hopen, by rw [htime, hlast]; decide⟩

end sample

end webex.node.kms_client

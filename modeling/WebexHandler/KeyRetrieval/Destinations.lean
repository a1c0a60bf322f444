import WebexHandler.KeyRetrieval.ClientState

open interaction json transition

namespace webex.key_retrieval

/-- The fields of a client that it is constructed with. -/
structure SameIdentity (before after : KmsClient) : Prop where
  token : after.token = before.token
  device_url : after.device_url = before.device_url
  user_id : after.user_id = before.user_id
  encryption_service_url : after.encryption_service_url = before.encryption_service_url

theorem SameIdentity.refl (client : KmsClient) : SameIdentity client client := ⟨rfl, rfl, rfl, rfl⟩

theorem SameIdentity.symm {before after : KmsClient} (hsame : SameIdentity before after) : SameIdentity after before :=
  ⟨hsame.token.symm, hsame.device_url.symm, hsame.user_id.symm, hsame.encryption_service_url.symm⟩

theorem SameIdentity.trans {first second third : KmsClient} (hfirst : SameIdentity first second)
    (hsecond : SameIdentity second third) : SameIdentity first third :=
  ⟨hsecond.token.trans hfirst.token, hsecond.device_url.trans hfirst.device_url, hsecond.user_id.trans hfirst.user_id,
    hsecond.encryption_service_url.trans hfirst.encryption_service_url⟩

/-- The request that carries a wrapped message to a cluster. -/
def kms_message (client : KmsClient) (kms_cluster : Value) (wrapped : String) : FetchRequest where
  url := client.encryption_service_url ++ "/kms/messages"
  method := "POST"
  headers := [("Authorization", "Bearer " ++ client.token), ("Content-Type", "application/json")]
  body := some (.object [("destination", kms_cluster), ("kmsMessages", .array [.string wrapped])])

/-- A request that a client may make: for the details of its KMS, or with a message for a
    trusted cluster. -/
def Addressed (trusted : Value → Prop) (client : KmsClient) (req : FetchRequest) : Prop :=
  req = details_request client ∨ ∃ kms_cluster wrapped, trusted kms_cluster ∧ req = kms_message client kms_cluster wrapped

theorem Addressed.of_same {trusted : Value → Prop} {before after : KmsClient} {req : FetchRequest}
    (haddressed : Addressed trusted before req) (hsame : SameIdentity before after) : Addressed trusted after req := by
  obtain rfl | ⟨kms_cluster, wrapped, htrusted, rfl⟩ := haddressed
  · left
    simp only [details_request, hsame.token, hsame.user_id, hsame.encryption_service_url]
  · right
    refine ⟨kms_cluster, wrapped, htrusted, ?_⟩
    simp only [kms_message, hsame.token, hsame.encryption_service_url]

/-- An update by a call that may know that the cluster is trusted, as it must to mark the
    context initialized. -/
def KeepsTrust (trusted : Value → Prop) (g : Bool) (f : Nat → KmsClient → KmsClient) : Prop :=
  ∀ time client, SameIdentity client (f time client) ∧
    (trusted (f time client).kms_cluster ∨ (f time client).kms_cluster = client.kms_cluster) ∧
    ((f time client).initialized = true → client.initialized = true ∨ g = true)

/-- A call makes requests of its client only, and knows from what it reads and writes
    whether the cluster is trusted. -/
def addressed (trusted : Value → Prop) (client : KmsClient) : Monitor Op Res Bool where
  allowed g op := match op with
    | .update f => KeepsTrust trusted g f
    | .section f => KeepsTrust trusted g fun time client => (f time client).2
    | .http_do req => Addressed trusted client req
    | _ => True
  moves g op r g' := (g = true → g' = true) ∧ match op, r with
    | .get, current => SameIdentity client current ∧ (current.initialized = true → g' = true) ∧
        (g = true → trusted current.kms_cluster)
    | .update f, _ => (∀ time client, trusted (f time client).kms_cluster) → g' = true
    | _, _ => True

/-- The cluster is trusted when a call knows it to be, and once there is a context. -/
structure Trusting (trusted : Value → Prop) (client : KmsClient) (env : Env) (views : List Bool) : Prop where
  same : SameIdentity client env.client
  initialized : env.client.initialized = true → trusted env.client.kms_cluster
  known : ∀ tid : Nat, views[tid]? = some true → trusted env.client.kms_cluster

section soundness

variable {port : Port} {trusted : Value → Prop} {client : KmsClient}

theorem KeepsTrust.cluster_trusted {g : Bool} {f : Nat → KmsClient → KmsClient} (hkeeps : KeepsTrust trusted g f) {time : Nat}
    {current : KmsClient} (htrusted : trusted current.kms_cluster) : trusted (f time current).kms_cluster := by
  obtain hnew | hsame := (hkeeps time current).2.1
  · exact hnew
  · exact hsame ▸ htrusted

/-- What an operation that is permitted does to the client. -/
theorem answer_trusting {op : Op} {choice : Answer} {env env' : Env} {r : Res op} {g : Bool}
    (hanswer : answer port op choice env = some (r, env')) (hallowed : (addressed trusted client).allowed g op) :
    SameIdentity env.client env'.client ∧
      (trusted env.client.kms_cluster → trusted env'.client.kms_cluster) ∧
      (env'.client.initialized = true → env.client.initialized = true ∨ g = true) := by
  obtain ⟨-, hclient⟩ := answer_pending hanswer
  cases op with
  | update f =>
    have hclient : env'.client = f env.time env.client := hclient
    rw [hclient]
    exact ⟨(hallowed _ _).1, hallowed.cluster_trusted, (hallowed _ _).2.2⟩
  | «section» f =>
    rw [hclient.2]
    have hkeeps : KeepsTrust trusted g fun time client => (f time client).2 := hallowed
    exact ⟨(hkeeps env.time env.client).1, hkeeps.cluster_trusted, (hkeeps env.time env.client).2.2⟩
  | response id =>
    cases r with
    | some wrapped =>
      rw [hclient.1]
      exact ⟨.refl _, fun htrusted => htrusted, .inl⟩
    | none =>
      have hclient : env'.client = if port.timer_forgets then forget id env.client else env.client := hclient
      rw [hclient]
      split
      · exact ⟨⟨rfl, rfl, rfl, rfl⟩, fun htrusted => htrusted, .inl⟩
      · exact ⟨.refl _, fun htrusted => htrusted, .inl⟩
  | _ =>
    have hclient : env'.client = env.client := hclient
    rw [hclient]
    exact ⟨.refl _, fun htrusted => htrusted, .inl⟩

theorem performs_trusting (final : Bool → Prop) : Pool.Sound (addressed trusted client) final
    (Trusting trusted client) (fun _ _ _ _ => True) (perform port) := by
  classical
  rintro tid op choice env r env' spawned views g htrusting hget hallowed - hperform
  simp only [perform, Option.map_eq_some_iff, Prod.mk.injEq] at hperform
  obtain ⟨⟨result, after⟩, hanswer, rfl, rfl, rfl⟩ := hperform
  obtain ⟨hsame, hkept, hinitialized⟩ := answer_trusting hanswer hallowed
  have hknown : g = true → trusted after.client.kms_cluster := by
    rintro rfl
    exact hkept (htrusting.known tid hget)
  refine ⟨decide (trusted after.client.kms_cluster), [], ⟨fun hg => decide_eq_true (hknown hg), ?_⟩, ?_, .nil⟩
  · cases op with
    | get =>
      obtain rfl : result = env.client := by
        cases choice <;> cases hanswer
        rfl
      refine ⟨htrusting.same, fun hmarked => decide_eq_true (hkept (htrusting.initialized hmarked)), ?_⟩
      rintro rfl
      exact htrusting.known tid hget
    | update f =>
      intro hsets
      have hclient : after.client = f env.time env.client := (answer_pending hanswer).2
      exact decide_eq_true (hclient ▸ hsets env.time env.client)
    | _ => trivial
  · rw [List.append_nil]
    constructor
    case same => exact htrusting.same.trans hsame
    case initialized =>
      intro hmarked
      obtain hbefore | hg := hinitialized hmarked
      · exact hkept (htrusting.initialized hbefore)
      · exact hknown hg
    case known =>
      intro other hother
      obtain ⟨rfl, heq⟩ | ⟨-, hold⟩ := getElem?_set_cases hother
      · exact of_decide_eq_true heq.symm
      · exact hkept (htrusting.known other hold)

end soundness

section methods

variable {trusted : Value → Prop} {client : KmsClient} {least : Bool} {α : Type}

theorem keepsView_addressed {op : Op} (hallowed : ∀ g, Knows least g → (addressed trusted client).allowed g op) :
    KeepsView (addressed trusted client) (Knows least) op :=
  fun g hknows => ⟨hallowed g hknows, fun _ _ hmove hleast => hmove.1 (hknows hleast)⟩

/-- An operation that neither changes the client nor makes a request. -/
def Op.unaddressed : Op → Bool
  | .update _ | .section _ | .http_do _ => false
  | _ => true

theorem keepsView_unaddressed {op : Op} (hunaddressed : op.unaddressed = true) :
    KeepsView (addressed trusted client) (Knows least) op := by
  apply keepsView_addressed
  intro g _
  cases op with
  | update | «section» | http_do => cases hunaddressed
  | _ => trivial

theorem keeps_unaddressed {op : Op} (hunaddressed : op.unaddressed = true) :
    (Method.request op : Kms (Res op)).Keeps (addressed trusted client) fun _ g => Knows least g :=
  (keepsView_unaddressed hunaddressed).request

theorem keepsView_plain (op : Op) (hplain : op.plain = true) :
    KeepsView (addressed trusted client) (Knows least) op := by
  apply keepsView_unaddressed
  cases op with
  | update | «section» | http_do => cases hplain
  | _ => rfl

theorem KeepsTrust.mono {f : Nat → KmsClient → KmsClient} (hkeeps : KeepsTrust trusted false f) (g : Bool) :
    KeepsTrust trusted g f := by
  intro time current
  obtain ⟨hsame, hcluster, hinitialized⟩ := hkeeps time current
  refine ⟨hsame, hcluster, fun hmarked => ?_⟩
  obtain hbefore | hg := hinitialized hmarked
  · exact .inl hbefore
  · cases hg

theorem keepsView_trust {f : Nat → KmsClient → KmsClient} (hkeeps : KeepsTrust trusted false f) :
    KeepsView (addressed trusted client) (Knows least) (.update f) :=
  keepsView_addressed fun g _ => hkeeps.mono g

theorem keepsView_section_trust {f : Nat → KmsClient → Bool × KmsClient}
    (hkeeps : KeepsTrust trusted false fun time current => (f time current).2) :
    KeepsView (addressed trusted client) (Knows least) (.section f) :=
  keepsView_addressed fun g _ => hkeeps.mono g

/-- An update of the other fields. -/
theorem keepsTrust_of_same {f : Nat → KmsClient → KmsClient} (hsame : ∀ time current, SameIdentity current (f time current))
    (hcluster : ∀ time current, (f time current).kms_cluster = current.kms_cluster)
    (hinitialized : ∀ time current, (f time current).initialized = current.initialized) :
    KeepsTrust trusted false f :=
  fun time current => ⟨hsame time current, .inr (hcluster time current), fun hmarked => .inl (hinitialized time current ▸ hmarked)⟩

theorem keepsTrust_forget (request_id : String) : KeepsTrust trusted false fun _ => forget request_id :=
  keepsTrust_of_same (fun _ _ => ⟨rfl, rfl, rfl, rfl⟩) (fun _ _ => rfl) fun _ _ => rfl

theorem keepsTrust_cluster {kms_cluster : Value} (htrusted : trusted kms_cluster) :
    KeepsTrust trusted false fun _ current => { current with kms_cluster := kms_cluster } :=
  fun _ _ => ⟨⟨rfl, rfl, rfl, rfl⟩, .inl htrusted, .inl⟩

theorem keepsView_initialized :
    KeepsView (addressed trusted client) (Knows true) (.update fun _ current => { current with initialized := true }) :=
  keepsView_addressed fun _ hknows _ _ => ⟨⟨rfl, rfl, rfl, rfl⟩, .inr rfl, fun _ => .inr (hknows rfl)⟩

theorem keeps_fetch_addressed : fetch_details.Keeps (addressed trusted client) fun _ g => Knows least g := by
  intro _ g hknows
  refine Method.obeys_bind_request.mpr ⟨trivial, ?_⟩
  rintro current g' ⟨hmore, hsame, -⟩
  have haddressed : Addressed trusted client (details_request current) :=
    Addressed.of_same (.inl rfl) hsame.symm
  exact ⟨haddressed, fun _ _ hmove hleast => hmove.1 (hmore (hknows hleast))⟩

/-- The request for a message is made with what was read just before it. -/
theorem keeps_message {rest : Except Failure FetchResponse → Kms α} {wrapped : String}
    (hrest : ∀ posted, (rest posted).Keeps (addressed trusted client) fun _ g => Knows true g) :
    (read >>= fun current => http_do (kms_message current current.kms_cluster wrapped) >>= rest).Keeps
      (addressed trusted client) fun _ g => Knows true g := by
  intro _ g hknows
  refine Method.obeys_bind_request.mpr ⟨trivial, ?_⟩
  rintro current g' ⟨hmore, hsame, -, htrusted⟩
  have haddressed : Addressed trusted client (kms_message current current.kms_cluster wrapped) :=
    Addressed.of_same (.inr ⟨_, wrapped, htrusted (hknows rfl), rfl⟩) hsame.symm
  refine Method.obeys_bind_request.mpr ⟨haddressed, fun posted g'' hmove => ?_⟩
  exact hrest posted () g'' fun _ => hmove.1 (hmore (hknows rfl))

theorem yields_known {m : Kms α} (hm : m.Keeps (addressed trusted client) fun _ g => Knows true g) :
    m.Yields (addressed trusted client) () true fun _ _ g => g = true :=
  (hm () true fun _ => rfl).mono fun _ _ _ hknows _ _ => hknows rfl

theorem yields_unknown {m : Kms α} (hm : m.Keeps (addressed trusted client) fun _ g => Knows false g) (g : Bool) :
    m.Yields (addressed trusted client) () g fun _ _ _ => True :=
  (hm () g fun hfalse => (by cases hfalse)).mono fun _ _ _ _ _ _ => trivial

/-- What follows the request for the details knows nothing yet. -/
theorem yields_fetch_check {failed : Failure → Failure} {rest : FetchResponse → Kms α} {g : Bool}
    {post : α → Unit → Bool → Prop} (hrest : ∀ resp g', (rest resp).Yields (addressed trusted client) () g' post) :
    (read >>= fun current => check (.http_do (details_request current)) rfl failed >>= rest).Yields
      (addressed trusted client) () g post := by
  show (fetch_details >>= fun fetched => Method.ofExcept (fetched.mapError failed) >>= rest).Yields _ () g post
  refine Method.yields_bind (yields_unknown keeps_fetch_addressed g) ?_
  rintro fetched ⟨⟩ g' -
  exact Method.yields_bind_ofExcept fun resp _ => hrest resp g'

end methods

end webex.key_retrieval

namespace webex.go.key_retrieval

open webex.key_retrieval

variable {lib : Library} {client : KmsClient} {least : Bool}

/-- The destinations that `validateWebexURL` accepts. -/
def Validated (lib : Library) (kms_cluster : Value) : Prop :=
  ∃ url, kms_cluster = .string url ∧ validate_webex_url lib url "kms" = .ok ()

variable {α : Type} {trusted : Value → Prop}

theorem abandon_addressed {request_id : String} {error : Failure} :
    (abandon request_id error : Kms α).Keeps (addressed trusted client) fun _ g => Knows least g := by
  unfold abandon
  apply Method.keeps_bind (keeps_unaddressed rfl)
  intro _
  apply Method.keeps_bind (keepsView_trust (keepsTrust_forget request_id)).request
  intro _
  exact Method.keeps_throw _

theorem keepsTrust_register (request_id : String) :
    KeepsTrust trusted false fun _ kc => (register request_id kc).2 := by
  intro _ kc
  simp only [register]
  split
  · exact ⟨.refl _, .inr rfl, .inl⟩
  · exact ⟨⟨rfl, rfl, rfl, rfl⟩, .inr rfl, .inl⟩

theorem send_kms_request_addressed (request_id wrapped : String) :
    (send_kms_request request_id wrapped).Keeps (addressed trusted client) fun _ g => Knows true g := by
  unfold send_kms_request
  apply Method.keeps_bind (keeps_guard (keepsView_section_trust (keepsTrust_register request_id)))
  intro _
  apply Method.keeps_bind (keeps_unaddressed rfl)
  intro _
  apply keeps_message
  intro http_resp
  cases http_resp with
  | error e => exact abandon_addressed
  | ok http_resp =>
    dsimp only
    split
    · apply Method.keeps_bind (keeps_unaddressed rfl)
      intro response
      cases response with
      | none => exact abandon_addressed
      | some response =>
        apply Method.keeps_bind (keeps_unaddressed rfl)
        intro _
        exact Method.keeps_pure _
    · exact abandon_addressed

theorem keepsTrust_write {f : Nat → KmsClient → KmsClient} (hwrite : Write lib f) :
    KeepsTrust (Validated lib) false f := by
  cases hwrite with
  | kms_cluster kms_cluster hvalid => exact keepsTrust_cluster ⟨kms_cluster, rfl, hvalid⟩
  | _ => exact keepsTrust_of_same (fun _ _ => ⟨rfl, rfl, rfl, rfl⟩) (fun _ _ => rfl) fun _ _ => rfl

theorem keepsTrust_breaker : KeepsTrust trusted false fun time kc => (check_breaker time kc).2 := by
  intro time kc
  simp only [check_breaker]
  split
  · split
    · exact ⟨⟨rfl, rfl, rfl, rfl⟩, .inr rfl, .inl⟩
    · exact ⟨.refl _, .inr rfl, .inl⟩
  · exact ⟨.refl _, .inr rfl, .inl⟩

/-- The rule for a call that knows that the cluster has been validated. -/
theorem validated_rule : Rule lib (addressed (Validated lib) client) (Knows true) where
  plain_op := keepsView_plain
  fetch := keeps_fetch_addressed
  send := send_kms_request_addressed
  write _ hwrite := keepsView_trust (keepsTrust_write hwrite)
  check_breaker := keepsView_section_trust keepsTrust_breaker

/-- Once the details have been accepted, the cluster is one that has been validated. -/
theorem fetch_kms_details_validates (g : Bool) :
    (fetch_kms_details lib).Yields (addressed (Validated lib) client) () g fun _ _ g' => g' = true := by
  unfold fetch_kms_details
  apply yields_fetch_check
  intro resp g'
  apply Method.yields_bind_reject
  intro _
  refine Method.yields_bind_request trivial fun details g' _ => ?_
  apply Method.yields_bind_ofExcept
  intro kms_details _
  apply Method.yields_bind_ofExcept
  intro _ hvalid
  have hvalidated : Validated lib (.string kms_details.kms_cluster) := ⟨_, rfl, Method.mapError_eq_ok.mp hvalid⟩
  refine Method.yields_bind_request ((keepsTrust_cluster hvalidated).mono g') ?_
  rintro _ g'' ⟨-, hset⟩
  obtain rfl := hset fun _ _ => hvalidated
  have hrule : Rule lib (addressed (Validated lib) client) (Knows true) := validated_rule
  apply yields_known
  split
  · exact Method.keeps_throw _
  · exact Method.keeps_throw _
  · apply Method.keeps_bind (hrule.plain (plain_check rfl))
    intro rsa_jwk
    exact hrule.plain (plain_check rfl)
  · exact hrule.plain (plain_check rfl)

theorem initialize_client_addressed :
    (initialize_client lib).Keeps (addressed (Validated lib) client) fun _ g => Knows false g := by
  have hrule : Rule lib (addressed (Validated lib) client) (Knows true) := validated_rule
  rw [initialize_client_eq]
  intro _ g _
  refine Method.Obeys.bind (fetch_kms_details_validates g) ?_ fun _ _ _ _ hfalse => (by cases hfalse)
  rintro rsa_key ⟨⟩ g' hvalidated
  obtain rfl := hvalidated rsa_key rfl
  have hrest : (ecdh_exchange rsa_key >>= fun exchanged => derive_shared_key exchanged.1 exchanged.2 >>= fun shared_key =>
      finish_handshake lib shared_key exchanged.2).Keeps (addressed (Validated lib) client) fun _ g => Knows true g := by
    apply Method.keeps_bind (hrule.ecdh_exchange rsa_key)
    intro exchanged
    apply Method.keeps_bind (hrule.plain (derive_shared_key_plain _ _))
    intro shared_key
    unfold finish_handshake
    apply Method.keeps_bind (keeps_unaddressed rfl)
    intro _
    apply Method.keeps_bind keepsView_initialized.request
    intro _
    apply Method.keeps_bind (hrule.update .lifetime)
    intro _
    split
    · exact hrule.update (.expiration _)
    · exact Method.keeps_pure _
  exact (hrest () true fun _ => rfl).mono fun _ _ _ _ hfalse => (by cases hfalse)

theorem get_key_addressed (key_uri : String) :
    (get_key lib key_uri).Keeps (addressed (Validated lib) client) fun _ g => Knows false g := by
  have hrule : Rule lib (addressed (Validated lib) client) (Knows true) := validated_rule
  have hattempts := hrule.get_key_attempts (keepsView_unaddressed rfl) key_uri MAX_KMS_ATTEMPTS 1
  unfold get_key
  apply Method.keeps_bind (keeps_unaddressed rfl)
  intro kc
  split
  · exact Method.keeps_pure _
  · apply Method.keeps_bind (is_context_expired_plain.keeps keepsView_plain)
    intro expired
    apply Method.keeps_bind (Method.keeps_when fun _ => initialize_client_addressed)
    intro _
    apply Method.keeps_bind (keeps_guard (keepsView_section_trust keepsTrust_breaker))
    intro _ _ g _
    -- an initialized context has a cluster that was validated
    refine Method.obeys_bind_request.mpr ⟨trivial, ?_⟩
    rintro kc g' ⟨-, -, hmarked, -⟩
    rw [Method.obeys_bind, Method.obeys_reject]
    refine ⟨fun _ hfalse => (by cases hfalse), fun hinitialized => ?_⟩
    obtain rfl := hmarked (by simpa using hinitialized)
    have hrest : (has_key >>= fun present => Method.reject (!present) (.kms_error "KMS context not initialized") >>= fun _ =>
        get_key_attempts lib key_uri MAX_KMS_ATTEMPTS 1).Keeps (addressed (Validated lib) client) fun _ g => Knows true g := by
      apply Method.keeps_bind (keeps_unaddressed rfl)
      intro present
      apply Method.keeps_bind (Method.keeps_reject _ _)
      intro _
      exact hattempts
    exact (hrest () true fun _ => rfl).mono fun _ _ _ _ hfalse => (by cases hfalse)

end webex.go.key_retrieval

namespace webex.python.key_retrieval

open webex.key_retrieval

variable {lib : Library} {client : KmsClient}

/-- The destinations of a client that stores a cluster before it validates it. -/
def Unchecked (_ : Value) : Prop := True

theorem unchecked (kms_cluster : Value) : Unchecked kms_cluster := trivial

theorem post_failed_addressed (request_id : String) (error : Failure) :
    (post_failed request_id error).Keeps (addressed Unchecked client) fun _ g => Knows true g := by
  cases error with
  | kms_error message => exact Method.keeps_throw _
  | other message =>
    apply Method.keeps_bind (keepsView_trust (keepsTrust_forget request_id)).request
    intro _
    exact Method.keeps_throw _

theorem keepsTrust_pending (request_id : String) : KeepsTrust Unchecked false fun _ self =>
    { self with pending_requests := self.pending_requests ++ [request_id] } :=
  keepsTrust_of_same (fun _ _ => ⟨rfl, rfl, rfl, rfl⟩) (fun _ _ => rfl) fun _ _ => rfl

theorem post_and_wait_addressed (request_id wrapped : String) :
    (post_and_wait request_id wrapped).Keeps (addressed Unchecked client) fun _ g => Knows true g := by
  unfold post_and_wait
  apply Method.keeps_bind (keepsView_trust (keepsTrust_pending request_id)).request
  intro _
  apply keeps_message
  intro posted
  cases posted with
  | error e => exact post_failed_addressed request_id e
  | ok posted =>
    dsimp only
    split
    · apply Method.keeps_bind (keeps_unaddressed rfl)
      intro wrapped_response
      cases wrapped_response with
      | none => exact Method.keeps_throw _
      | some wrapped_response => exact Method.keeps_pure _
    · apply Method.keeps_bind (keepsView_trust (keepsTrust_forget request_id)).request
      intro _
      apply Method.keeps_bind (Method.keeps_attempt ((plain_call rfl).keeps keepsView_plain))
      intro error_body
      cases error_body with
      | ok error_body => exact Method.keeps_throw _
      | error e => exact post_failed_addressed request_id e

theorem send_kms_request_addressed (request_id wrapped : String) :
    (send_kms_request request_id wrapped).Keeps (addressed Unchecked client) fun _ g => Knows true g := by
  unfold send_kms_request
  apply Method.keeps_bind (keeps_guard (keepsView_section_trust fun _ _ => ⟨.refl _, .inr rfl, .inl⟩))
  intro _
  apply Method.keeps_bind (keeps_unaddressed rfl)
  intro _
  apply Method.keeps_bind (Method.keeps_attempt (post_and_wait_addressed request_id wrapped))
  intro outcome
  apply Method.keeps_bind (keeps_unaddressed rfl)
  intro _
  exact Method.keeps_ofExcept _

theorem keepsTrust_write {f : Nat → KmsClient → KmsClient} (hwrite : Write f) : KeepsTrust Unchecked false f := by
  cases hwrite with
  | kms_cluster kms_cluster => exact keepsTrust_cluster (unchecked kms_cluster)
  | _ => exact keepsTrust_of_same (fun _ _ => ⟨rfl, rfl, rfl, rfl⟩) (fun _ _ => rfl) fun _ _ => rfl

theorem keepsTrust_breaker : KeepsTrust Unchecked false fun time self => (check_breaker time self).2 := by
  intro time self
  simp only [check_breaker]
  split
  · split
    · exact ⟨⟨rfl, rfl, rfl, rfl⟩, .inr rfl, .inl⟩
    · exact ⟨.refl _, .inr rfl, .inl⟩
  · exact ⟨.refl _, .inr rfl, .inl⟩

theorem unchecked_rule : ContextRule (addressed Unchecked client) (Knows true) where
  plain_op := keepsView_plain
  fetch := keeps_fetch_addressed
  send := send_kms_request_addressed
  write _ hwrite := keepsView_trust (keepsTrust_write hwrite)
  check_breaker := keepsView_section_trust keepsTrust_breaker
  store_key _ := keepsView_unaddressed rfl
  initialized := keepsView_initialized
  has_key := keepsView_unaddressed rfl
  load_key := keepsView_unaddressed rfl

end webex.python.key_retrieval

namespace webex.key_retrieval

/-- A client with the fields it was constructed with, whose requests are all for the details
    of its KMS or with a message to a trusted cluster. -/
structure Confined (trusted : Value → Prop) (client : KmsClient) (self : System) : Prop where
  identity : SameIdentity client self.env.client
  cluster : self.env.client.initialized = true → trusted self.env.client.kms_cluster
  requests : ∀ tid req, self.head tid = some (.http_do req) → Addressed trusted client req

section confinement

variable {port : Port} {trusted : Value → Prop} {client : KmsClient} {start : Bool}

theorem tracks_addressed (hstart : start = true → ∀ kms_cluster, trusted kms_cluster)
    (hget : ∀ key_uri, (port.get_key key_uri).Keeps (addressed trusted client) fun _ g => Knows start g)
    (hhandshake : port.initialize_client.Keeps (addressed trusted client) fun _ g => Knows start g) :
    Tracks port (addressed trusted client) (Knows start) start (Trusting trusted client) fun _ _ _ _ => True where
  sound := performs_trusting _
  start_inv hg := hg
  get_key := hget
  initialize_client := hhandshake
  start _ _ htrusting := by
    refine ⟨htrusting.same, htrusting.initialized, fun tid hget => ?_⟩
    obtain hold | ⟨-, heq⟩ := getElem?_concat_cases hget
    · exact htrusting.known tid hold
    · exact hstart heq.symm _
  deliver _ _ request_id _ htrusting _ := ⟨htrusting.same.trans ⟨rfl, rfl, rfl, rfl⟩, htrusting.initialized, htrusting.known⟩
  wait _ _ _ htrusting := ⟨htrusting.same, htrusting.initialized, htrusting.known⟩

theorem Confined.of_tracks
    (htracks : Tracks port (addressed trusted client) (Knows start) start (Trusting trusted client) fun _ _ _ _ => True)
    (hinitialized : client.initialized = false) {s : System}
    (hreach : (calls port client).Reachable Machine.Always s) : Confined trusted client s := by
  have hinit : Trusting trusted client { client := client } [] :=
    ⟨.refl _, fun hmarked => (by rw [hinitialized] at hmarked; cases hmarked), fun _ hget => (by cases hget)⟩
  have hperforming : (calls port client).Reachable (Performing fun _ _ _ _ => True) s := by
    refine hreach.mono fun _ label _ => ?_
    cases label with
    | perform tid choice => exact fun _ _ => trivial
    | _ => trivial
  obtain ⟨views, hobeyed⟩ := htracks.obeyed hinit hperforming
  refine ⟨hobeyed.view.same, hobeyed.view.initialized, fun tid req hhead => ?_⟩
  obtain ⟨g, -, hallowed⟩ := hobeyed.allowed hhead
  exact hallowed

end confinement

/-- Whatever calls run at a time and whatever the network answers, a client makes no request
    but for the details of its own KMS and with messages through its own encryption service.
    The messages of a Go client are for clusters that `validateWebexURL` has accepted. -/
theorem requests_confined (lib : Library) (token device_url user_id encryption_service_url : String)
    (go_client python_client : System)
    (hgo : (calls (go.key_retrieval.port lib) (new_kms_client token device_url user_id encryption_service_url)).Reachable
      Machine.Always go_client)
    (hpython : (calls (python.key_retrieval.port lib)
      (new_kms_client token device_url user_id encryption_service_url)).Reachable Machine.Always python_client) :
    Confined (go.key_retrieval.Validated lib) (new_kms_client token device_url user_id encryption_service_url) go_client ∧
      Confined python.key_retrieval.Unchecked (new_kms_client token device_url user_id encryption_service_url)
        python_client :=
  ⟨.of_tracks (tracks_addressed (fun hfalse => (by cases hfalse)) go.key_retrieval.get_key_addressed
      go.key_retrieval.initialize_client_addressed) rfl hgo,
    .of_tracks (tracks_addressed (fun _ => python.key_retrieval.unchecked)
      python.key_retrieval.unchecked_rule.get_key python.key_retrieval.unchecked_rule.initialize_client) rfl hpython⟩

/-- The handshakes of both ports send their requests to the cluster of the details. -/
theorem handshake_requests_confined :
    ∃ go_client python_client,
      (calls (go.key_retrieval.port sample_library) sample_client).run { env := { client := sample_client }, tasks := [] }
        ((go_request 0 "r0").take 13) = some go_client ∧
      (calls (python.key_retrieval.port sample_library) sample_client).run
        { env := { client := sample_client }, tasks := [] } ((python_request 0 "r0").take 14) = some python_client ∧
      go_client.head 0 = some (.http_do (kms_message sample_client (.string "kms://wbx2.com") "handshake")) ∧
      python_client.head 0 = some (.http_do (kms_message sample_client (.string "kms://wbx2.com") "handshake")) ∧
      Confined (go.key_retrieval.Validated sample_library) sample_client go_client ∧
      Confined python.key_retrieval.Unchecked sample_client python_client := by
  obtain ⟨go_client, hgo, hgo_head⟩ : ∃ s, (calls (go.key_retrieval.port sample_library) sample_client).run
      { env := { client := sample_client }, tasks := [] } ((go_request 0 "r0").take 13) = some s ∧
      s.head 0 = some (.http_do (kms_message sample_client (.string "kms://wbx2.com") "handshake")) := ⟨_, rfl, rfl⟩
  obtain ⟨python_client, hpython, hpython_head⟩ :
      ∃ s, (calls (python.key_retrieval.port sample_library) sample_client).run
        { env := { client := sample_client }, tasks := [] } ((python_request 0 "r0").take 14) = some s ∧
      s.head 0 = some (.http_do (kms_message sample_client (.string "kms://wbx2.com") "handshake")) := ⟨_, rfl, rfl⟩
  obtain ⟨hgo_confined, hpython_confined⟩ := requests_confined sample_library "token"
    "https://wdm-a.wbx2.com/wdm/api/v1/devices/dev-123" "user-1" "https://encryption-a.wbx2.com" go_client python_client
    (Machine.reachable_of_run hgo) (Machine.reachable_of_run hpython)
  exact ⟨go_client, python_client, hgo, hpython, hgo_head, hpython_head, hgo_confined, hpython_confined⟩

/-- A library for which one cluster is on a recognized domain. -/
def single_library : Library :=
  { sample_library with parse_url url := .ok ("kms", if url = "kms://wbx2.com" then "wbx2.com" else "example.org") }

/-- A handshake whose details name another cluster. -/
def python_refused (tid : Nat) : List Label :=
  [.initialize_client, .perform tid .own, .perform tid (.fetched (.ok ⟨200, true⟩)),
    .perform tid (.value (.ok (.object [("kmsCluster", .string "kms://example.org"), ("rsaPublicKey", sample_jwk)]))),
    .perform tid .own]

/-- The Python client stores a cluster before it validates it. A handshake that fails on the
    cluster leaves it to the key requests of the context that is still there. -/
theorem python_messages_refused_cluster :
    ∃ s, (calls (python.key_retrieval.port single_library) sample_client).Reachable Machine.Always s ∧
      s.head 2 = some (.http_do (kms_message sample_client (.string "kms://example.org") "retrieve")) ∧
      ¬go.key_retrieval.Validated single_library (.string "kms://example.org") := by
  obtain ⟨s, hrun, hhead⟩ : ∃ s, (calls (python.key_retrieval.port single_library) sample_client).run
      { env := { client := sample_client }, tasks := [] }
      (python_request 0 "r0" ++ python_derive 0 "r0" "kms://ephemeral-1" "k1" ++ python_refused 1 ++ python_wrap 2 "r2" ++
        own 2 3) = some s ∧
      s.head 2 = some (.http_do (kms_message sample_client (.string "kms://example.org") "retrieve")) := ⟨_, rfl, rfl⟩
  exact ⟨s, Machine.reachable_of_run hrun, hhead, fun ⟨_, hurl, hvalid⟩ => (by cases hurl; cases hvalid)⟩

end webex.key_retrieval

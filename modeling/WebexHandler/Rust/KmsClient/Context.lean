import WebexHandler.Rust.KmsClient.Breaker
import WebexHandler.Rust.KmsClient.Rules

open interaction json transition

namespace webex.rust.kms_client

open url_validation (Accepted)

/-- The cluster that an answer to the details request names, whether or not it is one
    that `validate_webex_url` accepts. -/
def named_cluster (crates : Crates) : Except String FetchResponse → Option String
  | .error _ => none
  | .ok response =>
    if response.ok then (crates.from_slice response.body).toOption.bind fun details => (index details "kmsCluster").as_str
    else none

/-- The client after an answer to the details request. -/
def renamed (kms : KmsClient) : Option String → KmsClient
  | none => kms
  | some cluster => { kms with kms_cluster := cluster }

theorem renamed_eq_iff {kms : KmsClient} {named : Option String} :
    renamed kms named = kms ↔ ∀ cluster, named = some cluster → cluster = kms.kms_cluster := by
  cases named with
  | none => simp [renamed]
  | some cluster =>
    constructor
    · intro hsame other hother
      rw [← Option.some.inj hother]
      exact congrArg KmsClient.kms_cluster hsame
    · intro hcluster
      rw [renamed, hcluster cluster rfl]

section handshake

variable {crates : Crates} {γ : Type} {mon : Monitor Op Res γ}

/-- The details are parsed at once, and the cluster they name is stored whatever comes
    of the rest. -/
theorem parse_kms_details_renames (response : Except String FetchResponse) (kms : KmsClient) (g : γ) :
    (parse_kms_details crates response).Obeys mon kms g fun _ kms' g' =>
      g' = g ∧ kms' = renamed kms (named_cluster crates response) := by
  unfold parse_kms_details
  rw [Method.obeys_bind, Method.obeys_ofExcept]
  cases response with
  | error e => exact ⟨rfl, rfl⟩
  | ok response =>
    simp only [Except.mapError]
    rw [Method.obeys_bind, Method.obeys_reject]
    constructor
    · intro hfailed
      have hok : response.ok = false := by simpa using hfailed
      exact ⟨rfl, by simp [named_cluster, hok, renamed]⟩
    intro hok
    have hok : response.ok = true := by simpa using hok
    simp only
    rw [Method.obeys_bind, Method.obeys_ofExcept]
    cases hparsed : crates.from_slice response.body with
    | error e => exact ⟨rfl, by simp [named_cluster, hok, hparsed, renamed, Except.toOption]⟩
    | ok kms_details =>
      simp only
      rw [Method.obeys_bind, Method.obeys_ofExcept]
      cases hnamed : (index kms_details "kmsCluster").as_str with
      | none => exact ⟨rfl, by simp [named_cluster, hok, hparsed, hnamed, renamed, Except.toOption]⟩
      | some kms_cluster =>
        have hrenamed : renamed kms (named_cluster crates (.ok response)) = { kms with kms_cluster := kms_cluster } := by
          simp [named_cluster, hok, hparsed, hnamed, renamed, Except.toOption]
        simp only
        rw [Method.obeys_bind, Method.obeys_modify, hrenamed]
        simp only
        rw [Method.obeys_bind, Method.obeys_ofExcept]
        split
        · split
          · exact ⟨rfl, rfl⟩
          · exact ⟨rfl, rfl⟩
          · exact ⟨rfl, rfl⟩
        · exact ⟨rfl, rfl⟩

/-- A handshake that fails changes nothing. -/
theorem handshake_fails_clean (hfree : ∀ g op, mon.allowed g op) (rsa_jwk_value : Value) (kms : KmsClient) (g : γ) :
    (handshake crates rsa_jwk_value).Obeys mon kms g fun outcome kms' _ => ∀ e, outcome = .error e → kms' = kms := by
  unfold handshake
  refine (keeps_free_request hfree (.random 32)).obeys_bind (fun local_secret g => ?_) fun _ _ _ _ => rfl
  refine (Method.keeps_ofExcept _).obeys_bind (fun public_jwk_map g => ?_) fun _ _ _ _ => rfl
  refine (keeps_free_request hfree .new_v4).obeys_bind (fun request_id g => ?_) fun _ _ _ _ => rfl
  refine Method.keeps_get.obeys_bind (fun self g => ?_) fun _ _ _ _ => rfl
  refine (keeps_free_request hfree (.random 44)).obeys_bind (fun seed g => ?_) fun _ _ _ _ => rfl
  refine (Method.keeps_ofExcept _).obeys_bind (fun wrapped g => ?_) fun _ _ _ _ => rfl
  refine (send_kms_request_keeps hfree request_id wrapped).obeys_bind (fun wrapped_response g => ?_) fun _ _ _ _ => rfl
  refine (Method.keeps_ofExcept _).obeys_bind (fun key g => ?_) fun _ _ _ _ => rfl
  -- past this point nothing fails
  simp only [Method.obeys_bind, Method.obeys_modify, obeys_now]
  exact ⟨hfree _ _, fun _ _ _ => by simp⟩

/-- All that a failed `initialize` leaves behind is the cluster it was given. -/
theorem initialize_client_fails {kms kms' : KmsClient} {script rest : List Reply} {e : WebexError}
    (htake : (initialize_client crates kms).take reply script = some ((.error e, kms'), rest)) :
    ∃ response later, script = .fetched response :: later ∧ kms' = renamed kms (named_cluster crates response) := by
  change (Program.ask (.fetch (details_request kms)) fun response =>
    (parse_kms_details crates response >>= handshake crates) kms).take reply script = _ at htake
  cases script with
  | nil => cases htake
  | cons first later =>
    simp only [Program.take, Option.bind_eq_some_iff] at htake
    obtain ⟨response, hreply, htake⟩ := htake
    refine ⟨response, later, by rw [reply_eq_some hreply, reply_of], ?_⟩
    have hobeys : (parse_kms_details crates response >>= handshake crates).Obeys (scripted later) kms false
        fun outcome kms' _ => ∀ e, outcome = .error e → kms' = renamed kms (named_cluster crates response) := by
      refine (parse_kms_details_renames response kms false).bind ?_ ?_
      · rintro rsa_jwk_value kms₁ g ⟨-, rfl⟩
        exact handshake_fails_clean (fun _ _ => trivial) rsa_jwk_value _ g
      · rintro e kms₁ g ⟨-, rfl⟩ _ _
        rfl
    obtain ⟨used, -, hfailed⟩ := Program.Obeys.take hobeys (List.Subset.refl _) htake
    exact hfailed e rfl

end handshake

section session

variable {crates : Crates}

/-- The cluster of a client that has not been told of one, or one that has been accepted. -/
def ClusterAccepted (kms : KmsClient) : Prop := kms.kms_cluster = "" ∨ Accepted "kms" kms.kms_cluster

/-- A POST to the KMS names an accepted destination, or none. -/
def DestinationAccepted (crates : Crates) (req : FetchRequest) : Prop :=
  ∃ destination wrapped, req.body = some (crates.to_string (.object [("destination", .string destination),
    ("kmsMessages", .array [.string wrapped])])) ∧ (destination = "" ∨ Accepted "kms" destination)

/-- An answer to a details request names no cluster but an accepted one. -/
def NamesAccepted (crates : Crates) (req : FetchRequest) (result : Except String FetchResponse) : Prop :=
  req.method = "GET" → ∀ cluster, named_cluster crates result = some cluster → Accepted "kms" cluster

/-- POSTs have accepted destinations, as long as the details name accepted clusters. -/
def destinations (crates : Crates) : Monitor Op Res Unit where
  allowed _ op := ∀ req, op = .fetch req → req.method = "POST" → DestinationAccepted crates req
  moves _ op r _ := match op, r with
    | .fetch req, result => NamesAccepted crates req result
    | _, _ => True

theorem keeps_other_request (op : Op) (hop : ∀ req, op ≠ .fetch req) :
    (Method.request op : Kms (Res op)).Keeps (destinations crates) fun kms _ => ClusterAccepted kms :=
  Method.keeps_request fun _ _ hinv => ⟨fun req heq => absurd heq (hop req), fun _ _ _ => hinv⟩

theorem message_request_accepted {kms : KmsClient} (haccepted : ClusterAccepted kms) (wrapped : String) :
    DestinationAccepted crates (message_request crates kms wrapped) :=
  ⟨kms.kms_cluster, wrapped, rfl, haccepted⟩

theorem send_kms_request_accepted (request_id wrapped : String) :
    (send_kms_request crates request_id wrapped).Keeps (destinations crates) fun kms _ => ClusterAccepted kms := by
  have hremoved : ∀ e, (remove_pending request_id >>= fun _ => (throw e : Kms String)).Keeps (destinations crates)
      fun kms _ => ClusterAccepted kms := by
    intro e
    exact Method.keeps_bind (keeps_other_request _ nofun) fun _ => Method.keeps_throw e
  intro kms g haccepted
  unfold send_kms_request
  rw [Method.obeys_bind, Method.obeys_get]
  refine Method.Obeys.bind (keeps_other_request (.register_pending request_id) nofun kms g haccepted) ?_
    fun _ _ _ h => h
  intro registered kms' g' haccepted'
  cases registered with
  | none => exact haccepted'
  | some rx =>
    rw [Method.obeys_bind, obeys_fetch]
    constructor
    · rintro req heq -
      exact Op.fetch.inj heq ▸ message_request_accepted haccepted wrapped
    intro posted g'' _
    cases posted with
    | error e => exact hremoved _ kms' g'' haccepted'
    | ok resp =>
      dsimp only
      split
      · exact hremoved _ kms' g'' haccepted'
      · refine Method.keeps_bind (keeps_other_request (.wait_response rx KMS_RESPONSE_TIMEOUT) nofun) ?_ kms' g'' haccepted'
        intro waited
        cases waited with
        | received response => exact Method.keeps_pure _
        | closed => exact Method.keeps_throw _
        | timed_out => exact hremoved _

theorem fetch_kms_details_accepted :
    (fetch_kms_details crates).Keeps (destinations crates) fun kms _ => ClusterAccepted kms := by
  intro kms g haccepted
  unfold fetch_kms_details
  rw [Method.obeys_bind, Method.obeys_get]
  dsimp only
  rw [Method.obeys_bind, obeys_fetch]
  constructor
  · rintro req heq hpost
    rw [← Op.fetch.inj heq] at hpost
    simp [details_request] at hpost
  intro response g' hnames
  refine (parse_kms_details_renames response kms g').mono ?_
  rintro outcome kms' g'' ⟨-, rfl⟩
  cases hnamed : named_cluster crates response with
  | none => exact haccepted
  | some cluster => exact .inr (hnames rfl cluster hnamed)

theorem accepted_rule : StepRule crates (destinations crates) fun kms _ => ClusterAccepted kms where
  details := fetch_kms_details_accepted
  message request_id wrapped _ := send_kms_request_accepted request_id wrapped
  now := keeps_other_request .now nofun
  new_v4 := keeps_other_request .new_v4 nofun
  random len := keeps_other_request (.random len) nofun
  context self self' g _ hcluster _ haccepted := by rwa [ClusterAccepted, hcluster]

/-- The answers that the details requests of a run get name accepted clusters only. -/
def DetailsAccepted (crates : Crates) (s : Session) : Label → Prop
  | .perform (.fetched result _) => ∀ req, s.head = some (.fetch req) → NamesAccepted crates req result
  | _ => True

theorem session_accepted {kms : KmsClient} (hnew : kms.kms_cluster = "") {s : Session}
    (hreach : (session crates kms).Reachable (DetailsAccepted crates) s) :
    s.Keeps (destinations crates) ClusterAccepted := by
  refine hreach.invariant ⟨.inl hnew, trivial⟩ ?_
  intro s label next _ hkeeps hdetails hstep
  refine hkeeps.step (fun key_uri => accepted_rule.get_key (fun millis => keeps_other_request (.sleep millis) nofun) ?_
    key_uri) accepted_rule.initialize_client ?_ hstep
  · intro self self' g _ hcluster haccepted
    rwa [ClusterAccepted, hcluster]
  rintro op choice r world rfl hhead hperform
  cases op with
  | fetch req =>
    cases choice with
    | fetched result answer =>
      have hnames : NamesAccepted crates req result := hdetails req hhead
      simp only [World.perform] at hperform
      split at hperform
      · cases hperform
        exact hnames
      · simp only [Option.ite_none_right_eq_some, Option.some.injEq] at hperform
        cases hperform.2
        exact hnames
    | _ => cases hperform
  | _ => trivial

/-- An `initialize` that fails leaves the client as it was exactly when the details it got
    name no other cluster than the client's, or none. In every run in which the details
    name accepted clusters only, the client's cluster is accepted or empty between calls,
    and so is the destination of every POST. -/
theorem failed_initialize_keeps_context (crates : Crates) :
    (∀ kms script rest e kms', (initialize_client crates kms).take reply script = some ((.error e, kms'), rest) →
      (kms' = kms ↔ ∀ response cluster, script.head? = some (.fetched response) →
        named_cluster crates response = some cluster → cluster = kms.kms_cluster)) ∧
    ∀ token device_url user_id encryption_service_url s,
      (session crates (new token device_url user_id encryption_service_url)).Reachable (DetailsAccepted crates) s →
      ClusterAccepted s.kms ∧ ∀ req, s.head = some (.fetch req) → req.method = "POST" → DestinationAccepted crates req := by
  constructor
  · intro kms script rest e kms' htake
    obtain ⟨response, later, rfl, rfl⟩ := initialize_client_fails htake
    rw [renamed_eq_iff]
    constructor
    · intro hsame other cluster hhead hnamed
      obtain rfl : response = other := by simpa using hhead
      exact hsame cluster hnamed
    · intro hsame cluster hnamed
      exact hsame response cluster rfl hnamed
  · intro token device_url user_id encryption_service_url s hreach
    have hkeeps := session_accepted rfl hreach
    refine ⟨hkeeps.1, ?_⟩
    intro req hhead hpost
    exact hkeeps.allowed hhead req rfl hpost

end session

section sample

/-- Details that name a foreign cluster. -/
def foreign_details_text : List String :=
  ["\x7b\"kmsCluster\":", "\"kms://evil.example\",", "\"rsaPublicKey\":", "\x7b\"kty\":\"RSA\"\x7d\x7d"]

/-- The other crates on the inputs of the runs below. A request body shows its
    destination. -/
def destination_crates : Crates :=
  { sample_crates with
    from_slice := fun bytes =>
      if bytes = ascii foreign_details_text then
        .ok (.object [("kmsCluster", .string "kms://evil.example"), ("rsaPublicKey", .object [("kty", .string "RSA")])])
      else sample_crates.from_slice bytes
    to_string := fun value =>
      ((value.get "destination").bind Value.as_str).getD "" ++ " " ++ sample_crates.to_string value }

/-- Another handshake, whose details name a foreign cluster, and a retrieval up to its
    POST. -/
def foreign_retrieve_labels : List Label :=
  handshake_labels ++ ([.initialize_client, .perform (.fetched (ok_response 200 (ascii foreign_details_text)) none),
    .return_call, .get_key "kms://ciscospark.com/keys/a", .perform (.instant 1000), .perform (.uuid "r1"),
    .perform (.bytes []), .perform .done] : List Label)

/-- The same with details that cannot be fetched. -/
def refused_retrieve_labels : List Label :=
  handshake_labels ++ ([.initialize_client, .perform (.fetched (.error "connection refused") none), .return_call,
    .get_key "kms://ciscospark.com/keys/a", .perform (.instant 1000), .perform (.uuid "r1"), .perform (.bytes []),
    .perform .done] : List Label)

/-- `DetailsAccepted`, as a test of the answer alone. -/
def details_accepted (crates : Crates) (_ : Session) : Label → Bool
  | .perform (.fetched result _) =>
    (named_cluster crates result).all fun cluster => (url_validation.validate_webex_url cluster "kms").isOk
  | _ => true

theorem detailsAccepted_of_test {crates : Crates} {s : Session} {label : Label}
    (htest : details_accepted crates s label = true) : DetailsAccepted crates s label := by
  unfold DetailsAccepted
  split
  · intro req _ _ cluster hnamed
    simp only [details_accepted, hnamed, Option.all_some] at htest
    unfold Accepted
    cases hvalid : url_validation.validate_webex_url cluster "kms" with
    | error e => simp [hvalid, Except.isOk, Except.toBool] at htest
    | ok value => rfl
  · trivial

/-- The method and the body of a request. -/
def fetched : Option Op → String × Option String
  | some (.fetch req) => (req.method, req.body)
  | _ => ("", none)

/-- A handshake whose details cannot be fetched leaves the client as it was, and the next
    key is asked for at the cluster of the handshake before. -/
theorem refused_details_keep_context :
    (∃ e, (initialize_client destination_crates sample_client).take reply [.fetched (.error "connection refused")] =
      some ((.error e, sample_client), []) ∧
      ∀ response cluster, some (Reply.fetched (.error "connection refused")) = some (.fetched response) →
        named_cluster destination_crates response = some cluster → cluster = sample_client.kms_cluster) ∧
    ∃ s req, (session destination_crates sample_client).run { kms := sample_client } refused_retrieve_labels = some s ∧
      s.head = some (.fetch req) ∧ req.method = "POST" ∧ ClusterAccepted s.kms ∧
      DestinationAccepted destination_crates req := by
  have hkeeps := failed_initialize_keeps_context destination_crates
  constructor
  · have htake : (initialize_client destination_crates sample_client).take reply
        [.fetched (.error "connection refused")] = some ((.error (.kms "Failed to fetch KMS details: connection refused"),
          sample_client), []) := rfl
    exact ⟨_, htake, (hkeeps.1 _ _ _ _ _ htake).mp rfl⟩
  · have hmeets : (session destination_crates sample_client).meets (details_accepted destination_crates)
        { kms := sample_client } refused_retrieve_labels = true := by decide +kernel
    have hrun : ((session destination_crates sample_client).run { kms := sample_client } refused_retrieve_labels).map
        (fun s => (fetched s.head).1) = some "POST" := by decide +kernel
    rw [Option.map_eq_some_iff] at hrun
    obtain ⟨s, hs, hmethod⟩ := hrun
    have haccepted := hkeeps.2 _ _ _ _ s (Machine.Reachable.run .init refused_retrieve_labels
      ((Machine.Meets.of_meets hmeets).mono fun _ _ => detailsAccepted_of_test) hs)
    unfold fetched at hmethod
    split at hmethod
    · rename_i req hhead
      exact ⟨s, req, hs, hhead, hmethod, haccepted.1, haccepted.2 req hhead hmethod⟩
    · exact absurd hmethod (by decide)

/-- A handshake whose details name a foreign cluster fails but leaves that cluster
    behind, and the next key is asked for there. -/
theorem foreign_cluster_left_behind :
    (∃ e kms', (initialize_client destination_crates sample_client).take reply
      [.fetched (ok_response 200 (ascii foreign_details_text))] = some ((.error e, kms'), []) ∧ kms' ≠ sample_client) ∧
    ¬ Accepted "kms" "kms://evil.example" ∧
    ∃ s req wrapped, (session destination_crates sample_client).Reachable Machine.Always s ∧
      s.kms.kms_cluster = "kms://evil.example" ∧ s.head = some (.fetch req) ∧ req.method = "POST" ∧
      req.body = some (destination_crates.to_string (.object [("destination", .string "kms://evil.example"),
        ("kmsMessages", .array [.string wrapped])])) := by
  have hrejected : (url_validation.validate_webex_url "kms://evil.example" "kms").isOk = false := by decide
  refine ⟨?_, ?_, ?_⟩
  · have htake : ((initialize_client destination_crates sample_client).take reply
        [.fetched (ok_response 200 (ascii foreign_details_text))]).map (fun out =>
          (out.1.1.isOk, out.1.2.kms_cluster, out.2.length)) = some (false, "kms://evil.example", 0) := by decide
    rw [Option.map_eq_some_iff] at htake
    obtain ⟨⟨⟨outcome, kms'⟩, rest⟩, htake, hout⟩ := htake
    simp only [Prod.mk.injEq, List.length_eq_zero_iff] at hout
    obtain ⟨houtcome, hcluster, rfl⟩ := hout
    cases outcome with
    | ok value => cases houtcome
    | error e =>
      refine ⟨e, kms', htake, ?_⟩
      rintro rfl
      exact absurd hcluster (by decide)
  · intro haccepted
    rw [show url_validation.validate_webex_url "kms://evil.example" "kms" = .ok () from haccepted] at hrejected
    cases hrejected
  · have hrun : ((session destination_crates sample_client).run { kms := sample_client } foreign_retrieve_labels).map
        (fun s => (s.kms.kms_cluster, fetched s.head)) = some ("kms://evil.example", "POST", some (destination_crates.to_string
            (.object [("destination", .string "kms://evil.example"),
              ("kmsMessages", .array [.string " retrieve kms://ciscospark.com/keys/a"])]))) := by decide +kernel
    rw [Option.map_eq_some_iff] at hrun
    obtain ⟨s, hs, hout⟩ := hrun
    simp only [Prod.mk.injEq] at hout
    obtain ⟨hcluster, hhead⟩ := hout
    unfold fetched at hhead
    split at hhead
    · rename_i req hreq
      exact ⟨s, req, _, Machine.reachable_of_run hs, hcluster, hreq, congrArg Prod.fst hhead, congrArg Prod.snd hhead⟩
    · exact absurd (congrArg Prod.fst hhead) (by decide)

end sample

end webex.rust.kms_client

import WebexHandler.KeyRetrieval

open interaction json transition

namespace webex.key_retrieval

/-- An operation that neither changes the client nor takes part in an exchange with the
    KMS. -/
def Op.plain : Op → Bool
  | .update _ | .section _ | .load_key | .store_key _ | .has_key | .http_do _ | .lock | .unlock | .response _ => false
  | _ => true

/-- The request for the details of the KMS. -/
def details_request (client : KmsClient) : FetchRequest where
  url := client.encryption_service_url ++ "/kms/" ++ client.user_id
  method := "GET"
  headers := [("Authorization", "Bearer " ++ client.token)]
  body := none

/-- A plain operation, or a request that carries no message. -/
def Op.apart : Op → Bool
  | .http_do req => req.method != "POST"
  | op => op.plain

def plain_ops : Monitor Op Res Unit where
  allowed _ op := op.plain = true
  moves _ _ _ _ := True

/-- A method made of plain operations. -/
def Plain {α : Type} (m : Kms α) : Prop := m.Keeps plain_ops fun _ _ => True

variable {γ α β δ : Type} {mon : Monitor Op Res γ}

theorem plain_request {op : Op} (hplain : op.plain = true) : Plain (Method.request op : Kms (Res op)) :=
  fun _ _ _ => ⟨hplain, fun _ _ _ => trivial⟩

theorem plain_bind {m : Kms α} {f : α → Kms β} (hm : Plain m) (hf : ∀ value, Plain (f value)) : Plain (m >>= f) :=
  Method.keeps_bind hm hf

theorem plain_check {op : Op} {h : Res op = Except δ α} {failed : δ → Failure} (hplain : op.plain = true) :
    Plain (check op h failed) :=
  plain_bind (plain_request hplain) fun _ => Method.keeps_ofExcept _

/-- A view that permits every operation apart from an exchange and is left alone by it. -/
def Inert (mon : Monitor Op Res γ) (g : γ) : Prop :=
  ∀ op, op.apart = true → mon.allowed g op ∧ ∀ r g', mon.moves g op r g' → g' = g

theorem Op.apart_of_plain {op : Op} (hplain : op.plain = true) : op.apart = true := by
  cases op with
  | http_do req => cases hplain
  | _ => exact hplain

theorem Plain.obeys {m : Kms α} (hm : Plain m) {g : γ} (hinert : Inert mon g) :
    m.Obeys mon () g fun _ _ g' => g' = g := by
  refine Program.Obeys.transfer (fun _ g' => g' = g) ?_ ?_ ?_ rfl (hm () () trivial)
  · rintro _ _ op rfl hplain
    exact (hinert op (Op.apart_of_plain hplain)).1
  · rintro _ _ op r next rfl hplain hmoves
    exact ⟨(), trivial, (hinert op (Op.apart_of_plain hplain)).2 r next hmoves⟩
  · rintro _ _ _ rfl _
    rfl

/-- An operation that keeps an invariant of the view. -/
def KeepsView (mon : Monitor Op Res γ) (inv : γ → Prop) (op : Op) : Prop :=
  ∀ g, inv g → mon.allowed g op ∧ ∀ r g', mon.moves g op r g' → inv g'

theorem KeepsView.request {inv : γ → Prop} {op : Op} (hop : KeepsView mon inv op) :
    (Method.request op : Kms (Res op)).Keeps mon fun _ g => inv g :=
  Method.keeps_request fun _ g hinv => hop g hinv

theorem Inert.keepsView {inv : γ → Prop} (hinert : ∀ g, inv g → Inert mon g) {op : Op} (hapart : op.apart = true) :
    KeepsView mon inv op := by
  intro g hinv
  obtain ⟨hallowed, hmoves⟩ := hinert g hinv op hapart
  refine ⟨hallowed, fun r g' hmove => ?_⟩
  rw [hmoves r g' hmove]
  exact hinv

/-- A method of plain operations keeps what each of them keeps. -/
theorem Plain.keeps {m : Kms α} (hm : Plain m) {inv : γ → Prop} (hop : ∀ op, op.plain = true → KeepsView mon inv op) :
    m.Keeps mon fun _ g => inv g := by
  intro _ g hinv
  refine Program.Obeys.transfer (fun _ g => inv g) ?_ ?_ ?_ hinv (hm () () trivial)
  · intro _ g op hinv hplain
    exact (hop op hplain g hinv).1
  · intro _ g op r next hinv hplain hmoves
    exact ⟨(), trivial, (hop op hplain g hinv).2 r next hmoves⟩
  · intro _ _ _ hinv _
    exact hinv

theorem Inert.plain {inv : γ → Prop} (hinert : ∀ g, inv g → Inert mon g) (op : Op) (hplain : op.plain = true) :
    KeepsView mon inv op :=
  Inert.keepsView hinert (Op.apart_of_plain hplain)

/-- The client asks for the details of its KMS. -/
def fetch_details : Kms (Except Failure FetchResponse) := do
  let client ← read
  http_do (details_request client)

theorem Inert.fetch {inv : γ → Prop} (hinert : ∀ g, inv g → Inert mon g) :
    fetch_details.Keeps mon fun _ g => inv g := by
  apply Method.keeps_bind (Inert.keepsView hinert rfl).request
  intro client
  exact (Inert.keepsView hinert rfl).request

theorem keeps_guard {inv : γ → Prop} {f : Nat → KmsClient → Bool × KmsClient} {refusal : Failure}
    (hop : KeepsView mon inv (.section f)) : (guard f refusal).Keeps mon fun _ g => inv g :=
  Method.keeps_bind hop.request fun _ => Method.keeps_reject _ _

/-- What an invariant needs for the methods of a port to keep it that neither establish a
    context nor use its key: that the port's `send_kms_request` keeps it, its updates and its
    breaker check. -/
structure Rule (send : String → String → Kms String) (write : (Nat → KmsClient → KmsClient) → Prop)
    (check_breaker : Nat → KmsClient → Bool × KmsClient) (mon : Monitor Op Res γ) (inv : γ → Prop) : Prop where
  plain_op : ∀ op, op.plain = true → KeepsView mon inv op
  fetch : fetch_details.Keeps mon fun _ g => inv g
  send : ∀ id wrapped, (send id wrapped).Keeps mon fun _ g => inv g
  write : ∀ f, write f → KeepsView mon inv (.update f)
  check_breaker : KeepsView mon inv (.section check_breaker)

/-- What it needs for the methods that do. -/
structure ContextRule (send : String → String → Kms String) (write : (Nat → KmsClient → KmsClient) → Prop)
    (check_breaker : Nat → KmsClient → Bool × KmsClient) (mon : Monitor Op Res γ) (inv : γ → Prop) : Prop
    extends Rule send write check_breaker mon inv where
  store_key : ∀ key, KeepsView mon inv (.store_key key)
  initialized : KeepsView mon inv (.update fun _ self => { self with initialized := true })
  has_key : KeepsView mon inv .has_key
  load_key : KeepsView mon inv .load_key

namespace Rule

variable {send : String → String → Kms String} {write : (Nat → KmsClient → KmsClient) → Prop}
  {check_breaker : Nat → KmsClient → Bool × KmsClient} {inv : γ → Prop}

theorem plain (rule : Rule send write check_breaker mon inv) {m : Kms α} (hm : Plain m) :
    m.Keeps mon fun _ g => inv g :=
  hm.keeps rule.plain_op

theorem update (rule : Rule send write check_breaker mon inv) {f : Nat → KmsClient → KmsClient} (hf : write f) :
    (update f).Keeps mon fun _ g => inv g :=
  (rule.write f hf).request

theorem fetch_bind (rule : Rule send write check_breaker mon inv) {rest : Except Failure FetchResponse → Kms α}
    (hrest : ∀ fetched, (rest fetched).Keeps mon fun _ g => inv g) :
    (read >>= fun client => http_do (details_request client) >>= rest).Keeps mon fun _ g => inv g := by
  show (fetch_details >>= rest).Keeps mon _
  exact Method.keeps_bind rule.fetch hrest

theorem fetch_check (rule : Rule send write check_breaker mon inv) {failed : Failure → Failure}
    {rest : FetchResponse → Kms α} (hrest : ∀ resp, (rest resp).Keeps mon fun _ g => inv g) :
    (read >>= fun client => check (.http_do (details_request client)) rfl failed >>= rest).Keeps mon fun _ g => inv g :=
  rule.fetch_bind fun fetched => Method.keeps_bind (Method.keeps_ofExcept (fetched.mapError failed)) hrest

end Rule

theorem keeps_task {m : Kms α} {inv : γ → Prop} (hm : m.Keeps mon fun _ g => inv g) {start : γ} (hstart : inv start) :
    (as_task m).Obeys mon inv start := by
  show ((m ()).bind _).Obeys mon _ _
  rw [Program.obeys_bind]
  exact Program.Obeys.mono (fun _ _ hinv => hinv) (hm () start hstart)

/-- A response reaches a pending request. -/
def Env.deliver (self : Env) (request_id wrapped : String) : Env :=
  { self with client := forget request_id self.client, responses := self.responses ++ [(request_id, wrapped)] }

/-- The calls of a port keep to a monitor, from a view `start` to one that meets `inv`, and
    the views fit the variables after every step. -/
structure Tracks (port : Port) (mon : Monitor Op Res γ) (inv : γ → Prop) (start : γ)
    (view : Env → List γ → Prop) (cond : Env → Nat → Op → Answer → Prop) : Prop where
  sound : Pool.Sound mon inv view cond (perform port)
  start_inv : inv start
  get_key : ∀ key_uri, (port.get_key key_uri).Keeps mon fun _ g => inv g
  initialize_client : port.initialize_client.Keeps mon fun _ g => inv g
  start : ∀ env views, view env views → view env (views ++ [start])
  deliver : ∀ env views request_id wrapped, view env views →
    port.resolves env.client.pending_requests request_id = true → view (env.deliver request_id wrapped) views
  wait : ∀ env views millis, view env views → view { env with time := env.time + millis } views

/-- A condition on the operations of the calls. -/
def Performing (cond : Env → Nat → Op → Answer → Prop) (self : System) : Label → Prop
  | .perform tid choice => ∀ op, self.head tid = some op → cond self.env tid op choice
  | _ => True

theorem Tracks.obeyed {port : Port} {inv : γ → Prop} {start : γ} {view : Env → List γ → Prop}
    {cond : Env → Nat → Op → Answer → Prop} (htracks : Tracks port mon inv start view cond) {client : KmsClient}
    (hinit : view { client := client } []) {s : System} (hreach : (calls port client).Reachable (Performing cond) s) :
    ∃ views, s.Obeyed mon inv view views := by
  induction hreach with
  | init => exact ⟨[], hinit, .nil⟩
  | @step s next label _ hcond hstep ih =>
    obtain ⟨views, hobeyed⟩ := ih
    cases label with
    | get_key key_uri =>
      obtain rfl := Option.some.inj hstep
      have htask := keeps_task (htracks.get_key key_uri) htracks.start_inv
      exact ⟨_, htracks.start _ _ hobeyed.view, List.rel_append hobeyed.tasks (.cons htask .nil)⟩
    | initialize_client =>
      obtain rfl := Option.some.inj hstep
      have htask := keeps_task htracks.initialize_client htracks.start_inv
      exact ⟨_, htracks.start _ _ hobeyed.view, List.rel_append hobeyed.tasks (.cons htask .nil)⟩
    | perform tid choice => exact hobeyed.advance htracks.sound hcond hstep
    | deliver request_id wrapped =>
      simp only [calls, System.step, Option.ite_none_right_eq_some, Option.some.injEq] at hstep
      obtain ⟨hresolves, rfl⟩ := hstep
      exact ⟨views, htracks.deliver _ _ _ _ hobeyed.view hresolves, hobeyed.tasks⟩
    | wait millis =>
      obtain rfl := Option.some.inj hstep
      exact ⟨views, htracks.wait _ _ _ hobeyed.view, hobeyed.tasks⟩

end webex.key_retrieval

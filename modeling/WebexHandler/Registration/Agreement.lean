import WebexHandler.Registration.Answers
import WebexHandler.Serde

open interaction json

namespace webex.registration

/-- The outcome of a call, in the terms of the protocol. -/
def Port.outcome (port : Port) (outcome : Except port.Error (Option port.Reg)) : Outcome :=
  (outcome.mapError port.dialect.rejection).map (Option.map port.describe)

/-- An answer that says something in every language, whatever request it answers. -/
def Port.Meant (port : Port) (t : Toolchains) : Event (fun _ : port.Op => Except String FetchResponse) Call port.Error (Option port.Reg) → Prop
  | .answered exchange => ∀ req, exchange.1 = port.dialect.request req → ∃ reading, Says t req exchange.2 reading
  | _ => True

/-- Events of two ports that mean the same: one call, one answer to requests for the same, or
    outcomes that cannot be told apart. -/
inductive Alike (p q : Port) : Event (fun _ : p.Op => Except String FetchResponse) Call p.Error (Option p.Reg) →
    Event (fun _ : q.Op => Except String FetchResponse) Call q.Error (Option q.Reg) → Prop
  | called (call : Call) : Alike p q (.called call) (.called call)
  | answered (req : Request) (answer : Except String FetchResponse) :
    Alike p q (.answered ⟨p.dialect.request req, answer⟩) (.answered ⟨q.dialect.request req, answer⟩)
  | returned {outcome : Except p.Error (Option p.Reg)} {outcome' : Except q.Error (Option q.Reg)}
    (hsame : p.outcome outcome = q.outcome outcome') : Alike p q (.returned outcome) (.returned outcome')

section agreement

variable {t : Toolchains} {p q : Port}

/-- The requests of two ports for the same, and the answers that all ports read alike. -/
def alike_sync (t : Toolchains) (p q : Port) :
    Sync p.Op (fun _ => Except String FetchResponse) q.Op (fun _ => Except String FetchResponse) where
  ops op op' := ∃ req, op = p.dialect.request req ∧ op' = q.dialect.request req
  results op answer _ answer' := answer' = answer ∧ ∀ req, op = p.dialect.request req → ∃ reading, Says t req answer reading

def SameManager (p q : Port) (s : p.State) (s' : q.State) : Prop := p.dialect.manager s = q.dialect.manager s'

def SameOutcomes (p q : Port) (r : Except p.Error (Option p.Reg)) (r' : Except q.Error (Option q.Reg)) : Prop :=
  p.outcome r = q.outcome r'

/-- The ports that read what an answer says. -/
def Understood (t : Toolchains) (port : Port) : Prop :=
  ∀ req answer reading, Says t req answer reading → port.dialect.read req answer = reading

theorem ends_outcome {outcome : Except p.Error (Option p.Reg)} {outcome' : Outcome}
    (hends : p.dialect.Ends (Option.map p.describe) outcome outcome') : outcome' = p.outcome outcome := by
  cases hends with
  | ok hvalues =>
    rw [hvalues]
    rfl
  | error herrors =>
    rw [herrors]
    rfl

theorem methods_alike (hp : Understood t p) (hq : Understood t q) (call : Call) :
    (p.methods call).InStep (alike_sync t p q) (SameManager p q) (SameOutcomes p q) (q.methods call) := by
  have hstep := ((Port.calls_follows call).trans (Port.calls_follows call).symm :
    (p.methods call).InStep _ _ _ (q.methods call))
  have hloose : (p.methods call).InStep (alike_sync t p q) _ _ (q.methods call) := hstep.loosen ?_ ?_
  · intro s s' hsame
    refine Program.Lockstep.mono ?_ (hloose s s' ⟨_, rfl, hsame⟩)
    rintro ⟨r, last⟩ ⟨r', last'⟩ ⟨⟨outcome, hends, hends'⟩, manager, hstands, hstands'⟩
    exact ⟨(ends_outcome hends).symm.trans (ends_outcome hends'), hstands.symm.trans hstands'⟩
  · rintro op op' ⟨req, rfl, rfl⟩
    exact ⟨req, rfl, rfl⟩
  · rintro _ answer _ answer' - ⟨rfl, hsaid⟩ req hp' hq'
    obtain ⟨reading, hreading⟩ := hsaid req hp'
    exact ⟨reading, (hp req _ reading hreading).symm, (hq req _ reading hreading).symm⟩

theorem alike_of_inStep {event : Event (fun _ : p.Op => Except String FetchResponse) Call p.Error (Option p.Reg)}
    {event' : Event (fun _ : q.Op => Except String FetchResponse) Call q.Error (Option q.Reg)}
    (hevent : Event.InStep (alike_sync t p q) (SameOutcomes p q) event event') : Alike p q event event' := by
  cases hevent with
  | called call => exact .called call
  | answered hops hresults =>
    obtain ⟨req, rfl, rfl⟩ := hops
    obtain ⟨rfl, -⟩ := hresults
    exact .answered req _
  | returned houtcomes => exact .returned houtcomes

/-- Two ports that are called and answered alike, with answers that mean the same in every language,
    ask for the same, return the same, and keep the same device and endpoint. -/
theorem sessions_agree (t : Toolchains) (hstandard : t.Standard) {a b : Implementation} (ha : a ∈ t.implementations)
    (hb : b ∈ t.implementations) {log session} (hrun : a.port.Run log session)
    (hmeant : ∀ event ∈ log, a.port.Meant t event) :
    ∃ log' session', b.port.Run log' session' ∧ List.Forall₂ (Alike a.port b.port) log log' ∧
      ∀ s, session = .idle s → ∃ s', session' = .idle s' ∧ a.port.dialect.manager s = b.port.dialect.manager s' := by
  have hunderstood : ∀ {implementation : Implementation}, implementation ∈ t.implementations → Understood t implementation.port :=
    fun hmem req answer reading hsaid => hsaid.read_eq hstandard hmem
  have hnew : SameManager a.port b.port a.port.new b.port.new :=
    a.port.stands_new.symm.trans b.port.stands_new
  have hanswered : ∀ op answer, .answered ⟨op, answer⟩ ∈ log → ∀ op', (alike_sync t a.port b.port).ops op op' →
      ∃ answer', (alike_sync t a.port b.port).results op answer op' answer' := by
    rintro op answer hmem op' -
    exact ⟨answer, rfl, hmeant _ hmem⟩
  obtain ⟨log', session', hrun', hlog, hsession⟩ :=
    Session.Run.simulates hnew (methods_alike (hunderstood ha) (hunderstood hb)) hrun hanswered
  refine ⟨log', session', hrun', hlog.imp fun _ _ hevent => alike_of_inStep hevent, ?_⟩
  rintro s rfl
  cases hsession with
  | idle hsame => exact ⟨_, rfl, hsame⟩

end agreement

section sample

open rust.device_manager (DeviceRegistration)
open serde (is_struct field)

/-- The links of a `HashMap<String, String>` without a key that is there twice. -/
def links_of : serde.Deserialize (List (String × String))
  | .object members => members.mapM fun member => (serde.string member.2).map fun text => (member.1, text)
  | _ => none

/-- `Deserialize` of a `DeviceRegistration`. -/
def deserialize (found : Value) : Option DeviceRegistration := do
  guard (is_struct 6 found)
  let web_socket_url ← (serde.locate 0 "webSocketUrl" found).bind serde.string
  let device_url ← (serde.locate 1 "url" found).bind serde.string
  let user_id ← (serde.locate 2 "userId" found).bind serde.string
  let name ← field 3 "name" none (serde.option serde.string) found
  let device_type ← field 4 "deviceType" none (serde.option serde.string) found
  let services ← field 5 "services" [] links_of found
  return { web_socket_url, device_url, user_id, name, device_type, services }

/-- The deserialisers over a parser of documents. -/
def deserializing (from_slice : rust.Bytes → Except String Value) : rust.device_manager.Crates where
  from_slice := from_slice
  to_string _ := ""
  registration_from_slice body := from_slice body >>= fun document => (deserialize document).elim (.error "no registration") .ok
  registration_from_value document := (deserialize document).elim (.error "no registration") .ok
  device_list_from_slice body := from_slice body >>= fun document =>
    ((document.get "devices").bind Value.as_array).elim (.error "no devices") .ok

variable {members : List (String × Value)} {reg : DeviceRegistration}

theorem Text.field {place : Nat} {name : String} {text : Option String} (htext : Text ((Value.object members).get name) text) :
    field place name none (serde.option serde.string) (.object members) = some text := by
  show serde.read_or none (serde.option serde.string) ((Value.object members).get name) = some text
  generalize (Value.object members).get name = found at htext
  cases htext with
  | absent => rfl
  | null => rfl
  | present text => rfl

theorem links_of_object_of (links : List (String × String)) : links_of (object_of links) = some links := by
  rw [object_of, links_of]
  induction links with
  | nil => rfl
  | cons link rest ih =>
    rw [List.map_cons, List.mapM_cons, ih]
    rfl

theorem Links.field {place : Nat} {name : String} {links : List (String × String)}
    (hlinks : Links ((Value.object members).get name) links) : field place name [] links_of (.object members) = some links := by
  show serde.read_or [] links_of ((Value.object members).get name) = some links
  generalize (Value.object members).get name = found at hlinks
  cases hlinks with
  | absent => rfl
  | present links hnodup => exact links_of_object_of links

/-- A device is read from every object that describes it. -/
theorem Describes.deserialize (hdescribes : Describes members reg) : deserialize (.object members) = some reg := by
  have hlocate : ∀ {place : Nat} {name text : String}, (Value.object members).get name = some (.string text) →
      (serde.locate place name (.object members)).bind serde.string = some text := by
    intro place name text hfound
    show ((Value.object members).get name).bind serde.string = some text
    rw [hfound]
    rfl
  rw [registration.deserialize, hlocate hdescribes.web_socket_url, hlocate hdescribes.device_url, hlocate hdescribes.user_id,
    hdescribes.name.field, hdescribes.device_type.field, hdescribes.services.field]
  obtain ⟨web_socket_url, device_url, user_id, name, device_type, services, encryption_service_url⟩ := reg
  obtain rfl : encryption_service_url = "" := hdescribes.encryption_service_url
  rfl

def sample_members : List (String × Value) :=
  [("webSocketUrl", .string "wss://mercury.webex.com/ws"), ("url", .string "https://wdm-a.wbx2.com/wdm/api/v1/devices/1"),
    ("userId", .string "user")]

def sample_registration : DeviceRegistration where
  web_socket_url := "wss://mercury.webex.com/ws"
  device_url := "https://wdm-a.wbx2.com/wdm/api/v1/devices/1"
  user_id := "user"

/-- The only document is a registration, and the only URL that of its socket. -/
def sample_toolchains : Toolchains where
  crates := deserializing fun body => if body = [] then .error "no document" else .ok (.object sample_members)
  pkg := {
    decode body := if body = [] then .error "no document" else .ok (.object sample_members)
    marshal _ := ""
    parse_url _ := .ok ⟨"wss", "mercury.webex.com"⟩ }
  builtins := {
    parse_url _ := some ("wss:", "mercury.webex.com")
    parse_json _ := .error (.error "no document")
    stringify _ := ""
    string value := (value.bind Value.as_str).getD ""
    to_lower_case := node.url_validation.to_lower_case }
  parse_json body := if body = [] then .error "no document" else .ok (.object sample_members)
  lib := {
    parse_json body := if body = [] then .error "no document" else .ok (.object sample_members)
    dumps _ := ""
    urlparse _ := ⟨"wss", some "mercury.webex.com"⟩ }

theorem deserializing_garbled {from_slice : rust.Bytes → Except String Value} {body : rust.Bytes} {e : String}
    (hbody : from_slice body = .error e) : (∃ e', (deserializing from_slice).registration_from_slice body = .error e') ∧
      ∃ e', (deserializing from_slice).device_list_from_slice body = .error e' := by
  constructor
  · refine ⟨e, ?_⟩
    show from_slice body >>= _ = _
    rw [hbody]
    rfl
  · refine ⟨e, ?_⟩
    show from_slice body >>= _ = _
    rw [hbody]
    rfl

theorem sample_standard : sample_toolchains.Standard where
  strings := ⟨fun _ => rfl, rfl⟩
  registration_from_slice body members reg hbody hdescribes := by
    show sample_toolchains.crates.from_slice body >>= _ = _
    rw [hbody, ok_bind, hdescribes.deserialize]
    rfl
  registration_from_value members reg hdescribes := by
    show (deserialize (.object members)).elim _ _ = _
    rw [hdescribes.deserialize]
    rfl
  device_list_from_slice body members items hbody hnodup hdevices := by
    show sample_toolchains.crates.from_slice body >>= _ = _
    rw [hbody, ok_bind, hdevices]
    rfl
  device_list_missing body members hbody hdevices := by
    refine ⟨"no devices", ?_⟩
    show sample_toolchains.crates.from_slice body >>= _ = _
    rw [hbody, ok_bind, hdevices]
    rfl
  garbled body e hbody := deserializing_garbled hbody

theorem sample_registered : Registered sample_toolchains { status := 200, ok := true, body := [123] } sample_registration where
  succeeds := ⟨rfl, by decide⟩
  document := by
    have hkeys : ∀ key ∈ sample_members.map Prod.fst, ∀ name ∈ wire_names,
        go.device_manager.is_field name key = true → key = name := by decide
    refine ⟨sample_members, ⟨rfl, rfl, rfl, rfl⟩, ⟨by decide, ?_⟩, rfl, rfl, rfl, .absent, .absent, .absent, rfl⟩
    exact fun member hmem name hname => hkeys member.1 (List.mem_map_of_mem hmem) name hname
  urls := by
    have hcut : ("mercury.webex.com".toList.all fun c => c != ':' && c != '/') = true := by decide
    have hchars : ∀ c ∈ "mercury.webex.com".toList, c ≠ ':' ∧ c ≠ '/' := by
      intro c hmem
      simpa using List.all_eq_true.mp hcut c hmem
    have hpath : ∀ c ∈ "/ws".toList.head?, c = ':' ∨ c = '/' := by
      rintro _ ⟨⟩
      exact .inr rfl
    refine ⟨⟨"wss", "mercury.webex.com", ⟨"/ws".toList, rfl, hpath⟩, hchars, rfl, rfl, rfl, ?_⟩, .inl rfl⟩
    exact ⟨by decide, by decide, fun hcut => absurd hcut (by decide)⟩

theorem says_unreachable {t : Toolchains} (req : Request) (e : String) : ∃ reading, Says t req (.error e) reading := by
  cases req with
  | catalog token => exact ⟨_, .no_catalog fun response hresponse => by cases hresponse⟩
  | list base token => exact ⟨_, .no_listing (.unreachable e)⟩
  | create base token => exact ⟨_, .not_created (.unreachable e)⟩
  | refresh device token => exact ⟨_, .not_refreshed (.unreachable e)⟩
  | reap device token => exact ⟨_, .reaped⟩
  | unregister device token => exact ⟨_, .not_unregistered (.unreachable e) (by simp)⟩

/-- A device that Rust registers after nothing else has been answered, Python registers too. -/
theorem sample_session_agrees : ∃ log s log' s', (Implementation.rust sample_toolchains.crates).port.Run log (.idle s) ∧
    (Implementation.python sample_toolchains.lib).port.Run log' (.idle s') ∧
      List.Forall₂ (Alike (Implementation.rust sample_toolchains.crates).port (Implementation.python sample_toolchains.lib).port)
        log log' := by
  have hstart : (rust_port sample_toolchains.crates).Run [] (.idle {}) := .start
  have hrun := ((((hstart.call (.register "t")).answer (.error "offline")).answer (.error "offline")).answer
    (.ok { status := 200, ok := true, body := [123] })).finish
  have hagrees := sessions_agree sample_toolchains sample_standard (a := .rust sample_toolchains.crates)
    (b := .python sample_toolchains.lib) (by simp [Toolchains.implementations]) (by simp [Toolchains.implementations]) hrun
  have hunreachable : ∀ op, (rust_port sample_toolchains.crates).Meant sample_toolchains (.answered ⟨op, .error "offline"⟩) :=
    fun op req _ => says_unreachable req "offline"
  have hcreated : ∀ base, (rust_port sample_toolchains.crates).Meant sample_toolchains
      (.answered ⟨rust.device_manager.create_request sample_toolchains.crates "t" base,
        .ok { status := 200, ok := true, body := [123] }⟩) := by
    intro base req hreq
    cases req with
    | create base token => exact ⟨_, .created sample_registered (by decide) (by decide)⟩
    | catalog token => exact absurd (show "POST" = "GET" from congrArg rust.FetchRequest.method hreq) (by decide)
    | list base token => exact absurd (show "POST" = "GET" from congrArg rust.FetchRequest.method hreq) (by decide)
    | refresh device token => exact absurd (show "POST" = "PUT" from congrArg rust.FetchRequest.method hreq) (by decide)
    | reap device token => exact absurd (show "POST" = "DELETE" from congrArg rust.FetchRequest.method hreq) (by decide)
    | unregister device token => exact absurd (show "POST" = "DELETE" from congrArg rust.FetchRequest.method hreq) (by decide)
  obtain ⟨log', session', hrun', hlog, hidle⟩ := hagrees (by
    refine List.forall_mem_append.mpr ⟨List.forall_mem_append.mpr ⟨List.forall_mem_append.mpr ⟨List.forall_mem_append.mpr
      ⟨?_, ?_⟩, ?_⟩, ?_⟩, ?_⟩
    · exact fun event hmem => List.mem_singleton.mp hmem ▸ trivial
    · exact fun event hmem => List.mem_singleton.mp hmem ▸ hunreachable _
    · exact fun event hmem => List.mem_singleton.mp hmem ▸ hunreachable _
    · exact fun event hmem => List.mem_singleton.mp hmem ▸ hcreated rust.device_manager.WDM_API_BASE
    · exact fun event hmem => List.mem_singleton.mp hmem ▸ trivial)
  obtain ⟨s', rfl, -⟩ := hidle _ rfl
  exact ⟨_, _, log', s', hrun, hrun', hlog⟩

end sample

end webex.registration

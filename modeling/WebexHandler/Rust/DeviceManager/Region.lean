import WebexHandler.Rust.DeviceManager.Registration
import WebexHandler.Rust.KmsClient.Mailbox

open interaction json

namespace webex.rust.device_manager

/-- The servers, with a service catalog for each token. -/
structure Servers (Env : Type) where
  answer : (req : FetchRequest) → Env → Except String FetchResponse × Env
  catalog : String → Except String FetchResponse
  catalog_answers : ∀ token env, (answer (catalog_request token) env).1 = catalog token

/-- A registration: its token, the manager it finds, and its exchanges with the servers. -/
structure Registration where
  token : String
  manager : DeviceManager
  log : List Exchange

variable (crates : Crates)

/-- The registrations of a list of tokens on one manager. -/
def registrations {Env : Type} (servers : Servers Env) : List String → DeviceManager → Env → List Registration
  | [], _, _ => []
  | token :: rest, dm, env =>
    ⟨token, dm, (register crates token dm).exchanges servers.answer env⟩ ::
      registrations servers rest ((register crates token dm).exec servers.answer env).1.2
        ((register crates token dm).exec servers.answer env).2

/-- The endpoint of a token's region. -/
def region {Env : Type} (servers : Servers Env) (token : String) : String := wdm_base_of crates (servers.catalog token)

/-- A request for devices goes to this endpoint. -/
structure SentTo (base : String) (dm : DeviceManager) (exchange : Exchange) : Prop where
  listing : kind dm exchange.1 = .listing → exchange.1.url = base
  creation : kind dm exchange.1 = .creation → exchange.1.url = base ++ "?includeUpstreamServices=all"

/-- A registration lists and creates devices in the region of its token. -/
def FollowsToken {Env : Type} (servers : Servers Env) (r : Registration) : Prop :=
  ∀ exchange ∈ r.log, SentTo (region crates servers r.token) r.manager exchange

section endpoint

variable {crates : Crates} {token base : String} {dm after : DeviceManager} {log : List Exchange} {outcome : Option DeviceRegistration}

/-- A registration knows its endpoint already, or has it from the catalog. -/
def Knows (crates : Crates) (token : String) (dm : DeviceManager) (log : List Exchange) (base : String) : Prop :=
  match dm.wdm_devices_url with
  | some url => base = url
  | none => ∃ answer, ⟨catalog_request token, answer⟩ ∈ log ∧ base = wdm_base_of crates answer

theorem Discovers.knows {discovery : List Exchange} (hdiscovers : Discovers crates token dm base discovery)
    (hsubset : discovery ⊆ log) : Knows crates token dm log base := by
  unfold Discovers at hdiscovers
  unfold Knows
  cases hknown : dm.wdm_devices_url with
  | some url =>
    rw [hknown] at hdiscovers
    exact hdiscovers.1
  | none =>
    rw [hknown] at hdiscovers
    obtain ⟨answer, hbase, rfl⟩ := hdiscovers
    exact ⟨answer, hsubset (List.mem_singleton_self _), hbase⟩

theorem sent_to_list_request {answer : Except String FetchResponse} : SentTo base dm ⟨list_request token base, answer⟩ := by
  refine ⟨fun _ => rfl, fun hcreation => absurd hcreation ?_⟩
  by_cases hcatalog : dm.wdm_devices_url = none ∧ base = U2C_CATALOG_URL
  · simp [kind, list_request, hcatalog]
  · simp [kind, list_request, hcatalog]

theorem sent_to_of_kind {exchange : Exchange} (hkind : kind dm exchange.1 ≠ .listing ∧ kind dm exchange.1 ≠ .creation) :
    SentTo base dm exchange := ⟨fun h => absurd h hkind.1, fun h => absurd h hkind.2⟩

theorem Discovers.sent_to {discovery : List Exchange} (hdiscovers : Discovers crates token dm base discovery) :
    ∀ exchange ∈ discovery, SentTo base dm exchange := by
  intro exchange hmem
  have hkind : kind dm exchange.1 ∈ kinds dm discovery := List.mem_map_of_mem hmem
  rw [kinds_discovery hdiscovers] at hkind
  split at hkind
  · rw [List.mem_singleton] at hkind
    exact sent_to_of_kind (by rw [hkind]; decide)
  · cases hkind

theorem Creates.sent_to {creation : List Exchange} (hcreates : Creates crates token base outcome creation) :
    ∀ exchange ∈ creation, SentTo base dm exchange := by
  have hcreate : ∀ answer, SentTo base dm ⟨create_request crates token base, answer⟩ := 
    fun _ => ⟨fun h => (nomatch h), fun _ => rfl⟩
  cases hcreates with
  | once answer => simpa using hcreate answer
  | again first listing second deletions hretried hdeletions =>
    intro exchange hmem
    simp only [List.cons_append, List.nil_append, List.mem_cons, List.mem_append, List.not_mem_nil, or_false] at hmem
    obtain rfl | rfl | hdeletion | rfl := hmem
    · exact hcreate first
    · exact sent_to_list_request
    · have hreq : exchange.1 ∈ reaping crates token listing := hdeletions ▸ List.mem_map_of_mem hdeletion
      exact sent_to_of_kind (by rw [(mem_reaping hreq).1]; decide)
    · exact hcreate second

/-- All the requests for devices of a registration go to one endpoint, which the manager keeps. -/
structure Located (crates : Crates) (token : String) (dm after : DeviceManager) (log : List Exchange) (base : String) : Prop where
  knows : Knows crates token dm log base
  kept : after.wdm_devices_url = some base
  sent : ∀ exchange ∈ log, SentTo base dm exchange
  listed : ∃ exchange ∈ log, kind dm exchange.1 = .listing

theorem Registers.located (hregisters : Registers crates token dm outcome after log) :
    ∃ base, Located crates token dm after log base := by
  have hrefresh : ∀ {base url : String} {answer : Except String FetchResponse},
      SentTo base dm ⟨refresh_request crates token url, answer⟩ := sent_to_of_kind (by simp)
  cases hregisters with
  | reused base discovery listing refreshed device reg hdiscovers hreusable hrefreshed =>
    refine ⟨base, hdiscovers.knows (by simp), rfl, ?_, ⟨list_request token base, listing⟩, by simp, kind_list_request hdiscovers⟩
    simp only [List.forall_mem_append, List.forall_mem_cons, List.not_mem_nil, false_imp_iff, implies_true, and_true]
    exact ⟨hdiscovers.sent_to, sent_to_list_request, hrefresh⟩
  | replaced base discovery listing refreshed device outcome creation hdiscovers hreusable hrefreshed hcreates =>
    refine ⟨base, hdiscovers.knows (by simp), rfl, ?_, ⟨list_request token base, listing⟩, by simp, kind_list_request hdiscovers⟩
    simp only [List.forall_mem_append, List.forall_mem_cons, List.not_mem_nil, false_imp_iff, implies_true, and_true]
    exact ⟨⟨hdiscovers.sent_to, sent_to_list_request, hrefresh⟩, hcreates.sent_to⟩
  | created base discovery listing outcome creation hdiscovers hreusable hcreates =>
    refine ⟨base, hdiscovers.knows (by simp), rfl, ?_, ⟨list_request token base, listing⟩, by simp, kind_list_request hdiscovers⟩
    simp only [List.forall_mem_append, List.forall_mem_cons, List.not_mem_nil, false_imp_iff, implies_true, and_true]
    exact ⟨⟨hdiscovers.sent_to, sent_to_list_request⟩, hcreates.sent_to⟩

end endpoint

section run

variable {crates : Crates} {Env : Type} {servers : Servers Env} {token : String} {dm : DeviceManager} {env : Env}

/-- A registration on a manager that has an endpoint, or on one that has none. -/
theorem register_located (crates : Crates) (servers : Servers Env) (token : String) (dm : DeviceManager) (env : Env) :
    Located crates token dm ((register crates token dm).exec servers.answer env).1.2
      ((register crates token dm).exchanges servers.answer env) (dm.wdm_devices_url.getD (region crates servers token)) := by
  have hregisters := @Program.Obeys.exchanges _ _ _ _ servers.answer _ _ _ env (@register_records crates dm token)
  rw [List.nil_append] at hregisters
  obtain ⟨base, hlocated⟩ := hregisters.located
  have hbase : base = dm.wdm_devices_url.getD (region crates servers token) := by
    have hknows := hlocated.knows
    unfold Knows at hknows
    cases hknown : dm.wdm_devices_url with
    | some url =>
      rw [hknown] at hknows
      exact hknows
    | none =>
      rw [hknown] at hknows
      obtain ⟨answer, hmem, hbase⟩ := hknows
      obtain ⟨env', hanswer⟩ := Program.answered_of_mem hmem
      rw [hbase, Option.getD_none, region, ← servers.catalog_answers token env', ← hanswer]
  rw [← hbase]
  exact hlocated

theorem follows_token_iff {after : DeviceManager} {log : List Exchange} {base : String}
    (hlocated : Located crates token dm after log base) :
    FollowsToken crates servers ⟨token, dm, log⟩ ↔ region crates servers token = base := by
  constructor
  · intro hfollows
    obtain ⟨exchange, hmem, hkind⟩ := hlocated.listed
    rw [← (hlocated.sent exchange hmem).listing hkind]
    exact ((hfollows exchange hmem).listing hkind).symm
  · intro hregion exchange hmem
    rw [hregion]
    exact hlocated.sent exchange hmem

theorem registrations_known {tokens : List String} {url : String} (hknown : dm.wdm_devices_url = some url) :
    (∀ r ∈ registrations crates servers tokens dm env, FollowsToken crates servers r) ↔
      ∀ token ∈ tokens, region crates servers token = url := by
  induction tokens generalizing dm env with
  | nil => simp [registrations]
  | cons token rest ih =>
    have hlocated := register_located crates servers token dm env
    rw [hknown, Option.getD_some] at hlocated
    rw [registrations, List.forall_mem_cons, List.forall_mem_cons, follows_token_iff hlocated, ih hlocated.kept]

/-- The first token decides the region of all that follow. -/
theorem regions_follow_tokens_iff (crates : Crates) (servers : Servers Env) (tokens : List String) (env : Env) :
    (∀ r ∈ registrations crates servers tokens {} env, FollowsToken crates servers r) ↔
      ∀ first ∈ tokens.head?, ∀ token ∈ tokens, region crates servers token = region crates servers first := by
  cases tokens with
  | nil => simp [registrations]
  | cons first rest =>
    have hlocated := register_located crates servers first {} env
    rw [registrations, List.forall_mem_cons, follows_token_iff hlocated, registrations_known hlocated.kept]
    simp

/-- The catalog of an organization in the region `wdm-r`. -/
def catalog_body : Bytes :=
  kms_client.ascii ["\x7b\"serviceLinks\":\x7b\"wdm\":\"https://wdm-r.wbx2.com/wdm/api/v1\"\x7d\x7d"]

def catalog_value : Value := .object [("serviceLinks", .object [("wdm", .string "https://wdm-r.wbx2.com/wdm/api/v1")])]

def catalog_crates : Crates where
  from_slice bytes := if bytes = catalog_body then .ok catalog_value else .error "expected value at line 1 column 1"
  to_string _ := "\x7b\x7d"
  registration_from_slice _ := .error "missing field"
  registration_from_value _ := .error "missing field"
  device_list_from_slice _ := .error "missing field"

/-- Servers that know the token `second` only. -/
def one_region : Servers Unit where
  answer req env :=
    if req = catalog_request "second" then (.ok { status := 200, ok := true, body := catalog_body }, env)
    else (.error "connection refused", env)
  catalog token :=
    if catalog_request token = catalog_request "second" then .ok { status := 200, ok := true, body := catalog_body }
    else .error "connection refused"
  catalog_answers token env := by
    split
    · rfl
    · rfl

theorem region_second : region catalog_crates one_region "second" = "https://wdm-r.wbx2.com/wdm/api/v1/devices" := by
  decide

theorem region_first : region catalog_crates one_region "first" = WDM_API_BASE := by
  decide

/-- The token `second` is registered where the discovery for `first` fell back to. -/
theorem fallback_outlives_token : ¬∀ crates (servers : Servers Unit) tokens env,
    ∀ r ∈ registrations crates servers tokens {} env, FollowsToken crates servers r := by
  intro hfollow
  have hall := hfollow catalog_crates one_region ["first", "second"] ()
  have hlocated := register_located catalog_crates one_region "first" {} ()
  rw [registrations, List.forall_mem_cons, registrations_known hlocated.kept] at hall
  have hregion := hall.2 "second" (List.mem_singleton_self _)
  rw [Option.getD_none, region_first, region_second] at hregion
  exact absurd hregion (by decide)

end run

end webex.rust.device_manager

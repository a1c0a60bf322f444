import WebexHandler.Registration.Toolchains

open json

namespace webex.registration

open go.device_manager (is_field set_string set_entry set_map set_device set_devices set_catalog unmarshal unmarshal_device
  WdmDeviceResponse)
open rust.device_manager (DeviceRegistration with_encryption_service_url)

section documents

def wire_names : List String := ["webSocketUrl", "url", "userId", "name", "deviceType", "services"]

/-- An object without a name that is there twice, or that only looks like one of these names. -/
structure Exact (names : List String) (members : List (String × Value)) : Prop where
  nodup : (members.map Prod.fst).Nodup
  exact : ∀ member ∈ members, ∀ name ∈ names, is_field name member.1 = true → member.1 = name

/-- A text that may be missing. -/
inductive Text : Option Value → Option String → Prop
  | absent : Text none none
  | null : Text (some .null) none
  | present (text : String) : Text (some (.string text)) (some text)

def object_of (links : List (String × String)) : Value := .object (links.map fun link => (link.1, .string link.2))

/-- Links by their names, which may be missing altogether. -/
inductive Links : Option Value → List (String × String) → Prop
  | absent : Links none []
  | present (links : List (String × String)) (hnodup : (links.map Prod.fst).Nodup) : Links (some (object_of links)) links

/-- An object that describes a device as the API documents it. -/
structure Describes (members : List (String × Value)) (reg : DeviceRegistration) : Prop where
  exact : Exact wire_names members
  web_socket_url : (Value.object members).get "webSocketUrl" = some (.string reg.web_socket_url)
  device_url : (Value.object members).get "url" = some (.string reg.device_url)
  user_id : (Value.object members).get "userId" = some (.string reg.user_id)
  name : Text ((Value.object members).get "name") reg.name
  device_type : Text ((Value.object members).get "deviceType") reg.device_type
  services : Links ((Value.object members).get "services") reg.services
  encryption_service_url : reg.encryption_service_url = ""

end documents

section members

variable {names : List String} {members : List (String × Value)} {member : String × Value} {name : String}

theorem get_cons (member : String × Value) (rest : List (String × Value)) (key : String) :
    (Value.object (member :: rest)).get key = if member.1 = key then some member.2 else (Value.object rest).get key := by
  by_cases hkey : member.1 = key
  · simp [Value.get, hkey]
  · simp [Value.get, hkey]

theorem get_eq_none (hnot : name ∉ members.map Prod.fst) : (Value.object members).get name = none := by
  induction members with
  | nil => rfl
  | cons member rest ih =>
    simp only [List.map_cons, List.mem_cons, not_or] at hnot
    rw [get_cons, if_neg fun heq => hnot.1 heq.symm, ih hnot.2]

theorem get_of_mem (hnodup : (members.map Prod.fst).Nodup) (hmem : member ∈ members) :
    (Value.object members).get member.1 = some member.2 := by
  induction members with
  | nil => cases hmem
  | cons first rest ih =>
    simp only [List.map_cons, List.nodup_cons] at hnodup
    rw [get_cons]
    obtain rfl | hrest := List.mem_cons.mp hmem
    · rw [if_pos rfl]
    · rw [if_neg, ih hnodup.2 hrest]
      intro heq
      exact hnodup.1 (List.mem_map.mpr ⟨member, hrest, heq.symm⟩)

theorem Exact.is_field (hexact : Exact names members) (hmem : member ∈ members) (hname : name ∈ names) :
    is_field name member.1 = decide (member.1 = name) := by
  by_cases heq : member.1 = name
  · simp [heq, go.device_manager.is_field]
  · rw [decide_eq_false heq, Bool.eq_false_iff]
    exact fun hfield => heq (hexact.exact member hmem name hname hfield)

theorem get_object_of (links : List (String × String)) (name : String) :
    (object_of links).get name = (links.lookup name).map .string := by
  induction links with
  | nil => rfl
  | cons link rest ih =>
    rw [object_of, List.map_cons, get_cons, List.lookup_cons]
    by_cases hname : link.1 = name
    · simp [hname]
    · have hne : (name == link.1) = false := beq_eq_false_iff_ne.mpr fun heq => hname heq.symm
      rw [if_neg hname, hne]
      exact ih

end members

section unmarshal

variable {α β : Type} {step : α → String × Value → Except String α} {members : List (String × Value)} {name : String}

theorem foldlM_isOk (hok : ∀ data, ∀ member ∈ members, ∃ next, step data member = .ok next) (data : α) :
    ∃ final, members.foldlM step data = .ok final := by
  induction members generalizing data with
  | nil => exact ⟨data, rfl⟩
  | cons member rest ih =>
    obtain ⟨next, hnext⟩ := hok data member List.mem_cons_self
    obtain ⟨final, hfinal⟩ := ih (fun data member hmem => hok data member (List.mem_cons_of_mem _ hmem)) next
    refine ⟨final, ?_⟩
    rw [List.foldlM_cons, hnext]
    exact hfinal

/-- A field of a struct is read from the one member with its name. -/
theorem foldlM_field {field : α → β} {set : β → Value → Except String β} (hnodup : (members.map Prod.fst).Nodup)
    (hother : ∀ data, ∀ member ∈ members, ∀ next, step data member = .ok next → member.1 ≠ name → field next = field data)
    (hthis : ∀ data, ∀ member ∈ members, ∀ next, step data member = .ok next → member.1 = name →
      set (field data) member.2 = .ok (field next)) {data final : α} (hfold : members.foldlM step data = .ok final) :
    ((Value.object members).get name).elim (.ok (field data)) (set (field data)) = .ok (field final) := by
  induction members generalizing data with
  | nil =>
    cases hfold
    rfl
  | cons member rest ih =>
    simp only [List.map_cons, List.nodup_cons] at hnodup
    rw [List.foldlM_cons] at hfold
    cases hstep : step data member with
    | error e =>
      rw [hstep] at hfold
      cases hfold
    | ok next =>
      rw [hstep] at hfold
      have hrest := ih hnodup.2 (fun data member hmem => hother data member (List.mem_cons_of_mem _ hmem))
        (fun data member hmem => hthis data member (List.mem_cons_of_mem _ hmem)) hfold
      rw [get_cons]
      by_cases hname : member.1 = name
      · rw [if_pos hname]
        rw [hname] at hnodup
        rw [get_eq_none hnodup.1] at hrest
        rw [← Except.ok.inj hrest]
        exact hthis data member List.mem_cons_self next hstep hname
      · rw [if_neg hname, ← hother data member List.mem_cons_self next hstep hname]
        exact hrest

theorem foldlM_set_entry {links kept : List (String × String)} (hnodup : ((kept ++ links).map Prod.fst).Nodup) :
    (links.map fun link => (link.1, Value.string link.2)).foldlM set_entry kept = .ok (kept ++ links) := by
  induction links generalizing kept with
  | nil =>
    rw [List.append_nil]
    rfl
  | cons link rest ih =>
    have hfresh : kept.filter (·.1 != link.1) = kept := by
      rw [List.filter_eq_self]
      intro entry hmem
      rw [bne_iff_ne]
      intro heq
      rw [List.map_append, List.nodup_append] at hnodup
      exact hnodup.2.2 entry.1 (List.mem_map_of_mem hmem) link.1 (by simp) heq
    have hstep : set_entry kept (link.1, .string link.2) = .ok (kept ++ [link]) := by
      show Except.ok (kept.filter (·.1 != link.1) ++ [(link.1, link.2)]) = _
      rw [hfresh]
    rw [List.append_cons] at hnodup ⊢
    rw [List.map_cons, List.foldlM_cons, hstep]
    exact ih hnodup

theorem Links.set_map {found : Option Value} {links : List (String × String)} (hlinks : Links found links) :
    found.elim (.ok []) (set_map []) = .ok links := by
  cases hlinks with
  | absent => rfl
  | present links hnodup => exact foldlM_set_entry hnodup

theorem bind_eq_ok {ε γ δ : Type} {outcome : Except ε γ} {f : γ → Except ε δ} {value : δ} :
    (outcome >>= f) = .ok value ↔ ∃ result, outcome = .ok result ∧ f result = .ok value := by
  cases outcome with
  | error e => simp [bind, Except.bind]
  | ok result => simp [bind, Except.bind]

/-- A member sets the field of its name and leaves the other ones alone. -/
structure Sets (data : WdmDeviceResponse) (member : String × Value) (next : WdmDeviceResponse) : Prop where
  web_socket_url : if member.1 = "webSocketUrl" then set_string data.web_socket_url member.2 = .ok next.web_socket_url
    else next.web_socket_url = data.web_socket_url
  url : if member.1 = "url" then set_string data.url member.2 = .ok next.url else next.url = data.url
  user_id : if member.1 = "userId" then set_string data.user_id member.2 = .ok next.user_id else next.user_id = data.user_id
  name : if member.1 = "name" then set_string data.name member.2 = .ok next.name else next.name = data.name
  device_type : if member.1 = "deviceType" then set_string data.device_type member.2 = .ok next.device_type
    else next.device_type = data.device_type
  services : if member.1 = "services" then set_map data.services member.2 = .ok next.services
    else next.services = data.services

theorem set_device_sets (hexact : Exact wire_names members) {member : String × Value} (hmem : member ∈ members)
    {data next : WdmDeviceResponse} (hstep : set_device data member = .ok next) : Sets data member next := by
  have hfield : ∀ name ∈ wire_names, is_field name member.1 = decide (member.1 = name) :=
    fun name hname => hexact.is_field hmem hname
  rw [set_device, hfield "webSocketUrl" (by decide), hfield "url" (by decide), hfield "userId" (by decide),
    hfield "name" (by decide), hfield "deviceType" (by decide), hfield "services" (by decide)] at hstep
  simp only [decide_eq_true_eq] at hstep
  split at hstep
  · rename_i hkey
    obtain ⟨value, hvalue, hnext⟩ := bind_eq_ok.mp hstep
    cases hnext
    constructor <;> simp [*]
  split at hstep
  · rename_i hkey
    obtain ⟨value, hvalue, hnext⟩ := bind_eq_ok.mp hstep
    cases hnext
    constructor <;> simp [*]
  split at hstep
  · rename_i hkey
    obtain ⟨value, hvalue, hnext⟩ := bind_eq_ok.mp hstep
    cases hnext
    constructor <;> simp [*]
  split at hstep
  · rename_i hkey
    obtain ⟨value, hvalue, hnext⟩ := bind_eq_ok.mp hstep
    cases hnext
    constructor <;> simp [*]
  split at hstep
  · rename_i hkey
    obtain ⟨value, hvalue, hnext⟩ := bind_eq_ok.mp hstep
    cases hnext
    constructor <;> simp [*]
  split at hstep
  · rename_i hkey
    obtain ⟨value, hvalue, hnext⟩ := bind_eq_ok.mp hstep
    cases hnext
    constructor <;> simp [*]
  cases hstep
  constructor <;> simp [*]

theorem Text.of_eq {found : Option Value} {text : String} (hfound : found = some (.string text)) : Text found (some text) := by
  rw [hfound]
  exact .present text

theorem Text.set_string {found : Option Value} {text : Option String} (htext : Text found text) :
    found.elim (.ok "") (set_string "") = .ok (text.getD "") := by
  cases htext with
  | absent => rfl
  | null => rfl
  | present text => rfl

/-- The value of a text is taken over whatever the field has been before. -/
theorem Text.set_string_isOk {value : Value} {text : Option String} (htext : Text (some value) text) (old : String) :
    ∃ next, go.device_manager.set_string old value = .ok next := by
  cases htext with
  | null => exact ⟨old, rfl⟩
  | present text => exact ⟨text, rfl⟩

theorem set_map_isOk (links old : List (String × String)) : ∃ next, set_map old (object_of links) = .ok next := by
  refine foldlM_isOk ?_ old
  intro data member hmem
  obtain ⟨link, -, rfl⟩ := List.mem_map.mp hmem
  exact ⟨_, rfl⟩

/-- What Go makes of a device. -/
def go_device (reg : DeviceRegistration) : WdmDeviceResponse where
  web_socket_url := reg.web_socket_url
  url := reg.device_url
  user_id := reg.user_id
  name := reg.name.getD ""
  device_type := reg.device_type.getD ""
  services := reg.services

variable {reg : DeviceRegistration}

theorem Describes.set_device_isOk (hdescribes : Describes members reg) {member : String × Value} (hmem : member ∈ members)
    (data : WdmDeviceResponse) : ∃ next, set_device data member = .ok next := by
  have hfield : ∀ name ∈ wire_names, is_field name member.1 = decide (member.1 = name) :=
    fun name hname => hdescribes.exact.is_field hmem hname
  have hget := get_of_mem hdescribes.exact.nodup hmem
  rw [set_device, hfield "webSocketUrl" (by decide), hfield "url" (by decide), hfield "userId" (by decide),
    hfield "name" (by decide), hfield "deviceType" (by decide), hfield "services" (by decide)]
  simp only [decide_eq_true_eq]
  have hstring : ∀ {name : String} {text : Option String} (old : String) (set : String → WdmDeviceResponse),
      member.1 = name → Text ((Value.object members).get name) text →
      ∃ next, (do let text ← set_string old member.2; return set text) = Except.ok next := by
    rintro name text old set rfl htext
    rw [hget] at htext
    obtain ⟨next, hnext⟩ := htext.set_string_isOk old
    exact ⟨set next, by rw [hnext]; rfl⟩
  split
  · rename_i hkey
    exact hstring data.web_socket_url _ hkey (.of_eq hdescribes.web_socket_url)
  split
  · rename_i hkey
    exact hstring data.url _ hkey (.of_eq hdescribes.device_url)
  split
  · rename_i hkey
    exact hstring data.user_id _ hkey (.of_eq hdescribes.user_id)
  split
  · rename_i hkey
    exact hstring data.name _ hkey hdescribes.name
  split
  · rename_i hkey
    exact hstring data.device_type _ hkey hdescribes.device_type
  split
  · rename_i hkey
    have hlinks := hdescribes.services
    rw [← hkey, hget] at hlinks
    generalize hvalue : member.2 = value at hlinks ⊢
    cases hlinks with
    | present links hnodup =>
      obtain ⟨next, hnext⟩ := set_map_isOk reg.services data.services
      exact ⟨{ data with services := next }, by rw [hnext]; rfl⟩
  exact ⟨data, rfl⟩

theorem Describes.field (hdescribes : Describes members reg) {field : WdmDeviceResponse → β}
    {set : β → Value → Except String β} {final : WdmDeviceResponse} (hfold : members.foldlM set_device {} = .ok final)
    (hsets : ∀ data member next, Sets data member next →
      if member.1 = name then set (field data) member.2 = .ok (field next) else field next = field data) :
    ((Value.object members).get name).elim (.ok (field {})) (set (field {})) = .ok (field final) := by
  have hstep : ∀ data, ∀ member ∈ members, ∀ next, set_device data member = .ok next →
      if member.1 = name then set (field data) member.2 = .ok (field next) else field next = field data :=
    fun data member hmem next hset => hsets data member next (set_device_sets hdescribes.exact hmem hset)
  refine foldlM_field hdescribes.exact.nodup ?_ ?_ hfold
  · intro data member hmem next hset hother
    have hfield := hstep data member hmem next hset
    rwa [if_neg hother] at hfield
  · intro data member hmem next hset hthis
    have hfield := hstep data member hmem next hset
    rwa [if_pos hthis] at hfield

theorem Describes.unmarshal_device (hdescribes : Describes members reg) :
    unmarshal_device (.object members) = .ok (go_device reg) := by
  obtain ⟨final, hfold⟩ := foldlM_isOk (fun data member hmem => hdescribes.set_device_isOk hmem data) {}
  have hsocket := hdescribes.field hfold fun _ _ _ hsets => hsets.web_socket_url
  have hurl := hdescribes.field hfold fun _ _ _ hsets => hsets.url
  have huser := hdescribes.field hfold fun _ _ _ hsets => hsets.user_id
  have hname := hdescribes.field hfold fun _ _ _ hsets => hsets.name
  have htype := hdescribes.field hfold fun _ _ _ hsets => hsets.device_type
  have hservices := hdescribes.field hfold fun _ _ _ hsets => hsets.services
  rw [(Text.of_eq hdescribes.web_socket_url).set_string] at hsocket
  rw [(Text.of_eq hdescribes.device_url).set_string] at hurl
  rw [(Text.of_eq hdescribes.user_id).set_string] at huser
  rw [hdescribes.name.set_string] at hname
  rw [hdescribes.device_type.set_string] at htype
  rw [hdescribes.services.set_map] at hservices
  have hfinal : final = go_device reg := by
    obtain ⟨web_socket_url, url, user_id, name, device_type, services⟩ := final
    simp only [Except.ok.injEq, Option.getD_some] at hsocket hurl huser hname htype hservices
    rw [go_device, hsocket, hurl, huser, hname, htype, hservices]
  rw [← hfinal]
  exact hfold

end unmarshal

section listings

open rust.device_manager (is_own_device)

/-- The URLs of this client's devices. -/
def own_urls (regs : List DeviceRegistration) : List Value :=
  (regs.filter is_own_device).map fun reg => .string reg.device_url

/-- A listing of devices, which may be missing. -/
inductive Devices : Option Value → List DeviceRegistration → Prop
  | absent : Devices none []
  | present {items : List Value} {regs : List DeviceRegistration}
    (hitems : List.Forall₂ (fun item reg => ∃ members, item = .object members ∧ Describes members reg) items regs) :
    Devices (some (.array items)) regs

variable {members : List (String × Value)} {reg : DeviceRegistration} {items : List Value} {regs : List DeviceRegistration}

theorem Text.bind_as_str {found : Option Value} {text : Option String} (htext : Text found text) :
    found.bind Value.as_str = text := by
  cases htext with
  | absent => rfl
  | null => rfl
  | present text => rfl

/-- The client's own device in an untyped language. -/
theorem own_url_eq (reg : DeviceRegistration) {truthy : Value → Bool} (htruthy : ∀ text, truthy (.string text) = (text != "")) :
    (if reg.name = some "webex-message-handler" ∧ reg.device_type = some "DESKTOP" then
      (some (Value.string reg.device_url)).filter truthy else none) =
        if is_own_device reg then some (Value.string reg.device_url) else none := by
  rw [Option.filter_some, htruthy, is_own_device]
  by_cases hname : reg.name = some "webex-message-handler"
  · by_cases htype : reg.device_type = some "DESKTOP"
    · simp [hname, htype]
    · simp [hname, htype]
  · simp [hname]

theorem Describes.own_device_node (hdescribes : Describes members reg) :
    node.device_manager.own_device (.object members) =
      .ok (if is_own_device reg then some (.string reg.device_url) else none) := by
  rw [← own_url_eq reg (fun _ => rfl : ∀ text, node.kms_client.truthy (.string text) = (text != "")),
    ← hdescribes.name.bind_as_str, ← hdescribes.device_type.bind_as_str, ← hdescribes.device_url]
  show ite _ _ _ = Except.ok (ite _ _ _)
  split
  · rfl
  · rfl

theorem Describes.own_device_python (hdescribes : Describes members reg) :
    python.device_manager.own_device (.object members) =
      .ok (if is_own_device reg then some (.string reg.device_url) else none) := by
  rw [← own_url_eq reg (fun _ => rfl : ∀ text, python.key_retrieval.truthy (.string text) = (text != "")),
    ← hdescribes.name.bind_as_str, ← hdescribes.device_type.bind_as_str, ← hdescribes.device_url]
  show ite _ _ _ = Except.ok (ite _ _ _)
  split
  · rfl
  · rfl

theorem is_own_go_device (reg : DeviceRegistration) : go.device_manager.is_own_device (go_device reg) = is_own_device reg := by
  have htext : ∀ (text : Option String) (expected : String), expected ≠ "" → (text.getD "" == expected) = (text == some expected) := by
    intro text expected hne
    cases text with
    | none => simp [hne.symm]
    | some text => simp
  rw [go.device_manager.is_own_device, is_own_device]
  show ((reg.name.getD "" == _ && reg.device_type.getD "" == _ && reg.device_url != "")) = _
  rw [htext _ _ (by decide), htext _ _ (by decide)]

/-- The loops of the untyped ports reach the client's own devices. -/
theorem reached_eq {Reg : Type} {client : untyped.Client Reg}
    (hown : ∀ members reg, Describes members reg →
      client.own_device (.object members) = .ok (if is_own_device reg then some (.string reg.device_url) else none))
    (hitems : List.Forall₂ (fun item reg => ∃ members, item = .object members ∧ Describes members reg) items regs) :
    untyped.reached client items = own_urls regs := by
  induction hitems with
  | nil => rfl
  | cons hitem hrest ih =>
    obtain ⟨members, rfl, hdescribes⟩ := hitem
    rw [untyped.reached, hown members _ hdescribes, own_urls, List.filter_cons]
    split
    · rename_i heq
      cases heq
    · rename_i heq
      split at heq
      · cases heq
      · rename_i hnot
        rw [if_neg hnot]
        exact ih
    · rename_i heq
      split at heq
      · rename_i hyes
        rw [if_pos hyes, List.map_cons, ih]
        cases heq
        rfl
      · cases heq

theorem Devices.own_urls_node {found : Option Value} (hdevices : Devices found regs)
    (builtins : node.kms_client.Builtins) (parse_json : rust.Bytes → Except String Value) :
    untyped.own_urls (node.device_manager.client builtins parse_json)
      (.ok ((found.filter node.kms_client.truthy).getD (.array []))) = own_urls regs := by
  cases hdevices with
  | absent => rfl
  | present hitems => exact reached_eq (fun members reg hdescribes => hdescribes.own_device_node) hitems

theorem Devices.own_urls_python {found : Option Value} (hdevices : Devices found regs) (lib : python.device_manager.Library) :
    untyped.own_urls (python.device_manager.client lib) (.ok (found.getD (.array []))) = own_urls regs := by
  cases hdevices with
  | absent => rfl
  | present hitems => exact reached_eq (fun members reg hdescribes => hdescribes.own_device_python) hitems

theorem mapM_unmarshal_device (hitems : List.Forall₂ (fun item reg => ∃ members, item = .object members ∧ Describes members reg) items regs) :
    items.mapM unmarshal_device = .ok (regs.map go_device) := by
  induction hitems with
  | nil => rfl
  | cons hitem hrest ih =>
    obtain ⟨members, rfl, hdescribes⟩ := hitem
    rw [List.mapM_cons, hdescribes.unmarshal_device, ih]
    rfl

end listings

section single

variable {α : Type} {members : List (String × Value)} {name : String} {set : α → Value → Except String α}
  {step : α → String × Value → Except String α}

/-- A struct with one field of interest. -/
theorem unmarshal_single (hexact : Exact [name] members)
    (hstep : ∀ data member, step data member = if is_field name member.1 then set data member.2 else .ok data) {zero final : α}
    (hfinal : ((Value.object members).get name).elim (.ok zero) (set zero) = .ok final)
    (hok : ∀ data value, (Value.object members).get name = some value → ∃ next, set data value = .ok next) :
    unmarshal zero step (.object members) = .ok final := by
  have hfield : ∀ data, ∀ member ∈ members, step data member = if member.1 = name then set data member.2 else .ok data := by
    intro data member hmem
    rw [hstep, hexact.is_field hmem (List.mem_singleton_self _)]
    simp only [decide_eq_true_eq]
  have hsteps : ∀ data, ∀ member ∈ members, ∃ next, step data member = .ok next := by
    intro data member hmem
    rw [hfield data member hmem]
    split
    · rename_i hname
      exact hok data member.2 (hname ▸ get_of_mem hexact.nodup hmem)
    · exact ⟨data, rfl⟩
  obtain ⟨last, hfold⟩ := foldlM_isOk hsteps zero
  have hlast := @foldlM_field _ _ _ _ name id set hexact.nodup ?_ ?_ zero last hfold
  · rw [id, id, hfinal] at hlast
    cases hlast
    exact hfold
  · intro data member hmem next hnext hother
    rw [hfield data member hmem, if_neg hother] at hnext
    exact (Except.ok.inj hnext).symm
  · intro data member hmem next hnext hthis
    rwa [hfield data member hmem, if_pos hthis] at hnext

theorem Devices.unmarshal {regs : List DeviceRegistration} (hexact : Exact ["devices"] members)
    (hdevices : Devices ((Value.object members).get "devices") regs) :
    unmarshal [] set_devices (.object members) = .ok (regs.map go_device) := by
  have hnamed : is_field "devices" "devices" = true := by decide
  have harray : ∀ devices items, set_devices devices ("devices", .array items) = items.mapM unmarshal_device := by
    intro devices items
    simp only [set_devices, hnamed, if_true]
  refine @unmarshal_single _ _ "devices" (fun devices value => set_devices devices ("devices", value)) _ hexact ?_ [] _ ?_ ?_
  · rintro devices ⟨key, value⟩
    simp only [set_devices, hnamed, if_true]
  · generalize (Value.object members).get "devices" = found at hdevices
    cases hdevices with
    | absent => rfl
    | present hitems => exact (harray [] _).trans (mapM_unmarshal_device hitems)
  · intro devices value hvalue
    rw [hvalue] at hdevices
    cases hdevices with
    | present hitems => exact ⟨_, (harray devices _).trans (mapM_unmarshal_device hitems)⟩

theorem Links.unmarshal {links : List (String × String)} (hexact : Exact ["serviceLinks"] members)
    (hlinks : Links ((Value.object members).get "serviceLinks") links) :
    unmarshal [] set_catalog (.object members) = .ok links := by
  refine @unmarshal_single _ _ "serviceLinks" go.device_manager.set_map _ hexact (fun _ _ => rfl) [] _ hlinks.set_map ?_
  intro old value hvalue
  rw [hvalue] at hlinks
  cases hlinks with
  | present links hnodup => exact set_map_isOk links old

end single

end webex.registration

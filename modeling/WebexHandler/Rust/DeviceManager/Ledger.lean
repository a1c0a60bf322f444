import WebexHandler.Rust.DeviceManager.Registration

open interaction json

namespace webex.rust.device_manager

/-- A device that the servers keep, by its URL if the answer that made it has one. -/
abbrev Device : Type := Option String

/-- The servers have no device of this URL. -/
def missing (answer : Except String FetchResponse) : Bool :=
  answer.toOption.any fun response => response.status == 404 && !response.ok

/-- The device is gone after its `DELETE`. -/
def deleted (answer : Except String FetchResponse) : Bool :=
  answer.toOption.any FetchResponse.ok || missing answer

section ledger

variable (crates : Crates) (fetched : Nat → Except String FetchResponse)

/-- The device that an accepted `POST` makes, whether or not its registration is accepted. -/
def made (answer : Except String FetchResponse) : List Device :=
  (accepted answer).toList.map fun response =>
    (crates.registration_from_slice response.body).toOption.map DeviceRegistration.device_url

/-- The devices that the servers keep after a request with this answer. -/
def account (devices : List Device) (req : FetchRequest) (answer : Except String FetchResponse) : List Device :=
  match req.method with
  | "POST" => made crates answer ++ devices
  | "PUT" => if missing answer then devices.filter (· ≠ some req.url) else some req.url :: devices
  | "DELETE" => if deleted answer then devices.filter (· ≠ some req.url) else devices
  | _ => devices

/-- The devices that the servers keep after these requests, the first of which is answered
    with the answer number `n`. -/
def accounts : Nat → List FetchRequest → List Device → List Device
  | _, [], devices => devices
  | n, req :: rest, devices => accounts (n + 1) rest (account crates devices req (fetched n))

/-- The devices of this client in the answer to a listing. -/
def own_devices_in (listing : Except String FetchResponse) : List DeviceRegistration :=
  ((listed crates listing).getD []).filter is_own_device

/-- The answer to the last creation, if the first one has the answer number `n`: a second one
    follows the deletions of the client's devices. -/
def creation_answer (n : Nat) : Except String FetchResponse :=
  if retried (fetched n) then fetched (n + 2 + (own_devices_in crates (fetched (n + 1))).length) else fetched n

/-- The devices that are left after deletions, the first of which has the answer number `n`. -/
def after_deletions : Nat → List DeviceRegistration → List Device → List Device
  | _, [], devices => devices
  | n, device :: rest, devices =>
    after_deletions (n + 1) rest
      (if deleted (fetched n) then devices.filter (· ≠ some device.device_url) else devices)

/-- The manager's device and the devices that the servers keep, after a creation whose first
    answer has the number `n`. -/
def after_creation (n : Nat) (device : Option String) (devices : List Device) : Option String × List Device :=
  (((registered crates (creation_answer crates fetched n)).map DeviceRegistration.device_url).or device,
    made crates (creation_answer crates fetched n) ++
      if retried (fetched n) then after_deletions fetched (n + 2) (own_devices_in crates (fetched (n + 1))) devices
      else devices)

/-- The manager's device and the devices that the servers keep, after a registration whose
    first answer has the number `n`. A manager without an endpoint asks for the catalog
    first. -/
def after_registration (dm : DeviceManager) (n : Nat) (devices : List Device) : Option String × List Device :=
  let n := if dm.wdm_devices_url.isSome then n else n + 1
  match reusable crates (fetched n) with
  | none => after_creation crates fetched (n + 1) dm.device_url devices
  | some device =>
    let devices :=
      if missing (fetched (n + 1)) then devices.filter (· ≠ some device.device_url)
      else some device.device_url :: devices
    if (registered crates (fetched (n + 1))).isSome then (some device.device_url, devices)
    else after_creation crates fetched (n + 2) none devices

end ledger

section correctness

variable {crates : Crates} {fetched : Nat → Except String FetchResponse}

theorem accounts_append (n : Nat) (reqs more : List FetchRequest) (devices : List Device) :
    accounts crates fetched n (reqs ++ more) devices =
      accounts crates fetched (n + reqs.length) more (accounts crates fetched n reqs devices) := by
  induction reqs generalizing n devices with
  | nil => rfl
  | cons req rest ih =>
    rw [List.cons_append, accounts, ih, List.length_cons, accounts]
    congr 1
    omega

/-- The answers of these exchanges are those from the number `n` on. -/
def Numbered (fetched : Nat → Except String FetchResponse) : Nat → List Exchange → Prop
  | _, [] => True
  | n, exchange :: rest => exchange.2 = fetched n ∧ Numbered fetched (n + 1) rest

theorem numbered_append {n : Nat} {log more : List Exchange} :
    Numbered fetched n (log ++ more) ↔ Numbered fetched n log ∧ Numbered fetched (n + log.length) more := by
  induction log generalizing n with
  | nil => simp [Numbered]
  | cons exchange rest ih =>
    have hlength : n + 1 + rest.length = n + (exchange :: rest).length := by
      rw [List.length_cons]
      omega
    rw [List.cons_append, Numbered, ih, hlength, Numbered, and_assoc]

/-- Requests are answered in the order in which they are sent. -/
theorem exchanges_numbered {α : Type} (p : Program FetchRequest Res α)
    {answer : (req : FetchRequest) → List FetchRequest → Res req × List FetchRequest}
    (hanswer : ∀ req requests, answer req requests = (fetched requests.length, requests ++ [req]))
    (requests : List FetchRequest) :
    (p.exec answer requests).2 = requests ++ (p.exchanges answer requests).map Sigma.fst ∧
      Numbered fetched requests.length (p.exchanges answer requests) := by
  induction p generalizing requests with
  | ret value => exact ⟨(List.append_nil requests).symm, trivial⟩
  | ask req next ih =>
    simp only [Program.exec, Program.exchanges, hanswer, List.map_cons, Numbered]
    obtain ⟨hrequests, hnumbered⟩ := ih (fetched requests.length) (requests ++ [req])
    rw [List.length_append, List.length_singleton] at hnumbered
    refine ⟨?_, trivial, hnumbered⟩
    rw [hrequests, List.append_assoc, List.singleton_append]

theorem accounts_deletions (token : String) (own : List DeviceRegistration) (n : Nat) (devices : List Device) :
    accounts crates fetched n (own.map fun device => delete_request token device.device_url) devices =
      after_deletions fetched n own devices := by
  induction own generalizing n devices with
  | nil => rfl
  | cons device rest ih => exact ih (n + 1) _

theorem Creates.devices_kept {token base : String} {outcome : Option DeviceRegistration} {creation : List Exchange}
    (hcreates : Creates crates token base outcome creation) {n : Nat} (hnumbered : Numbered fetched n creation)
    (device : Option String) (devices : List Device) :
    after_creation crates fetched n device devices = ((outcome.map DeviceRegistration.device_url).or device,
      accounts crates fetched n (creation.map Sigma.fst) devices) := by
  cases hcreates with
  | once answer hsettled =>
    obtain ⟨hanswer, -⟩ := hnumbered
    obtain rfl : answer = fetched n := hanswer
    simp only [after_creation, creation_answer, hsettled, Bool.false_eq_true, if_false]
    rfl
  | again first listing second deletions hretried hdeletions =>
    have hlength : deletions.length = (own_devices_in crates listing).length := by
      rw [← List.length_map Sigma.fst, hdeletions, reaping, List.length_map]
      rfl
    rw [List.append_assoc, List.cons_append, List.singleton_append] at hnumbered
    obtain ⟨hfirst, hlisting, hrest⟩ := hnumbered
    obtain rfl : first = fetched n := hfirst
    obtain rfl : listing = fetched (n + 1) := hlisting
    obtain ⟨-, hsecond, -⟩ := numbered_append.mp hrest
    obtain rfl : second = fetched (n + 2 + deletions.length) := hsecond
    have hnone : made crates (fetched n) = [] := by
      cases haccepted : accepted (fetched n) with
      | none => simp [made, haccepted]
      | some response => simp [retried_of_accepted haccepted] at hretried
    have hreaped : ∀ devices, accounts crates fetched (n + 2) (deletions.map Sigma.fst) devices =
        after_deletions fetched (n + 2) (own_devices_in crates (fetched (n + 1))) devices := by
      intro devices
      rw [hdeletions]
      exact accounts_deletions token _ _ _
    have hcreation : accounts crates fetched n
        (([⟨create_request crates token base, fetched n⟩, ⟨list_request token base, fetched (n + 1)⟩] ++ deletions ++
          [⟨create_request crates token base, fetched (n + 2 + deletions.length)⟩] : List Exchange).map Sigma.fst) devices =
        made crates (fetched (n + 2 + deletions.length)) ++
          after_deletions fetched (n + 2) (own_devices_in crates (fetched (n + 1))) devices := by
      rw [List.map_append, accounts_append, List.map_append, accounts_append, List.length_append, List.length_map,
        List.length_map]
      show made crates (fetched (n + (2 + deletions.length))) ++ accounts crates fetched (n + 2) _
        (made crates (fetched n) ++ devices) = _
      rw [hnone, List.nil_append, hreaped, Nat.add_assoc]
    rw [hcreation, after_creation, creation_answer, if_pos hretried, if_pos hretried, hlength]

/-- What a registration leaves, by the answers. -/
theorem Registers.devices_kept {token : String} {dm after : DeviceManager} {outcome : Option DeviceRegistration}
    {log : List Exchange} (hregisters : Registers crates token dm outcome after log) {n : Nat}
    (hnumbered : Numbered fetched n log) (devices : List Device) :
    after_registration crates fetched dm n devices =
      (after.device_url, accounts crates fetched n (log.map Sigma.fst) devices) := by
  have hdiscovery : ∀ {base : String} {discovery : List Exchange}, Discovers crates token dm base discovery →
      (if dm.wdm_devices_url.isSome then n else n + 1) = n + discovery.length ∧
        accounts crates fetched n (discovery.map Sigma.fst) devices = devices := by
    intro base discovery hdiscovers
    unfold Discovers at hdiscovers
    cases hknown : dm.wdm_devices_url with
    | some url =>
      rw [hknown] at hdiscovers
      obtain ⟨-, rfl⟩ := hdiscovers
      exact ⟨rfl, rfl⟩
    | none =>
      rw [hknown] at hdiscovers
      obtain ⟨answer, -, rfl⟩ := hdiscovers
      exact ⟨rfl, rfl⟩
  unfold after_registration
  cases hregisters with
  | reused base discovery listing refreshed device reg hdiscovers hreusable hrefreshed =>
    obtain ⟨hstart, hkept⟩ := hdiscovery hdiscovers
    obtain ⟨-, hlisting, hrefresh, -⟩ := numbered_append.mp hnumbered
    obtain rfl : listing = fetched _ := hlisting
    obtain rfl : refreshed = fetched _ := hrefresh
    rw [hstart, List.map_append, accounts_append, hkept, List.length_map]
    dsimp only
    rw [hreusable]
    dsimp only
    rw [hrefreshed, if_pos Option.isSome_some]
    rfl
  | replaced base discovery listing refreshed device outcome creation hdiscovers hreusable hrefreshed hcreates =>
    obtain ⟨hstart, hkept⟩ := hdiscovery hdiscovers
    obtain ⟨hbefore, hcreation⟩ := numbered_append.mp hnumbered
    obtain ⟨-, hlisting, hrefresh, -⟩ := numbered_append.mp hbefore
    obtain rfl : listing = fetched _ := hlisting
    obtain rfl : refreshed = fetched _ := hrefresh
    rw [List.length_append] at hcreation
    rw [hstart, List.map_append, List.map_append, accounts_append, accounts_append, hkept, List.length_append,
      List.length_map, List.length_map]
    dsimp only
    rw [hreusable]
    dsimp only
    rw [hrefreshed, if_neg (by simp)]
    exact hcreates.devices_kept hcreation none _
  | created base discovery listing outcome creation hdiscovers hreusable hcreates =>
    obtain ⟨hstart, hkept⟩ := hdiscovery hdiscovers
    obtain ⟨hbefore, hcreation⟩ := numbered_append.mp hnumbered
    obtain ⟨-, hlisting, -⟩ := numbered_append.mp hbefore
    obtain rfl : listing = fetched _ := hlisting
    rw [List.length_append] at hcreation
    rw [hstart, List.map_append, List.map_append, accounts_append, accounts_append, hkept, List.length_append,
      List.length_map, List.length_map]
    dsimp only
    rw [hreusable]
    exact hcreates.devices_kept hcreation dm.device_url devices

end correctness

end webex.rust.device_manager

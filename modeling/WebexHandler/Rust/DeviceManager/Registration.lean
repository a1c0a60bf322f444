import WebexHandler.Interaction.History
import WebexHandler.Registration.Protocol
import WebexHandler.Rust.DeviceManager

open interaction json

namespace webex.rust.device_manager

/-- A request with its response. -/
abbrev Exchange : Type := (_ : FetchRequest) × Except String FetchResponse

section requests

variable (crates : Crates) (token : String)

def catalog_request : FetchRequest := { url := U2C_CATALOG_URL, method := "GET", headers := [bearer token], body := none }

def list_request (base : String) : FetchRequest := { url := base, method := "GET", headers := [bearer token], body := none }

def create_request (base : String) : FetchRequest where
  url := base ++ "?includeUpstreamServices=all"
  method := "POST"
  headers := [bearer token, content_type]
  body := some (crates.to_string device_body)

def refresh_request (device_url : String) : FetchRequest where
  url := device_url
  method := "PUT"
  headers := [bearer token, content_type]
  body := some (crates.to_string device_body)

def delete_request (device_url : String) : FetchRequest :=
  { url := device_url, method := "DELETE", headers := [bearer token], body := none }

def unregister_request (device_url : String) : FetchRequest :=
  { url := device_url, method := "DELETE", headers := [bearer token, content_type], body := none }

end requests

section responses

variable (crates : Crates)

/-- The response that a request succeeded with. -/
def accepted (answer : Except String FetchResponse) : Option FetchResponse :=
  answer.toOption.filter fun response => response.status != 401 && response.ok

/-- The devices in the answer to a listing, unless the listing failed. -/
def listed (answer : Except String FetchResponse) : Option (List DeviceRegistration) := do
  let response ← accepted answer
  let devices ← (crates.device_list_from_slice response.body).toOption
  return devices.filterMap fun device_json =>
    (crates.registration_from_value device_json).toOption.map with_encryption_service_url

/-- The registration in the answer to the creation or the refresh of a device, unless
    that failed. -/
def registered (answer : Except String FetchResponse) : Option DeviceRegistration := do
  let response ← accepted answer
  (checked_registration crates response.body).toOption

/-- The answer to a creation that is one too many. -/
def Excessive (answer : Except String FetchResponse) : Prop := ∃ response, answer = .ok response ∧ response.status = 403

/-- The answer after which a device is created once more. -/
def retried (answer : Except String FetchResponse) : Bool :=
  answer.toOption.any fun response => response.status == 403 && !response.ok

end responses

section steps

variable {crates : Crates} {dm : DeviceManager} {log : List Exchange}

theorem excessive_of_retried {answer : Except String FetchResponse} (hretried : retried answer = true) :
    Excessive answer := by
  simp only [retried, Option.any_eq_true, Bool.and_eq_true, beq_iff_eq] at hretried
  obtain ⟨response, hanswer, hstatus, -⟩ := hretried
  cases answer with
  | error e => cases hanswer
  | ok answer =>
    cases hanswer
    exact ⟨response, rfl, hstatus⟩

/-- A creation that is accepted is not made again. -/
theorem retried_of_accepted {answer : Except String FetchResponse} {response : FetchResponse}
    (haccepted : accepted answer = some response) : retried answer = false := by
  obtain ⟨hanswer, hchecks⟩ := Option.filter_eq_some_iff.mp haccepted
  simp only [Bool.and_eq_true] at hchecks
  simp [retried, hanswer, hchecks.2]

/-- The checks of an answer that listing, creating and refreshing share. -/
theorem accepted_records {α : Type} {answer : Except String FetchResponse} (failed : String → String) (unauthorized : String)
    (rejected : FetchResponse → String) {next : FetchResponse → Dm α} {post : Except WebexError α → DeviceManager → List Exchange → Prop}
    (hfailed : ∀ e, accepted answer = none → ((∃ message, e = .device_registration message (some 403)) ↔ retried answer = true) →
      post (.error e) dm log)
    (hnext : ∀ response, accepted answer = some response → (next response).Obeys recording dm log post) :
    (do
      let response ← Method.ofExcept (answer.mapError fun e => .device_registration (failed e) none)
      Method.reject (response.status == 401) (.auth unauthorized)
      Method.reject (!response.ok) (.device_registration (rejected response) (some response.status))
      next response : Dm α).Obeys recording dm log post := by
  rw [Method.obeys_bind, Method.obeys_ofExcept]
  cases answer with
  | error e => exact hfailed _ rfl (by simp [retried, Except.toOption])
  | ok response =>
    rw [Except.mapError]
    dsimp only
    rw [Method.obeys_bind, Method.obeys_reject]
    constructor
    · intro hunauthorized
      rw [beq_iff_eq] at hunauthorized
      refine hfailed _ ?_ (by simp [retried, Except.toOption, hunauthorized])
      simp [accepted, Except.toOption, Option.filter, hunauthorized]
    · intro hauthorized
      dsimp only
      rw [Method.obeys_bind, Method.obeys_reject]
      constructor
      · intro hrejected
        refine hfailed _ ?_ ?_
        · simp only [Bool.not_eq_true'] at hrejected
          simp [accepted, Except.toOption, Option.filter, hrejected]
        · simp [retried, Except.toOption, hrejected]
      · intro hok
        apply hnext
        simp only [Bool.not_eq_false'] at hok
        have hstatus : (response.status != 401) = true := by
          simp only [bne, hauthorized, Bool.not_false]
        simp [accepted, Except.toOption, Option.filter, hstatus, hok]

/-- How the endpoint becomes known: a manager that has none asks for the catalog. -/
def Discovers (crates : Crates) (token : String) (dm : DeviceManager) (base : String) (discovery : List Exchange) : Prop :=
  match dm.wdm_devices_url with
  | some url => base = url ∧ discovery = []
  | none => ∃ answer, base = wdm_base_of crates answer ∧ discovery = [⟨catalog_request token, answer⟩]

theorem discover_wdm_base_records (token : String) :
    (discover_wdm_base crates token).Obeys recording dm log fun r dm' log' => ∃ base discovery,
      Discovers crates token dm base discovery ∧ r = .ok base ∧ dm' = { dm with wdm_devices_url := some base } ∧
        log' = log ++ discovery := by
  unfold discover_wdm_base Discovers
  rw [Method.obeys_bind, Method.obeys_get]
  dsimp only
  cases hknown : dm.wdm_devices_url with
  | some url =>
    refine ⟨url, [], ⟨rfl, rfl⟩, rfl, ?_, (List.append_nil log).symm⟩
    rw [← hknown]
  | none =>
    rw [Method.obeys_bind, fetch, Method.obeys_request]
    refine ⟨trivial, ?_⟩
    rintro answer _ rfl
    exact ⟨_, _, ⟨answer, rfl, rfl⟩, rfl, rfl, rfl⟩

theorem list_devices_records (token : String) :
    (list_devices crates token).Obeys recording dm log fun r dm' log' => ∃ base discovery answer,
      Discovers crates token dm base discovery ∧ r.toOption = listed crates answer ∧
        dm' = { dm with wdm_devices_url := some base } ∧ log' = log ++ discovery ++ [⟨list_request token base, answer⟩] := by
  unfold list_devices
  refine (discover_wdm_base_records token).bind ?_ ?_
  · rintro base _ _ ⟨_, discovery, hdiscovers, hbase, rfl, rfl⟩
    cases hbase
    rw [Method.obeys_bind, fetch, Method.obeys_request]
    refine ⟨trivial, ?_⟩
    rintro answer _ rfl
    refine accepted_records _ _ _ ?_ ?_
    · intro e hnone _
      refine ⟨base, discovery, answer, hdiscovers, ?_, rfl, rfl⟩
      simp [listed, hnone, Except.toOption]
    · intro response hresponse
      rw [Method.obeys_bind, Method.obeys_ofExcept]
      cases hlist : crates.device_list_from_slice response.body with
      | error e =>
        refine ⟨base, discovery, answer, hdiscovers, ?_, rfl, rfl⟩
        simp [listed, hresponse, hlist, Except.toOption]
      | ok devices =>
        refine ⟨base, discovery, answer, hdiscovers, ?_, rfl, rfl⟩
        simp [listed, hresponse, hlist, Except.toOption]
  · rintro e _ _ ⟨base, discovery, hdiscovers, hbase, -⟩
    cases hbase

/-- A registration that is not accepted has no status code. -/
theorem checked_registration_error {body : Bytes} {e : WebexError} (herror : checked_registration crates body = .error e) :
    ∃ message, e = .device_registration message none := by
  have hurl : ∀ {field url scheme : String} {e : WebexError}, checked_url field url scheme = .error e →
      ∃ message, e = .device_registration message none := by
    intro field url scheme e herror
    unfold checked_url at herror
    split at herror
    · cases herror
    · cases hvalid : url_validation.validate_webex_url url scheme with
      | ok _ =>
        rw [hvalid] at herror
        cases herror
      | error cause =>
        rw [hvalid] at herror
        cases herror
        exact ⟨_, rfl⟩
  unfold checked_registration at herror
  cases hparsed : crates.registration_from_slice body with
  | error cause =>
    rw [hparsed] at herror
    cases herror
    exact ⟨_, rfl⟩
  | ok parsed =>
    rw [hparsed] at herror
    simp only [Except.mapError, bind, Except.bind] at herror
    split at herror
    · rename_i hsocket
      cases herror
      exact hurl hsocket
    · split at herror
      · rename_i hservice
        cases herror
        exact hurl hservice
      · cases herror

/-- The manager with the device that a creation returns. -/
def placed (dm : DeviceManager) (reg : Option DeviceRegistration) : DeviceManager :=
  { dm with device_url := (reg.map DeviceRegistration.device_url).or dm.device_url }

theorem create_device_records (token : String) {base : String} (hknown : dm.wdm_devices_url = some base) :
    (create_device crates token).Obeys recording dm log fun r dm' log' => ∃ answer,
      r.toOption = registered crates answer ∧
        ((∃ message, r = .error (.device_registration message (some 403))) ↔ retried answer = true) ∧
        dm' = placed dm (registered crates answer) ∧ log' = log ++ [⟨create_request crates token base, answer⟩] := by
  unfold create_device
  refine (discover_wdm_base_records token).bind ?_ ?_
  · rintro value _ _ ⟨_, discovery, hdiscovers, hvalue, rfl, rfl⟩
    cases hvalue
    simp only [Discovers, hknown] at hdiscovers
    obtain ⟨rfl, rfl⟩ := hdiscovers
    rw [Method.obeys_bind, fetch, Method.obeys_request, List.append_nil, ← hknown]
    refine ⟨trivial, ?_⟩
    rintro answer _ rfl
    refine accepted_records _ _ _ ?_ ?_
    · intro e hnone hretried
      have hregistered : registered crates answer = none := by
        simp [registered, hnone]
      refine ⟨answer, by rw [hregistered]; rfl, ?_, by rw [hregistered]; rfl, rfl⟩
      simp only [Except.error.injEq]
      exact hretried
    · intro response hresponse
      rw [Method.obeys_bind, Method.obeys_ofExcept]
      cases hchecked : checked_registration crates response.body with
      | error e =>
        have hregistered : registered crates answer = none := by
          simp [registered, hresponse, hchecked, Except.toOption]
        refine ⟨answer, by rw [hregistered]; rfl, ?_, by rw [hregistered]; rfl, rfl⟩
        obtain ⟨_, hstatus⟩ := checked_registration_error hchecked
        simp [hstatus, retried_of_accepted hresponse]
      | ok reg =>
        have hregistered : registered crates answer = some reg := by
          simp [registered, hresponse, hchecked, Except.toOption]
        refine ⟨answer, by rw [hregistered]; rfl, ?_, by rw [hregistered]; rfl, rfl⟩
        simp [retried_of_accepted hresponse]
  · rintro e _ _ ⟨_, _, _, hvalue, -⟩
    cases hvalue

theorem refresh_records (token : String) {device_url : String} (hdevice : dm.device_url = some device_url) :
    (refresh crates token).Obeys recording dm log fun r dm' log' => ∃ answer, r.toOption = registered crates answer ∧
      dm' = dm ∧ log' = log ++ [⟨refresh_request crates token device_url, answer⟩] := by
  unfold refresh
  rw [Method.obeys_bind, Method.obeys_get]
  dsimp only
  rw [hdevice, Method.obeys_bind, Option.elim_some, Method.obeys_ofExcept]
  dsimp only
  rw [Method.obeys_bind, fetch, Method.obeys_request]
  refine ⟨trivial, ?_⟩
  rintro answer _ rfl
  refine accepted_records _ _ _ ?_ ?_
  · intro e hnone _
    exact ⟨answer, by simp [registered, hnone, Except.toOption], rfl, rfl⟩
  · intro response hresponse
    rw [Method.obeys_ofExcept]
    exact ⟨answer, by simp [registered, hresponse], rfl, rfl⟩

theorem delete_devices_records (token : String) (devices : List DeviceRegistration) :
    (delete_devices token devices).Obeys recording dm log fun r dm' log' => r = .ok () ∧ dm' = dm ∧
      ∃ deletions : List Exchange, log' = log ++ deletions ∧
        deletions.map Sigma.fst = devices.map fun device => delete_request token device.device_url := by
  induction devices generalizing log with
  | nil => exact ⟨rfl, rfl, [], (List.append_nil log).symm, rfl⟩
  | cons device rest ih =>
    unfold delete_devices
    rw [Method.obeys_bind, Method.obeys_attempt]
    unfold delete_device
    rw [Method.obeys_bind, fetch, Method.obeys_request]
    refine ⟨trivial, ?_⟩
    rintro answer _ rfl
    dsimp only
    rw [Method.obeys_bind, Method.obeys_ofExcept]
    have hrest : (delete_devices token rest).Obeys recording dm (log ++ [⟨delete_request token device.device_url, answer⟩])
        fun r dm' log' => r = .ok () ∧ dm' = dm ∧ ∃ deletions : List Exchange, log' = log ++ deletions ∧
          deletions.map Sigma.fst = (device :: rest).map fun device => delete_request token device.device_url := by
      refine ih.mono ?_
      rintro r dm' _ ⟨hr, hdm, deletions, rfl, hdeletions⟩
      refine ⟨hr, hdm, ⟨delete_request token device.device_url, answer⟩ :: deletions, by simp, ?_⟩
      rw [List.map_cons, List.map_cons, hdeletions]
    cases answer with
    | error e => exact hrest
    | ok response => exact hrest

/-- The first device of this client in the answer to a listing. -/
def reusable (crates : Crates) (listing : Except String FetchResponse) : Option DeviceRegistration :=
  (listed crates listing).bind (List.find? is_own_device)

theorem find_reusable_device_records (token : String) :
    (find_reusable_device crates token).Obeys recording dm log fun r dm' log' => ∃ base discovery listing,
      Discovers crates token dm base discovery ∧ r = .ok ((reusable crates listing).map DeviceRegistration.device_url) ∧
        dm' = { dm with wdm_devices_url := some base } ∧ log' = log ++ discovery ++ [⟨list_request token base, listing⟩] := by
  unfold find_reusable_device
  rw [Method.obeys_bind, Method.obeys_attempt]
  refine (list_devices_records token).mono ?_
  rintro r _ _ ⟨base, discovery, listing, hdiscovers, hlisted, rfl, rfl⟩
  cases r with
  | error e =>
    refine ⟨base, discovery, listing, hdiscovers, ?_, rfl, rfl⟩
    simp [reusable, ← hlisted, Except.toOption]
  | ok devices =>
    refine ⟨base, discovery, listing, hdiscovers, ?_, rfl, rfl⟩
    simp [reusable, ← hlisted, Except.toOption]

/-- The requests with which the devices of this client in a listing are deleted. -/
def reaping (crates : Crates) (token : String) (listing : Except String FetchResponse) : List FetchRequest :=
  (((listed crates listing).getD []).filter is_own_device).map fun device => delete_request token device.device_url

theorem reap_own_devices_records (token : String) {base : String} (hknown : dm.wdm_devices_url = some base) :
    (reap_own_devices crates token).Obeys recording dm log fun r dm' log' => ∃ listing deletions,
      r = .ok () ∧ dm' = dm ∧ deletions.map Sigma.fst = reaping crates token listing ∧
        log' = log ++ ⟨list_request token base, listing⟩ :: deletions := by
  unfold reap_own_devices
  rw [Method.obeys_bind, Method.obeys_attempt]
  refine (list_devices_records token).mono ?_
  rintro r _ _ ⟨_, discovery, listing, hdiscovers, hlisted, rfl, rfl⟩
  simp only [Discovers, hknown] at hdiscovers
  obtain ⟨rfl, rfl⟩ := hdiscovers
  rw [List.append_nil, ← hknown]
  cases r with
  | error e => exact ⟨listing, [], rfl, rfl, by simp [reaping, ← hlisted, Except.toOption], rfl⟩
  | ok devices =>
    refine (delete_devices_records token _).mono ?_
    rintro r dm' _ ⟨rfl, rfl, deletions, rfl, hdeletions⟩
    refine ⟨listing, deletions, rfl, rfl, ?_, by simp⟩
    rw [hdeletions, reaping, ← hlisted]
    rfl

/-- The exchanges that lead to a new device: one creation, or two with a reaping between. -/
inductive Creates (crates : Crates) (token base : String) : Option DeviceRegistration → List Exchange → Prop
  | once (answer : Except String FetchResponse) (hsettled : retried answer = false) :
    Creates crates token base (registered crates answer) [⟨create_request crates token base, answer⟩]
  | again (first listing second : Except String FetchResponse) (deletions : List Exchange) (hretried : retried first = true)
    (hdeletions : deletions.map Sigma.fst = reaping crates token listing) :
    Creates crates token base (registered crates second)
      ([⟨create_request crates token base, first⟩, ⟨list_request token base, listing⟩] ++ deletions ++
        [⟨create_request crates token base, second⟩])

theorem register_new_records (token : String) {base : String} (hknown : dm.wdm_devices_url = some base) :
    (register_new crates token).Obeys recording dm log fun r dm' log' => ∃ creation,
      Creates crates token base r.toOption creation ∧ dm' = placed dm r.toOption ∧ log' = log ++ creation := by
  unfold register_new
  rw [Method.obeys_bind, Method.obeys_attempt]
  refine (create_device_records token hknown).mono ?_
  rintro r _ _ ⟨first, hfirst, hretried, rfl, rfl⟩
  have honce : (∀ message, r ≠ .error (.device_registration message (some 403))) →
      Creates crates token base r.toOption [⟨create_request crates token base, first⟩] := by
    intro hother
    rw [hfirst]
    refine .once first (Bool.eq_false_iff.mpr fun h => ?_)
    obtain ⟨message, heq⟩ := hretried.mpr h
    exact hother message heq
  rw [← hfirst]
  dsimp only
  split
  · exact ⟨_, honce (fun _ h => nomatch h), rfl, rfl⟩
  · rename_i message
    have hfull : retried first = true := hretried.mp ⟨message, rfl⟩
    refine (reap_own_devices_records token hknown).bind ?_ nofun
    rintro _ _ _ ⟨listing, deletions, -, rfl, hdeletions, rfl⟩
    refine (create_device_records token hknown).mono ?_
    rintro r _ _ ⟨second, hsecond, -, rfl, rfl⟩
    have hagain : Creates crates token base r.toOption
        ([⟨create_request crates token base, first⟩, ⟨list_request token base, listing⟩] ++ deletions ++
          [⟨create_request crates token base, second⟩]) := by
      rw [hsecond]
      exact .again first listing second deletions hfull hdeletions
    refine ⟨_, hagain, ?_, by simp⟩
    rw [hsecond]
  · rename_i hother
    exact ⟨_, honce (fun message heq => hother message (Except.error.inj heq)), rfl, rfl⟩

/-- The exchanges of a registration, and the manager that it leaves. -/
inductive Registers (crates : Crates) (token : String) (dm : DeviceManager) :
    Option DeviceRegistration → DeviceManager → List Exchange → Prop
  | reused (base : String) (discovery : List Exchange) (listing refreshed : Except String FetchResponse)
    (device reg : DeviceRegistration) (hdiscovers : Discovers crates token dm base discovery)
    (hreusable : reusable crates listing = some device) (hrefreshed : registered crates refreshed = some reg) :
    Registers crates token dm (some reg) { device_url := some device.device_url, wdm_devices_url := some base }
      (discovery ++ [⟨list_request token base, listing⟩, ⟨refresh_request crates token device.device_url, refreshed⟩])
  | replaced (base : String) (discovery : List Exchange) (listing refreshed : Except String FetchResponse)
    (device : DeviceRegistration) (outcome : Option DeviceRegistration) (creation : List Exchange)
    (hdiscovers : Discovers crates token dm base discovery) (hreusable : reusable crates listing = some device)
    (hrefreshed : registered crates refreshed = none) (hcreates : Creates crates token base outcome creation) :
    Registers crates token dm outcome (placed { device_url := none, wdm_devices_url := some base } outcome)
      (discovery ++ [⟨list_request token base, listing⟩, ⟨refresh_request crates token device.device_url, refreshed⟩] ++ creation)
  | created (base : String) (discovery : List Exchange) (listing : Except String FetchResponse)
    (outcome : Option DeviceRegistration) (creation : List Exchange)
    (hdiscovers : Discovers crates token dm base discovery) (hreusable : reusable crates listing = none)
    (hcreates : Creates crates token base outcome creation) :
    Registers crates token dm outcome (placed { dm with wdm_devices_url := some base } outcome)
      (discovery ++ [⟨list_request token base, listing⟩] ++ creation)

theorem register_records (token : String) : (register crates token).Obeys recording dm [] fun r dm' log =>
    Registers crates token dm r.toOption dm' log := by
  unfold register
  refine (find_reusable_device_records token).bind ?_ nofun
  rintro found _ _ ⟨base, discovery, listing, hdiscovers, hfound, rfl, rfl⟩
  cases hfound
  cases hreusable : reusable crates listing with
  | none =>
    refine (register_new_records token rfl).mono ?_
    rintro r _ _ ⟨creation, hcreates, rfl, rfl⟩
    exact .created base discovery listing r.toOption creation hdiscovers hreusable hcreates
  | some device =>
    simp only [Option.map_some]
    rw [Method.obeys_bind, Method.obeys_modify]
    dsimp only
    rw [Method.obeys_bind, Method.obeys_attempt]
    refine (refresh_records token rfl).mono ?_
    rintro r _ _ ⟨refreshed, hrefreshed, rfl, rfl⟩
    cases r with
    | ok reg =>
      have hreused := Registers.reused base discovery listing refreshed device reg hdiscovers hreusable hrefreshed.symm
      simp only [List.nil_append, List.append_assoc, List.cons_append]
      exact hreused
    | error e =>
      dsimp only
      rw [Method.obeys_bind, Method.obeys_modify]
      refine (register_new_records token rfl).mono ?_
      rintro r _ _ ⟨creation, hcreates, rfl, rfl⟩
      have hreplaced := Registers.replaced base discovery listing refreshed device r.toOption creation hdiscovers hreusable
        hrefreshed.symm hcreates
      simp only [List.nil_append, List.append_assoc, List.cons_append] at hreplaced ⊢
      exact hreplaced

/-- Unregistering is one request, whatever the answer. -/
theorem unregister_records (token : String) : (unregister token).Obeys recording dm log fun _ _ log' =>
    ∃ deletion : List Exchange, log' = log ++ deletion ∧
      deletion.map Sigma.fst = (dm.device_url.map (unregister_request token)).toList := by
  unfold unregister
  rw [Method.obeys_bind, Method.obeys_get]
  dsimp only
  cases dm.device_url with
  | none => exact ⟨[], (List.append_nil log).symm, rfl⟩
  | some device_url =>
    rw [Method.obeys_bind, Option.elim_some, Method.obeys_ofExcept]
    dsimp only
    rw [Method.obeys_bind, fetch, Method.obeys_request]
    refine ⟨trivial, ?_⟩
    rintro answer _ rfl
    have hrest : Method.Keeps recording (fun _ log' => log' = log ++ [⟨unregister_request token device_url, answer⟩]) (do
        let response ← Method.ofExcept (answer.mapError fun e =>
          .device_registration ("Failed to unregister device: " ++ e) none)
        Method.reject (response.status == 401) (.auth "Unauthorized to unregister device")
        Method.reject (!response.ok && response.status != 404)
          (.device_registration "Failed to unregister device" (some response.status))
        modify fun self => { self with device_url := none } : Dm Unit) := by
      apply Method.keeps_bind (Method.keeps_ofExcept _)
      intro response
      apply Method.keeps_bind (Method.keeps_reject _ _)
      intro _
      apply Method.keeps_bind (Method.keeps_reject _ _)
      intro _
      apply Method.keeps_modify
      intro dm log' hlog
      exact hlog
    apply (hrest dm _ rfl).mono
    rintro r dm' log' rfl
    exact ⟨_, rfl, rfl⟩

end steps

section protocol

/-- The requests of a registration. Only a manager without an endpoint asks for the catalog. -/
inductive Kind
  | discovery
  | listing
  | refresh
  | creation
  | deletion
  deriving DecidableEq

def kind (dm : DeviceManager) (req : FetchRequest) : Kind :=
  if req.method = "POST" then .creation
  else if req.method = "PUT" then .refresh
  else if req.method = "DELETE" then .deletion
  else if dm.wdm_devices_url = none ∧ req.url = U2C_CATALOG_URL then .discovery
  else .listing

def kinds (dm : DeviceManager) (log : List Exchange) : List Kind := log.map fun exchange => kind dm exchange.1

/-- No device can be reused: the listing failed or has none of this client's, or the refresh
    of the first of them failed. -/
def Unusable (crates : Crates) (dm : DeviceManager) (earlier : List Exchange) : Prop :=
  ∃ listing ∈ earlier, kind dm listing.1 = .listing ∧ ∀ device, reusable crates listing.2 = some device →
    ∃ refresh ∈ earlier, kind dm refresh.1 = .refresh ∧ refresh.1.url = device.device_url ∧ registered crates refresh.2 = none

/-- A deletion of a listed device of this client, after the first creation was one too many
    and before there is a second. -/
structure Reaps (crates : Crates) (dm : DeviceManager) (earlier : List Exchange) (req : FetchRequest) : Prop where
  once : (kinds dm earlier).count .creation = 1
  excessive : ∃ creation ∈ earlier, kind dm creation.1 = .creation ∧ Excessive creation.2
  own : ∃ listing ∈ earlier, kind dm listing.1 = .listing ∧ ∃ devices, listed crates listing.2 = some devices ∧
    ∃ device ∈ devices, device.name = some "webex-message-handler" ∧ device.device_type = some "DESKTOP" ∧
      req.url = device.device_url

/-- The device that a registration leaves the manager with. -/
def LeavesDevice (crates : Crates) (dm : DeviceManager) (log : List Exchange) (after : DeviceManager) :
    Except WebexError DeviceRegistration → Prop
  | .ok reg => ∃ exchange ∈ log, registered crates exchange.2 = some reg ∧
      (kind dm exchange.1 = .refresh ∧ after.device_url = some exchange.1.url ∨
        kind dm exchange.1 = .creation ∧ after.device_url = some reg.device_url)
  | .error _ => after.device_url = none ∨ after.device_url = dm.device_url

/-- What a registration asks of the servers, and what it leaves. -/
structure Protocol (crates : Crates) (dm : DeviceManager) (log : List Exchange) (outcome : Except WebexError DeviceRegistration)
    (after : DeviceManager) : Prop where
  discoveries : (kinds dm log).count .discovery ≤ 1
  listings : (kinds dm log).count .listing ≤ 2
  refreshes : (kinds dm log).count .refresh ≤ 1
  creations : (kinds dm log).count .creation ≤ 2
  creating : ∀ earlier exchange later, log = earlier ++ exchange :: later → kind dm exchange.1 = .creation →
    Unusable crates dm earlier
  deleting : ∀ earlier exchange later, log = earlier ++ exchange :: later → kind dm exchange.1 = .deletion →
    Reaps crates dm earlier exchange.1
  device : LeavesDevice crates dm log after outcome

variable {crates : Crates} {token base : String} {dm : DeviceManager} {log : List Exchange}

@[simp]
theorem kind_create_request : kind dm (create_request crates token base) = .creation := rfl

@[simp]
theorem kind_refresh_request {url : String} : kind dm (refresh_request crates token url) = .refresh := rfl

@[simp]
theorem kind_delete_request {url : String} : kind dm (delete_request token url) = .deletion := rfl

theorem wdm_base_of_endpoint (answer : Except String FetchResponse) :
    registration.Endpoint WDM_API_BASE (wdm_base_of crates answer) := by
  unfold wdm_base_of
  split
  · exact .default
  · split
    · exact .default
    · split
      · exact .default
      · split
        · exact .default
        · split
          · exact .default
          · split
            · exact .default
            · exact .link _

/-- An endpoint that is discovered is not the catalog. -/
theorem wdm_base_of_ne (answer : Except String FetchResponse) : wdm_base_of crates answer ≠ U2C_CATALOG_URL :=
  (wdm_base_of_endpoint answer).ne (by decide) (by decide)

theorem kind_list_request {discovery : List Exchange} (hdiscovers : Discovers crates token dm base discovery) :
    kind dm (list_request token base) = .listing := by
  have hne : ¬(dm.wdm_devices_url = none ∧ base = U2C_CATALOG_URL) := by
    rintro ⟨hnone, hbase⟩
    simp only [Discovers, hnone] at hdiscovers
    obtain ⟨answer, rfl, -⟩ := hdiscovers
    exact wdm_base_of_ne answer hbase
  simp [kind, list_request, hne]

theorem kinds_discovery {discovery : List Exchange} (hdiscovers : Discovers crates token dm base discovery) :
    kinds dm discovery = if dm.wdm_devices_url = none then [.discovery] else [] := by
  unfold Discovers at hdiscovers
  cases hknown : dm.wdm_devices_url with
  | some url =>
    rw [hknown] at hdiscovers
    rw [hdiscovers.2]
    rfl
  | none =>
    rw [hknown] at hdiscovers
    obtain ⟨answer, -, rfl⟩ := hdiscovers
    simp [kinds, kind, catalog_request, hknown]

/-- A request of the registration's own kinds is no creation or deletion. -/
theorem kinds_deletions {listing : Except String FetchResponse} {deletions : List Exchange}
    (hdeletions : deletions.map Sigma.fst = reaping crates token listing) :
    kinds dm deletions = List.replicate deletions.length .deletion := by
  rw [List.eq_replicate_iff]
  refine ⟨List.length_map _, ?_⟩
  intro k hk
  obtain ⟨exchange, hmem, rfl⟩ := List.mem_map.mp hk
  have hreq : exchange.1 ∈ reaping crates token listing := hdeletions ▸ List.mem_map_of_mem hmem
  obtain ⟨device, -, hdevice⟩ := List.mem_map.mp hreq
  rw [← hdevice]
  exact kind_delete_request

/-- The kinds of a creation's requests. -/
theorem kinds_creates {outcome : Option DeviceRegistration} {creation : List Exchange}
    (hlist : kind dm (list_request token base) = .listing) (hcreates : Creates crates token base outcome creation) :
    kinds dm creation = [.creation] ∨ ∃ n, kinds dm creation = [.creation, .listing] ++ List.replicate n .deletion ++ [.creation] := by
  cases hcreates with
  | once answer => exact .inl rfl
  | again first listing second deletions hretried hdeletions =>
    refine .inr ⟨deletions.length, ?_⟩
    rw [← @kinds_deletions _ _ dm _ _ hdeletions]
    simp [kinds, hlist]

@[simp]
theorem kinds_append (log more : List Exchange) : kinds dm (log ++ more) = kinds dm log ++ kinds dm more := List.map_append

theorem Unusable.mono {more : List Exchange} (hunusable : Unusable crates dm log) (hsubset : log ⊆ more) :
    Unusable crates dm more := by
  obtain ⟨listing, hlisting, hkind, hdevice⟩ := hunusable
  refine ⟨listing, hsubset hlisting, hkind, fun device hreusable => ?_⟩
  obtain ⟨refresh, hrefresh, hrefreshed⟩ := hdevice device hreusable
  exact ⟨refresh, hsubset hrefresh, hrefreshed⟩

/-- When a device may be created, and when one may be deleted. -/
structure InOrder (crates : Crates) (dm : DeviceManager) (earlier : List Exchange) (exchange : Exchange) : Prop where
  creating : kind dm exchange.1 = .creation → Unusable crates dm earlier
  deleting : kind dm exchange.1 = .deletion → Reaps crates dm earlier exchange.1

/-- Requests that neither create nor delete are in order. -/
theorem along_of_kinds {before : List Exchange} (hcreation : Kind.creation ∉ kinds dm log)
    (hdeletion : Kind.deletion ∉ kinds dm log) : Along (InOrder crates dm) before log := by
  induction log generalizing before with
  | nil => trivial
  | cons exchange rest ih =>
    simp only [kinds, List.map_cons, List.mem_cons, not_or] at hcreation hdeletion
    exact ⟨⟨fun h => absurd h.symm hcreation.1, fun h => absurd h.symm hdeletion.1⟩, ih hcreation.2 hdeletion.2⟩

theorem mem_reaping {listing : Except String FetchResponse} {req : FetchRequest} (hmem : req ∈ reaping crates token listing) :
    kind dm req = .deletion ∧ ∃ devices, listed crates listing = some devices ∧ ∃ device ∈ devices,
      device.name = some "webex-message-handler" ∧ device.device_type = some "DESKTOP" ∧ req.url = device.device_url := by
  obtain ⟨device, hdevice, rfl⟩ := List.mem_map.mp hmem
  refine ⟨kind_delete_request, ?_⟩
  cases hlisted : listed crates listing with
  | none => simp [hlisted] at hdevice
  | some devices =>
    simp only [hlisted, Option.getD_some, List.mem_filter, is_own_device, Bool.and_eq_true, beq_iff_eq] at hdevice
    exact ⟨devices, rfl, device, hdevice.1, hdevice.2.1.1, hdevice.2.1.2, rfl⟩

theorem along_deletions {before deletions : List Exchange} {listing : Except String FetchResponse}
    (hlisting : ⟨list_request token base, listing⟩ ∈ before) (hlist : kind dm (list_request token base) = .listing)
    (honce : (kinds dm before).count .creation = 1)
    (hexcessive : ∃ creation ∈ before, kind dm creation.1 = .creation ∧ Excessive creation.2)
    (hdeletions : deletions.map Sigma.fst ⊆ reaping crates token listing) : Along (InOrder crates dm) before deletions := by
  induction deletions generalizing before with
  | nil => trivial
  | cons exchange rest ih =>
    simp only [List.map_cons, List.cons_subset] at hdeletions
    obtain ⟨hkind, hown⟩ := @mem_reaping crates token dm listing exchange.1 hdeletions.1
    refine ⟨⟨fun h => ?_, fun _ => ⟨honce, hexcessive, _, hlisting, hlist, hown⟩⟩, ?_⟩
    · rw [hkind] at h
      cases h
    · obtain ⟨creation, hcreation, hfull⟩ := hexcessive
      refine ih (List.mem_append_left _ hlisting) ?_ ⟨creation, List.mem_append_left _ hcreation, hfull⟩ hdeletions.2
      rw [kinds_append, List.count_append, honce]
      simp [kinds, hkind]

theorem Creates.along {before creation : List Exchange} {outcome : Option DeviceRegistration}
    (hcreates : Creates crates token base outcome creation) (hlist : kind dm (list_request token base) = .listing)
    (hnone : (kinds dm before).count .creation = 0) (hunusable : Unusable crates dm before) :
    Along (InOrder crates dm) before creation := by
  have hcreate : ∀ {more : List Exchange} (answer : Except String FetchResponse), before ⊆ more →
      InOrder crates dm more ⟨create_request crates token base, answer⟩ :=
    fun _ hsubset => ⟨fun _ => hunusable.mono hsubset, fun h => nomatch h⟩
  cases hcreates with
  | once answer => exact ⟨hcreate answer (List.Subset.refl _), trivial⟩
  | again first listing second deletions hretried hdeletions =>
    rw [along_append, along_append]
    refine ⟨⟨⟨hcreate first (List.Subset.refl _), ?_, trivial⟩, ?_⟩, ?_, trivial⟩
    · constructor
      · intro h
        cases hlist.symm.trans h
      · intro h
        cases hlist.symm.trans h
    · have hreaping : deletions.map Sigma.fst ⊆ reaping crates token listing := by
        rw [hdeletions]
        exact List.Subset.refl _
      refine @along_deletions crates token base dm _ deletions listing (by simp) hlist ?_
        ⟨⟨create_request crates token base, first⟩, by simp, rfl, excessive_of_retried hretried⟩ hreaping
      rw [kinds_append, List.count_append, hnone]
      simp [kinds, hlist]
    · exact hcreate second (by simp)

/-- The kinds of requests that come before a creation, and what they show. -/
theorem Registers.along {outcome : Option DeviceRegistration} {after : DeviceManager}
    (hregisters : Registers crates token dm outcome after log) : Along (InOrder crates dm) [] log := by
  have hdiscovery : ∀ {base : String} {discovery : List Exchange}, Discovers crates token dm base discovery →
      Kind.creation ∉ kinds dm discovery ∧ Kind.deletion ∉ kinds dm discovery := by
    intro base discovery hdiscovers
    rw [kinds_discovery hdiscovers]
    split
    · decide
    · decide
  cases hregisters with
  | reused base discovery listing refreshed device reg hdiscovers hreusable hrefreshed =>
    have hlist := kind_list_request hdiscovers
    refine along_append.mpr ⟨along_of_kinds (hdiscovery hdiscovers).1 (hdiscovery hdiscovers).2, along_of_kinds ?_ ?_⟩
    · simp [kinds, hlist]
    · simp [kinds, hlist]
  | replaced base discovery listing refreshed device outcome creation hdiscovers hreusable hrefreshed hcreates =>
    have hlist := kind_list_request hdiscovers
    refine along_append.mpr ⟨along_append.mpr ⟨along_of_kinds (hdiscovery hdiscovers).1 (hdiscovery hdiscovers).2,
      along_of_kinds ?_ ?_⟩, hcreates.along hlist ?_ ?_⟩
    · simp [kinds, hlist]
    · simp [kinds, hlist]
    · rw [List.nil_append, kinds_append, List.count_append, List.count_eq_zero_of_not_mem (hdiscovery hdiscovers).1]
      simp [kinds, hlist]
    · refine ⟨⟨list_request token base, listing⟩, by simp, hlist, fun other hother => ?_⟩
      cases hreusable.symm.trans hother
      exact ⟨⟨refresh_request crates token device.device_url, refreshed⟩, by simp, rfl, rfl, hrefreshed⟩
  | created base discovery listing outcome creation hdiscovers hreusable hcreates =>
    have hlist := kind_list_request hdiscovers
    refine along_append.mpr ⟨along_append.mpr ⟨along_of_kinds (hdiscovery hdiscovers).1 (hdiscovery hdiscovers).2,
      along_of_kinds ?_ ?_⟩, hcreates.along hlist ?_ ?_⟩
    · simp [kinds, hlist]
    · simp [kinds, hlist]
    · rw [List.nil_append, kinds_append, List.count_append, List.count_eq_zero_of_not_mem (hdiscovery hdiscovers).1]
      simp [kinds, hlist]
    · refine ⟨⟨list_request token base, listing⟩, by simp, hlist, fun device hdevice => ?_⟩
      cases hreusable.symm.trans hdevice

/-- How often each kind of request is sent. -/
structure Bounded (ks : List Kind) : Prop where
  discoveries : ks.count .discovery ≤ 1
  listings : ks.count .listing ≤ 2
  refreshes : ks.count .refresh ≤ 1
  creations : ks.count .creation ≤ 2

theorem Creates.bounded {outcome : Option DeviceRegistration} {creation : List Exchange}
    (hcreates : Creates crates token base outcome creation) (hlist : kind dm (list_request token base) = .listing) :
    (kinds dm creation).count .discovery = 0 ∧ (kinds dm creation).count .listing ≤ 1 ∧
      (kinds dm creation).count .refresh = 0 ∧ (kinds dm creation).count .creation ≤ 2 := by
  obtain hkinds | ⟨n, hkinds⟩ := kinds_creates hlist hcreates
  · rw [hkinds]
    decide
  · rw [hkinds]
    simp [List.count_append, List.count_replicate]

theorem Registers.bounded {outcome : Option DeviceRegistration} {after : DeviceManager}
    (hregisters : Registers crates token dm outcome after log) : Bounded (kinds dm log) := by
  have hdiscovery : ∀ {base : String} {discovery : List Exchange}, Discovers crates token dm base discovery →
      kinds dm discovery = [] ∨ kinds dm discovery = [.discovery] := by
    intro base discovery hdiscovers
    rw [kinds_discovery hdiscovers]
    split
    · exact .inr rfl
    · exact .inl rfl
  cases hregisters with
  | reused base discovery listing refreshed device reg hdiscovers hreusable hrefreshed =>
    have hlist := kind_list_request hdiscovers
    have hkinds : kinds dm [⟨list_request token base, listing⟩,
        ⟨refresh_request crates token device.device_url, refreshed⟩] = [.listing, .refresh] := by
      simp [kinds, hlist]
    rw [kinds_append, hkinds]
    obtain hnone | hsome := hdiscovery hdiscovers
    · rw [hnone]
      exact ⟨by decide, by decide, by decide, by decide⟩
    · rw [hsome]
      exact ⟨by decide, by decide, by decide, by decide⟩
  | replaced base discovery listing refreshed device outcome creation hdiscovers hreusable hrefreshed hcreates =>
    have hlist := kind_list_request hdiscovers
    have hkinds : kinds dm [⟨list_request token base, listing⟩,
        ⟨refresh_request crates token device.device_url, refreshed⟩] = [.listing, .refresh] := by
      simp [kinds, hlist]
    obtain ⟨hdiscoveries, hlistings, hrefreshes, hcreations⟩ := hcreates.bounded hlist
    rw [kinds_append, kinds_append, hkinds]
    obtain hnone | hsome := hdiscovery hdiscovers
    · rw [hnone]
      constructor <;> simp <;> omega
    · rw [hsome]
      constructor <;> simp <;> omega
  | created base discovery listing outcome creation hdiscovers hreusable hcreates =>
    have hlist := kind_list_request hdiscovers
    have hkinds : kinds dm [⟨list_request token base, listing⟩] = [.listing] := by
      simp [kinds, hlist]
    obtain ⟨hdiscoveries, hlistings, hrefreshes, hcreations⟩ := hcreates.bounded hlist
    rw [kinds_append, kinds_append, hkinds]
    obtain hnone | hsome := hdiscovery hdiscovers
    · rw [hnone]
      constructor <;> simp <;> omega
    · rw [hsome]
      constructor <;> simp <;> omega

/-- A creation that succeeds is the last request. -/
theorem Creates.last {reg : DeviceRegistration} {creation : List Exchange}
    (hcreates : Creates crates token base (some reg) creation) :
    ∃ exchange ∈ creation, kind dm exchange.1 = .creation ∧ registered crates exchange.2 = some reg := by
  generalize houtcome : some reg = outcome at hcreates
  cases hcreates with
  | once answer => exact ⟨_, List.mem_singleton_self _, rfl, rfl⟩
  | again first listing second deletions hretried hdeletions =>
    exact ⟨⟨create_request crates token base, second⟩, by simp, rfl, rfl⟩

theorem Registers.leaves_device {r : Except WebexError DeviceRegistration} {after : DeviceManager}
    (hregisters : Registers crates token dm r.toOption after log) : LeavesDevice crates dm log after r := by
  generalize houtcome : r.toOption = outcome at hregisters
  cases r with
  | ok reg =>
    cases hregisters with
    | reused base discovery listing refreshed device reg' hdiscovers hreusable hrefreshed =>
      cases houtcome
      exact ⟨⟨refresh_request crates token device.device_url, refreshed⟩, by simp, hrefreshed, .inl ⟨rfl, rfl⟩⟩
    | replaced base discovery listing refreshed device outcome creation hdiscovers hreusable hrefreshed hcreates =>
      cases houtcome
      obtain ⟨exchange, hmem, hkind, hregistered⟩ := @Creates.last _ _ _ dm _ _ hcreates
      exact ⟨exchange, List.mem_append_right _ hmem, hregistered, .inr ⟨hkind, rfl⟩⟩
    | created base discovery listing outcome creation hdiscovers hreusable hcreates =>
      cases houtcome
      obtain ⟨exchange, hmem, hkind, hregistered⟩ := @Creates.last _ _ _ dm _ _ hcreates
      exact ⟨exchange, List.mem_append_right _ hmem, hregistered, .inr ⟨hkind, rfl⟩⟩
  | error e =>
    cases hregisters with
    | reused => cases houtcome
    | replaced base discovery listing refreshed device outcome creation hdiscovers hreusable hrefreshed hcreates =>
      cases houtcome
      exact .inl rfl
    | created base discovery listing outcome creation hdiscovers hreusable hcreates =>
      cases houtcome
      exact .inr rfl

/-- Every registration keeps to the protocol, from any state of the manager and whatever the
    servers answer. -/
theorem register_protocol (crates : Crates) (token : String) (dm : DeviceManager) {Env : Type}
    (answer : (req : FetchRequest) → Env → Except String FetchResponse × Env) (env : Env) :
    Protocol crates dm ((register crates token dm).exchanges answer env) ((register crates token dm).exec answer env).1.1
      ((register crates token dm).exec answer env).1.2 := by
  have hregisters := @Program.Obeys.exchanges _ _ _ _ answer _ _ _ env (@register_records crates dm token)
  rw [List.nil_append] at hregisters
  have hbounded := hregisters.bounded
  have halong := hregisters.along
  exact ⟨hbounded.discoveries, hbounded.listings, hbounded.refreshes, hbounded.creations,
    fun earlier exchange later hlog => (halong.split hlog).creating,
    fun earlier exchange later hlog => (halong.split hlog).deleting, hregisters.leaves_device⟩

end protocol

end webex.rust.device_manager

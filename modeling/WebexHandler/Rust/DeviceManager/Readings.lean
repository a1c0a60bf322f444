import WebexHandler.Registration.Port
import WebexHandler.Rust.DeviceManager.Registration

open interaction json
open webex.registration (Dialect Rejection Created Request judge inStep_judged)

namespace webex.rust.device_manager

def rejection : WebexError → Rejection
  | .auth _ => .unauthorized
  | .device_registration _ status_code => .refused status_code
  | _ => .refused none

def describe (reg : DeviceRegistration) : registration.Registration where
  web_socket_url := some (.string reg.web_socket_url)
  device_url := some (.string reg.device_url)
  user_id := some (.string reg.user_id)
  services := .object (reg.services.map fun entry => (entry.1, .string entry.2))
  encryption_service_url := .string reg.encryption_service_url

/-- The text of a URL that the protocol keeps. -/
def url_of (device : Value) : String := device.as_str.getD ""

section dialect

variable (crates : Crates)

def request : Request → FetchRequest
  | .catalog token => catalog_request token
  | .list base token => list_request token base
  | .create base token => create_request crates token base
  | .refresh device token => refresh_request crates token (url_of device)
  | .reap device token => delete_request token (url_of device)
  | .unregister device token => unregister_request token (url_of device)

def own_devices : Except Rejection Bytes → List DeviceRegistration
  | .error _ => []
  | .ok body =>
    match crates.device_list_from_slice body with
    | .error _ => []
    | .ok devices => (devices.filterMap fun device_json =>
        (crates.registration_from_value device_json).toOption.map with_encryption_service_url).filter is_own_device

/-- A device is kept once its registration has been checked. -/
def created (body : Bytes) : Created :=
  match checked_registration crates body with
  | .error e => { outcome := .error (rejection e) }
  | .ok reg => { outcome := .ok (describe reg), device := some (some (.string reg.device_url)) }

def refreshed (body : Bytes) : Except Rejection registration.Registration :=
  ((checked_registration crates body).mapError rejection).map describe

/-- A device that is not there any more is unregistered. -/
def unregistered (answer : Except String FetchResponse) : Except Rejection Unit :=
  match answer with
  | .error _ => .error (.refused none)
  | .ok response =>
    if response.status = 401 then .error .unauthorized
    else if response.ok = false ∧ response.status ≠ 404 then .error (.refused (some response.status))
    else .ok ()

def read : (req : Request) → Except String FetchResponse → registration.Answer req
  | .catalog _, answer => wdm_base_of crates answer
  | .list _ _, answer => (own_devices crates (judge some answer)).map fun device => .string device.device_url
  | .create _ _, answer => .of (judge some answer) (created crates)
  | .refresh _ _, answer => judge some answer >>= refreshed crates
  | .reap _ _, _ => ()
  | .unregister _ _, answer => unregistered answer

def dialect : Dialect FetchRequest DeviceManager WebexError where
  request := request crates
  read := read crates
  manager dm := { device := dm.device_url.map .string, base := dm.wdm_devices_url }
  rejection := rejection

end dialect

variable {crates : Crates}

abbrev InStep {α α' : Type} (crates : Crates) (outcomes : Except WebexError α → Except Rejection α' → Prop) (m : Dm α)
    (m' : registration.Dm α') : Prop :=
  m.InStep (dialect crates).sync (dialect crates).Stands outcomes m'

theorem discover_wdm_base_completes (token : String) :
    InStep crates ((dialect crates).Completes Eq) (discover_wdm_base crates token) (registration.locate token) := by
  unfold discover_wdm_base registration.locate
  apply Method.inStep_bind_get
  rintro dm _ rfl
  dsimp only [dialect]
  cases dm.wdm_devices_url with
  | some url => exact Method.inStep_pure (.ok rfl)
  | none =>
    refine Method.inStep_bind_request rfl ?_
    rintro answer _ rfl
    refine Method.inStep_bind_modify ?_ (Method.inStep_pure (.ok rfl))
    rintro dm _ rfl
    rfl

/-- The client's own devices in a listing, if it does not fail. -/
def own_urls (listed : Except WebexError (List DeviceRegistration)) : List Value :=
  ((listed.toOption.getD []).filter is_own_device).map fun device => .string device.device_url

theorem list_devices_completes (token : String) :
    InStep crates ((dialect crates).Completes fun listed own => own = own_urls listed)
      (list_devices crates token).attempt (registration.list token) := by
  apply Method.inStep_attempt
  refine Method.inStep_bind (discover_wdm_base_completes token) ?_ fun _ _ hfalse => hfalse.elim
  rintro base _ rfl
  refine Method.inStep_request rfl ?_
  rintro answer _ rfl
  refine inStep_judged (dialect crates) some (fun judged => (return (own_devices crates judged).map fun device => .string device.device_url :
    registration.Dm (List Value))) ?_ ?_ ?_ ?_ ?_
  · exact fun _ => rfl
  · exact rfl
  · exact fun _ => rfl
  · intro e
    exact Method.inStep_ofExcept (SameOutcome.ok rfl)
  · rintro response -
    rw [own_devices]
    cases crates.device_list_from_slice response.body with
    | error e => exact Method.inStep_ofExcept (SameOutcome.ok rfl)
    | ok devices => exact Method.inStep_ofExcept (SameOutcome.ok rfl)

theorem find_reusable_device_completes (token : String) :
    InStep crates ((dialect crates).Completes fun found device => device = found.map .string)
      (find_reusable_device crates token) (registration.find token) := by
  unfold find_reusable_device registration.find
  refine Method.inStep_bind (list_devices_completes token) ?_ fun _ _ hfalse => hfalse.elim
  rintro listed _ rfl
  cases listed with
  | error e => exact Method.inStep_pure (.ok rfl)
  | ok devices =>
    refine Method.inStep_pure (.ok ?_)
    simp only [own_urls, Except.toOption, Option.getD_some, List.head?_map, List.head?_filter, Option.map_map,
      Function.comp_def]

theorem delete_devices_completes (token : String) (devices : List DeviceRegistration) :
    InStep crates ((dialect crates).Completes fun _ _ => True) (delete_devices token devices)
      (registration.reap_all token (devices.map fun device => .string device.device_url)) := by
  induction devices with
  | nil => exact Method.inStep_pure (.ok trivial)
  | cons device rest ih =>
    have hdeletion : InStep crates ((dialect crates).Completes fun _ _ => True)
        (delete_device device.device_url token).attempt (registration.ask (.reap (.string device.device_url) token)) := by
      apply Method.inStep_attempt
      refine Method.inStep_request rfl ?_
      rintro answer _ -
      cases answer with
      | error e => exact Method.inStep_ofExcept (SameOutcome.ok trivial)
      | ok response => exact Method.inStep_ofExcept (SameOutcome.ok trivial)
    exact Method.inStep_bind hdeletion (fun _ _ _ => ih) fun _ _ hfalse => hfalse.elim

theorem reap_own_devices_completes (token : String) :
    InStep crates ((dialect crates).Completes fun _ _ => True) (reap_own_devices crates token) (registration.reap token) := by
  unfold reap_own_devices registration.reap
  refine Method.inStep_bind (list_devices_completes token) ?_ fun _ _ hfalse => hfalse.elim
  rintro listed _ rfl
  cases listed with
  | error e => exact Method.inStep_pure (.ok trivial)
  | ok devices => exact delete_devices_completes token (devices.filter is_own_device)

theorem create_device_follows (token : String) :
    (dialect crates).Follows describe (create_device crates token) (registration.create token) := by
  unfold create_device registration.create
  refine Method.inStep_bind (discover_wdm_base_completes token) ?_ fun _ _ hfalse => hfalse.elim
  rintro base _ rfl
  refine Method.inStep_bind_request rfl ?_
  rintro answer _ rfl
  refine inStep_judged (dialect crates) some (fun judged => registration.settle (.of judged (created crates))) (fun _ => rfl) rfl
    (fun _ => rfl) ?_ ?_
  · intro e
    exact Method.inStep_throw (.error rfl)
  · rintro response -
    simp only [Created.of, created]
    cases checked_registration crates response.body with
    | error e => exact Method.inStep_throw (.error rfl)
    | ok reg =>
      rintro dm _ rfl
      exact ⟨.ok rfl, rfl⟩

theorem refresh_follows (token : String) :
    (dialect crates).Follows describe (refresh crates token) (registration.refresh token) := by
  unfold refresh registration.refresh
  apply Method.inStep_bind_get
  rintro dm _ rfl
  dsimp only [dialect]
  cases dm.device_url with
  | none => exact Method.inStep_throw (.error rfl)
  | some device_url =>
    refine Method.inStep_bind_request rfl ?_
    rintro answer _ rfl
    refine inStep_judged (dialect crates) some (fun judged => Method.ofExcept (judged >>= refreshed crates)) (fun _ => rfl) rfl (fun _ => rfl) ?_ ?_
    · intro e
      exact Method.inStep_throw (.error rfl)
    · rintro response -
      apply Method.inStep_ofExcept
      show (dialect crates).Ends describe _ (refreshed crates response.body)
      rw [refreshed]
      cases checked_registration crates response.body with
      | error e => exact .error rfl
      | ok reg => exact .ok rfl

theorem register_new_follows (token : String) :
    (dialect crates).Follows describe (register_new crates token) (registration.register_new token) := by
  have hretry : (dialect crates).Follows describe (reap_own_devices crates token >>= fun _ => create_device crates token)
      (registration.reap token >>= fun _ => registration.create token) :=
    Method.inStep_bind (reap_own_devices_completes token) (fun _ _ _ => create_device_follows token)
      fun _ _ hfalse => hfalse.elim
  unfold register_new registration.register_new
  refine Method.inStep_bind (Method.inStep_attempt_both (create_device_follows token)) ?_
    fun _ _ (hfalse : False) => hfalse.elim
  rintro created _ hends
  cases hends with
  | ok hvalues => exact Method.inStep_pure (.ok hvalues)
  | @error e e' herrors =>
    obtain rfl := herrors
    show InStep crates _ _ (registration.retry token (rejection e))
    split
    · rename_i heq
      cases heq
    · rename_i heq
      obtain rfl := Except.error.inj heq
      exact hretry
    · rename_i hother heq
      obtain rfl := Except.error.inj heq
      have hcap : rejection e ≠ .refused (some 403) := by
        intro hexcessive
        cases e with
        | device_registration message status_code =>
          obtain rfl := Rejection.refused.inj hexcessive
          exact hother message rfl
        | _ => cases hexcessive
      rw [registration.retry, if_neg hcap]
      exact Method.inStep_throw (.error rfl)

theorem register_follows (token : String) :
    (dialect crates).Follows describe (register crates token) (registration.register token) := by
  unfold register registration.register
  refine Method.inStep_bind (find_reusable_device_completes token) ?_ fun _ _ hfalse => hfalse.elim
  rintro found _ rfl
  cases found with
  | none => exact register_new_follows token
  | some existing_url =>
    refine Method.inStep_bind_modify ?_ ?_
    · rintro dm _ rfl
      rfl
    · refine Method.inStep_bind (Method.inStep_attempt_both (refresh_follows token)) ?_
        fun _ _ (hfalse : False) => hfalse.elim
      rintro refreshed _ hends
      cases hends with
      | ok hvalues => exact Method.inStep_pure (.ok hvalues)
      | error _ =>
        refine Method.inStep_bind_modify ?_ (register_new_follows token)
        rintro dm _ rfl
        rfl

theorem unregister_follows (token : String) :
    (dialect crates).Follows id (unregister token) (registration.unregister token) := by
  unfold unregister registration.unregister
  apply Method.inStep_bind_get
  rintro dm _ rfl
  dsimp only [dialect]
  cases dm.device_url with
  | none => exact Method.inStep_throw (.error rfl)
  | some device_url =>
    refine Method.inStep_bind_request rfl ?_
    rintro answer _ rfl
    show InStep crates ((dialect crates).Ends id) _ (Method.ofExcept (unregistered answer) >>= fun _ => _)
    cases answer with
    | error e => exact Method.inStep_throw (.error rfl)
    | ok response =>
      have hcleared : InStep crates ((dialect crates).Ends id) (modify fun self => { self with device_url := none })
          (modify fun self => { self with device := none }) := by
        rintro dm _ rfl
        exact ⟨.ok rfl, rfl⟩
      show InStep crates _ (Method.reject (response.status == 401) _ >>= fun _ =>
        Method.reject (!response.ok && response.status != 404) _ >>= fun _ => _) _
      by_cases hstatus : response.status = 401
      · rw [unregistered, if_pos hstatus, beq_iff_eq.mpr hstatus]
        exact Method.inStep_throw (.error rfl)
      · rw [beq_eq_false_iff_ne.mpr hstatus]
        by_cases hrefused : response.ok = false ∧ response.status ≠ 404
        · rw [unregistered, if_neg hstatus, if_pos hrefused, hrefused.1, bne_iff_ne.mpr hrefused.2]
          exact Method.inStep_throw (.error rfl)
        · have hkept : (!response.ok && response.status != 404) = false := by
            simpa [Decidable.imp_iff_not_or] using hrefused
          rw [unregistered, if_neg hstatus, if_neg hrefused, hkept]
          exact hcleared

end webex.rust.device_manager

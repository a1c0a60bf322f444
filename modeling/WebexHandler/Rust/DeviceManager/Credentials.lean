import WebexHandler.Rust.DeviceManager

open interaction json

namespace webex.rust.device_manager

/-- A request with the given token in its header and nothing of the caller's in its
    body. -/
structure Carries (crates : Crates) (token : String) (req : FetchRequest) : Prop where
  headers : req.headers = [bearer token] ∨ req.headers = [bearer token, content_type]
  body : req.body = none ∨ req.body = some (crates.to_string device_body)

variable {γ : Type} {crates : Crates} {mon : Monitor FetchRequest Res γ} {token : String} {view : γ}

/-- In this view the monitor permits the requests with the token, which leave the view
    as it is. -/
structure Carrier (crates : Crates) (mon : Monitor FetchRequest Res γ) (token : String) (view : γ) : Prop where
  allowed : ∀ req, Carries crates token req → mon.allowed view req
  stays : ∀ req answer g, mon.moves view req answer g → g = view

namespace Carrier

/-- The view stays, whatever the manager's fields. -/
def Stays (view : γ) (_ : DeviceManager) (g : γ) : Prop := g = view

/-- A change of the manager's fields. -/
theorem keeps_fields (f : DeviceManager → DeviceManager) : (modify f : Dm PUnit).Keeps mon (Stays view) :=
  Method.keeps_modify fun _ _ hstays => hstays

theorem fetch (hmon : Carrier crates mon token view) {req : FetchRequest} (hcarries : Carries crates token req) :
    (fetch req).Keeps mon (Stays view) := by
  refine Method.keeps_request ?_
  rintro _ g rfl
  exact ⟨hmon.allowed req hcarries, hmon.stays req⟩

theorem discover_wdm_base (hmon : Carrier crates mon token view) :
    (discover_wdm_base crates token).Keeps mon (Stays view) := by
  unfold device_manager.discover_wdm_base
  apply Method.keeps_bind Method.keeps_get
  intro self
  split
  · exact Method.keeps_pure _
  · apply Method.keeps_bind (hmon.fetch ⟨.inl rfl, .inl rfl⟩)
    intro response
    apply Method.keeps_bind (keeps_fields _)
    intro _
    exact Method.keeps_pure _

theorem create_device (hmon : Carrier crates mon token view) :
    (create_device crates token).Keeps mon (Stays view) := by
  unfold device_manager.create_device
  apply Method.keeps_bind hmon.discover_wdm_base
  intro base
  apply Method.keeps_bind (hmon.fetch ⟨.inr rfl, .inr rfl⟩)
  intro answer
  apply Method.keeps_bind (Method.keeps_ofExcept _)
  intro response
  apply Method.keeps_bind (Method.keeps_reject _ _)
  intro _
  apply Method.keeps_bind (Method.keeps_reject _ _)
  intro _
  apply Method.keeps_bind (Method.keeps_ofExcept _)
  intro reg
  apply Method.keeps_bind (keeps_fields _)
  intro _
  exact Method.keeps_pure _

theorem list_devices (hmon : Carrier crates mon token view) : (list_devices crates token).Keeps mon (Stays view) := by
  unfold device_manager.list_devices
  apply Method.keeps_bind hmon.discover_wdm_base
  intro base
  apply Method.keeps_bind (hmon.fetch ⟨.inl rfl, .inl rfl⟩)
  intro answer
  apply Method.keeps_bind (Method.keeps_ofExcept _)
  intro response
  apply Method.keeps_bind (Method.keeps_reject _ _)
  intro _
  apply Method.keeps_bind (Method.keeps_reject _ _)
  intro _
  apply Method.keeps_bind (Method.keeps_ofExcept _)
  intro devices
  exact Method.keeps_pure _

theorem delete_devices (hmon : Carrier crates mon token view) (devices : List DeviceRegistration) :
    (delete_devices token devices).Keeps mon (Stays view) := by
  induction devices with
  | nil => exact Method.keeps_pure ()
  | cons device rest ih =>
    have hdelete : (delete_device device.device_url token).Keeps mon (Stays view) := by
      apply Method.keeps_bind (hmon.fetch ⟨.inl rfl, .inl rfl⟩)
      intro answer
      apply Method.keeps_bind (Method.keeps_ofExcept _)
      intro response
      exact Method.keeps_pure _
    apply Method.keeps_bind (Method.keeps_attempt hdelete)
    intro _
    exact ih

theorem reap_own_devices (hmon : Carrier crates mon token view) :
    (reap_own_devices crates token).Keeps mon (Stays view) := by
  unfold device_manager.reap_own_devices
  apply Method.keeps_bind (Method.keeps_attempt hmon.list_devices)
  intro listed
  split
  · exact hmon.delete_devices _
  · exact Method.keeps_pure ()

theorem refresh (hmon : Carrier crates mon token view) : (refresh crates token).Keeps mon (Stays view) := by
  unfold device_manager.refresh
  apply Method.keeps_bind Method.keeps_get
  intro self
  apply Method.keeps_bind (Method.keeps_ofExcept _)
  intro device_url
  apply Method.keeps_bind (hmon.fetch ⟨.inr rfl, .inr rfl⟩)
  intro answer
  apply Method.keeps_bind (Method.keeps_ofExcept _)
  intro response
  apply Method.keeps_bind (Method.keeps_reject _ _)
  intro _
  apply Method.keeps_bind (Method.keeps_reject _ _)
  intro _
  exact Method.keeps_ofExcept _

theorem register_new (hmon : Carrier crates mon token view) : (register_new crates token).Keeps mon (Stays view) := by
  unfold device_manager.register_new
  apply Method.keeps_bind (Method.keeps_attempt hmon.create_device)
  intro created
  split
  · exact Method.keeps_pure _
  · apply Method.keeps_bind hmon.reap_own_devices
    intro _
    exact hmon.create_device
  · exact Method.keeps_throw _

theorem register (hmon : Carrier crates mon token view) : (register crates token).Keeps mon (Stays view) := by
  have hfind : (find_reusable_device crates token).Keeps mon (Stays view) := by
    unfold find_reusable_device
    apply Method.keeps_bind (Method.keeps_attempt hmon.list_devices)
    intro listed
    split
    · exact Method.keeps_pure _
    · exact Method.keeps_pure _
  unfold device_manager.register
  apply Method.keeps_bind hfind
  intro found
  split
  · apply Method.keeps_bind (keeps_fields _)
    intro _
    apply Method.keeps_bind (Method.keeps_attempt hmon.refresh)
    intro refreshed
    split
    · exact Method.keeps_pure _
    · apply Method.keeps_bind (keeps_fields _)
      intro _
      exact hmon.register_new
  · exact hmon.register_new

theorem unregister (hmon : Carrier crates mon token view) : (unregister token).Keeps mon (Stays view) := by
  unfold device_manager.unregister
  apply Method.keeps_bind Method.keeps_get
  intro self
  apply Method.keeps_bind (Method.keeps_ofExcept _)
  intro device_url
  apply Method.keeps_bind (hmon.fetch ⟨.inr rfl, .inl rfl⟩)
  intro answer
  apply Method.keeps_bind (Method.keeps_ofExcept _)
  intro response
  apply Method.keeps_bind (Method.keeps_reject _ _)
  intro _
  apply Method.keeps_bind (Method.keeps_reject _ _)
  intro _
  exact keeps_fields _

end Carrier

end webex.rust.device_manager

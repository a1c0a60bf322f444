import Mathlib.Data.List.Induction
import WebexHandler.Interaction.Session
import WebexHandler.Registration.Protocol

open interaction json

namespace webex.registration

/-- The calls on a device manager. -/
inductive Call
  | register (token : String)
  | refresh (token : String)
  | unregister (token : String)
  deriving DecidableEq, Repr

/-- What a device manager does when it is called. Unregistering returns no registration. -/
def calls {Op σ ε Reg : Type} {Res : Op → Type} (register refresh : String → Method Op Res σ ε Reg)
    (unregister : String → Method Op Res σ ε Unit) : Call → Method Op Res σ ε (Option Reg)
  | .register token => do
    let reg ← register token
    return some reg
  | .refresh token => do
    let reg ← refresh token
    return some reg
  | .unregister token => do
    unregister token
    return none

abbrev Outcome : Type := Except Rejection (Option Registration)

abbrev Log : Type := List (Event Answer Call Rejection (Option Registration))

/-- The call under way with what it has asked the endpoint, the endpoints that the catalog has led
    to, and the devices that the server has named since the last one was given up. -/
structure Seen where
  call : Option Call := none
  sent : List (Exchange Answer) := []
  bases : List String := []
  named : List Value := []

namespace Seen

def answered (seen : Seen) : Exchange Answer → Seen
  | ⟨.catalog _, base⟩ => { seen with bases := seen.bases ++ [base] }
  | ⟨.list base token, own⟩ =>
    { seen with sent := seen.sent ++ [⟨.list base token, own⟩], named := seen.named ++ own.head?.toList }
  | ⟨.create base token, created⟩ =>
    { seen with sent := seen.sent ++ [⟨.create base token, created⟩],
                named := seen.named ++ (created.device.getD none).toList }
  | exchange => { seen with sent := seen.sent ++ [exchange] }

def see (seen : Seen) : Event Answer Call Rejection (Option Registration) → Seen
  | .called call => { seen with call := some call, sent := [] }
  | .answered exchange => seen.answered exchange
  | .returned (.ok none) => { seen with named := [] }
  | .returned _ => seen

end Seen

def observer : Observer Answer Call Rejection (Option Registration) Seen := { start := {}, see := Seen.see }

section order

variable (base token : String)

/-- What a registration has found out when it goes on to create a device. -/
inductive Unusable : List (Exchange Answer) → Prop
  | none : Unusable [⟨.list base token, []⟩]
  | stale (device : Value) (rest : List Value) (e : Rejection) :
    Unusable [⟨.list base token, device :: rest⟩, ⟨.refresh device token, .error e⟩]

/-- A creation that was refused because there are too many devices. -/
def Full (created : Created) : Prop := created.outcome = .error (.refused (some 403))

def reaped (devices : List Value) : List (Exchange Answer) := devices.map fun device => ⟨.reap device token, ()⟩

/-- The requests of a registration, in their order. -/
inductive Due : List (Exchange Answer) → Request → Prop
  | find : Due [] (.list base token)
  | reuse (device : Value) (rest : List Value) : Due [⟨.list base token, device :: rest⟩] (.refresh device token)
  | create {before : List (Exchange Answer)} (hunusable : Unusable base token before) : Due before (.create base token)
  | count {before : List (Exchange Answer)} {created : Created} (hunusable : Unusable base token before)
    (hfull : Full created) : Due (before ++ [⟨.create base token, created⟩]) (.list base token)
  | reap {before : List (Exchange Answer)} {created : Created} (hunusable : Unusable base token before)
    (hfull : Full created) (front : List Value) (device : Value) (back : List Value) :
    Due (before ++ ⟨.create base token, created⟩ :: ⟨.list base token, front ++ device :: back⟩ :: reaped token front)
      (.reap device token)
  | again {before : List (Exchange Answer)} {created : Created} (hunusable : Unusable base token before)
    (hfull : Full created) (own : List Value) :
    Due (before ++ ⟨.create base token, created⟩ :: ⟨.list base token, own⟩ :: reaped token own) (.create base token)

end order

/-- When a request may be sent. The catalog is asked once for all calls, and its endpoint is the
    endpoint of all of them. -/
inductive Orderly (seen : Seen) : Request → Prop
  | catalog {token : String} (hcall : seen.call = some (.register token)) (hfirst : seen.sent = [])
    (hnone : seen.bases = []) : Orderly seen (.catalog token)
  | due {base token : String} {req : Request} (hcall : seen.call = some (.register token)) (hbase : seen.bases = [base])
    (hdue : Due base token seen.sent req) : Orderly seen req
  | refresh {device : Value} {token : String} (hcall : seen.call = some (.refresh token)) (hfirst : seen.sent = [])
    (hnamed : device ∈ seen.named) : Orderly seen (.refresh device token)
  | unregister {device : Value} {token : String} (hcall : seen.call = some (.unregister token))
    (hfirst : seen.sent = []) (hnamed : device ∈ seen.named) : Orderly seen (.unregister device token)

/-- Which answer an outcome comes from. -/
inductive Fitting (seen : Seen) : Outcome → Prop
  | created {before : List (Exchange Answer)} {base token : String} {created : Created}
    (hcall : seen.call = some (.register token)) (hsent : seen.sent = before ++ [⟨.create base token, created⟩]) :
    Fitting seen (created.outcome.map some)
  | reused {before : List (Exchange Answer)} {device : Value} {token : String} {reg : Registration}
    (hcall : seen.call = some (.register token)) (hsent : seen.sent = before ++ [⟨.refresh device token, .ok reg⟩]) :
    Fitting seen (.ok (some reg))
  | refreshed {device : Value} {token : String} {outcome : Except Rejection Registration}
    (hcall : seen.call = some (.refresh token)) (hsent : seen.sent = [⟨.refresh device token, outcome⟩]) :
    Fitting seen (outcome.map some)
  | unregistered {device : Value} {token : String} {outcome : Except Rejection Unit}
    (hcall : seen.call = some (.unregister token)) (hsent : seen.sent = [⟨.unregister device token, outcome⟩]) :
    Fitting seen (outcome.map fun _ => none)
  | unknown {token : String} (hcall : seen.call = some (.refresh token) ∨ seen.call = some (.unregister token))
    (hsent : seen.sent = []) : Fitting seen (.error (.refused none))

/-- What the manager keeps has been seen. -/
structure Accounts (seen : Seen) (manager : Manager) : Prop where
  bases : seen.bases = manager.base.toList
  device : ∀ device ∈ manager.device, device ∈ seen.named

/-- `Method.Obeys` for what has been seen of a device manager. -/
abbrev Watches {α : Type} (m : Dm α) (self : Manager) (seen : Seen) (post : Except Rejection α → Manager → Seen → Prop) : Prop :=
  m.Obeys (observer.watching Orderly) self seen post

/-- A registration that has asked its endpoint this much. -/
structure At (token base : String) (sent : List (Exchange Answer)) (manager : Manager) (seen : Seen) : Prop where
  call : seen.call = some (.register token)
  sent : seen.sent = sent
  bases : seen.bases = [base]
  base : manager.base = some base
  device : ∀ device ∈ manager.device, device ∈ seen.named

section watches

variable {token base : String} {sent before : List (Exchange Answer)} {self : Manager} {seen : Seen}

theorem At.accounts (hat : At token base sent self seen) : Accounts seen self :=
  ⟨by rw [hat.bases, hat.base, Option.toList_some], hat.device⟩

theorem At.orderly (hat : At token base sent self seen) {req : Request} (hdue : Due base token sent req) :
    Orderly seen req :=
  .due hat.call hat.bases (by rwa [hat.sent])

theorem locate_watches (hcall : seen.call = some (.register token)) (hsent : seen.sent = []) (haccounts : Accounts seen self) :
    Watches (locate token) self seen fun r self' seen' => ∃ base, r = .ok base ∧ self'.device = self.device ∧
      At token base [] self' seen' := by
  unfold locate
  rw [Watches, Method.obeys_bind, Method.obeys_get]
  dsimp only
  cases hbase : self.base with
  | some base =>
    have hbases := haccounts.bases
    rw [hbase] at hbases
    exact ⟨base, rfl, rfl, hcall, hsent, hbases, hbase, haccounts.device⟩
  | none =>
    have hbases := haccounts.bases
    rw [hbase] at hbases
    dsimp only [ask]
    rw [Observer.obeys_bind_request]
    refine ⟨.catalog hcall hsent hbases, fun base => ⟨base, rfl, rfl, hcall, hsent, ?_, rfl, haccounts.device⟩⟩
    show seen.bases ++ [base] = [base]
    rw [hbases]
    rfl

/-- An endpoint that is known is not asked for. -/
theorem locate_at {α : Type} {f : String → Dm α} {post : Except Rejection α → Manager → Seen → Prop}
    (hat : At token base sent self seen) (hf : Watches (f base) self seen post) :
    Watches (locate token >>= f) self seen post := by
  rw [Watches, Method.obeys_bind, locate, Method.obeys_bind, Method.obeys_get]
  dsimp only
  rw [hat.base]
  exact hf

theorem list_watches (hcall : seen.call = some (.register token)) (hsent : seen.sent = []) (haccounts : Accounts seen self) :
    Watches (list token) self seen fun r self' seen' => ∃ base own, r = .ok own ∧
      At token base [⟨.list base token, own⟩] self' seen' ∧ ∀ device ∈ own.head?, device ∈ seen'.named := by
  refine (locate_watches hcall hsent haccounts).bind ?_ ?_
  · rintro base self' seen' ⟨_, hbase, -, hat⟩
    cases hbase
    refine ⟨hat.orderly .find, ?_⟩
    rintro own _ rfl
    refine ⟨base, own, rfl, ⟨hat.call, ?_, hat.bases, hat.base, fun device hdevice => ?_⟩, fun device hdevice => ?_⟩
    · show seen'.sent ++ [_] = [_]
      rw [hat.sent]
      rfl
    · exact List.mem_append_left _ (hat.device device hdevice)
    · exact List.mem_append_right _ (Option.mem_toList.mpr hdevice)
  · rintro e self' seen' ⟨_, hbase, -⟩
    cases hbase

theorem list_at (hat : At token base sent self seen) (hdue : Due base token sent (.list base token)) :
    Watches (list token) self seen fun r self' seen' => ∃ own, r = .ok own ∧
      At token base (sent ++ [⟨.list base token, own⟩]) self' seen' := by
  refine locate_at hat ⟨hat.orderly hdue, ?_⟩
  rintro own _ rfl
  refine ⟨own, rfl, hat.call, ?_, hat.bases, hat.base, fun device hdevice => ?_⟩
  · show seen.sent ++ [_] = _
    rw [hat.sent]
  · exact List.mem_append_left _ (hat.device device hdevice)

theorem create_at (hat : At token base sent self seen) (hdue : Due base token sent (.create base token)) :
    Watches (create token) self seen fun r self' seen' => ∃ created, r = created.outcome ∧
      At token base (sent ++ [⟨.create base token, created⟩]) self' seen' := by
  refine locate_at hat ?_
  dsimp only [ask]
  rw [Watches, Observer.obeys_bind_request]
  refine ⟨hat.orderly hdue, fun created => ⟨created, rfl, hat.call, ?_, hat.bases, hat.base, ?_⟩⟩
  · show seen.sent ++ [_] = _
    rw [hat.sent]
  · intro device hdevice
    show device ∈ seen.named ++ _
    change device ∈ created.device.getD self.device at hdevice
    cases hkept : created.device with
    | none =>
      rw [hkept] at hdevice
      exact List.mem_append_left _ (hat.device device hdevice)
    | some kept =>
      rw [hkept] at hdevice
      exact List.mem_append_right _ (Option.mem_toList.mpr hdevice)

theorem refresh_at {device : Value} (hat : At token base sent self seen) (hdevice : self.device = some device)
    (hdue : Due base token sent (.refresh device token)) :
    Watches (refresh token) self seen fun r self' seen' =>
      At token base (sent ++ [⟨.refresh device token, r⟩]) self' seen' := by
  unfold refresh
  rw [Watches, Method.obeys_bind, Method.obeys_get]
  dsimp only
  rw [Method.obeys_bind, Method.obeys_ofExcept, hdevice]
  dsimp only [Option.elim, ask]
  rw [Observer.obeys_bind_request]
  refine ⟨hat.orderly hdue, fun outcome => ⟨hat.call, ?_, hat.bases, hat.base, hat.device⟩⟩
  show seen.sent ++ [_] = _
  rw [hat.sent]

theorem reap_all_at {created : Created} (hunusable : Unusable base token before) (hfull : Full created)
    {front devices own : List Value} (hown : own = front ++ devices)
    (hat : At token base (before ++ ⟨.create base token, created⟩ :: ⟨.list base token, own⟩ :: reaped token front) self seen) :
    Watches (reap_all token devices) self seen fun r self' seen' => r = .ok () ∧
      At token base (before ++ ⟨.create base token, created⟩ :: ⟨.list base token, own⟩ :: reaped token own) self' seen' := by
  induction devices generalizing front seen with
  | nil =>
    rw [List.append_nil] at hown
    subst hown
    exact ⟨rfl, hat⟩
  | cons device rest ih =>
    rw [reap_all]
    dsimp only [ask]
    rw [Watches, Observer.obeys_bind_request]
    have hdue : Due base token (before ++ ⟨.create base token, created⟩ :: ⟨.list base token, own⟩ :: reaped token front)
        (.reap device token) := by
      rw [hown]
      exact .reap hunusable hfull front device rest
    have hsent : seen.sent ++ [⟨.reap device token, ()⟩] =
        before ++ ⟨.create base token, created⟩ :: ⟨.list base token, own⟩ :: reaped token (front ++ [device]) := by
      rw [hat.sent, reaped, reaped, List.map_append]
      simp
    have hreaped : own = (front ++ [device]) ++ rest := by
      rw [hown, List.append_assoc]
      rfl
    exact ⟨hat.orderly hdue, fun _ => ih hreaped ⟨hat.call, hsent, hat.bases, hat.base, hat.device⟩⟩

theorem reap_at {created : Created} (hunusable : Unusable base token before) (hfull : Full created)
    (hat : At token base (before ++ [⟨.create base token, created⟩]) self seen) :
    Watches (reap token) self seen fun r self' seen' => ∃ own, r = .ok () ∧
      At token base (before ++ ⟨.create base token, created⟩ :: ⟨.list base token, own⟩ :: reaped token own) self' seen' := by
  unfold reap
  refine (list_at hat (.count hunusable hfull)).bind ?_ ?_
  · rintro own self' seen' ⟨_, hown, hlisted⟩
    cases hown
    rw [List.append_assoc] at hlisted
    exact (reap_all_at hunusable hfull (List.nil_append own).symm hlisted).mono fun r self' seen' hreaped => ⟨own, hreaped⟩
  · rintro e self' seen' ⟨_, hown, -⟩
    cases hown

theorem register_new_at (hunusable : Unusable base token before) (hat : At token base before self seen) :
    Watches (register_new token) self seen fun r self' seen' => ∃ before created, r = created.outcome ∧
      At token base (before ++ [⟨.create base token, created⟩]) self' seen' := by
  unfold register_new
  rw [Watches, Method.obeys_bind, Method.obeys_attempt]
  refine (create_at hat (.create hunusable)).mono ?_
  rintro _ self' seen' ⟨created, rfl, hcreated⟩
  dsimp only
  cases houtcome : created.outcome with
  | ok reg => exact ⟨before, created, houtcome.symm, hcreated⟩
  | error e =>
    dsimp only
    rw [retry]
    by_cases hfull : e = .refused (some 403)
    · rw [if_pos hfull]
      rw [hfull] at houtcome
      refine (reap_at hunusable houtcome hcreated).bind ?_ ?_
      · rintro _ self' seen' ⟨own, -, hreaped⟩
        exact (create_at hreaped (.again hunusable houtcome own)).mono
          fun r self' seen' ⟨again, houtcome, hagain⟩ => ⟨_, again, houtcome, hagain⟩
      · rintro e self' seen' ⟨_, hok, -⟩
        cases hok
    · rw [if_neg hfull]
      exact ⟨before, created, houtcome.symm, hcreated⟩

/-- A registration, from a manager whose state has been seen. -/
theorem register_watches (hcall : seen.call = some (.register token)) (hsent : seen.sent = [])
    (haccounts : Accounts seen self) :
    Watches (register token) self seen fun r self' seen' => Fitting seen' (r.map some) ∧ Accounts seen' self' := by
  have hnew : ∀ {before base self seen}, Unusable base token before → At token base before self seen →
      Watches (register_new token) self seen fun r self' seen' => Fitting seen' (r.map some) ∧ Accounts seen' self' := by
    intro before base self seen hunusable hat
    refine (register_new_at hunusable hat).mono ?_
    rintro _ self' seen' ⟨before', created, rfl, hcreated⟩
    exact ⟨.created hcreated.call hcreated.sent, hcreated.accounts⟩
  unfold register
  have hfind : Watches (find token) self seen fun r self' seen' => ∃ base own, r = .ok own.head? ∧
      At token base [⟨.list base token, own⟩] self' seen' ∧ ∀ device ∈ own.head?, device ∈ seen'.named := by
    refine (list_watches hcall hsent haccounts).bind ?_ ?_
    · rintro own self' seen' ⟨base, _, hown, hlisted⟩
      cases hown
      exact ⟨base, own, rfl, hlisted⟩
    · rintro e self' seen' ⟨_, _, hown, -⟩
      cases hown
  refine hfind.bind ?_ ?_
  · rintro found self' seen' ⟨base, own, hfound, hlisted, hnamed⟩
    cases hfound
    cases own with
    | nil => exact hnew .none hlisted
    | cons device rest =>
      have hadopted : At token base [⟨.list base token, device :: rest⟩] { self' with device := some device } seen' :=
        ⟨hlisted.call, hlisted.sent, hlisted.bases, hlisted.base, hnamed⟩
      dsimp only [List.head?_cons]
      rw [Method.obeys_bind, Method.obeys_modify]
      dsimp only
      rw [Method.obeys_bind, Method.obeys_attempt]
      refine (refresh_at hadopted rfl (.reuse device rest)).mono ?_
      intro r self' seen' hrefreshed
      cases r with
      | ok reg => exact ⟨.reused hrefreshed.call hrefreshed.sent, hrefreshed.accounts⟩
      | error e =>
        refine hnew (.stale device rest e) ⟨hrefreshed.call, hrefreshed.sent, hrefreshed.bases, hrefreshed.base, ?_⟩
        simp
  · rintro e self' seen' ⟨_, _, hfound, -⟩
    cases hfound

/-- What a call that needs a device does in a manager that has none. -/
theorem registered_watches {α : Type} {rest : Value → Dm α} {post : Except Rejection α → Manager → Seen → Prop}
    (hnone : post (.error (.refused none)) self seen)
    (hrest : ∀ device ∈ self.device, Watches (rest device) self seen post) :
    Watches (Method.ofExcept (self.device.elim (.error (.refused none)) .ok) >>= rest) self seen post := by
  rw [Watches, Method.obeys_bind, Method.obeys_ofExcept]
  cases hdevice : self.device with
  | none => exact hnone
  | some device => exact hrest device hdevice

theorem refresh_watches (hcall : seen.call = some (.refresh token)) (hsent : seen.sent = []) (haccounts : Accounts seen self) :
    Watches (refresh token) self seen fun r self' seen' => Fitting seen' (r.map some) ∧ Accounts seen' self' := by
  unfold refresh
  rw [Watches, Method.obeys_bind, Method.obeys_get]
  refine registered_watches ⟨.unknown (.inl hcall) hsent, haccounts⟩ fun device hdevice => ?_
  dsimp only [ask]
  rw [Watches, Observer.obeys_bind_request]
  refine ⟨.refresh hcall hsent (haccounts.device device hdevice), fun outcome => ⟨?_, haccounts.bases, haccounts.device⟩⟩
  refine @Fitting.refreshed _ device token outcome hcall ?_
  show seen.sent ++ [_] = [_]
  rw [hsent]
  rfl

theorem unregister_watches (hcall : seen.call = some (.unregister token)) (hsent : seen.sent = [])
    (haccounts : Accounts seen self) :
    Watches (unregister token) self seen fun r self' seen' => Fitting seen' (r.map fun _ => none) ∧
      seen'.bases = self'.base.toList ∧ (r = .ok () → self'.device = none) ∧
        ∀ device ∈ self'.device, device ∈ seen'.named := by
  unfold unregister
  rw [Watches, Method.obeys_bind, Method.obeys_get]
  refine registered_watches ⟨.unknown (.inr hcall) hsent, haccounts.bases, by simp, haccounts.device⟩ fun device hdevice => ?_
  dsimp only [ask]
  rw [Watches, Observer.obeys_bind_request]
  refine ⟨.unregister hcall hsent (haccounts.device device hdevice), fun outcome => ?_⟩
  have hfitting : Fitting (observer.see seen (.answered ⟨.unregister device token, outcome⟩)) (outcome.map fun _ => none) := by
    refine @Fitting.unregistered _ device token outcome hcall ?_
    show seen.sent ++ [_] = [_]
    rw [hsent]
    rfl
  cases outcome with
  | ok _ => exact ⟨hfitting, haccounts.bases, fun _ => rfl, by simp⟩
  | error e => exact ⟨hfitting, haccounts.bases, by simp, haccounts.device⟩

theorem calls_watches (call : Call) (haccounts : Accounts seen self) :
    Watches (calls register refresh unregister call) self (observer.see seen (.called call)) fun r self' seen' =>
      Fitting seen' r ∧ Accounts (observer.see seen' (.returned r)) self' := by
  have hregistered : ∀ {m : Dm Registration}, Watches m self (observer.see seen (.called call))
      (fun r self' seen' => Fitting seen' (r.map some) ∧ Accounts seen' self') →
      Watches (m >>= fun reg => return some reg) self (observer.see seen (.called call)) fun r self' seen' =>
        Fitting seen' r ∧ Accounts (observer.see seen' (.returned r)) self' := by
    intro m hm
    exact hm.bind (fun reg self' seen' hreg => hreg) fun e self' seen' he => he
  cases call with
  | register token => exact hregistered (register_watches rfl rfl ⟨haccounts.bases, haccounts.device⟩)
  | refresh token => exact hregistered (refresh_watches rfl rfl ⟨haccounts.bases, haccounts.device⟩)
  | unregister token =>
    have hunregistered := @unregister_watches token self (observer.see seen (.called (.unregister token))) rfl rfl
      ⟨haccounts.bases, haccounts.device⟩
    refine hunregistered.bind ?_ ?_
    · rintro _ self' seen' ⟨hfitting, hbases, hcleared, -⟩
      refine ⟨hfitting, hbases, ?_⟩
      rw [hcleared rfl]
      simp
    · rintro e self' seen' ⟨hfitting, hbases, -, hdevice⟩
      exact ⟨hfitting, hbases, hdevice⟩

end watches

section limits

def Request.is_list : Request → Bool
  | .list _ _ => true
  | _ => false

def Request.is_refresh : Request → Bool
  | .refresh _ _ => true
  | _ => false

def Request.is_create : Request → Bool
  | .create _ _ => true
  | _ => false

def occurrences (kind : Request → Bool) (sent : List (Exchange Answer)) : Nat := sent.countP fun exchange => kind exchange.1

/-- How often a call sends each request. -/
structure Limited (sent : List (Exchange Answer)) : Prop where
  listings : occurrences Request.is_list sent ≤ 2
  refreshes : occurrences Request.is_refresh sent ≤ 1
  creations : occurrences Request.is_create sent ≤ 2

/-- What has been seen of a device manager in a run that keeps to the protocol. -/
structure Disciplined (log : Log) : Prop where
  orderly : ∀ before req answer later, log = before ++ .answered ⟨req, answer⟩ :: later →
    Orderly (observer.after before) req
  fitting : ∀ before outcome later, log = before ++ .returned outcome :: later → Fitting (observer.after before) outcome
  limited : ∀ before later, log = before ++ later → Limited (observer.after before).sent

variable {base token : String} {sent before : List (Exchange Answer)} {req : Request}

@[simp]
theorem occurrences_append (kind : Request → Bool) (sent more : List (Exchange Answer)) :
    occurrences kind (sent ++ more) = occurrences kind sent + occurrences kind more := List.countP_append

@[simp]
theorem occurrences_cons (kind : Request → Bool) (exchange : Exchange Answer) (sent : List (Exchange Answer)) :
    occurrences kind (exchange :: sent) = occurrences kind sent + if kind exchange.1 then 1 else 0 := List.countP_cons

@[simp]
theorem occurrences_nil (kind : Request → Bool) : occurrences kind [] = 0 := rfl

theorem reaped_counts (devices : List Value) : occurrences Request.is_list (reaped token devices) = 0 ∧
    occurrences Request.is_refresh (reaped token devices) = 0 ∧ occurrences Request.is_create (reaped token devices) = 0 := by
  induction devices with
  | nil => exact ⟨rfl, rfl, rfl⟩
  | cons device rest ih => exact ih

theorem limited_nil : Limited [] := ⟨by decide, by decide, by decide⟩

theorem limited_singleton (exchange : Exchange Answer) : Limited [exchange] := by
  have hcount : ∀ kind, occurrences kind [exchange] ≤ 1 := fun kind => List.countP_le_length
  exact ⟨Nat.le_trans (hcount _) (by decide), hcount _, Nat.le_trans (hcount _) (by decide)⟩

theorem Unusable.counts (hunusable : Unusable base token before) : occurrences Request.is_list before = 1 ∧
    occurrences Request.is_refresh before ≤ 1 ∧ occurrences Request.is_create before = 0 := by
  cases hunusable with
  | none => exact ⟨rfl, Nat.zero_le _, rfl⟩
  | stale device rest e => exact ⟨rfl, Nat.le_refl _, rfl⟩

/-- A registration stays within the limits with the request that is due. -/
theorem Due.limited (hdue : Due base token sent req) (answer : Answer req) : Limited (sent ++ [⟨req, answer⟩]) := by
  cases hdue with
  | find => exact limited_singleton _
  | reuse device rest => exact ⟨Nat.le_succ _, Nat.le_refl _, Nat.zero_le _⟩
  | create hunusable =>
    obtain ⟨hlistings, hrefreshes, hcreations⟩ := hunusable.counts
    constructor <;> simp [Request.is_list, Request.is_refresh, Request.is_create] <;> omega
  | count hunusable hfull =>
    obtain ⟨hlistings, hrefreshes, hcreations⟩ := hunusable.counts
    constructor <;> simp [Request.is_list, Request.is_refresh, Request.is_create] <;> omega
  | reap hunusable hfull front device back =>
    obtain ⟨hlistings, hrefreshes, hcreations⟩ := hunusable.counts
    obtain ⟨hlisted, hrefreshed, hcreated⟩ := @reaped_counts token front
    constructor <;> simp [Request.is_list, Request.is_refresh, Request.is_create] <;> omega
  | again hunusable hfull own =>
    obtain ⟨hlistings, hrefreshes, hcreations⟩ := hunusable.counts
    obtain ⟨hlisted, hrefreshed, hcreated⟩ := @reaped_counts token own
    constructor <;> simp [Request.is_list, Request.is_refresh, Request.is_create] <;> omega

theorem limited_of_orderly {log : Log}
    (horderly : ∀ before req answer later, log = before ++ .answered ⟨req, answer⟩ :: later →
      Orderly (observer.after before) req) : Limited (observer.after log).sent := by
  induction log using List.reverseRecOn with
  | nil => exact limited_nil
  | append_singleton log event ih =>
    have hlimited := ih fun before req answer later hlog =>
      horderly before req answer (later ++ [event]) (by rw [hlog, List.append_assoc, List.cons_append])
    rw [Observer.after_append]
    cases event with
    | called call => exact limited_nil
    | returned outcome =>
      show Limited ((observer.after log).see (.returned outcome)).sent
      unfold Seen.see
      split
      · rename_i heq
        cases heq
      · rename_i heq
        cases heq
      · exact hlimited
      · exact hlimited
    | answered exchange =>
      obtain ⟨req, answer⟩ := exchange
      have hnext : Limited ((observer.after log).sent ++ [⟨req, answer⟩]) := by
        cases horderly log req answer [] rfl with
        | due hcall hbase hdue => exact hdue.limited answer
        | catalog hcall hfirst hnone =>
          rw [hfirst]
          exact limited_singleton _
        | refresh hcall hfirst hnamed =>
          rw [hfirst]
          exact limited_singleton _
        | unregister hcall hfirst hnamed =>
          rw [hfirst]
          exact limited_singleton _
      cases req with
      | catalog token => exact hlimited
      | _ => exact hnext

end limits

/-- The runs of the protocol keep to its discipline, whatever the manager is asked and answered. -/
theorem run_disciplined {log : Log} {session : Session Request Answer Manager Rejection (Option Registration)}
    (hrun : Session.Run (calls register refresh unregister) {} log session) : Disciplined log ∧
      session.Watched observer Orderly Fitting Accounts (observer.after log) := by
  have haccounts : Accounts observer.start {} := ⟨rfl, by simp⟩
  obtain ⟨halong, hwatched⟩ := hrun.watched haccounts fun seen self call haccounts => calls_watches call haccounts
  have horderly : ∀ before req answer later, log = before ++ .answered ⟨req, answer⟩ :: later →
      Orderly (observer.after before) req := fun before req answer later hlog => halong.split hlog
  refine ⟨⟨horderly, fun before outcome later hlog => halong.split hlog, ?_⟩, hwatched⟩
  intro before later hlog
  refine limited_of_orderly fun earlier req answer rest hbefore => horderly earlier req answer (rest ++ later) ?_
  rw [hlog, hbefore, List.append_assoc, List.cons_append]

end webex.registration

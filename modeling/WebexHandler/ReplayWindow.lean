import Mathlib.Algebra.Order.Group.Defs
import Mathlib.Algebra.Order.Group.Int
import Mathlib.Algebra.Order.Ring.Rat
import WebexHandler.Interaction.Pool
import WebexHandler.Transition.Machine

open interaction transition

namespace webex.replay_window

/-- An activity, as far as its handling decides about a callback. -/
structure Activity where
  id : String
  verb : String
  object_type : String

/-- One of the routes of the activity handler takes the activity. -/
def Activity.is_routed (activity : Activity) : Bool :=
  (["post", "update", "share"].contains activity.verb && ["comment", "content"].contains activity.object_type) ||
    (activity.verb == "delete" && activity.object_type == "activity") ||
    (["add", "leave", "assignModerator", "unassignModerator"].contains activity.verb &&
      activity.object_type == "person") ||
    (activity.verb == "cardAction" && activity.object_type == "submit") ||
    (["create", "update"].contains activity.verb && activity.object_type == "conversation")

/-- The operations of an activity handler. `lock` and `unlock` are those of the mutex in
    Go; in Node and Python they delimit a stretch without an `await`. -/
inductive Op (T : Type)
  | lock
  | unlock
  | contains (id : String)
  | insert (id : String) (seen : T)
  | size
  | sweep (cutoff : T)
  | now
  /-- The decryption, the filter and the callback of the route that takes the activity. -/
  | route (activity : Activity)

def Res (T : Type) : Op T → Type
  | .contains _ => Bool
  | .size => Nat
  | .now => T
  | _ => Unit

abbrev Handle (T α : Type) : Type := Program (Op T) (Res T) α

section handler

variable {T : Type}

def lock : Handle T Unit := Program.request Op.lock
def unlock : Handle T Unit := Program.request Op.unlock
def contains (id : String) : Handle T Bool := Program.request (Op.contains id)
def insert (id : String) (seen : T) : Handle T Unit := Program.request (Op.insert id seen)
def size : Handle T Nat := Program.request Op.size
def sweep (cutoff : T) : Handle T Unit := Program.request (Op.sweep cutoff)
def now : Handle T T := Program.request Op.now
def route (activity : Activity) : Handle T Unit := Program.request (Op.route activity)

variable [AddCommGroup T] [LinearOrder T]

/-- The replay check of an activity handler, and what follows it. -/
def handle_activity (five_minutes : T) (activity : Activity) : Handle T Unit := do
  lock
  if ← contains activity.id then unlock
  else do
    let seen ← now
    insert activity.id seen
    if (← size) % 100 = 0 then do
      let instant ← now
      sweep (instant - five_minutes)
      unlock
      route activity
    else do
      unlock
      route activity

/-- The time at which a call looked for its id, and what it found. -/
structure Check (T : Type) where
  call : Nat
  id : String
  time : T
  found : Bool

/-- An entry that a sweep removed, with the call that swept and the time. -/
structure Removal (T : Type) where
  call : Nat
  id : String
  seen : T
  time : T

/-- A time that a call has read from the clock. -/
structure Reading (T : Type) where
  call : Nat
  time : T

/-- The map of recent ids and its lock. The rest is a record of the run. -/
structure Env (T : Type) where
  clock : T
  recent : List (String × T) := []
  owner : Option Nat := none
  checks : List (Check T) := []
  readings : List (Reading T) := []
  removals : List (Removal T) := []
  /-- The calls that have invoked a callback. -/
  callbacks : List Nat := []

/-- An operation of a call. `invoked` says whether the route gets as far as a callback. -/
def perform (tid : Nat) : (op : Op T) → (invoked : Bool) → Env T → Option (Res T op × Env T × List (Task (Op T) (Res T)))
  | .lock, _, env => if env.owner = none then some ((), { env with owner := some tid }, []) else none
  | .unlock, _, env => some ((), { env with owner := none }, [])
  | .contains id, _, env =>
    let found := env.recent.any (·.1 == id)
    some (found, { env with checks := env.checks ++ [⟨tid, id, env.clock, found⟩] }, [])
  | .insert id seen, _, env =>
    some ((), { env with recent := (id, seen) :: env.recent.filter (fun entry => entry.1 != id) }, [])
  | .size, _, env => some (env.recent.length, env, [])
  | .sweep cutoff, _, env =>
    some ((), { env with
      recent := env.recent.filter (fun entry => !decide (entry.2 < cutoff))
      removals := env.removals ++ (env.recent.filter (fun entry => decide (entry.2 < cutoff))).map
        fun entry => ⟨tid, entry.1, entry.2, env.clock⟩ }, [])
  | .now, _, env => some (env.clock, { env with readings := env.readings ++ [⟨tid, env.clock⟩] }, [])
  | .route activity, invoked, env =>
    if invoked then
      if activity.is_routed then some ((), { env with callbacks := env.callbacks ++ [tid] }, []) else none
    else some ((), env, [])

inductive Label (T : Type)
  | deliver (activity : Activity)
  | perform (tid : Nat) (invoked : Bool)
  | tick (duration : T)

abbrev Handling (T : Type) : Type := Pool (Op T) (Res T) (Env T)

/-- All interleavings of calls of an activity handler, with a clock that never goes
    back. -/
def handling (five_minutes start : T) : Machine (Handling T) (Label T) where
  init := { env := { clock := start }, tasks := [] }
  step s
    | .deliver activity => some { s with tasks := s.tasks ++ [{ rest := handle_activity five_minutes activity }] }
    | .perform tid invoked => s.advance perform tid invoked
    | .tick duration =>
      if 0 ≤ duration then some { s with env := { s.env with clock := s.env.clock + duration } } else none

/-- A later activity with the same id invokes no callback within five minutes, and a
    sweep removes neither a younger entry nor the one of the call that sweeps. -/
structure Deduplicated (five_minutes : T) (env : Env T) : Prop where
  window : ∀ (i j : Nat) first second, i < j → env.checks[i]? = some first → env.checks[j]? = some second →
    first.id = second.id → second.time - first.time ≤ five_minutes → second.call ∉ env.callbacks
  young : ∀ removal ∈ env.removals, five_minutes < removal.time - removal.seen
  own : ∀ removal ∈ env.removals, ∀ check ∈ env.checks, check.call = removal.call → check.id ≠ removal.id

/-- The times that a call has read, in order: one when it records its id, and one when it
    sweeps. -/
def Env.readings_of (env : Env T) (call : Nat) : List T := (env.readings.filter (·.call == call)).map (·.time)

/-- The last delivery of an id that the map did not hold. -/
def Env.last_absent (env : Env T) (id : String) : Option (Check T) :=
  (env.checks.filter fun check => check.id == id && !check.found).getLast?

/-- The clock advances by at most five minutes from one reading of the call to the other. -/
def prompt (five_minutes : T) (env : Env T) (call : Nat) : Bool :=
  match env.readings_of call with
  | [recorded, swept] => decide (swept - recorded ≤ five_minutes)
  | _ => true

/-- An id that the map has held for more than five minutes when a call reads the clock for
    its sweep has not been delivered within the last five minutes. -/
def unrepeated (five_minutes : T) (env : Env T) (call : Nat) : Bool :=
  match env.readings_of call with
  | [_, swept] => env.checks.all fun check =>
    let held_since := (env.last_absent check.id).bind fun first => (env.readings_of first.call).head?
    held_since.all fun recorded => decide (swept - recorded ≤ five_minutes) || decide (five_minutes < env.clock - check.time)
  | _ => true

/-- The condition on a sweep. -/
def quiet_sweep (five_minutes : T) (s : Handling T) : Label T → Bool
  | .perform tid _ =>
    match s.head tid with
    | some (.sweep _) => prompt five_minutes s.env tid && unrepeated five_minutes s.env tid
    | _ => true
  | _ => true

/-- How far a call has come. -/
inductive Stage (T : Type)
  | waiting (id : String)
  | locked (id : String)
  | known
  | absent (id : String)
  | recording (id : String) (seen : T)
  | inserted (id : String) (seen : T)
  | due (id : String) (seen : T)
  | sweeping (id : String) (seen instant : T)
  | leaving
  | passed
  | routed
  | finished

namespace Stage

def after : Stage T → (op : Op T) → Res T op → Stage T
  | .waiting id, .lock, _ => .locked id
  | .locked _, .contains _, true => .known
  | .locked id, .contains _, false => .absent id
  | .known, .unlock, _ => .finished
  | .absent id, .now, seen => .recording id seen
  | .recording id seen, .insert _ _, _ => .inserted id seen
  | .inserted id seen, .size, size => if (show Nat from size) % 100 = 0 then .due id seen else .leaving
  | .due id seen, .now, instant => .sweeping id seen instant
  | .sweeping _ _ _, .sweep _, _ => .leaving
  | .leaving, .unlock, _ => .passed
  | .passed, .route _, _ => .routed
  | stage, _, _ => stage

/-- The lock is held. -/
def holds : Stage T → Bool
  | .waiting _ | .passed | .routed | .finished => false
  | _ => true

/-- The call has not looked for its id yet. -/
def early : Stage T → Bool
  | .waiting _ | .locked _ => true
  | _ => false

/-- The id that the call has not found and is about to insert. -/
def pending : Stage T → Option String
  | .absent id | .recording id _ => some id
  | _ => none

/-- The entry that the call has inserted and has still to sweep by. -/
def recorded : Stage T → Option (String × T)
  | .inserted id seen | .due id seen | .sweeping id seen _ => some (id, seen)
  | _ => none

/-- The times that the call has read, as long as they matter. -/
def readings : Stage T → Option (List T)
  | .recording _ seen | .inserted _ seen | .due _ seen => some [seen]
  | .sweeping _ seen instant => some [seen, instant]
  | .leaving | .passed | .routed => none
  | _ => some []

/-- The call has found its id. -/
def turned_away : Stage T → Bool
  | .known | .finished => true
  | _ => false

/-- What a call relies on while it holds the lock. -/
structure Held (env : Env T) (tid : Nat) (g : Stage T) : Prop where
  owner : env.owner = some tid
  absent : ∀ id, g.pending = some id → ∃ first, env.last_absent id = some first ∧ first.call = tid
  kept : ∀ id seen, g.recorded = some (id, seen) → ∀ entry ∈ env.recent, entry.1 = id → entry.2 = seen
  own : ∀ check ∈ env.checks, check.call = tid →
    ∀ id, (g.pending = some id ∨ ∃ seen, g.recorded = some (id, seen)) → check.id = id

end Stage

/-- The operations of a call, in their order. -/
def checking (five_minutes : T) : Monitor (Op T) (Res T) (Stage T) where
  allowed stage op := match stage, op with
    | .waiting _, .lock => True
    | .locked id, .contains other => other = id
    | .known, .unlock => True
    | .absent _, .now => True
    | .recording id seen, .insert other time => other = id ∧ time = seen
    | .inserted _ _, .size => True
    | .due _ _, .now => True
    | .sweeping _ _ instant, .sweep cutoff => cutoff = instant - five_minutes
    | .leaving, .unlock => True
    | .passed, .route _ => True
    | _, _ => False
  moves stage op r stage' := stage' = stage.after op r

omit [LinearOrder T] in
theorem handle_activity_checks (five_minutes : T) (activity : Activity) :
    (handle_activity five_minutes activity).Obeys (checking five_minutes) (fun _ _ => True) (.waiting activity.id) := by
  refine ⟨trivial, ?_⟩
  rintro _ _ rfl
  refine ⟨rfl, ?_⟩
  rintro found _ rfl
  cases found with
  | true => exact ⟨trivial, fun _ _ _ => trivial⟩
  | false =>
    refine ⟨trivial, ?_⟩
    rintro seen _ rfl
    refine ⟨⟨rfl, rfl⟩, ?_⟩
    rintro _ _ rfl
    refine ⟨trivial, ?_⟩
    rintro size _ rfl
    have hleave : ((do unlock; route activity) : Handle T Unit).Obeys (checking five_minutes) (fun _ _ => True) .leaving := by
      refine ⟨trivial, ?_⟩
      rintro _ _ rfl
      exact ⟨trivial, fun _ _ _ => trivial⟩
    show (if (show Nat from size) % 100 = 0 then _ else _ : Handle T Unit).Obeys (checking five_minutes)
      (fun _ _ => True) (if (show Nat from size) % 100 = 0 then .due activity.id seen else .leaving)
    split
    · refine ⟨trivial, ?_⟩
      rintro instant _ rfl
      refine ⟨rfl, ?_⟩
      rintro _ _ rfl
      exact hleave
    · exact hleave

section record

omit [AddCommGroup T] [LinearOrder T] in
theorem readings_of_append (env : Env T) (reading : Reading T) (other : Nat) :
    ({ env with readings := env.readings ++ [reading] } : Env T).readings_of other =
      env.readings_of other ++ if reading.call = other then [reading.time] else [] := by
  simp only [Env.readings_of, List.filter_append, List.map_append]
  by_cases hcall : reading.call = other
  · simp [hcall]
  · simp [hcall]

omit [AddCommGroup T] [LinearOrder T] in
theorem last_absent_append (env : Env T) (check : Check T) (id : String) :
    ({ env with checks := env.checks ++ [check] } : Env T).last_absent id =
      if check.id = id ∧ check.found = false then some check else env.last_absent id := by
  simp only [Env.last_absent, List.filter_append]
  by_cases hcheck : check.id = id ∧ check.found = false
  · simp [hcheck]
  · rw [if_neg hcheck]
    have hnone : [check].filter (fun check => check.id == id && !check.found) = [] := by simpa using hcheck
    rw [hnone, List.append_nil]

end record

/-- How the stages of the calls fit the map and the record of the run. -/
structure Windowed (five_minutes : T) (env : Env T) (views : List (Stage T)) : Prop where
  held : ∀ (tid : Nat) g, views[tid]? = some g → g.holds = true → g.Held env tid
  read : ∀ (tid : Nat) g times, views[tid]? = some g → g.readings = some times → env.readings_of tid = times
  readings : ∀ reading ∈ env.readings, reading.call < views.length ∧ reading.time ≤ env.clock
  recorded : ∀ entry ∈ env.recent, ∃ first, env.last_absent entry.1 = some first ∧
    (env.readings_of first.call).head? = some entry.2
  kept : ∀ check ∈ env.checks, (∃ seen, (check.id, seen) ∈ env.recent) ∨
    (∃ g, views[check.call]? = some g ∧ g.pending = some check.id) ∨ five_minutes < env.clock - check.time
  apart : ∀ (i j : Nat) first second, i < j → env.checks[i]? = some first → env.checks[j]? = some second →
    first.id = second.id → second.found = false → five_minutes < second.time - first.time
  late : ∀ check ∈ env.checks, ∃ g, views[check.call]? = some g ∧ g.early = false ∧
    (check.found = true → g.turned_away = true)
  swept : ∀ removal ∈ env.removals, ∃ g, views[removal.call]? = some g ∧ g.early = false
  routed : ∀ tid ∈ env.callbacks, views[tid]? = some .routed
  young : ∀ removal ∈ env.removals, five_minutes < removal.time - removal.seen
  own : ∀ removal ∈ env.removals, ∀ check ∈ env.checks, check.call = removal.call → check.id ≠ removal.id

namespace Windowed

variable {five_minutes : T} {env env' : Env T} {views : List (Stage T)} {tid : Nat} {g g' : Stage T}

/-- While a call holds the lock, no other does. -/
theorem only_holder (hview : Windowed five_minutes env views) (hg : views[tid]? = some g) (hholds : g.holds = true)
    {other : Nat} {h : Stage T} (hother : views[other]? = some h) (hheld : h.holds = true) : other = tid := by
  have howner := (hview.held other h hother hheld).owner
  rw [(hview.held tid g hg hholds).owner, Option.some.injEq] at howner
  exact howner.symm

/-- What a call that moves on under the lock relies on is all that has to be shown. -/
theorem held_set (hview : Windowed five_minutes env views) (hg : views[tid]? = some g) (hholds : g.holds = true)
    (hself : g'.holds = true → g'.Held env' tid) :
    ∀ (other : Nat) h, (views.set tid g')[other]? = some h → h.holds = true → h.Held env' other := by
  intro other h hh hheld
  obtain ⟨rfl, rfl⟩ | ⟨hother, hh⟩ := getElem?_set_cases hh
  · exact hself hheld
  · exact absurd (hview.only_holder hg hholds hh hheld) hother

omit [AddCommGroup T] [LinearOrder T] in
theorem read_set {env : Env T}
    (hread : ∀ (other : Nat) h times, views[other]? = some h → h.readings = some times → env.readings_of other = times)
    (hself : ∀ times, g'.readings = some times → env.readings_of tid = times) :
    ∀ (other : Nat) h times, (views.set tid g')[other]? = some h → h.readings = some times →
      env.readings_of other = times := by
  intro other h times hh htimes
  obtain ⟨rfl, rfl⟩ | ⟨-, hh⟩ := getElem?_set_cases hh
  · exact hself times htimes
  · exact hread other h times hh htimes

omit [AddCommGroup T] [LinearOrder T] in
/-- A fact about the stage of one call, when that of another one changes. -/
theorem carry (hg : views[tid]? = some g) (prop : Stage T → Prop) (himp : prop g → prop g') (call : Nat)
    (hprop : ∃ h, views[call]? = some h ∧ prop h) : ∃ h, (views.set tid g')[call]? = some h ∧ prop h := by
  obtain ⟨h, hh, hprop⟩ := hprop
  by_cases hcall : call = tid
  · subst hcall
    obtain rfl : g = h := by simpa [hg] using hh
    exact ⟨g', List.getElem?_set_self (List.getElem?_eq_some_iff.mp hg).1, himp hprop⟩
  · exact ⟨h, (List.getElem?_set_ne (Ne.symm hcall)).trans hh, hprop⟩

theorem routed_set (hview : Windowed five_minutes env views) (hg : views[tid]? = some g) (hne : g ≠ .routed) :
    ∀ other ∈ env.callbacks, (views.set tid g')[other]? = some .routed := by
  intro other hother
  have hh := hview.routed other hother
  by_cases heq : other = tid
  · subst heq
    exact absurd (by simpa [hg] using hh) hne
  · exact (List.getElem?_set_ne (Ne.symm heq)).trans hh

theorem readings_set (hview : Windowed five_minutes env views) : ∀ reading ∈ env.readings,
    reading.call < (views.set tid g').length ∧ reading.time ≤ env.clock := by
  rw [List.length_set]
  exact hview.readings

/-- A call goes on, with no change but to the lock. -/
theorem go_on (hview : Windowed five_minutes env views) (hg : views[tid]? = some g)
    (hheld : ∀ (other : Nat) h, (views.set tid g')[other]? = some h → h.holds = true → h.Held env' other)
    (hreadings : ∀ times, g'.readings = some times → g.readings = some times) (hpending : g'.pending = g.pending)
    (hearly : g.early = false → g'.early = false) (haway : g.turned_away = true → g'.turned_away = true)
    (hrouted : g ≠ .routed) (henv : env' = { env with owner := env'.owner }) :
    Windowed five_minutes env' (views.set tid g') := by
  rw [henv] at hheld ⊢
  exact {
    held := hheld
    read := read_set hview.read fun times htimes => hview.read tid g times hg (hreadings times htimes)
    readings := hview.readings_set
    recorded := hview.recorded
    kept := by
      intro check hcheck
      obtain hseen | hpend | hold := hview.kept check hcheck
      · exact .inl hseen
      · exact .inr (.inl (carry hg (fun h => h.pending = some check.id) (fun hp => hpending.trans hp) check.call hpend))
      · exact .inr (.inr hold)
    apart := hview.apart
    late := by
      intro check hcheck
      refine carry hg (fun h => h.early = false ∧ (check.found = true → h.turned_away = true)) ?_ check.call
        (hview.late check hcheck)
      rintro ⟨hlate, hturned⟩
      exact ⟨hearly hlate, fun hfound => haway (hturned hfound)⟩
    swept := fun removal hremoval => carry hg (fun h => h.early = false) hearly removal.call (hview.swept removal hremoval)
    routed := hview.routed_set hg hrouted
    young := hview.young
    own := hview.own }

/-- A call looks for its id. When it does not find it, every earlier delivery of the id is
    more than five minutes old. -/
theorem contains {id : String} (hview : Windowed five_minutes env views) (hg : views[tid]? = some (.locked id))
    {found : Bool} (hfound : found = env.recent.any (·.1 == id)) (hg' : g' = if found then .known else .absent id) :
    Windowed five_minutes { env with checks := env.checks ++ [⟨tid, id, env.clock, found⟩] } (views.set tid g') := by
  have hlt : tid < views.length := (List.getElem?_eq_some_iff.mp hg).1
  have hheld := hview.held tid _ hg rfl
  have hpending : g'.pending = if found then none else some id := by
    cases found with
    | true => rw [hg']; rfl
    | false => rw [hg']; rfl
  have hrecorded : g'.recorded = none := by
    cases found with
    | true => rw [hg']; rfl
    | false => rw [hg']; rfl
  have hreadings : g'.readings = some [] := by
    cases found with
    | true => rw [hg']; rfl
    | false => rw [hg']; rfl
  have hlate : g'.early = false ∧ (found = true → g'.turned_away = true) := by
    cases found with
    | true => rw [hg']; exact ⟨rfl, fun _ => rfl⟩
    | false => rw [hg']; exact ⟨rfl, nofun⟩
  have hself : ∀ check ∈ env.checks, check.call ≠ tid := by
    intro check hcheck hcall
    obtain ⟨h, hh, hearly, -⟩ := hview.late check hcheck
    rw [hcall, hg, Option.some.injEq] at hh
    subst hh
    cases hearly
  exact {
    held := by
      refine hview.held_set hg rfl fun _ => ⟨hheld.owner, ?_, ?_, ?_⟩
      · intro other hother
        rw [hpending] at hother
        rw [last_absent_append]
        cases found with
        | true => cases hother
        | false =>
          obtain rfl := Option.some.inj hother
          exact ⟨_, if_pos ⟨rfl, rfl⟩, rfl⟩
      · simp [hrecorded]
      · intro check hcheck hcall other hother
        obtain hcheck | hnew := List.mem_append.mp hcheck
        · exact absurd hcall (hself check hcheck)
        · obtain rfl := List.mem_singleton.mp hnew
          rw [hpending, hrecorded] at hother
          cases found with
          | true => simp at hother
          | false => simpa using hother
    read := by
      refine read_set hview.read fun times htimes => ?_
      rw [hreadings] at htimes
      exact hview.read tid _ times hg htimes
    readings := hview.readings_set
    recorded := by
      intro entry hentry
      obtain ⟨first, hfirst, hread⟩ := hview.recorded entry hentry
      refine ⟨first, ?_, hread⟩
      have hheld : ¬(id = entry.1 ∧ found = false) := by
        rintro ⟨rfl, rfl⟩
        have hany : env.recent.any (·.1 == entry.1) = true := List.any_eq_true.mpr ⟨entry, hentry, beq_self_eq_true _⟩
        exact nomatch hfound.trans hany
      rw [last_absent_append, if_neg hheld]
      exact hfirst
    kept := by
      intro check hcheck
      obtain hcheck | hnew := List.mem_append.mp hcheck
      · obtain hseen | hpend | hold := hview.kept check hcheck
        · exact .inl hseen
        · refine .inr (.inl (carry hg (fun h => h.pending = some check.id) ?_ check.call hpend))
          exact nofun
        · exact .inr (.inr hold)
      · obtain rfl := List.mem_singleton.mp hnew
        cases found with
        | true =>
          obtain ⟨entry, hentry, hid⟩ := List.any_eq_true.mp hfound.symm
          exact .inl ⟨entry.2, by simpa [← beq_iff_eq.mp hid] using hentry⟩
        | false => exact .inr (.inl ⟨g', List.getElem?_set_self hlt, hpending⟩)
    apart := by
      intro i j first second hij hfirst hsecond hid hunfound
      obtain hsecond | ⟨hj, rfl⟩ := getElem?_concat_cases hsecond
      · obtain hfirst | ⟨hi, -⟩ := getElem?_concat_cases hfirst
        · exact hview.apart i j first second hij hfirst hsecond hid hunfound
        · have hj := (List.getElem?_eq_some_iff.mp hsecond).1
          omega
      · obtain hfirst | ⟨hi, -⟩ := getElem?_concat_cases hfirst
        · obtain ⟨seen, hseen⟩ | ⟨h, hh, hpend⟩ | hold := hview.kept first (List.mem_of_getElem? hfirst)
          · -- the entry would have been found
            have hany : env.recent.any (·.1 == id) = true :=
              List.any_eq_true.mpr ⟨_, hseen, beq_iff_eq.mpr hid⟩
            rw [← hfound] at hany
            exact nomatch hunfound.symm.trans hany
          · -- a call that is about to insert it would hold the lock
            have hholds : h.holds = true := by
              cases h with
              | absent _ => rfl
              | recording _ _ => rfl
              | _ => cases hpend
            have hsame := hview.only_holder hg rfl hh hholds
            exact absurd hsame (hself first (List.mem_of_getElem? hfirst))
          · exact hold
        · omega
    late := by
      intro check hcheck
      obtain hcheck | hnew := List.mem_append.mp hcheck
      · refine carry hg _ ?_ check.call (hview.late check hcheck)
        rintro ⟨hearly, -⟩
        cases hearly
      · obtain rfl := List.mem_singleton.mp hnew
        exact ⟨g', List.getElem?_set_self hlt, hlate⟩
    swept := fun removal hremoval => carry hg (fun h => h.early = false) nofun removal.call (hview.swept removal hremoval)
    routed := hview.routed_set hg nofun
    young := hview.young
    own := by
      intro removal hremoval check hcheck hcall
      obtain hcheck | hnew := List.mem_append.mp hcheck
      · exact hview.own removal hremoval check hcheck hcall
      · obtain rfl := List.mem_singleton.mp hnew
        obtain ⟨h, hh, hearly⟩ := hview.swept removal hremoval
        rw [← show tid = removal.call from hcall, hg, Option.some.injEq] at hh
        subst hh
        cases hearly }

/-- A call reads the clock. -/
theorem now {times : List T} (hview : Windowed five_minutes env views) (hg : views[tid]? = some g) (hholds : g.holds = true)
    (htimes : g.readings = some times) (htimes' : g'.readings = some (times ++ [env.clock])) (hpending : g'.pending = g.pending)
    (hrecorded : g'.recorded = g.recorded) (hearly : g'.early = false)
    (haway : g.turned_away = true → g'.turned_away = true) (hrouted : g ≠ .routed) :
    Windowed five_minutes { env with readings := env.readings ++ [⟨tid, env.clock⟩] } (views.set tid g') := by
  have hlt : tid < views.length := (List.getElem?_eq_some_iff.mp hg).1
  have hheld := hview.held tid g hg hholds
  exact {
    held := by
      refine hview.held_set hg hholds fun _ => ⟨hheld.owner, ?_, ?_, ?_⟩
      · rw [hpending]
        exact hheld.absent
      · rw [hrecorded]
        exact hheld.kept
      · rw [hpending, hrecorded]
        exact hheld.own
    read := by
      intro other h list hh hlist
      rw [readings_of_append]
      obtain ⟨rfl, rfl⟩ | ⟨hother, hh⟩ := getElem?_set_cases hh
      · rw [htimes', Option.some.injEq] at hlist
        rw [hview.read other g times hg htimes, if_pos rfl, hlist]
      · rw [hview.read other h list hh hlist, if_neg (Ne.symm hother), List.append_nil]
    readings := by
      rw [List.length_set]
      intro reading hreading
      obtain hreading | hnew := List.mem_append.mp hreading
      · exact hview.readings reading hreading
      · obtain rfl := List.mem_singleton.mp hnew
        exact ⟨hlt, le_refl _⟩
    recorded := by
      intro entry hentry
      obtain ⟨first, hfirst, hread⟩ := hview.recorded entry hentry
      refine ⟨first, hfirst, ?_⟩
      rw [readings_of_append, List.head?_append, hread]
      rfl
    kept := by
      intro check hcheck
      obtain hseen | hpend | hold := hview.kept check hcheck
      · exact .inl hseen
      · exact .inr (.inl (carry hg (fun h => h.pending = some check.id) (fun hp => hpending.trans hp) check.call hpend))
      · exact .inr (.inr hold)
    apart := hview.apart
    late := by
      intro check hcheck
      refine carry hg (fun h => h.early = false ∧ (check.found = true → h.turned_away = true)) ?_ check.call
        (hview.late check hcheck)
      rintro ⟨-, hturned⟩
      exact ⟨hearly, fun hfound => haway (hturned hfound)⟩
    swept := fun removal hremoval => carry hg (fun h => h.early = false) (fun _ => hearly) removal.call
      (hview.swept removal hremoval)
    routed := hview.routed_set hg hrouted
    young := hview.young
    own := hview.own }

/-- A call inserts the id it did not find. -/
theorem insert {id : String} {seen : T} (hview : Windowed five_minutes env views)
    (hg : views[tid]? = some (.recording id seen)) :
    Windowed five_minutes { env with recent := (id, seen) :: env.recent.filter (fun entry => entry.1 != id) }
      (views.set tid (.inserted id seen)) := by
  have hheld := hview.held tid _ hg rfl
  exact {
    held := by
      refine hview.held_set hg rfl fun _ => ⟨hheld.owner, nofun, ?_, ?_⟩
      · rintro _ _ ⟨⟩ entry hentry hid
        obtain rfl | hentry := List.mem_cons.mp hentry
        · rfl
        · exact absurd hid (by simpa using (List.mem_filter.mp hentry).2)
      · rintro check hcheck hcall _ (⟨⟨⟩⟩ | ⟨_, ⟨⟩⟩)
        exact hheld.own check hcheck hcall id (.inl rfl)
    read := read_set hview.read fun times htimes => hview.read tid _ times hg htimes
    readings := hview.readings_set
    recorded := by
      intro entry hentry
      obtain rfl | hentry := List.mem_cons.mp hentry
      · obtain ⟨first, hfirst, hcall⟩ := hheld.absent id rfl
        refine ⟨first, hfirst, ?_⟩
        have hread : env.readings_of tid = [seen] := hview.read tid _ _ hg rfl
        show (env.readings_of first.call).head? = some seen
        rw [hcall, hread]
        rfl
      · exact hview.recorded entry (List.mem_filter.mp hentry).1
    kept := by
      intro check hcheck
      by_cases hid : check.id = id
      · exact .inl ⟨seen, by rw [hid]; exact List.mem_cons_self⟩
      · obtain ⟨time, hseen⟩ | hpend | hold := hview.kept check hcheck
        · exact .inl ⟨time, List.mem_cons_of_mem _ (List.mem_filter.mpr ⟨hseen, by simpa using hid⟩)⟩
        · refine .inr (.inl (carry hg (fun h => h.pending = some check.id) ?_ check.call hpend))
          intro hpend
          exact absurd (Option.some.inj hpend).symm hid
        · exact .inr (.inr hold)
    apart := hview.apart
    late := by
      intro check hcheck
      refine carry hg _ ?_ check.call (hview.late check hcheck)
      rintro ⟨-, hturned⟩
      exact ⟨rfl, hturned⟩
    swept := fun removal hremoval => carry hg (fun h => h.early = false) (fun _ => rfl) removal.call
      (hview.swept removal hremoval)
    routed := hview.routed_set hg nofun
    young := hview.young
    own := hview.own }

/-- A call sweeps the map. Its own entry is as old as its first reading, and so younger than
    what it removes. -/
theorem sweep [IsOrderedAddMonoid T] {id : String} {seen instant : T} (hview : Windowed five_minutes env views)
    (hg : views[tid]? = some (.sweeping id seen instant)) (hprompt : prompt five_minutes env tid = true)
    (hunrepeated : unrepeated five_minutes env tid = true) :
    Windowed five_minutes { env with
      recent := env.recent.filter (fun entry => !decide (entry.2 < instant - five_minutes))
      removals := env.removals ++ (env.recent.filter (fun entry => decide (entry.2 < instant - five_minutes))).map
        fun entry => ⟨tid, entry.1, entry.2, env.clock⟩ } (views.set tid .leaving) := by
  have hlt : tid < views.length := (List.getElem?_eq_some_iff.mp hg).1
  have hheld := hview.held tid _ hg rfl
  have hread : env.readings_of tid = [seen, instant] := hview.read tid _ _ hg rfl
  have hreading : instant ≤ env.clock := by
    have hmem : instant ∈ env.readings_of tid := by simp [hread]
    obtain ⟨reading, hreading, rfl⟩ := List.mem_map.mp hmem
    exact (hview.readings reading (List.mem_filter.mp hreading).1).2
  have hyoung : instant - seen ≤ five_minutes := by simpa [prompt, hread] using hprompt
  have hquiet : ∀ entry ∈ env.recent, entry.2 < instant - five_minutes → ∀ check ∈ env.checks, check.id = entry.1 →
      five_minutes < env.clock - check.time := by
    intro entry hentry hold check hcheck hid
    obtain ⟨first, hfirst, hrecorded⟩ := hview.recorded entry hentry
    simp only [unrepeated, hread, List.all_eq_true] at hunrepeated
    have hcheck := hunrepeated check hcheck
    rw [hid, hfirst, Option.bind_some, hrecorded, Option.all_some, Bool.or_eq_true, decide_eq_true_eq,
      decide_eq_true_eq] at hcheck
    exact hcheck.resolve_left (not_le_of_gt (lt_sub_comm.mp hold))
  have hremoved : ∀ removal, removal ∈ env.removals ++ (env.recent.filter (fun entry =>
      decide (entry.2 < instant - five_minutes))).map (fun entry => ⟨tid, entry.1, entry.2, env.clock⟩) →
      removal ∈ env.removals ∨ (removal.call = tid ∧ removal.time = env.clock ∧
        (removal.id, removal.seen) ∈ env.recent ∧ removal.seen < instant - five_minutes) := by
    intro removal hremoval
    obtain hremoval | hnew := List.mem_append.mp hremoval
    · exact .inl hremoval
    · obtain ⟨entry, hentry, rfl⟩ := List.mem_map.mp hnew
      obtain ⟨hmem, hold⟩ := List.mem_filter.mp hentry
      exact .inr ⟨rfl, rfl, hmem, of_decide_eq_true hold⟩
  exact {
    held := hview.held_set hg rfl fun _ => ⟨hheld.owner, nofun, nofun, by
      rintro check - - _ (⟨⟨⟩⟩ | ⟨_, ⟨⟩⟩)⟩
    read := read_set hview.read nofun
    readings := hview.readings_set
    recorded := fun entry hentry => hview.recorded entry (List.mem_filter.mp hentry).1
    kept := by
      intro check hcheck
      obtain ⟨time, hseen⟩ | hpend | hold := hview.kept check hcheck
      · by_cases hold : time < instant - five_minutes
        · exact .inr (.inr (hquiet _ hseen hold check hcheck rfl))
        · exact .inl ⟨time, List.mem_filter.mpr ⟨hseen, by simpa using hold⟩⟩
      · exact .inr (.inl (carry hg (fun h => h.pending = some check.id) nofun check.call hpend))
      · exact .inr (.inr hold)
    apart := hview.apart
    late := by
      intro check hcheck
      refine carry hg _ ?_ check.call (hview.late check hcheck)
      rintro ⟨-, hturned⟩
      exact ⟨rfl, hturned⟩
    swept := by
      intro removal hremoval
      obtain hremoval | ⟨hcall, -⟩ := hremoved removal hremoval
      · exact carry hg (fun h => h.early = false) (fun _ => rfl) removal.call (hview.swept removal hremoval)
      · rw [hcall]
        exact ⟨.leaving, List.getElem?_set_self hlt, rfl⟩
    routed := hview.routed_set hg nofun
    young := by
      intro removal hremoval
      obtain hremoval | ⟨-, htime, -, hold⟩ := hremoved removal hremoval
      · exact hview.young removal hremoval
      · rw [htime]
        have hcutoff : removal.seen < env.clock - five_minutes := hold.trans_le (sub_le_sub_right hreading _)
        exact lt_sub_comm.mp hcutoff
    own := by
      intro removal hremoval check hcheck hcall hid
      obtain hremoval | ⟨htid, -, hmem, hold⟩ := hremoved removal hremoval
      · exact hview.own removal hremoval check hcheck hcall hid
      · -- the entry of the call that sweeps is the one that it has inserted
        have hown : check.id = id := hheld.own check hcheck (hcall.trans htid) id (.inr ⟨seen, rfl⟩)
        have hseen : removal.seen = seen := hheld.kept id seen rfl _ hmem (hid.symm.trans hown)
        rw [hseen] at hold
        exact absurd hyoung (not_le_of_gt (lt_sub_comm.mp hold)) }

theorem route (hview : Windowed five_minutes env views) (hg : views[tid]? = some .passed) (invoked : Bool) :
    Windowed five_minutes { env with callbacks := if invoked then env.callbacks ++ [tid] else env.callbacks }
      (views.set tid .routed) := by
  have hlt : tid < views.length := (List.getElem?_eq_some_iff.mp hg).1
  have hothers : ∀ (other : Nat) h, (views.set tid .routed)[other]? = some h → h.holds = true → h.Held env other := by
    intro other h hh hholds
    obtain ⟨-, rfl⟩ | ⟨-, hh⟩ := getElem?_set_cases hh
    · cases hholds
    · exact hview.held other h hh hholds
  have hgone : Windowed five_minutes env (views.set tid .routed) :=
    hview.go_on hg hothers nofun rfl (fun _ => rfl) nofun nofun rfl
  exact { hgone with
    held := fun other h hh hholds => { hgone.held other h hh hholds with }
    routed := by
      intro other hother
      cases invoked with
      | false => exact hgone.routed other hother
      | true =>
        obtain hother | hself := List.mem_append.mp hother
        · exact hgone.routed other hother
        · obtain rfl := List.mem_singleton.mp hself
          exact List.getElem?_set_self hlt }

theorem tick [IsOrderedAddMonoid T] (hview : Windowed five_minutes env views) {duration : T} (hforward : 0 ≤ duration) :
    Windowed five_minutes { env with clock := env.clock + duration } views := by
  have hlater : env.clock ≤ env.clock + duration := le_add_of_nonneg_right hforward
  exact { hview with
    held := fun other h hh hholds => { hview.held other h hh hholds with }
    readings := by
      intro reading hreading
      obtain ⟨hcall, htime⟩ := hview.readings reading hreading
      exact ⟨hcall, htime.trans hlater⟩
    kept := by
      intro check hcheck
      obtain hseen | hpend | hold := hview.kept check hcheck
      · exact .inl hseen
      · exact .inr (.inl hpend)
      · exact .inr (.inr (hold.trans_le (sub_le_sub_right hlater _))) }

theorem deliver (hview : Windowed five_minutes env views) (id : String) :
    Windowed five_minutes env (views ++ [.waiting id]) := by
  have hcarry : ∀ (prop : Stage T → Prop) (call : Nat), (∃ h, views[call]? = some h ∧ prop h) →
      ∃ h, (views ++ [Stage.waiting id])[call]? = some h ∧ prop h := by
    rintro prop call ⟨h, hh, hprop⟩
    exact ⟨h, (List.getElem?_append_left (List.getElem?_eq_some_iff.mp hh).1).trans hh, hprop⟩
  exact { hview with
    held := by
      intro tid g hg hholds
      obtain hg | ⟨-, rfl⟩ := getElem?_concat_cases hg
      · exact hview.held tid g hg hholds
      · cases hholds
    read := by
      intro tid g times hg htimes
      obtain hg | ⟨rfl, rfl⟩ := getElem?_concat_cases hg
      · exact hview.read tid g times hg htimes
      · -- a new call has not read the clock yet
        obtain rfl := Option.some.inj htimes
        refine List.map_eq_nil_iff.mpr (List.filter_eq_nil_iff.mpr fun reading hreading hcall => ?_)
        exact absurd (beq_iff_eq.mp hcall) (hview.readings reading hreading).1.ne
    readings := by
      intro reading hreading
      rw [List.length_append]
      exact ⟨(hview.readings reading hreading).1.trans_le (Nat.le_add_right _ _), (hview.readings reading hreading).2⟩
    kept := by
      intro check hcheck
      obtain hseen | hpend | hold := hview.kept check hcheck
      · exact .inl hseen
      · exact .inr (.inl (hcarry _ check.call hpend))
      · exact .inr (.inr hold)
    late := fun check hcheck => hcarry _ check.call (hview.late check hcheck)
    swept := fun removal hremoval => hcarry _ removal.call (hview.swept removal hremoval)
    routed := by
      intro tid htid
      have hg := hview.routed tid htid
      exact (List.getElem?_append_left (List.getElem?_eq_some_iff.mp hg).1).trans hg }

end Windowed

/-- The condition on a step, for the call that performs it. -/
def QuietSweep (five_minutes : T) (env : Env T) (tid : Nat) (op : Op T) (_ : Bool) : Prop :=
  ∀ cutoff, op = .sweep cutoff → prompt five_minutes env tid = true ∧ unrepeated five_minutes env tid = true

theorem checking_sound [IsOrderedAddMonoid T] (five_minutes : T) :
    Pool.Sound (checking five_minutes) (fun _ => True) (Windowed five_minutes) (QuietSweep five_minutes) perform := by
  intro tid op invoked env r env' spawned views g hview hg hallowed hquiet hperform
  suffices hwindowed : spawned = [] ∧ Windowed five_minutes env' (views.set tid (g.after op r)) by
    obtain ⟨rfl, hwindowed⟩ := hwindowed
    exact ⟨_, [], rfl, by rwa [List.append_nil], .nil⟩
  cases op with
  | lock =>
    cases g with
    | waiting id =>
      simp only [perform, Option.ite_none_right_eq_some, Option.some.injEq] at hperform
      obtain ⟨hfree, heq⟩ := hperform
      cases heq
      refine ⟨rfl, hview.go_on hg ?_ (fun _ htimes => htimes) rfl nofun nofun nofun rfl⟩
      intro other h hh hholds
      obtain ⟨rfl, rfl⟩ | ⟨-, hh⟩ := getElem?_set_cases hh
      · exact ⟨rfl, nofun, nofun, by rintro check - - _ (⟨⟨⟩⟩ | ⟨_, ⟨⟩⟩)⟩
      · exact nomatch hfree.symm.trans (hview.held other h hh hholds).owner
    | _ => exact hallowed.elim
  | unlock =>
    cases hperform
    cases g with
    | known =>
      exact ⟨rfl, hview.go_on hg (hview.held_set hg rfl nofun) (fun _ htimes => htimes) rfl (fun _ => rfl) (fun _ => rfl)
        nofun rfl⟩
    | leaving => exact ⟨rfl, hview.go_on hg (hview.held_set hg rfl nofun) nofun rfl (fun _ => rfl) nofun nofun rfl⟩
    | _ => exact hallowed.elim
  | contains id =>
    cases hperform
    cases g with
    | locked own =>
      obtain rfl : id = own := hallowed
      refine ⟨rfl, hview.contains hg rfl ?_⟩
      cases env.recent.any (·.1 == id) with
      | true => rfl
      | false => rfl
    | _ => exact hallowed.elim
  | insert id seen =>
    cases hperform
    cases g with
    | recording own time =>
      obtain ⟨rfl, rfl⟩ := hallowed
      exact ⟨rfl, hview.insert hg⟩
    | _ => exact hallowed.elim
  | size =>
    cases hperform
    cases g with
    | inserted id seen =>
      refine ⟨rfl, ?_⟩
      show Windowed five_minutes env (views.set tid (if env.recent.length % 100 = 0 then .due id seen else .leaving))
      have hheld := hview.held tid _ hg rfl
      split
      · refine hview.go_on hg (hview.held_set hg rfl fun _ => ?_) (fun _ htimes => htimes) rfl (fun _ => rfl) nofun nofun rfl
        exact ⟨hheld.owner, nofun, hheld.kept, hheld.own⟩
      · refine hview.go_on hg (hview.held_set hg rfl fun _ => ?_) nofun rfl (fun _ => rfl) nofun nofun rfl
        exact ⟨hheld.owner, nofun, nofun, by rintro check - - _ (⟨⟨⟩⟩ | ⟨_, ⟨⟩⟩)⟩
    | _ => exact hallowed.elim
  | sweep cutoff =>
    cases hperform
    cases g with
    | sweeping id seen instant =>
      obtain rfl : cutoff = instant - five_minutes := hallowed
      obtain ⟨hprompt, hunrepeated⟩ := hquiet _ rfl
      exact ⟨rfl, hview.sweep hg hprompt hunrepeated⟩
    | _ => exact hallowed.elim
  | now =>
    cases hperform
    cases g with
    | absent id => exact ⟨rfl, hview.now hg rfl rfl rfl rfl rfl rfl nofun nofun⟩
    | due id seen => exact ⟨rfl, hview.now hg rfl rfl rfl rfl rfl rfl nofun nofun⟩
    | _ => exact hallowed.elim
  | route activity =>
    cases g with
    | passed =>
      cases invoked with
      | true =>
        simp only [perform, if_true, Option.ite_none_right_eq_some, Option.some.injEq] at hperform
        obtain ⟨-, heq⟩ := hperform
        cases heq
        exact ⟨rfl, hview.route hg true⟩
      | false =>
        cases hperform
        exact ⟨rfl, hview.route hg false⟩
    | _ => exact hallowed.elim

theorem quiet_sweep_of_test {five_minutes : T} {s : Handling T} {tid : Nat} {invoked : Bool}
    (hquiet : quiet_sweep five_minutes s (.perform tid invoked) = true) {op : Op T} (hhead : s.head tid = some op) :
    QuietSweep five_minutes s.env tid op invoked := by
  rintro cutoff rfl
  simpa only [quiet_sweep, hhead, Bool.and_eq_true] using hquiet

/-- Every call goes on as the handler says, and the map fits the record of the run. -/
def Followed (five_minutes : T) (s : Handling T) : Prop :=
  ∃ views, s.Obeyed (checking five_minutes) (fun _ => True) (Windowed five_minutes) views

theorem handling_followed [IsOrderedAddMonoid T] {five_minutes start : T} {s : Handling T}
    (hreach : (handling five_minutes start).Reachable (fun s label => quiet_sweep five_minutes s label = true) s) :
    Followed five_minutes s := by
  refine hreach.invariant ?_ ?_
  · refine ⟨[], ?_, .nil⟩
    constructor
    all_goals simp [handling]
  · rintro s label next - ⟨views, hobeyed⟩ hquiet hstep
    cases label with
    | deliver activity =>
      obtain rfl := Option.some.inj hstep
      refine ⟨views ++ [.waiting activity.id], hobeyed.view.deliver activity.id,
        List.rel_append hobeyed.tasks (.cons ?_ .nil)⟩
      exact handle_activity_checks five_minutes activity
    | perform tid invoked =>
      exact hobeyed.advance (checking_sound five_minutes) (fun op hhead => quiet_sweep_of_test hquiet hhead) hstep
    | tick duration =>
      simp only [handling, Option.ite_none_right_eq_some, Option.some.injEq] at hstep
      obtain ⟨hforward, rfl⟩ := hstep
      exact ⟨views, hobeyed.view.tick hforward, hobeyed.tasks⟩

theorem deduplicated_of_quiet_sweeps [IsOrderedAddMonoid T] {five_minutes start : T} {s : Handling T}
    (hreach : (handling five_minutes start).Reachable (fun s label => quiet_sweep five_minutes s label = true) s) :
    Deduplicated five_minutes s.env := by
  obtain ⟨views, hobeyed⟩ := handling_followed hreach
  refine ⟨?_, hobeyed.view.young, hobeyed.view.own⟩
  intro i j first second hij hfirst hsecond hid hnear hcallback
  cases hfound : second.found with
  | false => exact absurd hnear (not_le_of_gt (hobeyed.view.apart i j first second hij hfirst hsecond hid hfound))
  | true =>
    obtain ⟨g, hg, -, hturned⟩ := hobeyed.view.late second (List.mem_of_getElem? hsecond)
    rw [hobeyed.view.routed second.call hcallback, Option.some.injEq] at hg
    subst hg
    exact nomatch hturned hfound

end handler

end webex.replay_window

namespace webex.go.handler

open replay_window

/-- `5 * time.Minute`, in nanoseconds. -/
def five_minutes : Int := 5 * 60 * 1000000000

/-- The calls of `handleActivity`, under `activityIDsMu`. -/
def activities (start : Int) : Machine (Handling Int) (replay_window.Label Int) := handling five_minutes start

end webex.go.handler

namespace webex.node.handler

open replay_window

/-- `5 * 60 * 1000`, in milliseconds. -/
def five_minutes : Int := 5 * 60 * 1000

/-- The calls of `_handleActivity`. -/
def activities (start : Int) : Machine (Handling Int) (replay_window.Label Int) := handling five_minutes start

end webex.node.handler

namespace webex.python.handler

open replay_window

/-- The 300 seconds of `_sweep_old_activity_ids`. -/
def five_minutes : Rat := 300

/-- The calls of `_handle_activity`. -/
def activities (start : Rat) : Machine (Handling Rat) (replay_window.Label Rat) := handling five_minutes start

end webex.python.handler

namespace webex.replay_window

/-- In all three ports a later activity with the same id is dropped for five minutes, in
    every run with quiet sweeps. -/
theorem dedup_window_of_quiet_sweeps (go_start node_start : Int) (python_start : Rat) :
    (∀ s, (go.handler.activities go_start).Reachable
        (fun s label => quiet_sweep go.handler.five_minutes s label = true) s →
      Deduplicated go.handler.five_minutes s.env) ∧
    (∀ s, (node.handler.activities node_start).Reachable
        (fun s label => quiet_sweep node.handler.five_minutes s label = true) s →
      Deduplicated node.handler.five_minutes s.env) ∧
    (∀ s, (python.handler.activities python_start).Reachable
        (fun s label => quiet_sweep python.handler.five_minutes s label = true) s →
      Deduplicated python.handler.five_minutes s.env) := by
  refine ⟨?_, ?_, ?_⟩
  · intro s hreach
    exact deduplicated_of_quiet_sweeps hreach
  · intro s hreach
    exact deduplicated_of_quiet_sweeps hreach
  · intro s hreach
    exact deduplicated_of_quiet_sweeps hreach

section sample

/-- The deletion of a message. -/
def deletion (id : String) : Activity := ⟨id, "delete", "activity"⟩

def handle_labels (tid : Nat) : List (Label Int) := List.replicate 6 (.perform tid false) ++ [.perform tid true]

def minutes (n : Nat) : Int := n * (60 * 1000000000)

/-- The next operation is not a sweep. -/
def Unswept (s : Handling Int) : Label Int → Prop
  | .perform tid _ => ∀ cutoff, s.head tid ≠ some (.sweep cutoff)
  | _ => True

theorem quiet_of_unswept {s : Handling Int} {label : Label Int} (hunswept : Unswept s label) :
    quiet_sweep go.handler.five_minutes s label = true := by
  cases label with
  | perform tid invoked =>
    unfold quiet_sweep
    dsimp only
    split
    · rename_i cutoff hhead
      exact absurd hhead (hunswept cutoff)
    · rfl
  | _ => rfl

/-- A state after a new id has been delivered, which invoked its callback without a sweep. -/
def fresh (s : Handling Int) (id : String) : Handling Int where
  env := { s.env with
    recent := (id, s.env.clock) :: s.env.recent
    checks := s.env.checks ++ [⟨s.tasks.length, id, s.env.clock, false⟩]
    readings := s.env.readings ++ [⟨s.tasks.length, s.env.clock⟩]
    callbacks := s.env.callbacks ++ [s.tasks.length] }
  tasks := s.tasks ++ [{ rest := .ret () }]

section reached

variable {cond : Handling Int → Label Int → Prop} (hcond : ∀ s label, Unswept s label → cond s label)

include hcond

theorem reach_perform {op : Op Int} {r : Res Int op} {next : Res Int op → Program (Op Int) (Res Int) Unit}
    {before after : Env Int} {done : List (Task (Op Int) (Res Int))} {invoked : Bool} (hop : ∀ cutoff, op ≠ .sweep cutoff)
    (hperform : perform done.length op invoked before = some (r, after, []))
    (hreach : (go.handler.activities 0).Reachable cond ⟨before, done ++ [{ rest := .ask op next }]⟩) :
    (go.handler.activities 0).Reachable cond ⟨after, done ++ [{ rest := next r }]⟩ := by
  have hhead : Pool.head ⟨before, done ++ [{ rest := .ask op next }]⟩ done.length = some op := by
    simp [Pool.head, Program.head]
  have hadvance : (go.handler.activities 0).step ⟨before, done ++ [{ rest := .ask op next }]⟩
      (.perform done.length invoked) = some ⟨after, done ++ [{ rest := next r }]⟩ := by
    refine (Pool.advance_last done invoked).trans ?_
    simp [hperform]
  have hunswept : Unswept ⟨before, done ++ [{ rest := .ask op next }]⟩ (.perform done.length invoked) := by
    intro cutoff heq
    rw [hhead, Option.some.injEq] at heq
    exact hop cutoff heq
  exact hreach.step (hcond _ _ hunswept) hadvance

theorem reach_fresh {s : Handling Int} (hreach : (go.handler.activities 0).Reachable cond s) (id : String)
    (hfree : s.env.owner = none) (hnew : ∀ entry ∈ s.env.recent, entry.1 ≠ id)
    (hsize : (s.env.recent.length + 1) % 100 ≠ 0) : (go.handler.activities 0).Reachable cond (fresh s id) := by
  obtain ⟨env, done⟩ := s
  have hfree : env.owner = none := hfree
  have hunknown : env.recent.any (·.1 == id) = false := by simpa using hnew
  have hkept : env.recent.filter (fun entry => entry.1 != id) = env.recent := by simpa using hnew
  let held : Env Int := { env with owner := some done.length }
  let checked : Env Int := { held with checks := env.checks ++ [⟨done.length, id, env.clock, false⟩] }
  let timed : Env Int := { checked with readings := env.readings ++ [⟨done.length, env.clock⟩] }
  let recorded : Env Int := { timed with recent := (id, env.clock) :: env.recent }
  let released : Env Int := { recorded with owner := env.owner }
  have hrest : (if (env.recent.length + 1) % 100 = 0 then do
        let instant ← now
        sweep (instant - go.handler.five_minutes)
        unlock
        route (deletion id)
      else do
        unlock
        route (deletion id) : Handle Int Unit) = (do
      unlock
      route (deletion id)) := if_neg hsize
  have hdelivered : (go.handler.activities 0).Reachable cond
      ⟨env, done ++ [{ rest := handle_activity go.handler.five_minutes (deletion id) }]⟩ :=
    hreach.step (hcond _ (.deliver (deletion id)) trivial) rfl
  have hlocked := @reach_perform cond hcond .lock () _ env held done false (fun _ heq => nomatch heq) (if_pos hfree) hdelivered
  have hchecked := @reach_perform cond hcond (.contains id) false _ held checked done false (fun _ heq => nomatch heq)
    (by simp [perform, hunknown, held, checked]) hlocked
  have htimed := @reach_perform cond hcond .now env.clock _ checked timed done false (fun _ heq => nomatch heq) rfl hchecked
  have hrecorded := @reach_perform cond hcond (.insert id env.clock) () _ timed recorded done false (fun _ heq => nomatch heq)
    (by simp [perform, hkept, held, checked, timed, recorded]) htimed
  have hsized := @reach_perform cond hcond .size (env.recent.length + 1) _ recorded recorded done false
    (fun _ heq => nomatch heq) (by simp [perform, recorded]) hrecorded
  have hpassing : (go.handler.activities 0).Reachable cond
      ⟨recorded, done ++ [{ rest := do unlock; route (deletion id) }]⟩ := by
    rw [← hrest]
    exact hsized
  have hreleased := @reach_perform cond hcond .unlock () _ recorded released done false (fun _ heq => nomatch heq)
    (by simp [perform, released, hfree]) hpassing
  exact @reach_perform cond hcond (.route (deletion id)) () _ released
    { released with callbacks := env.callbacks ++ [done.length] } done true (fun _ heq => nomatch heq) rfl hreleased

/-- The state after deletions with numbers as ids. -/
def after_others (s : Handling Int) : Nat → Handling Int
  | 0 => s
  | n + 1 => fresh (after_others s n) (toString n)

theorem reach_others {s : Handling Int} {x : String × Int} (hreach : (go.handler.activities 0).Reachable cond s)
    (hfree : s.env.owner = none) (hrecent : s.env.recent = [x]) (hx : ∀ i : Nat, i < 98 → x.1 ≠ toString i) {n : Nat}
    (hn : n ≤ 98) : (go.handler.activities 0).Reachable cond (after_others s n) ∧ (after_others s n).env.owner = none ∧
      (after_others s n).env.recent.map Prod.fst = (List.range n).reverse.map toString ++ [x.1] := by
  induction n with
  | zero => exact ⟨hreach, hfree, by simp [after_others, hrecent]⟩
  | succ n ih =>
    obtain ⟨hreach, hfree, hids⟩ := ih (by omega)
    have hnew : ∀ entry ∈ (after_others s n).env.recent, entry.1 ≠ toString n := by
      intro entry hentry
      have hid := List.mem_map_of_mem (f := Prod.fst) hentry
      rw [hids] at hid
      obtain hid | hid := List.mem_append.mp hid
      · obtain ⟨i, hi, heq⟩ := List.mem_map.mp hid
        rw [← heq]
        exact toString_ne (by simpa using hi : i < n).ne
      · rw [List.mem_singleton.mp hid]
        exact hx n (by omega)
    have hlength := congrArg List.length hids
    simp only [List.length_map, List.length_append, List.length_reverse, List.length_range, List.length_singleton] at hlength
    refine ⟨reach_fresh hcond hreach (toString n) hfree hnew (by omega), hfree, ?_⟩
    simp [after_others, fresh, hids, List.range_succ]

end reached

/-- The deletion of "x", and 98 others four minutes later. -/
def before_sweep : Handling Int :=
  let first := fresh (go.handler.activities 0).init "x"
  after_others { first with env := { first.env with clock := minutes 4 } } 98

/-- The same with a duplicate of "x" after the four minutes. -/
def before_late_sweep : Handling Int :=
  let first := fresh (go.handler.activities 0).init "x"
  after_others {
    env := { first.env with
      clock := minutes 4
      checks := first.env.checks ++ [⟨1, "x", minutes 4, true⟩] }
    tasks := first.tasks ++ [{ rest := .ret () }] } 98

/-- Two minutes later one more, which sweeps, and "x" again. -/
def sweep_labels (tid : Nat) : List (Label Int) :=
  [.tick (minutes 2), .deliver (deletion "y"), .perform tid false, .perform tid false] ++ handle_labels tid ++
    [.deliver (deletion "x"), .perform (tid + 1) false, .perform (tid + 1) false] ++ handle_labels (tid + 1)

theorem reach_before_sweep : (go.handler.activities 0).Reachable
    (fun s label => quiet_sweep go.handler.five_minutes s label = true) before_sweep := by
  have hquiet : ∀ (s : Handling Int) label, Unswept s label → quiet_sweep go.handler.five_minutes s label = true :=
    fun _ _ hunswept => quiet_of_unswept hunswept
  have hfirst := reach_fresh hquiet .init "x" rfl nofun (by decide)
  have hlater := hfirst.step (hquiet _ (.tick (minutes 4)) trivial) rfl
  exact (reach_others hquiet hlater rfl rfl (by decide) (Nat.le_refl 98)).1

/-- A sweep that removes an entry of six minutes, with no other delivery of its id. -/
theorem old_entry_swept :
    ∃ s : Handling Int, s.env.removals.map (fun removal => (removal.id, removal.seen, removal.time)) = [("x", 0, minutes 6)] ∧
      Deduplicated go.handler.five_minutes s.env := by
  have hmeets : (go.handler.activities 0).meets (quiet_sweep go.handler.five_minutes) before_sweep (sweep_labels 99) = true := by
    decide +kernel
  have hrun : ((go.handler.activities 0).run before_sweep (sweep_labels 99)).map (fun s =>
      s.env.removals.map fun removal => (removal.id, removal.seen, removal.time)) = some [("x", 0, minutes 6)] := by
    decide +kernel
  rw [Option.map_eq_some_iff] at hrun
  obtain ⟨s, hs, hremovals⟩ := hrun
  exact ⟨s, hremovals, (dedup_window_of_quiet_sweeps 0 0 0).1 s
    (Machine.Reachable.run reach_before_sweep (sweep_labels 99) (Machine.Meets.of_meets hmeets) hs)⟩

theorem reach_before_late_sweep : (go.handler.activities 0).Reachable Machine.Always before_late_sweep := by
  have halways : ∀ (s : Handling Int) (label : Label Int), Unswept s label → Machine.Always s label := fun _ _ _ => trivial
  have hfirst := reach_fresh halways .init "x" rfl nofun (by decide)
  let duplicate_labels : List (Label Int) :=
    [.tick (minutes 4), .deliver (deletion "x"), .perform 1 false, .perform 1 false, .perform 1 false]
  have hduplicate := hfirst.run duplicate_labels (Machine.meets_always _ _) rfl
  exact (reach_others halways hduplicate rfl rfl (by decide) (Nat.le_refl 98)).1

/-- The sweep forgets an id that was delivered two minutes ago, because the duplicate did
    not renew its time. -/
theorem duplicate_after_sweep_delivered :
    ¬ ∀ start s, (go.handler.activities start).Reachable Machine.Always s →
      Deduplicated go.handler.five_minutes s.env := by
  intro hdeduplicated
  have hrun : ((go.handler.activities 0).run before_late_sweep (sweep_labels 100)).map (fun s =>
      ((s.env.checks[1]?).map fun check => (check.id, check.time),
        (s.env.checks[101]?).map fun check => (check.call, check.id, check.time), s.env.callbacks.contains 101)) =
        some (some ("x", minutes 4), some (101, "x", minutes 6), true) := by decide +kernel
  rw [Option.map_eq_some_iff] at hrun
  obtain ⟨s, hs, hout⟩ := hrun
  simp only [Prod.mk.injEq, Option.map_eq_some_iff] at hout
  obtain ⟨⟨first, hfirst, hid_first, htime_first⟩, ⟨second, hsecond, hcall, hid_second, htime_second⟩,
    hcallback⟩ := hout
  have hreach := reach_before_late_sweep.run (sweep_labels 100) (Machine.meets_always _ _) hs
  have hdropped := (hdeduplicated 0 s hreach).window 1 101 first second (by omega) hfirst hsecond
    (hid_first.trans hid_second.symm) (by rw [htime_first, htime_second]; decide)
  rw [hcall] at hdropped
  exact hdropped (List.contains_iff_mem.mp hcallback)

end sample

end webex.replay_window

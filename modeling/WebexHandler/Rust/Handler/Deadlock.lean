import WebexHandler.Interaction.Waiting
import WebexHandler.Rust.Handler.LockOrder

open interaction json transition

namespace webex.rust.handler

variable {crates : Crates}

/-- A task waits for the holder of a mutex, or for the event loop to bring a KMS
    response. -/
def WaitsFor (s : System) (tid other : Nat) : Prop :=
  (∃ cell, s.head tid = some (.acquire cell) ∧ s.env.owner cell = some other) ∨
    ∃ mailbox rx millis, s.head tid = some (.kms mailbox (.wait_response rx millis)) ∧
      (s.env.mailboxes mailbox).sent rx = none ∧ s.env.event_loop = some other

/-- A task can take a step that no timer makes. -/
def CanStep (crates : Crates) (s : System) (tid : Nat) : Prop :=
  ∃ choice next, choice.is_timer = false ∧ s.advance (perform crates) tid choice = some next

/-- A task waits for room in the channel. -/
def send_blocked (s : System) (tid : Nat) : Bool :=
  match s.head tid with
  | some (.send _) => decide (s.env.capacity ≤ s.env.queue.length)
  | _ => false

/-- A task waits for a KMS response that has not come. -/
def awaits_response (s : System) (tid : Nat) : Bool :=
  match s.head tid with
  | some (.kms mailbox (.wait_response rx _)) => ((s.env.mailboxes mailbox).sent rx).isNone
  | _ => false

/-- A task pauses between two attempts to fetch a key. -/
def pauses (s : System) (tid : Nat) : Bool :=
  match s.head tid with
  | some (.kms _ (.sleep _)) => true
  | _ => false

/-- No task waits for room in the channel, except the event loop while nobody waits for
    it to bring a KMS response, and no task pauses. -/
def roomy (s : System) : Bool :=
  (List.range s.tasks.length).all fun tid => !pauses s tid && (!send_blocked s tid ||
    (s.env.event_loop == some tid && !(List.range s.tasks.length).any (awaits_response s)))

/-- The consumer's call can go on: it, or someone it waits for, can take a step, and it
    does not wait for a mutex whose holder waits for room in the channel. -/
structure Progress (crates : Crates) (s : System) : Prop where
  step : ∃ tid, Relation.ReflTransGen (WaitsFor s) 0 tid ∧ CanStep crates s tid
  channel : ∀ cell tid, s.head 0 = some (.acquire cell) → s.env.owner cell = some tid → send_blocked s tid = false

/-- The views describe who holds what, and which task is the event loop. -/
structure Locked (env : Env) (views : List LockView) : Prop where
  tasks : env.next_task = views.length
  owned : ∀ cell tid, env.owner cell = some tid → ∃ g, views[tid]? = some g ∧ cell ∈ g.held
  held : ∀ tid g cell, views[tid]? = some g → cell ∈ g.held → env.owner cell = some tid
  nodup : ∀ (tid : Nat) (g : LockView), views[tid]? = some g → g.held.Nodup
  pumped : ∀ (tid : Nat) (g : LockView), views[tid]? = some g → g.role = .pumped → env.event_loop ≠ none
  pump : ∀ tid, env.event_loop = some tid ↔ ∃ g, views[tid]? = some g ∧ g.role = .pump
  consumer : ∃ g, views[0]? = some g ∧ g.role.calls

/-- A task that has ended holds nothing and is not the event loop. -/
def Ended (g : LockView) : Prop := g.held = [] ∧ g.role.calls

theorem as_task_obeys {α : Type} {role role' : Role → Prop} {m : Handler α}
    (hm : Locks Role.calls [] role [] role' m) (himp : ∀ r, role' r → r.calls) {g : LockView} (hheld : g.held = [])
    (hrole : role g.role) : (as_task m).Obeys lock_order (fun _ => Ended) g := by
  rw [as_task, Program.obeys_bind]
  refine Program.Obeys.mono (fun out g' hpost => ?_) (hm g hheld hrole)
  obtain ⟨r, s⟩ := out
  cases r with
  | ok value => exact ⟨hpost.1, himp _ hpost.2⟩
  | error e => exact hpost

theorem event_loop_obeys {final : LockView → Prop} {g : LockView} (hheld : g.held = []) (hpump : g.role = .pump) :
    (Task.loop (as_task (event_loop crates))).Obeys lock_order final g := by
  have hbody : ∀ g : LockView, g.held = [] ∧ g.role = .pump →
      (as_task (event_loop crates)).Obeys lock_order (fun _ g => g.held = [] ∧ g.role = .pump) g := by
    rintro g ⟨hheld, hpump⟩
    rw [as_task, Program.obeys_bind]
    refine Program.Obeys.mono (fun out g' hpost => ?_) (locks_event_loop g hheld hpump)
    obtain ⟨r, s⟩ := out
    cases r with
    | ok value => exact hpost
    | error e => exact hpost.2.elim
  exact Task.obeys_loop rfl hbody ⟨hheld, hpump⟩

theorem call_program_obeys {g : LockView} (hended : Ended g) (ignore_self_messages : Bool) (call : Call) :
    (call_program crates ignore_self_messages call).Obeys lock_order (fun _ => Ended) g := by
  obtain ⟨hheld, hcalls⟩ := hended
  cases call with
  | connect => exact as_task_obeys (locks_connect ignore_self_messages) (fun _ h => h) hheld hcalls
  | disconnect => exact as_task_obeys locks_disconnect (fun _ h => h) hheld hcalls
  | reconnect new_token =>
    exact as_task_obeys (locks_reconnect ignore_self_messages new_token) (fun _ h => h) hheld hcalls
  | status => exact as_task_obeys locks_status (fun _ h => h) hheld hcalls

theorem getElem?_set_eq_ite {views : List LockView} {tid : Nat} {g : LockView} (hg : views[tid]? = some g)
    (g' : LockView) (other : Nat) :
    (views.set tid g')[other]? = if other = tid then some g' else views[other]? := by
  by_cases heq : other = tid
  · subst heq
    rw [if_pos rfl, List.getElem?_set_self (List.getElem?_eq_some_iff.mp hg).1]
  · rw [if_neg heq, List.getElem?_set_ne fun h => heq h.symm]

/-- A change of what one task holds and knows. -/
theorem Locked.set {env env' : Env} {views : List LockView} (hlocked : Locked env views) {tid : Nat}
    {g g' : LockView} (hg : views[tid]? = some g) (htasks : env'.next_task = env.next_task)
    (hloop : env'.event_loop = env.event_loop) (hnodup : g'.held.Nodup)
    (howner : ∀ cell, env'.owner cell = some tid ↔ cell ∈ g'.held)
    (hother : ∀ cell other, other ≠ tid → (env'.owner cell = some other ↔ env.owner cell = some other))
    (hpumped : g'.role = .pumped → env.event_loop ≠ none) (hpump : g'.role = .pump ↔ g.role = .pump) :
    Locked env' (views.set tid g') where
  tasks := by simpa [htasks] using hlocked.tasks
  owned := by
    intro cell other howned
    rw [getElem?_set_eq_ite hg]
    by_cases heq : other = tid
    · subst heq
      exact ⟨_, if_pos rfl, (howner cell).mp howned⟩
    · rw [if_neg heq]
      exact hlocked.owned cell other ((hother cell other heq).mp howned)
  held := by
    intro other h cell hh hmem
    rw [getElem?_set_eq_ite hg] at hh
    by_cases heq : other = tid
    · subst heq
      rw [if_pos rfl, Option.some.injEq] at hh
      subst hh
      exact (howner cell).mpr hmem
    · rw [if_neg heq] at hh
      exact (hother cell other heq).mpr (hlocked.held other h cell hh hmem)
  nodup := by
    intro other h hh
    rw [getElem?_set_eq_ite hg] at hh
    by_cases heq : other = tid
    · rw [if_pos heq, Option.some.injEq] at hh
      exact hh ▸ hnodup
    · rw [if_neg heq] at hh
      exact hlocked.nodup other h hh
  pumped := by
    intro other h hh hrole
    rw [getElem?_set_eq_ite hg] at hh
    rw [hloop]
    by_cases heq : other = tid
    · rw [if_pos heq, Option.some.injEq] at hh
      exact hpumped (hh ▸ hrole)
    · rw [if_neg heq] at hh
      exact hlocked.pumped other h hh hrole
  pump := by
    intro other
    rw [hloop, hlocked.pump other, getElem?_set_eq_ite hg]
    by_cases heq : other = tid
    · subst heq
      simp [hg, hpump]
    · rw [if_neg heq]
  consumer := by
    obtain ⟨first, hfirst, hcalls⟩ := hlocked.consumer
    rw [getElem?_set_eq_ite hg]
    by_cases heq : 0 = tid
    · subst heq
      rw [hg, Option.some.injEq] at hfirst
      exact ⟨g', if_pos rfl, fun hrole => hcalls (hfirst ▸ hpump.mp hrole)⟩
    · exact ⟨first, by rw [if_neg heq]; exact hfirst, hcalls⟩

theorem Locked.mine {env : Env} {views : List LockView} (hlocked : Locked env views) {tid : Nat} {g : LockView}
    (hg : views[tid]? = some g) (cell : Cell) : env.owner cell = some tid ↔ cell ∈ g.held := by
  constructor
  · intro howned
    obtain ⟨g', hg', hmem⟩ := hlocked.owned cell tid howned
    rw [hg, Option.some.injEq] at hg'
    exact hg' ▸ hmem
  · exact hlocked.held tid g cell hg

theorem Locked.acquire {env : Env} {views : List LockView} (hlocked : Locked env views) {tid : Nat} {g : LockView}
    (hg : views[tid]? = some g) {cell : Cell} (hfree : env.owner cell = none) :
    Locked (env.set_owner cell (some tid)) (views.set tid { g with held := cell :: g.held }) := by
  have hnot : cell ∉ g.held := by
    intro hmem
    rw [hlocked.held tid g cell hg hmem] at hfree
    simp at hfree
  refine hlocked.set hg rfl rfl (List.nodup_cons.mpr ⟨hnot, hlocked.nodup tid g hg⟩) ?_ ?_
    (hlocked.pumped tid g hg) Iff.rfl
  · intro other
    by_cases heq : other = cell
    · simp [Env.set_owner, heq]
    · simp [Env.set_owner, heq, hlocked.mine hg other]
  · intro other tid' hne
    by_cases heq : other = cell
    · subst heq
      simp [Env.set_owner, hfree, Ne.symm hne]
    · simp [Env.set_owner, heq]

theorem Locked.release {env : Env} {views : List LockView} (hlocked : Locked env views) {tid : Nat} {g : LockView}
    (hg : views[tid]? = some g) {cell : Cell} (hmem : cell ∈ g.held) (content : Content cell) :
    Locked ((env.store cell content).set_owner cell none) (views.set tid { g with held := g.held.erase cell }) := by
  have howner := hlocked.held tid g cell hg hmem
  have hnodup := hlocked.nodup tid g hg
  refine hlocked.set hg rfl rfl (hnodup.erase cell) ?_ ?_ (hlocked.pumped tid g hg) Iff.rfl
  · intro other
    rw [hnodup.mem_erase_iff]
    by_cases heq : other = cell
    · simp [Env.set_owner, heq]
    · simp [Env.set_owner, Env.store, heq, hlocked.mine hg other]
  · intro other tid' hne
    by_cases heq : other = cell
    · subst heq
      simp [Env.set_owner, howner, Ne.symm hne]
    · simp [Env.set_owner, Env.store, heq]

/-- Once the event loop runs, every other task may rely on it. -/
theorem Locked.already_started {env : Env} {views : List LockView} (hlocked : Locked env views) {tid : Nat}
    {g : LockView} (hg : views[tid]? = some g) (hstarted : env.event_loop ≠ none) :
    Locked env (views.set tid { g with role := if g.role = .caller then .pumped else g.role }) := by
  have hmine := hlocked.mine hg
  refine hlocked.set hg rfl rfl (hlocked.nodup tid g hg) hmine (fun _ _ _ => Iff.rfl) (fun _ => hstarted) ?_
  cases hrole : g.role with
  | caller => simp
  | pumped => simp
  | pump => simp

/-- A new task holds nothing. -/
theorem Locked.grow {env env' : Env} {views : List LockView} (hlocked : Locked env views) {new : LockView}
    (hheld : new.held = []) (htasks : env'.next_task = env.next_task + 1) (howner : env'.owner = env.owner)
    (hloop : ∀ tid, env'.event_loop = some tid ↔
      env.event_loop = some tid ∨ new.role = .pump ∧ tid = views.length)
    (hpumped : new.role = .pumped → env'.event_loop ≠ none) : Locked env' (views ++ [new]) := by
  have hlookup : ∀ (tid : Nat) (g : LockView), (views ++ [new])[tid]? = some g ↔
      views[tid]? = some g ∨ tid = views.length ∧ g = new := by
    intro tid g
    by_cases hlt : tid < views.length
    · rw [List.getElem?_append_left hlt]
      have hne : tid ≠ views.length := by omega
      simp [hne]
    · have hnone : views[tid]? = none := List.getElem?_eq_none (by omega)
      rw [List.getElem?_append_right (by omega), hnone]
      by_cases heq : tid = views.length
      · simp [heq, eq_comm]
      · have hpos : tid - views.length ≠ 0 := by omega
        simp [heq, hpos]
  constructor
  · rw [htasks, hlocked.tasks]
    simp
  · intro cell tid howned
    rw [howner] at howned
    obtain ⟨g, hg, hmem⟩ := hlocked.owned cell tid howned
    exact ⟨g, (hlookup tid g).mpr (.inl hg), hmem⟩
  · intro tid g cell hg hmem
    rw [howner]
    rcases (hlookup tid g).mp hg with hold | ⟨-, rfl⟩
    · exact hlocked.held tid g cell hold hmem
    · simp [hheld] at hmem
  · intro tid g hg
    rcases (hlookup tid g).mp hg with hold | ⟨-, rfl⟩
    · exact hlocked.nodup tid g hold
    · simp [hheld]
  · intro tid g hg hrole
    rcases (hlookup tid g).mp hg with hold | ⟨-, rfl⟩
    · obtain ⟨loop, hold⟩ := Option.ne_none_iff_exists'.mp (hlocked.pumped tid g hold hrole)
      rw [(hloop loop).mpr (.inl hold)]
      simp
    · exact hpumped hrole
  · intro tid
    rw [hloop, hlocked.pump]
    constructor
    · rintro (⟨g, hg, hrole⟩ | ⟨hrole, heq⟩)
      · exact ⟨g, (hlookup tid g).mpr (.inl hg), hrole⟩
      · exact ⟨new, (hlookup tid new).mpr (.inr ⟨heq, rfl⟩), hrole⟩
    · rintro ⟨g, hg, hrole⟩
      rcases (hlookup tid g).mp hg with hold | ⟨heq, rfl⟩
      · exact .inl ⟨g, hold, hrole⟩
      · exact .inr ⟨hrole, heq⟩
  · obtain ⟨first, hfirst, hcalls⟩ := hlocked.consumer
    exact ⟨first, (hlookup 0 first).mpr (.inl hfirst), hcalls⟩

theorem Locked.frame {env env' : Env} {views : List LockView} (hlocked : Locked env views)
    (htasks : env'.next_task = env.next_task) (howner : env'.owner = env.owner)
    (hloop : env'.event_loop = env.event_loop) : Locked env' views where
  tasks := htasks.trans hlocked.tasks
  owned := by
    rw [howner]
    exact hlocked.owned
  held := by
    rw [howner]
    exact hlocked.held
  nodup := hlocked.nodup
  pumped := by
    rw [hloop]
    exact hlocked.pumped
  pump := by
    rw [hloop]
    exact hlocked.pump
  consumer := hlocked.consumer

theorem lock_order_sound :
    Pool.Sound lock_order Ended Locked (fun _ _ _ _ => True) (perform crates) := by
  intro tid op choice env r env' spawned views g hview hg hallowed _ hperform
  have hself : views.set tid g ++ [] = views := by
    obtain ⟨hlt, rfl⟩ := List.getElem?_eq_some_iff.mp hg
    rw [List.append_nil, List.set_getElem_self hlt]
  have hframe : Locked env' views → Locked env' (views.set tid g ++ []) := fun h => hself.symm ▸ h
  cases perform_performed hperform with
  | acquire cell hfree =>
    refine ⟨{ g with held := cell :: g.held }, [], rfl, ?_, .nil⟩
    rw [List.append_nil]
    exact hview.acquire hg hfree
  | release cell content =>
    refine ⟨{ g with held := g.held.erase cell }, [], rfl, ?_, .nil⟩
    rw [List.append_nil]
    exact hview.release hg hallowed content
  | already_started owner hstarted =>
    refine ⟨_, [], rfl, ?_, .nil⟩
    rw [List.append_nil]
    exact hview.already_started hg (by simp [hstarted])
  | start_event_loop hnone =>
    refine ⟨_, [{ role := .pump }], rfl, ?_, .cons (event_loop_obeys rfl rfl) .nil⟩
    have hgrown : Locked { env with event_loop := some env.next_task, next_task := env.next_task + 1 }
        (views ++ [{ role := .pump }]) := by
      refine hview.grow rfl rfl rfl ?_ nofun
      intro tid
      simp [hnone, hview.tasks, eq_comm]
    have hlt := (List.getElem?_eq_some_iff.mp hg).1
    rw [← List.set_append_left tid _ hlt]
    refine hgrown.already_started ?_ (by simp)
    rw [List.getElem?_append_left hlt]
    exact hg
  | next_event event hemitted =>
    refine ⟨g, [], ⟨rfl, ?_⟩, hframe hview, .nil⟩
    rintro ⟨⟩
    simp [emitted_by_socket] at hemitted
  | tick => exact ⟨g, [], ⟨rfl, nofun⟩, hframe hview, .nil⟩
  | spawn_activity activity =>
    refine ⟨g, [{ role := .pumped }], rfl, ?_, .cons ?_ .nil⟩
    · have hstarted : env.event_loop = some tid := (hview.pump tid).mpr ⟨g, hg, hallowed⟩
      rw [List.append_nil] at hself
      rw [hself]
      refine hview.grow rfl rfl rfl (fun other => by simp) fun _ => ?_
      simp [hstarted]
    · exact as_task_obeys (locks_activity_task activity) calls_of_pumped rfl rfl
  | kms mailbox op choice r mailboxes hkms => exact ⟨g, [], rfl, hframe (hview.frame rfl rfl rfl), .nil⟩
  | _ => exact ⟨g, [], rfl, hframe (hview.frame rfl rfl rfl), .nil⟩

/-- Every task keeps to the lock order, with these views of what it holds. -/
def LockedBy (s : System) (views : List LockView) : Prop := s.Obeyed lock_order Ended Locked views

def SystemLocked (s : System) : Prop := ∃ views, LockedBy s views

theorem consumer_ended {s : System} {views : List LockView} (hlocked : LockedBy s views)
    (hidle : s.consumer_idle = true) : ∃ g, views[0]? = some g ∧ Ended g := by
  unfold System.consumer_idle at hidle
  split at hidle
  · simp at hidle
  · rename_i task htask
    obtain ⟨g, hg, hobeys⟩ := hlocked.task htask
    refine ⟨g, hg, hobeys.ended ?_⟩
    cases hrest : task.rest with
    | ret value => rfl
    | ask op next => simp [hrest] at hidle

theorem SystemLocked.step {ignore_self_messages : Bool} {s next : System} {label : Label} (hlocked : SystemLocked s)
    (hstep : s.step crates ignore_self_messages label = some next) : SystemLocked next := by
  obtain ⟨views, hlocked⟩ := hlocked
  cases label with
  | call call =>
    simp only [System.step, Option.ite_none_right_eq_some, Option.some.injEq] at hstep
    obtain ⟨hidle, rfl⟩ := hstep
    obtain ⟨g, hg, hended⟩ := consumer_ended hlocked hidle
    obtain ⟨hlt, rfl⟩ := List.getElem?_eq_some_iff.mp hg
    have hobeys : Task.Obeys lock_order Ended { rest := call_program crates ignore_self_messages call } views[0] :=
      call_program_obeys hended ignore_self_messages call
    have htasks := Pool.forall₂_set hlocked.tasks hobeys 0
    rw [List.set_getElem_self hlt] at htasks
    exact ⟨views, hlocked.view, htasks⟩
  | receive =>
    simp only [System.step] at hstep
    split at hstep
    · simp at hstep
    · simp only [Option.ite_none_right_eq_some, Option.some.injEq] at hstep
      obtain ⟨-, rfl⟩ := hstep
      exact ⟨views, hlocked.view.frame rfl rfl rfl, hlocked.tasks⟩
  | perform tid choice => exact hlocked.advance lock_order_sound (fun _ _ => trivial) hstep
  | wait millis =>
    obtain rfl := Option.some.inj hstep
    exact ⟨views, hlocked.view.frame rfl rfl rfl, hlocked.tasks⟩

/-- The place of what a task waits for in the order. -/
def wait_rank (s : System) (tid : Nat) : Nat :=
  match s.head tid with
  | some (.acquire cell) => cell.rank
  | some (.kms _ (.wait_response _ _)) => response_rank
  | _ => 5

theorem Cell.rank_le (cell : Cell) : cell.rank ≤ 4 := by
  cases cell with
  | _ => decide

theorem wait_rank_le (s : System) (tid : Nat) : wait_rank s tid ≤ 5 := by
  unfold wait_rank
  split
  · rename_i cell _
    exact (Cell.rank_le cell).trans (by decide)
  · decide
  · exact Nat.le_refl 5

/-- A task that holds a mutex waits for later ones only. -/
theorem rank_lt_wait_rank {s : System} {views : List LockView} (hlocked : LockedBy s views) {cell : Cell}
    {tid : Nat} (howner : s.env.owner cell = some tid) : cell.rank < wait_rank s tid := by
  obtain ⟨g, hg, hmem⟩ := hlocked.view.owned cell tid howner
  unfold wait_rank
  split
  · rename_i other hhead
    exact (hlocked.allowed_of_view hg hhead).1 cell hmem
  · rename_i hhead
    exact (hlocked.allowed_of_view hg hhead).2 cell hmem
  · have hle := Cell.rank_le cell
    omega

theorem response_rank_lt_wait_rank {s : System} {views : List LockView} (hlocked : LockedBy s views)
    {tid : Nat} (hloop : s.env.event_loop = some tid) : response_rank < wait_rank s tid := by
  obtain ⟨g, hg, hpump⟩ := (hlocked.view.pump tid).mp hloop
  unfold wait_rank
  split
  · rename_i cell hhead
    exact (hlocked.allowed_of_view hg hhead).2 hpump
  · rename_i hhead
    have hallowed := hlocked.allowed_of_view hg hhead
    exact nomatch hpump.symm.trans hallowed.1
  · decide

theorem WaitsFor.rank_lt {s : System} {views : List LockView} (hlocked : LockedBy s views) {tid other : Nat}
    (hwaits : WaitsFor s tid other) : wait_rank s tid < wait_rank s other := by
  rcases hwaits with ⟨cell, hhead, howner⟩ | ⟨mailbox, rx, millis, hhead, -, hloop⟩
  · have hlt := rank_lt_wait_rank hlocked howner
    simpa [wait_rank, hhead] using hlt
  · have hlt := response_rank_lt_wait_rank hlocked hloop
    simpa [wait_rank, hhead] using hlt

/-- Why a task matters to the consumer: it is the consumer, it holds a mutex, or it has
    a KMS response to bring. -/
def Needed (s : System) (tid : Nat) : Prop :=
  tid = 0 ∨ (∃ cell, s.env.owner cell = some tid) ∨
    s.env.event_loop = some tid ∧ ∃ other, awaits_response s other = true

theorem needed_of_waits {s : System} {tid : Nat} (hwaits : Relation.ReflTransGen (WaitsFor s) 0 tid) :
    Needed s tid := by
  rcases hwaits.cases_tail with rfl | ⟨other, -, ⟨cell, -, howner⟩ | ⟨mailbox, rx, millis, hhead, hsent, hloop⟩⟩
  · exact .inl rfl
  · exact .inr (.inl ⟨cell, howner⟩)
  · exact .inr (.inr ⟨hloop, other, by simp [awaits_response, hhead, hsent]⟩)

theorem Needed.head {s : System} {views : List LockView} (hlocked : LockedBy s views)
    (hcall : s.consumer_idle = false) {tid : Nat} (hneeded : Needed s tid) : ∃ op, s.head tid = some op := by
  rcases hneeded with rfl | ⟨cell, howner⟩ | ⟨hloop, -⟩
  · obtain ⟨g, hg, -⟩ := hlocked.view.consumer
    have hlength := hlocked.tasks.length_eq
    obtain ⟨hlt, -⟩ := List.getElem?_eq_some_iff.mp hg
    have htask : s.tasks[0]? = some s.tasks[0] := List.getElem?_eq_getElem (by omega)
    cases hrest : (s.tasks[0]).rest with
    | ret value => simp [System.consumer_idle, htask, hrest] at hcall
    | ask op next => exact ⟨op, by simp [Pool.head, htask, hrest, Program.head]⟩
  · obtain ⟨g, hg, hmem⟩ := hlocked.view.owned cell tid howner
    refine hlocked.head_of_not_final hg fun hended => ?_
    simp [hended.1] at hmem
  · obtain ⟨g, hg, hpump⟩ := (hlocked.view.pump tid).mp hloop
    exact hlocked.head_of_not_final hg fun hended => hended.2 hpump

theorem head_lt {s : System} {tid : Nat} {op : Op} (hhead : s.head tid = some op) : tid < s.tasks.length := by
  simp only [Pool.head, Option.bind_eq_some_iff] at hhead
  obtain ⟨task, htask, -⟩ := hhead
  exact (List.getElem?_eq_some_iff.mp htask).1

theorem awaits_response_lt {s : System} {tid : Nat} (hawaits : awaits_response s tid = true) :
    tid < s.tasks.length := by
  cases hhead : s.head tid with
  | none => simp [awaits_response, hhead] at hawaits
  | some op => exact head_lt hhead

theorem not_pauses_of_roomy {s : System} (hroomy : roomy s = true) {tid : Nat} {op : Op}
    (hhead : s.head tid = some op) : pauses s tid = false := by
  simp only [roomy, List.all_eq_true, List.mem_range, Bool.and_eq_true, Bool.not_eq_true'] at hroomy
  exact (hroomy tid (head_lt hhead)).1

/-- In a roomy state only the event loop waits for room, and nobody waits for it. -/
theorem not_blocked_of_needed {s : System} {views : List LockView} (hlocked : LockedBy s views)
    (hroomy : roomy s = true) {tid : Nat} (hneeded : Needed s tid) : send_blocked s tid = false := by
  by_contra hblocked
  rw [Bool.not_eq_false] at hblocked
  obtain ⟨event, hhead⟩ : ∃ event, s.head tid = some (.send event) := by
    unfold send_blocked at hblocked
    split at hblocked
    · rename_i event hhead
      exact ⟨event, hhead⟩
    · simp at hblocked
  simp only [roomy, List.all_eq_true, List.mem_range, Bool.and_eq_true, Bool.or_eq_true, Bool.not_eq_true',
    beq_iff_eq, List.any_eq_false] at hroomy
  obtain ⟨-, hsilent⟩ := hroomy tid (head_lt hhead)
  rw [hblocked] at hsilent
  obtain ⟨hloop, hnobody⟩ := hsilent.resolve_left (by simp)
  obtain ⟨g, hg, hpump⟩ := (hlocked.view.pump tid).mp hloop
  have hheld : g.held = [] := hlocked.allowed_of_view hg hhead hpump
  rcases hneeded with rfl | ⟨cell, howner⟩ | ⟨-, other, hawaits⟩
  · obtain ⟨first, hfirst, hcalls⟩ := hlocked.view.consumer
    rw [hg, Option.some.injEq] at hfirst
    exact hcalls (hfirst ▸ hpump)
  · have hmem := (hlocked.view.mine hg cell).mp howner
    simp [hheld] at hmem
  · exact hnobody other (awaits_response_lt hawaits) hawaits

theorem can_step {s : System} {tid : Nat} {op : Op} (hhead : s.head tid = some op) (choice : Choice)
    (htimer : choice.is_timer = false) (hperform : (perform crates tid op choice s.env).isSome) :
    CanStep crates s tid := by
  obtain ⟨next, hnext⟩ := Pool.advance_isSome hhead hperform
  exact ⟨choice, next, htimer, hnext⟩

/-- A task that waits for nobody, finds room in the channel and does not pause can take
    a step. -/
theorem can_step_of_not_waiting {s : System} {views : List LockView} (hlocked : LockedBy s views) {tid : Nat}
    {op : Op} (hhead : s.head tid = some op) (hfree : ∀ other, ¬ WaitsFor s tid other)
    (hpauses : pauses s tid = false) (hblocked : send_blocked s tid = false) : CanStep crates s tid := by
  cases op with
  | acquire cell =>
    have hnone : s.env.owner cell = none := by
      cases howner : s.env.owner cell with
      | none => rfl
      | some other => exact absurd (.inl ⟨cell, hhead, howner⟩) (hfree other)
    exact can_step hhead .done rfl (by simp [perform, hnone])
  | send event =>
    have hroom : s.env.queue.length < s.env.capacity := by simpa [send_blocked, hhead] using hblocked
    exact can_step hhead .done rfl (by simp [perform, hroom])
  | kms mailbox op =>
    cases op with
    | sleep millis => simp [pauses, hhead] at hpauses
    | wait_response rx millis =>
      cases hsent : (s.env.mailboxes mailbox).sent rx with
      | some response => exact can_step hhead .received rfl (by simp [perform, Env.perform_kms, hsent])
      | none =>
        obtain ⟨g, hg, hallowed⟩ := hlocked.allowed hhead
        obtain ⟨loop, hloop⟩ := Option.ne_none_iff_exists'.mp (hlocked.view.pumped tid g hg hallowed.1)
        exact absurd (.inr ⟨mailbox, rx, millis, hhead, hsent, hloop⟩) (hfree loop)
    | fetch req => exact can_step hhead (.fetched (.error "")) rfl rfl
    | now => exact can_step hhead .done rfl rfl
    | new_v4 => exact can_step hhead (.uuid "") rfl rfl
    | random len => exact can_step hhead (.bytes []) rfl rfl
    | register_pending request_id => exact can_step hhead .done rfl rfl
    | remove_pending request_id => exact can_step hhead .done rfl rfl
  | fetch req => exact can_step hhead (.fetched (.error "")) rfl rfl
  | open_socket base_url prepared_url token => exact can_step hhead (.opened (.ok ())) rfl rfl
  | mercury_connected => exact can_step hhead (.flag true) rfl rfl
  | mercury_attempts => exact can_step hhead (.count 0) rfl rfl
  | next_event => exact can_step hhead (.event (.error "")) rfl rfl
  | start_event_loop =>
    refine can_step hhead .done rfl ?_
    cases hloop : s.env.event_loop with
    | none => simp [perform, hloop]
    | some owner => simp [perform, hloop]
  | try_send event =>
    refine can_step hhead .done rfl ?_
    by_cases hroom : s.env.queue.length < s.env.capacity
    · simp [perform, hroom]
    · simp [perform, hroom]
  | release cell content => exact can_step hhead .done rfl rfl
  | new_mailbox => exact can_step hhead .done rfl rfl
  | handle_kms_message mailbox data => exact can_step hhead .done rfl rfl
  | mercury_disconnect => exact can_step hhead .done rfl rfl
  | spawn_activity activity => exact can_step hhead .done rfl rfl
  | now => exact can_step hhead .done rfl rfl

theorem LockedBy.progress {s : System} {views : List LockView} (hlocked : LockedBy s views)
    (hcall : s.consumer_idle = false) (hroomy : roomy s = true) : Progress crates s := by
  constructor
  · obtain ⟨tid, hwaits, hfree⟩ := exists_not_waiting (wait_rank s) 5
      (fun _ _ hwaits => WaitsFor.rank_lt hlocked hwaits) (wait_rank_le s) 0
    have hneeded := needed_of_waits hwaits
    obtain ⟨op, hhead⟩ := hneeded.head hlocked hcall
    refine ⟨tid, hwaits, ?_⟩
    exact can_step_of_not_waiting hlocked hhead hfree (not_pauses_of_roomy hroomy hhead)
      (not_blocked_of_needed hlocked hroomy hneeded)
  · intro cell tid _ howner
    exact not_blocked_of_needed hlocked hroomy (.inr (.inl ⟨cell, howner⟩))

theorem locked_initial {env : Env} (htasks : env.next_task = 1) (howner : ∀ cell, env.owner cell = none)
    (hloop : env.event_loop = none) : Locked env [{}] := by
  have hlookup : ∀ (tid : Nat) (g : LockView), [({} : LockView)][tid]? = some g → tid = 0 ∧ g = {} := by
    intro tid g hg
    obtain ⟨hlt, rfl⟩ := List.getElem?_eq_some_iff.mp hg
    obtain rfl : tid = 0 := by simpa using hlt
    exact ⟨rfl, rfl⟩
  constructor
  · exact htasks
  · intro cell tid howned
    simp [howner] at howned
  · intro tid g cell hg hmem
    obtain ⟨-, rfl⟩ := hlookup tid g hg
    simp at hmem
  · intro tid g hg
    obtain ⟨-, rfl⟩ := hlookup tid g hg
    exact List.nodup_nil
  · intro tid g hg hrole
    obtain ⟨-, rfl⟩ := hlookup tid g hg
    simp at hrole
  · intro tid
    rw [hloop]
    refine ⟨nofun, ?_⟩
    rintro ⟨g, hg, hrole⟩
    obtain ⟨-, rfl⟩ := hlookup tid g hg
    simp at hrole
  · exact ⟨{}, rfl, nofun⟩

/-- While the consumer is inside a call, the call can go on in every reachable state
    that is roomy, whatever the capacity of the channel. -/
theorem progress_of_roomy (crates : Crates) (token : String) (ignore_self_messages : Bool) (capacity : Nat)
    {s : System} (hreach : (system crates token ignore_self_messages capacity).Reachable Machine.Always s)
    (hcall : s.consumer_idle = false) (hroomy : roomy s = true) : Progress crates s := by
  have hlocked : SystemLocked s := by
    refine hreach.invariant ?_ ?_
    · exact ⟨[{}], locked_initial rfl (fun _ => rfl) rfl, .cons ⟨rfl, nofun⟩ .nil⟩
    · exact fun s label next _ hlocked _ hstep => hlocked.step hstep
  obtain ⟨views, hlocked⟩ := hlocked
  exact hlocked.progress hcall hroomy

section sample

/-- One event fills the channel, the task of a second activity comes to send while it
    holds the KMS client, and the consumer, which has just received an event, asks for
    the status. -/
def full_channel_labels : List Label :=
  connected_labels ++ ([.receive] : List Label) ++ deliver_labels (deletion "a") ++ List.replicate 5 (.perform 2 .done) ++
    deliver_labels (deletion "b") ++ List.replicate 3 (.perform 3 .done) ++
    ([.call .status, .perform 0 (.count 0), .perform 0 (.flag true)] : List Label) ++ List.replicate 4 (.perform 0 .done)

/-- The consumer waits for the KMS client, and task 3 holds it. -/
def waits_for_kms (s : System) : Bool :=
  (match s.head 0 with
    | some (.acquire .kms_client) => true
    | _ => false) && s.env.owner .kms_client == some 3

theorem waits_for_kms_eq {s : System} (hwaits : waits_for_kms s = true) :
    s.head 0 = some (.acquire .kms_client) ∧ s.env.owner .kms_client = some 3 := by
  simp only [waits_for_kms, Bool.and_eq_true, beq_iff_eq] at hwaits
  obtain ⟨hhead, howner⟩ := hwaits
  split at hhead
  · rename_i heq
    exact ⟨heq, howner⟩
  · simp at hhead

theorem status_with_room_progresses :
    ∃ s, (system sample_crates "token" false 2).run (system sample_crates "token" false 2).init
        full_channel_labels = some s ∧ waits_for_kms s = true ∧ Progress sample_crates s := by
  have hobserve : (((system sample_crates "token" false 2).run (system sample_crates "token" false 2).init
      full_channel_labels).map fun s => (waits_for_kms s, s.consumer_idle, roomy s)) = some (true, false, true) := by
    decide +kernel
  simp only [Option.map_eq_some_iff, Prod.mk.injEq] at hobserve
  obtain ⟨s, hrun, hwaits, hcall, hroomy⟩ := hobserve
  refine ⟨s, hrun, hwaits, ?_⟩
  exact progress_of_roomy sample_crates "token" false 2 (Machine.reachable_of_run hrun) hcall hroomy

/-- A holder of the KMS client that waits for room in the channel cannot take a step, and
    neither can the consumer that waits for it. -/
theorem stuck_of_full_channel {s : System} (hwaits : waits_for_kms s = true) (hblocked : send_blocked s 3 = true)
    {tid : Nat} (hreach : Relation.ReflTransGen (WaitsFor s) 0 tid) : ¬ CanStep crates s tid := by
  obtain ⟨hhead, howner⟩ := waits_for_kms_eq hwaits
  obtain ⟨event, hsend, hfull⟩ : ∃ event, s.head 3 = some (.send event) ∧ s.env.capacity ≤ s.env.queue.length := by
    unfold send_blocked at hblocked
    split at hblocked
    · rename_i event hsend
      exact ⟨event, hsend, by simpa using hblocked⟩
    · simp at hblocked
  have hchain : tid = 0 ∨ tid = 3 := by
    induction hreach with
    | refl => exact .inl rfl
    | tail _ hstep ih =>
      rcases ih with rfl | rfl
      · rcases hstep with ⟨cell, hcell, hother⟩ | ⟨mailbox, rx, millis, hkms, -⟩
        · obtain rfl : Cell.kms_client = cell := by simpa [hhead] using hcell
          exact .inr (by simpa [howner, eq_comm] using hother)
        · simp [hhead] at hkms
      · rcases hstep with ⟨cell, hcell, -⟩ | ⟨mailbox, rx, millis, hkms, -⟩
        · simp [hsend] at hcell
        · simp [hsend] at hkms
  rintro ⟨choice, next, -, hadvance⟩
  rcases hchain with rfl | rfl
  · have hperform := Pool.perform_of_advance hhead hadvance
    cases choice with
    | done => simp [perform, howner] at hperform
    | _ => simp [perform] at hperform
  · have hperform := Pool.perform_of_advance hsend hadvance
    cases choice with
    | done => simp [perform, Nat.not_lt.mpr hfull] at hperform
    | _ => simp [perform] at hperform

/-- With a channel of one place, a consumer that asks for the status is stuck for ever:
    the task it waits for waits for the consumer to receive. -/
theorem status_with_full_channel_deadlocks :
    ∃ s, (system sample_crates "token" false 1).Reachable Machine.Always s ∧ s.consumer_idle = false ∧
      s.head 0 = some (.acquire .kms_client) ∧ s.env.owner .kms_client = some 3 ∧ send_blocked s 3 = true ∧
      ¬ Progress sample_crates s := by
  have hobserve : (((system sample_crates "token" false 1).run (system sample_crates "token" false 1).init
      full_channel_labels).map fun s => (waits_for_kms s, s.consumer_idle, send_blocked s 3)) =
        some (true, false, true) := by
    decide +kernel
  simp only [Option.map_eq_some_iff, Prod.mk.injEq] at hobserve
  obtain ⟨s, hrun, hwaits, hcall, hblocked⟩ := hobserve
  obtain ⟨hhead, howner⟩ := waits_for_kms_eq hwaits
  refine ⟨s, Machine.reachable_of_run hrun, hcall, hhead, howner, hblocked, fun hprogress => ?_⟩
  obtain ⟨tid, hreach, hstep⟩ := hprogress.step
  exact stuck_of_full_channel hwaits hblocked hreach hstep

end sample

end webex.rust.handler

import Mathlib.Data.List.Pairwise
import WebexHandler.Rust.Handler.Steps

open interaction json transition

namespace webex.rust.handler

/-- The number of events a task has sent. -/
def Env.emitted (env : Env) (tid : Nat) : Nat := (env.sent.filter (·.1 == tid)).length

/-- Two arrivals are within 300 seconds of each other. -/
def Delivery.near (d d' : Delivery) : Prop := d.time ≤ d'.time + 300000 ∧ d'.time ≤ d.time + 300000

/-- At most one event is emitted for each activity id, among deliveries that arrive
    within 300 seconds of each other. -/
structure ReplayProtected (env : Env) : Prop where
  once : ∀ d ∈ env.deliveries, env.emitted d.task ≤ 1
  twice : ∀ d ∈ env.deliveries, ∀ d' ∈ env.deliveries, d.task ≠ d'.task → d.activity.id = d'.activity.id →
    d.near d' → env.emitted d.task + env.emitted d'.task ≤ 1

/-- A routed activity is not delivered again under its id for 300 seconds. -/
def fresh_activity (env : Env) (activity : MercuryActivity) : Bool :=
  !is_routed activity || env.deliveries.all fun d =>
    d.activity.id != activity.id || !is_routed d.activity || decide (d.time + 300000 < env.time)

def delivers_fresh (s : System) : Label → Bool
  | .perform tid _ =>
    match s.head tid with
    | some (.spawn_activity activity) => fresh_activity s.env activity
    | _ => true
  | _ => true

/-- The events a task may still send. A task without a budget sends as it likes. -/
def budget : Monitor Op Res (Option Nat) where
  allowed left op := match op with
    | .send _ | .try_send _ => left ≠ some 0
    | _ => True
  moves left op _ left' := match op with
    | .send _ => left' = left.map (· - 1)
    | .try_send _ => left' = left ∨ left' = left.map (· - 1)
    | _ => left' = left

/-- A function that sends at most `n` events. -/
def Spends {α : Type} (n : Nat) (m : Handler α) : Prop :=
  ∀ left, n ≤ left → m.Obeys budget () (some left) fun _ _ g' => ∃ left', g' = some left' ∧ left ≤ left' + n

theorem spends_pure {α : Type} (value : α) : Spends 0 (pure value : Handler α) :=
  fun left _ => ⟨left, rfl, Nat.le_refl left⟩

theorem Spends.mono {α : Type} {n n' : Nat} {m : Handler α} (hm : Spends n m) (hle : n ≤ n') : Spends n' m := by
  intro left hleft
  refine (hm left (by omega)).mono fun _ _ g' hspent => ?_
  obtain ⟨left', rfl, hspent⟩ := hspent
  exact ⟨left', rfl, by omega⟩

theorem spends_bind {α β : Type} {n k : Nat} {m : Handler α} {f : α → Handler β} (hm : Spends n m)
    (hf : ∀ value, Spends k (f value)) : Spends (n + k) (m >>= f) := by
  intro left hleft
  refine (hm left (by omega)).bind ?_ ?_
  · rintro value _ _ ⟨left', rfl, hspent⟩
    refine (hf value left' (by omega)).mono fun _ _ g' hrest => ?_
    obtain ⟨left'', rfl, hrest⟩ := hrest
    exact ⟨left'', rfl, by omega⟩
  · rintro e _ _ ⟨left', rfl, hspent⟩
    exact ⟨left', rfl, by omega⟩

theorem spends_send (event : HandlerEvent) : Spends 1 (send event) := by
  intro left hleft
  refine ⟨?_, ?_⟩
  · show some left ≠ some 0
    simp
    omega
  · rintro _ _ rfl
    exact ⟨left - 1, rfl, by omega⟩

theorem spends_request (op : Op) (hallowed : ∀ left, budget.allowed left op)
    (hmoves : ∀ left r left', budget.moves left op r left' → left' = left) :
    Spends 0 (Method.request op : Handler (Res op)) := by
  intro left _
  refine ⟨hallowed _, fun r g' hmove => ?_⟩
  exact ⟨left, hmoves _ r g' hmove, Nat.le_refl left⟩

theorem spends_acquire (cell : Cell) : Spends 0 (acquire cell) :=
  spends_request _ (fun _ => trivial) fun _ _ _ hmove => hmove

theorem spends_release (cell : Cell) (content : Content cell) : Spends 0 (release cell content) :=
  spends_request _ (fun _ => trivial) fun _ _ _ hmove => hmove

theorem spends_call_kms {α : Type} (mailbox : Nat) (m : kms_client.Kms α) (kms : kms_client.KmsClient) :
    Spends 0 (call_kms mailbox m kms) := by
  intro left _
  refine Method.obeys_call.mpr ?_
  have hinert : (m kms).Obeys (budget.restrict (Op.kms mailbox) fun _ r => r) (fun _ g' => g' = some left)
      (some left) := by
    apply Program.obeys_of_inert
    · exact fun _ => trivial
    · rintro op r g' ⟨_, -, hmove⟩
      exact hmove
  exact Program.Obeys.mono (fun _ _ heq => ⟨left, heq, Nat.le_refl left⟩) hinert

theorem spends_send_event (event : Option HandlerEvent) : Spends 1 (send_event event) := by
  cases event with
  | none => exact (spends_pure ()).mono (by omega)
  | some event => exact spends_send event

variable (crates : Crates)

/-- A routed activity has one event at most, and any other has none. -/
def events_of (activity : MercuryActivity) : Nat := if is_routed activity then 1 else 0

theorem spends_handle_activity_static (mailbox : Nat) (kms : kms_client.KmsClient) (activity : MercuryActivity)
    (bot_person_id : Option String) :
    Spends (events_of activity) (handle_activity_static crates mailbox kms activity bot_person_id) := by
  have hsend : ∀ (event : HandlerEvent) (kms : kms_client.KmsClient),
      Spends 1 (send event >>= fun _ => (pure kms : Handler kms_client.KmsClient)) :=
    fun event kms => spends_bind (spends_send event) fun _ => spends_pure kms
  unfold handle_activity_static
  split
  · rename_i hroute
    have hrouted : events_of activity = 0 + (1 + 0) := by simp [events_of, is_routed, hroute]
    rw [hrouted]
    apply spends_bind (spends_call_kms mailbox _ kms)
    rintro ⟨decrypted, kms⟩
    exact spends_bind (spends_send_event _) fun _ => spends_pure kms
  · split
    · rename_i hroute
      have hrouted : events_of activity = 1 := by simp [events_of, is_routed, hroute]
      rw [hrouted]
      exact hsend _ kms
    · split
      · rename_i hroute
        have hrouted : events_of activity = 1 := by simp [events_of, is_routed, hroute]
        rw [hrouted]
        exact hsend _ kms
      · split
        · rename_i hroute
          have hrouted : events_of activity = 0 + 1 := by simp [events_of, is_routed, hroute]
          rw [hrouted]
          apply spends_bind (spends_call_kms mailbox _ kms)
          rintro ⟨decrypted, kms⟩
          exact hsend _ kms
        · split
          · rename_i hroute
            have hrouted : events_of activity = 1 := by simp [events_of, is_routed, hroute]
            rw [hrouted]
            exact hsend _ kms
          · exact (spends_pure kms).mono (Nat.zero_le _)

theorem spends_activity_task (activity : MercuryActivity) :
    Spends (events_of activity) (activity_task crates activity) := by
  have hread : Spends 0 (read_cell .bot_person_id) :=
    spends_bind (spends_acquire _) fun content => spends_bind (spends_release _ content) fun _ => spends_pure content
  unfold activity_task
  rw [show events_of activity = 0 + (0 + (events_of activity + 0)) by omega]
  apply spends_bind (spends_acquire .kms_client)
  intro client
  split
  · rename_i mailbox kms
    apply spends_bind hread
    intro bot_id
    apply spends_bind (spends_handle_activity_static crates mailbox kms activity bot_id)
    intro kms
    exact spends_release _ _
  · exact (spends_release _ _).mono (Nat.zero_le _)

variable {crates}

theorem task_unbudgeted (p : Program Op Res Unit) : p.Obeys budget (fun _ g => g = none) none := by
  apply Program.obeys_of_inert
  · intro op
    cases op with
    | send event => exact nofun
    | try_send event => exact nofun
    | _ => trivial
  · intro op r g' hmove
    cases op with
    | send event => exact hmove
    | try_send event =>
      rcases hmove with rfl | rfl
      · rfl
      · rfl
    | _ => exact hmove

theorem activity_task_budget (activity : MercuryActivity) :
    (as_task (activity_task crates activity)).Obeys budget (fun _ _ => True) (some (events_of activity)) := by
  rw [as_task, Program.obeys_bind]
  exact Program.Obeys.mono (fun _ _ _ => trivial) (spends_activity_task crates activity _ (Nat.le_refl _))

/-- Deliveries of one routed id keep their distance. -/
def Apart (d d' : Delivery) : Prop :=
  d.activity.id = d'.activity.id → is_routed d.activity = true → is_routed d'.activity = true → ¬ d.near d'

instance : Std.Symm Apart where
  symm _ _ hapart hid hrouted hrouted' hnear := hapart hid.symm hrouted' hrouted ⟨hnear.2, hnear.1⟩

/-- The tasks' budgets cover what the activity tasks have not sent yet. -/
structure Accounted (env : Env) (views : List (Option Nat)) : Prop where
  tasks : env.next_task = views.length
  consumer : views[0]? = some none
  covered : ∀ d ∈ env.deliveries, ∃ left, views[d.task]? = some (some left) ∧
    env.emitted d.task + left ≤ events_of d.activity
  senders : ∀ e ∈ env.sent, e.1 < views.length
  arrived : ∀ d ∈ env.deliveries, d.time ≤ env.time
  apart : env.deliveries.Pairwise Apart

theorem events_of_le (activity : MercuryActivity) : events_of activity ≤ 1 := by
  unfold events_of
  split
  · exact Nat.le_refl 1
  · exact Nat.zero_le 1

theorem Accounted.replay_protected {env : Env} {views : List (Option Nat)} (haccounted : Accounted env views) :
    ReplayProtected env := by
  have hemitted : ∀ d ∈ env.deliveries, env.emitted d.task ≤ events_of d.activity := by
    intro d hd
    obtain ⟨left, -, hcovered⟩ := haccounted.covered d hd
    omega
  constructor
  · intro d hd
    exact (hemitted d hd).trans (events_of_le d.activity)
  · intro d hd d' hd' hne hid hnear
    have hapart := haccounted.apart.forall hd hd' fun heq => hne (congrArg Delivery.task heq)
    have hfirst := hemitted d hd
    have hsecond := hemitted d' hd'
    have hle := events_of_le d.activity
    have hle' := events_of_le d'.activity
    by_cases hrouted : is_routed d.activity = true
    · by_cases hrouted' : is_routed d'.activity = true
      · exact absurd hnear (hapart hid hrouted hrouted')
      · have hnone : events_of d'.activity = 0 := by simp [events_of, hrouted']
        omega
    · have hnone : events_of d.activity = 0 := by simp [events_of, hrouted]
      omega

theorem Accounted.frame {env env' : Env} {views : List (Option Nat)} (haccounted : Accounted env views)
    (htasks : env'.next_task = env.next_task) (hsent : env'.sent = env.sent)
    (hdeliveries : env'.deliveries = env.deliveries) (htime : env.time ≤ env'.time) : Accounted env' views where
  tasks := htasks.trans haccounted.tasks
  consumer := haccounted.consumer
  covered := by
    intro d hd
    rw [hdeliveries] at hd
    simpa [Env.emitted, hsent] using haccounted.covered d hd
  senders := hsent ▸ haccounted.senders
  arrived := by
    intro d hd
    rw [hdeliveries] at hd
    exact (haccounted.arrived d hd).trans htime
  apart := hdeliveries ▸ haccounted.apart

theorem set_self {views : List (Option Nat)} {tid : Nat} {g : Option Nat} (hg : views[tid]? = some g) :
    views.set tid g = views := by
  obtain ⟨hlt, rfl⟩ := List.getElem?_eq_some_iff.mp hg
  exact List.set_getElem_self hlt

/-- An event is paid for by the task that sends it. -/
theorem Accounted.send {env : Env} {views : List (Option Nat)} (haccounted : Accounted env views) {tid : Nat}
    {g : Option Nat} (hg : views[tid]? = some g) (hpositive : g ≠ some 0) (event : HandlerEvent)
    (queue : List HandlerEvent) :
    Accounted { env with queue := queue, sent := env.sent ++ [(tid, event)] } (views.set tid (g.map (· - 1))) where
  tasks := by simpa using haccounted.tasks
  consumer := by
    by_cases hconsumer : tid = 0
    · subst hconsumer
      obtain rfl : g = none := by simpa [hg] using haccounted.consumer
      rw [Option.map_none, set_self hg]
      exact hg
    · rw [List.getElem?_set_ne hconsumer]
      exact haccounted.consumer
  covered := by
    intro d hd
    obtain ⟨left, hleft, hcovered⟩ := haccounted.covered d hd
    by_cases htask : tid = d.task
    · subst htask
      obtain rfl : g = some left := by simpa [hg] using hleft
      have hpos : left ≠ 0 := fun hzero => hpositive (congrArg some hzero)
      have hlt := (List.getElem?_eq_some_iff.mp hg).1
      refine ⟨left - 1, by simp [hlt], ?_⟩
      have hmore : Env.emitted { env with queue := queue, sent := env.sent ++ [(d.task, event)] } d.task =
          env.emitted d.task + 1 := by
        simp [Env.emitted, List.filter_append]
      omega
    · have hother : (tid == d.task) = false := by simpa using htask
      refine ⟨left, by rw [List.getElem?_set_ne htask]; exact hleft, ?_⟩
      simpa [Env.emitted, List.filter_append, hother] using hcovered
  senders := by
    intro e he
    rw [List.length_set]
    rcases List.mem_append.mp he with hold | hnew
    · exact haccounted.senders e hold
    · obtain rfl := List.mem_singleton.mp hnew
      exact (List.getElem?_eq_some_iff.mp hg).1
  arrived := haccounted.arrived
  apart := haccounted.apart

/-- A new task has sent nothing. -/
theorem Accounted.emitted_new {env : Env} {views : List (Option Nat)} (haccounted : Accounted env views) :
    env.emitted env.next_task = 0 := by
  rw [Env.emitted, List.length_eq_zero_iff, List.filter_eq_nil_iff]
  intro e he
  have hlt := haccounted.senders e he
  have htasks := haccounted.tasks
  simp only [beq_iff_eq]
  omega

theorem getElem?_grow {views : List (Option Nat)} {tid : Nat} {g : Option Nat} (hg : views[tid]? = some g)
    (more : List (Option Nat)) : (views ++ more)[tid]? = some g := by
  rw [List.getElem?_append_left (List.getElem?_eq_some_iff.mp hg).1]
  exact hg

theorem Accounted.start_event_loop {env : Env} {views : List (Option Nat)} (haccounted : Accounted env views)
    (event_loop : Option Nat) :
    Accounted { env with event_loop := event_loop, next_task := env.next_task + 1 } (views ++ [none]) where
  tasks := by simpa using haccounted.tasks
  consumer := getElem?_grow haccounted.consumer _
  covered := by
    intro d hd
    obtain ⟨left, hleft, hcovered⟩ := haccounted.covered d hd
    exact ⟨left, getElem?_grow hleft _, hcovered⟩
  senders := by
    intro e he
    have hlt := haccounted.senders e he
    simp only [List.length_append, List.length_singleton]
    omega
  arrived := haccounted.arrived
  apart := haccounted.apart

theorem apart_of_fresh {env : Env} {activity : MercuryActivity} (hfresh : fresh_activity env activity = true)
    {d : Delivery} (hd : d ∈ env.deliveries) : Apart d ⟨env.next_task, activity, env.time⟩ := by
  intro hid hrouted hrouted' hnear
  simp only [fresh_activity, hrouted', Bool.not_true, Bool.false_or, List.all_eq_true] at hfresh
  have hlate := hfresh d hd
  simp only [hid, bne_self_eq_false, hrouted, Bool.not_true, Bool.false_or, decide_eq_true_eq] at hlate
  have hclose := hnear.2
  simp only at hclose
  omega

/-- A delivery gives its task the budget of its activity. -/
theorem Accounted.spawn_activity {env : Env} {views : List (Option Nat)} (haccounted : Accounted env views)
    {activity : MercuryActivity} (hfresh : fresh_activity env activity = true) :
    Accounted { env with
      next_task := env.next_task + 1
      deliveries := env.deliveries ++ [⟨env.next_task, activity, env.time⟩] }
      (views ++ [some (events_of activity)]) where
  tasks := by simpa using haccounted.tasks
  consumer := getElem?_grow haccounted.consumer _
  covered := by
    intro d hd
    rcases List.mem_append.mp hd with hold | hnew
    · obtain ⟨left, hleft, hcovered⟩ := haccounted.covered d hold
      exact ⟨left, getElem?_grow hleft _, hcovered⟩
    · obtain rfl := List.mem_singleton.mp hnew
      refine ⟨events_of activity, ?_, ?_⟩
      · show (views ++ [some (events_of activity)])[env.next_task]? = _
        rw [haccounted.tasks]
        simp
      · have hnone := haccounted.emitted_new
        simp only [Env.emitted] at hnone ⊢
        omega
  senders := by
    intro e he
    have hlt := haccounted.senders e he
    simp only [List.length_append, List.length_singleton]
    omega
  arrived := by
    intro d hd
    rcases List.mem_append.mp hd with hold | hnew
    · exact haccounted.arrived d hold
    · obtain rfl := List.mem_singleton.mp hnew
      exact Nat.le_refl env.time
  apart := by
    rw [List.pairwise_append]
    refine ⟨haccounted.apart, List.pairwise_singleton _ _, ?_⟩
    intro d hd d' hd'
    obtain rfl := List.mem_singleton.mp hd'
    exact apart_of_fresh hfresh hd

/-- The condition on a step, seen by the task that performs it. -/
def DeliversFresh (env : Env) (_ : Nat) (op : Op) (_ : Choice) : Prop :=
  ∀ activity, op = .spawn_activity activity → fresh_activity env activity = true

theorem budget_sound : Pool.Sound budget (fun _ => True) Accounted DeliversFresh (perform crates) := by
  intro tid op choice env r env' spawned views g hview hg hallowed hcond hperform
  have hself := set_self hg
  cases perform_performed hperform with
  | start_event_loop hnone =>
    refine ⟨g, [none], rfl, ?_, .cons ?_ .nil⟩
    · rw [hself]
      exact hview.start_event_loop (some env.next_task)
    · have hbody : ∀ g : Option Nat, g = none →
          (as_task (event_loop crates)).Obeys budget (fun _ g => g = none) g := by
        rintro _ rfl
        exact task_unbudgeted _
      exact Task.obeys_loop rfl hbody rfl
  | spawn_activity activity =>
    refine ⟨g, [some (events_of activity)], rfl, ?_, .cons (activity_task_budget activity) .nil⟩
    rw [hself]
    exact hview.spawn_activity (hcond activity rfl)
  | send event hroom =>
    refine ⟨g.map (· - 1), [], rfl, ?_, .nil⟩
    rw [List.append_nil]
    exact hview.send hg hallowed event _
  | try_send event hroom =>
    refine ⟨g.map (· - 1), [], .inr rfl, ?_, .nil⟩
    rw [List.append_nil]
    exact hview.send hg hallowed event _
  | dropped event hfull =>
    refine ⟨g, [], .inl rfl, ?_, .nil⟩
    rw [List.append_nil, hself]
    exact hview
  | kms mailbox op choice r mailboxes hkms =>
    refine ⟨g, [], rfl, ?_, .nil⟩
    rw [List.append_nil, hself]
    exact hview.frame rfl rfl rfl (Nat.le_refl _)
  | _ =>
    refine ⟨g, [], rfl, ?_, .nil⟩
    rw [List.append_nil, hself]
    exact hview.frame rfl rfl rfl (Nat.le_refl _)

def SystemAccounted (s : System) : Prop := ∃ views, s.Obeyed budget (fun _ => True) Accounted views

theorem SystemAccounted.step {ignore_self_messages : Bool} {s next : System} {label : Label}
    (haccounted : SystemAccounted s) (hfresh : delivers_fresh s label = true)
    (hstep : s.step crates ignore_self_messages label = some next) : SystemAccounted next := by
  obtain ⟨views, hobeyed⟩ := haccounted
  cases label with
  | call call =>
    simp only [System.step, Option.ite_none_right_eq_some, Option.some.injEq] at hstep
    obtain ⟨-, rfl⟩ := hstep
    refine ⟨views.set 0 none, ?_, Pool.forall₂_set hobeyed.tasks ?_ 0⟩
    · rw [set_self hobeyed.view.consumer]
      exact hobeyed.view
    · exact Program.Obeys.mono (fun _ _ _ => trivial) (task_unbudgeted _)
  | receive =>
    simp only [System.step] at hstep
    split at hstep
    · simp at hstep
    · simp only [Option.ite_none_right_eq_some, Option.some.injEq] at hstep
      obtain ⟨-, rfl⟩ := hstep
      exact ⟨views, hobeyed.view.frame rfl rfl rfl (Nat.le_refl _), hobeyed.tasks⟩
  | perform tid choice =>
    refine hobeyed.advance budget_sound ?_ hstep
    rintro op hhead activity rfl
    simpa [delivers_fresh, hhead] using hfresh
  | wait millis =>
    obtain rfl := Option.some.inj hstep
    exact ⟨views, hobeyed.view.frame rfl rfl rfl (Nat.le_add_right _ _), hobeyed.tasks⟩

theorem accounted_initial {env : Env} (htasks : env.next_task = 1) (hsent : env.sent = [])
    (hdeliveries : env.deliveries = []) : Accounted env [none] where
  tasks := htasks
  consumer := rfl
  covered := by simp [hdeliveries]
  senders := by simp [hsent]
  arrived := by simp [hdeliveries]
  apart := by simp [hdeliveries]

/-- No id is answered twice within 300 seconds in a run in which no routed activity is
    redelivered that soon. -/
theorem replay_protected_of_delivers_fresh (crates : Crates) (token : String) (ignore_self_messages : Bool)
    (capacity : Nat) {s : System}
    (hreach : (system crates token ignore_self_messages capacity).Reachable
      (fun s label => delivers_fresh s label = true) s) : ReplayProtected s.env := by
  have haccounted : SystemAccounted s := by
    refine hreach.invariant ?_ ?_
    · exact ⟨[none], accounted_initial rfl rfl rfl, .cons trivial .nil⟩
    · exact fun s label next _ haccounted hfresh hstep => haccounted.step hfresh hstep
  obtain ⟨views, hobeyed⟩ := haccounted
  exact hobeyed.view.replay_protected

section sample

/-- A task that handles a deletion, from start to end. -/
def deletion_labels (tid : Nat) : List Label := List.replicate 5 (.perform tid .done)

/-- Mercury redelivers an activity after a while. -/
def redelivery_labels (millis : Nat) : List Label :=
  connected_labels ++ deliver_labels (deletion "a") ++ deletion_labels 2 ++ [.wait millis] ++
    deliver_labels (deletion "a") ++ deletion_labels 3

/-- What is observed of a run: the deliveries, and what the first two of them sent. -/
structure Redelivery where
  deliveries : List (Nat × String × Nat)
  first : Nat
  second : Nat
  deriving DecidableEq

def redelivery (s : System) : Redelivery where
  deliveries := s.env.deliveries.map fun d => (d.task, d.activity.id, d.time)
  first := s.env.emitted 2
  second := s.env.emitted 3

theorem late_redelivery_protected :
    ∃ s, (system sample_crates "token" false 8).run (system sample_crates "token" false 8).init
        (redelivery_labels 300001) = some s ∧
      redelivery s = ⟨[(2, "a", 0), (3, "a", 300001)], 1, 1⟩ ∧ ReplayProtected s.env := by
  have hobserve : (((system sample_crates "token" false 8).run (system sample_crates "token" false 8).init
      (redelivery_labels 300001)).map redelivery) = some ⟨[(2, "a", 0), (3, "a", 300001)], 1, 1⟩ := by
    decide +kernel
  have hmeets : (system sample_crates "token" false 8).meets delivers_fresh
      (system sample_crates "token" false 8).init (redelivery_labels 300001) = true := by
    decide +kernel
  simp only [Option.map_eq_some_iff] at hobserve
  obtain ⟨s, hrun, hredelivery⟩ := hobserve
  refine ⟨s, hrun, hredelivery, ?_⟩
  exact replay_protected_of_delivers_fresh sample_crates "token" false 8
    (Machine.Reachable.run .init (redelivery_labels 300001) (Machine.Meets.of_meets hmeets) hrun)

/-- An activity that Mercury delivers again after a second is answered again. -/
theorem redelivered_activity_emitted_twice :
    ∃ s, (system sample_crates "token" false 8).Reachable Machine.Always s ∧ ¬ ReplayProtected s.env := by
  have hobserve : (((system sample_crates "token" false 8).run (system sample_crates "token" false 8).init
      (redelivery_labels 1000)).map redelivery) = some ⟨[(2, "a", 0), (3, "a", 1000)], 1, 1⟩ := by
    decide +kernel
  simp only [Option.map_eq_some_iff, redelivery, Redelivery.mk.injEq] at hobserve
  obtain ⟨s, hrun, hdeliveries, hfirst, hsecond⟩ := hobserve
  refine ⟨s, Machine.reachable_of_run hrun, fun hprotected => ?_⟩
  have hmem : (2, "a", 0) ∈ s.env.deliveries.map fun d => (d.task, d.activity.id, d.time) := by simp [hdeliveries]
  have hmem' : (3, "a", 1000) ∈ s.env.deliveries.map fun d => (d.task, d.activity.id, d.time) := by
    simp [hdeliveries]
  simp only [List.mem_map, Prod.mk.injEq] at hmem hmem'
  obtain ⟨d, hd, htask, hid, htime⟩ := hmem
  obtain ⟨d', hd', htask', hid', htime'⟩ := hmem'
  have htwice := hprotected.twice d hd d' hd' (by omega) (hid.trans hid'.symm) ⟨by omega, by omega⟩
  rw [htask, htask', hfirst, hsecond] at htwice
  omega

end sample

end webex.rust.handler

import Mathlib.Logic.Function.Basic
import WebexHandler.Interaction.Pool
import WebexHandler.Node.KmsClient.Calls
import WebexHandler.Node.KmsClient.Rules
import WebexHandler.Transition.FairLock

open interaction json transition

namespace webex.node.kms_client

section machine

/-- An operation within the scope of a callback. The mutex is private to the client, and
    the functions that resolve its promises are local to `_withKmsLock`. -/
def InScope : Op → Prop
  | .update f => ∀ now kms, (f now kms).kms_request_mutex = kms.kms_request_mutex
  | .turn _ => False
  | .resolve _ => False
  | _ => True

def scope : Monitor Op Res Unit where
  allowed _ op := InScope op
  moves _ _ _ _ := True

/-- A callback of `_withKmsLock`: any operations in its scope, any number of awaits and
    any outcome. A call of the lock that it makes is a call like any other. -/
structure Callback (α : Type) where
  fn : Async α
  in_scope : fn.Keeps scope fun _ _ => True

inductive Origin
  | with_kms_lock
  | initialize_client
  | get_key
  deriving DecidableEq, Repr

/-- A call, with what is left of it and whether it fails in the end. -/
structure LockCall where
  origin : Origin
  rest : Program Op Res (Except Thrown Unit)

def outcome {α : Type} (m : Async α) : Program Op Res (Except Thrown Unit) :=
  (m ()).bind fun out => .ret (out.1.map fun _ => ())

/-- The runtime, with what has happened to the lock. -/
structure Traced where
  runtime : Runtime
  log : List (LockEvent Nat) := []

/-- A call has asked for the lock when the chain has a new end, and has released it when
    it has resolved its promise. -/
def lock_events (call : Nat) : Op → Runtime → Runtime → List (LockEvent Nat)
  | .update _, before, after =>
    if after.kms.kms_request_mutex = before.kms.kms_request_mutex then [] else [.queued call]
  | .resolve _, _, _ => [.released call]
  | _, _, _ => []

/-- The callback starts when the wait for the previous promise is over. -/
def start_events (call : Nat) : Op → List (LockEvent Nat)
  | .turn _ => [.started call]
  | _ => []

def traced_sync (call : Nat) (op : Op) (env : Traced) : Option (Res op × Traced) :=
  (sync op env.runtime).map fun out => (out.1, ⟨out.2, env.log ++ lock_events call op env.runtime out.2⟩)

structure Locking where
  env : Traced
  calls : List LockCall := []

/-- A call of the lock, of `initialize` or of `getKey` is made, or goes on after an
    await; Mercury delivers KMS messages; a pending request times out; time passes. -/
inductive LockLabel (α : Type)
  | with_kms_lock (callback : Callback α)
  | initialize_client
  | get_key (key_uri : String)
  | resume (call : Nat) (settled : Settled)
  | deliver (data : Value)
  | timeout (promise : Nat)
  | wait (millis : Nat)

namespace Locking

def begin (s : Locking) (origin : Origin) (program : Program Op Res (Except Thrown Unit)) : Locking :=
  let out := program.settle (traced_sync s.calls.length) s.env
  { env := out.2, calls := s.calls ++ [⟨origin, out.1⟩] }

def resume (s : Locking) (call : Nat) (settled : Settled) : Option Locking :=
  match s.calls[call]? with
  | some ⟨origin, .ask op next⟩ =>
    (answer op settled s.env.runtime).map fun r =>
      let out := (next r).settle (traced_sync call) { s.env with log := s.env.log ++ start_events call op }
      { env := out.2, calls := s.calls.set call ⟨origin, out.1⟩ }
  | _ => none

def step {α : Type} (builtins : Builtins) (s : Locking) : LockLabel α → Option Locking
  | .with_kms_lock callback => some (s.begin .with_kms_lock (outcome (kms_client.with_kms_lock callback.fn)))
  | .initialize_client => some (s.begin .initialize_client (outcome (kms_client.initialize_client builtins)))
  | .get_key key_uri => some (s.begin .get_key (outcome (kms_client.get_key builtins key_uri)))
  | .resume call settled => s.resume call settled
  | .deliver data => some { s with env := { s.env with runtime := s.env.runtime.handle_kms_message data } }
  | .timeout promise =>
    (s.env.runtime.fire promise).map fun runtime => { s with env := { s.env with runtime := runtime } }
  | .wait millis =>
    some { s with env := { s.env with runtime := { s.env.runtime with time := s.env.runtime.time + millis } } }

end Locking

/-- Every run of a client with any calls of its lock, which return values of `α`. -/
def locking (α : Type) (builtins : Builtins) (kms : KmsClient) : Machine Locking (LockLabel α) where
  init := { env := { runtime := { kms := kms } } }
  step := Locking.step builtins

end machine

section monitor

/-- Where a call stands: it waits for the promise `prev` and has put `own` at the end of
    the chain, or it is in its callback and has yet to resolve `own`. -/
inductive LockPhase
  | idle
  | queued (prev own : Nat)
  | holding (own : Nat)

def LockPhase.Active (phase : LockPhase) : Prop := ∀ prev own, phase ≠ .queued prev own

/-- What a call knows: where it stands and how often it has released the lock, and between
    two awaits also the end of the chain and a promise that it has just created. -/
structure LockView where
  phase : LockPhase
  sections : Nat
  mutex : Nat
  fresh : Option Nat

def join (promise : Nat) : Nat → KmsClient → KmsClient := fun _ self => { self with kms_request_mutex := promise }

/-- A call that waits does nothing else; it asks for the lock with a new promise and only
    when it neither waits nor holds, and resolves the promise it asked with. -/
def lock_monitor : Monitor Op Res LockView where
  allowed g op :=
    match op with
    | .turn promise => ∃ own, g.phase = .queued promise own
    | .resolve promise => g.phase = .holding promise
    | .update f => g.phase.Active ∧
        (InScope (.update f) ∨ ∃ own, f = join own ∧ g.phase = .idle ∧ g.fresh = some own)
    | _ => g.phase.Active
  moves g op r g' :=
    match op with
    | .get => r.kms_request_mutex = g.mutex ∧ g' = g
    | .now => g' = g
    | .set_timeout _ _ => g' = g
    | .new_promise => g' = { g with fresh := some r }
    | .update f => (InScope (.update f) ∧ g' = g) ∨
        ∃ own, f = join own ∧ g' = { g with phase := .queued g.mutex own, mutex := own, fresh := none }
    | .turn promise => ∃ own, g.phase = .queued promise own ∧ g'.phase = .holding own ∧ g'.sections = g.sections
    | .resolve _ => g' = { g with phase := .idle, sections := g.sections + 1 }
    | _ => g'.phase = g.phase ∧ g'.sections = g.sections

theorem not_in_scope_join (own : Nat) : ¬ InScope (.update (join own)) := by
  intro hscope
  have hsame := hscope 0 { new "" "" "" "" with kms_request_mutex := own + 1 }
  simp [join] at hsame

/-- What is said of where a call stands survives the operations in scope. -/
theorem moves_in_scope {g g' : LockView} {op : Op} {r : Res op} (hscope : InScope op)
    (hmoves : lock_monitor.moves g op r g') : g'.phase = g.phase ∧ g'.sections = g.sections := by
  cases op with
  | turn promise => exact hscope.elim
  | resolve promise => exact hscope.elim
  | update f =>
    obtain ⟨-, rfl⟩ | ⟨own, rfl, -⟩ := hmoves
    · exact ⟨rfl, rfl⟩
    · exact absurd hscope (not_in_scope_join own)
  | get =>
    obtain ⟨-, rfl⟩ := hmoves
    exact ⟨rfl, rfl⟩
  | now | set_timeout | new_promise =>
    cases hmoves
    exact ⟨rfl, rfl⟩
  | _ => exact hmoves

theorem allowed_in_scope {g : LockView} {op : Op} (hscope : InScope op) (hactive : g.phase.Active) :
    lock_monitor.allowed g op := by
  cases op with
  | turn promise => exact hscope.elim
  | resolve promise => exact hscope.elim
  | update f => exact ⟨hactive, .inl hscope⟩
  | _ => exact hactive

section methods

variable {P : LockPhase → Nat → Prop} {α : Type} {builtins : Builtins}

theorem keeps_in_scope (hactive : ∀ phase n, P phase n → phase.Active) {op : Op} (hscope : InScope op) :
    (Method.request op : Async (Res op)).Keeps lock_monitor fun _ g => P g.phase g.sections := by
  apply Method.keeps_request
  intro _ g hstands
  refine ⟨allowed_in_scope hscope (hactive _ _ hstands), ?_⟩
  intro r g' hmoves
  obtain ⟨hphase, hsections⟩ := moves_in_scope hscope hmoves
  rw [hphase, hsections]
  exact hstands

theorem plain_lock (hactive : ∀ phase n, P phase n → phase.Active) :
    PlainRule lock_monitor fun _ g => P g.phase g.sections := by
  intro op hplain
  apply keeps_in_scope hactive
  cases op with
  | update f => exact fun now kms => (hplain now kms).1
  | _ => exact hplain

/-- A callback stays where it is, whatever it does in its scope. -/
theorem Callback.keeps (callback : Callback α) (hactive : ∀ phase n, P phase n → phase.Active) :
    callback.fn.Keeps lock_monitor fun _ g => P g.phase g.sections := by
  intro state g hstands
  refine Program.Obeys.transfer (fun _ g => P g.phase g.sections) ?_ ?_ ?_ hstands (callback.in_scope state () trivial)
  · intro _ g op hstands hscope
    exact allowed_in_scope hscope (hactive _ _ hstands)
  · intro _ g op r g' hstands hscope hmoves
    obtain ⟨hphase, hsections⟩ := moves_in_scope hscope hmoves
    exact ⟨(), trivial, by rw [hphase, hsections]; exact hstands⟩
  · intro _ _ g hstands _
    exact hstands

/-- The callback of a call that holds the lock. -/
def HoldsIn (own sections : Nat) (phase : LockPhase) (n : Nat) : Prop := phase = .holding own ∧ n = sections

theorem HoldsIn.active {own sections : Nat} (phase : LockPhase) (n : Nat) (hholds : HoldsIn own sections phase n) :
    phase.Active := by
  obtain ⟨rfl, -⟩ := hholds
  exact fun _ _ => nofun

/-- A call of the lock asks once and releases once, however its callback ends. -/
theorem with_kms_lock_obeys {fn : Async α}
    (hfn : ∀ own sections, fn.Keeps lock_monitor fun _ g => HoldsIn own sections g.phase g.sections) {g : LockView}
    (hidle : g.phase = .idle) :
    (with_kms_lock fn).Obeys lock_monitor () g
      fun _ _ g' => g'.phase = .idle ∧ g'.sections = g.sections + 1 := by
  have hactive : g.phase.Active := by
    rw [hidle]
    exact fun _ _ => nofun
  unfold with_kms_lock
  apply Method.obeys_bind_request.mpr
  refine ⟨hactive, ?_⟩
  rintro self g ⟨hmutex, rfl⟩
  apply Method.obeys_bind_request.mpr
  refine ⟨hactive, ?_⟩
  rintro promise _ rfl
  apply Method.obeys_bind_request.mpr
  refine ⟨⟨hactive, .inr ⟨promise, rfl, hidle, rfl⟩⟩, ?_⟩
  rintro _ g' (⟨hscope, -⟩ | ⟨own, hown, rfl⟩)
  · exact absurd hscope (not_in_scope_join promise)
  have howner : own = promise := by
    have hkms := congrArg (fun f => (f 0 self).kms_request_mutex) hown
    simpa [join] using hkms.symm
  subst howner
  apply Method.obeys_bind_request.mpr
  refine ⟨⟨own, by rw [hmutex]⟩, ?_⟩
  rintro _ g' ⟨own', hqueued, hholding, hsections⟩
  obtain rfl : own = own' := (LockPhase.queued.inj hqueued).2
  rw [Method.obeys_bind, Method.obeys_attempt]
  apply (hfn own g.sections () g' ⟨hholding, hsections⟩).mono
  rintro outcome _ g'' ⟨hholding, hsections⟩
  dsimp only
  apply Method.obeys_bind_request.mpr
  refine ⟨hholding, ?_⟩
  rintro _ _ rfl
  exact ⟨rfl, congrArg (· + 1) hsections⟩

theorem initialize_client_lock {g : LockView} (hidle : g.phase = .idle) :
    (initialize_client builtins).Obeys lock_monitor () g
      fun _ _ g' => g'.phase = .idle ∧ g'.sections = g.sections + 1 :=
  with_kms_lock_obeys (fun _ _ => (plain_lock HoldsIn.active).initialize_body) hidle

/-- `getKey` releases the lock that `initialize` takes before it asks for it again. -/
theorem get_key_lock (key_uri : String) :
    (get_key builtins key_uri).Keeps lock_monitor fun _ g => g.phase = .idle := by
  have hactive : ∀ (phase : LockPhase) (n : Nat), phase = .idle → phase.Active := by
    rintro phase n rfl
    exact fun _ _ => nofun
  have hplain := plain_lock (P := fun phase _ => phase = .idle) hactive
  apply Method.keeps_bind hplain.read
  intro self
  split
  · exact Method.keeps_pure _
  · apply Method.keeps_tryCatch
    · apply hplain.fetch_key
      intro β fn hfn state g hidle
      apply (with_kms_lock_obeys (fun own sections => hfn _ (plain_lock HoldsIn.active)) hidle).mono
      exact fun _ _ _ hreleased => hreleased.1
    · intro error
      apply Method.keeps_bind _ fun _ => Method.keeps_throw _
      apply keeps_in_scope (P := fun phase _ => phase = .idle) hactive
      exact fun _ _ => rfl

end methods

end monitor

section chain

variable {phases : Nat → LockPhase} {mutex front : Nat} {queue : List Nat}

/-- The waiting calls form a chain: each waits for the promise of the one before it, the
    first for `front`, and the promise of the last is the mutex. -/
def Chain (phases : Nat → LockPhase) (mutex : Nat) : Nat → List Nat → Prop
  | front, [] => mutex = front
  | front, call :: rest => ∃ own, front < own ∧ phases call = .queued front own ∧ Chain phases mutex own rest

theorem Chain.queued (hchain : Chain phases mutex front queue) {call : Nat} (hmem : call ∈ queue) :
    ∃ prev own, phases call = .queued prev own ∧ front ≤ prev := by
  induction queue generalizing front with
  | nil => cases hmem
  | cons first rest ih =>
    obtain ⟨own, hlt, hfirst, hrest⟩ := hchain
    obtain rfl | hmem := List.mem_cons.mp hmem
    · exact ⟨front, own, hfirst, Nat.le_refl front⟩
    · obtain ⟨prev, own', hqueued, hle⟩ := ih hrest hmem
      exact ⟨prev, own', hqueued, by omega⟩

/-- Only the first call of the chain waits for a promise that is not after `front`. -/
theorem Chain.first (hchain : Chain phases mutex front queue) {call prev own : Nat} (hmem : call ∈ queue)
    (hqueued : phases call = .queued prev own) (hprev : prev ≤ front) :
    prev = front ∧ front < own ∧ ∃ rest, queue = call :: rest ∧ Chain phases mutex own rest := by
  cases queue with
  | nil => cases hmem
  | cons first rest =>
    obtain ⟨own', hlt, hfirst, hrest⟩ := hchain
    obtain rfl | hmem := List.mem_cons.mp hmem
    · obtain ⟨rfl, rfl⟩ := LockPhase.queued.inj (hqueued.symm.trans hfirst)
      exact ⟨rfl, hlt, rest, rfl, hrest⟩
    · obtain ⟨prev', _, hqueued', hle⟩ := hrest.queued hmem
      obtain ⟨rfl, -⟩ := LockPhase.queued.inj (hqueued.symm.trans hqueued')
      omega

/-- A call outside the chain may change where it stands. -/
theorem Chain.update (hchain : Chain phases mutex front queue) {call : Nat} (hcall : call ∉ queue)
    (phase : LockPhase) : Chain (Function.update phases call phase) mutex front queue := by
  induction queue generalizing front with
  | nil => exact hchain
  | cons first rest ih =>
    obtain ⟨own, hlt, hfirst, hrest⟩ := hchain
    obtain ⟨hne, hnotin⟩ := not_or.mp (mt List.mem_cons.mpr hcall)
    exact ⟨own, hlt, by rw [Function.update_of_ne (Ne.symm hne), hfirst], ih hrest hnotin⟩

/-- A call joins at the end. -/
theorem Chain.join (hchain : Chain phases mutex front queue) {call own : Nat} (hcall : call ∉ queue)
    (hfresh : mutex < own) :
    Chain (Function.update phases call (.queued mutex own)) own front (queue ++ [call]) := by
  induction queue generalizing front with
  | nil =>
    obtain rfl : mutex = front := hchain
    exact ⟨own, hfresh, Function.update_self _ _ _, rfl⟩
  | cons first rest ih =>
    obtain ⟨own', hlt, hfirst, hrest⟩ := hchain
    obtain ⟨hne, hnotin⟩ := not_or.mp (mt List.mem_cons.mpr hcall)
    exact ⟨own', hlt, by rw [Function.update_of_ne (Ne.symm hne), hfirst], ih hrest hnotin⟩

end chain

section order

variable {env : Traced} {lock : FairLock Nat} {front : Nat} {phases : Nat → LockPhase} {call : Nat}

/-- The chain is the queue of a fair lock that accepts the log. The promise that the first
    of the queue waits for is the holder's, or is resolved when the lock is free, and no
    later one is resolved. -/
structure Orderly (env : Traced) (lock : FairLock Nat) (front : Nat) (phases : Nat → LockPhase) : Prop where
  accepted : fair_lock.run fair_lock.init env.log = some lock
  chain : Chain phases env.runtime.kms.kms_request_mutex front lock.queue
  minted : env.runtime.kms.kms_request_mutex < env.runtime.next_promise
  resolved : ∀ promise ∈ env.runtime.resolved, promise ≤ front
  free : lock.holder = none → front ∈ env.runtime.resolved
  held : ∀ i, lock.holder = some i → phases i = .holding front ∧ front ∉ env.runtime.resolved
  waiting : ∀ i prev own, phases i = .queued prev own → i ∈ lock.queue
  holding : ∀ i own, phases i = .holding own → lock.holder = some i

theorem Orderly.not_queued (horderly : Orderly env lock front phases) (hactive : (phases call).Active) :
    call ∉ lock.queue := by
  intro hmem
  obtain ⟨prev, own, hqueued, -⟩ := horderly.chain.queued hmem
  exact hactive prev own hqueued

theorem Orderly.not_holder (horderly : Orderly env lock front phases) (hphase : ∀ own, phases call ≠ .holding own) :
    lock.holder ≠ some call := by
  intro hholder
  exact hphase front (horderly.held call hholder).1

/-- Nothing changes that the lock depends on. -/
theorem Orderly.of_runtime (horderly : Orderly env lock front phases) {runtime : Runtime}
    (hmutex : runtime.kms.kms_request_mutex = env.runtime.kms.kms_request_mutex)
    (hresolved : runtime.resolved = env.runtime.resolved) (hnext : env.runtime.next_promise ≤ runtime.next_promise) :
    Orderly { env with runtime := runtime } lock front phases where
  accepted := horderly.accepted
  chain := by
    rw [hmutex]
    exact horderly.chain
  minted := by
    rw [hmutex]
    exact Nat.lt_of_lt_of_le horderly.minted hnext
  resolved := by
    rw [hresolved]
    exact horderly.resolved
  free := by
    rw [hresolved]
    exact horderly.free
  held := by
    rw [hresolved]
    exact horderly.held
  waiting := horderly.waiting
  holding := horderly.holding

theorem accepted_append {log : List (LockEvent Nat)} {event : LockEvent Nat} {next : FairLock Nat}
    (haccepted : fair_lock.run fair_lock.init log = some lock) (hstep : fair_lock.step lock event = some next) :
    fair_lock.run fair_lock.init (log ++ [event]) = some next := by
  rw [Machine.run_append, haccepted, Option.bind_some, Machine.run_singleton, hstep]

/-- A call asks for the lock with a promise that it has just created. -/
theorem Orderly.join (horderly : Orderly env lock front phases) (hidle : phases call = .idle) {own : Nat}
    (hfresh : env.runtime.kms.kms_request_mutex < own) (hminted : own < env.runtime.next_promise) :
    Orderly { runtime := { env.runtime with kms := kms_client.join own env.runtime.time env.runtime.kms }
              log := env.log ++ [.queued call] }
      { lock with queue := lock.queue ++ [call] } front
      (Function.update phases call (.queued env.runtime.kms.kms_request_mutex own)) := by
  have hqueue : call ∉ lock.queue := horderly.not_queued (by rw [hidle]; exact fun _ _ => nofun)
  have hholder : lock.holder ≠ some call := horderly.not_holder (by rw [hidle]; exact fun _ => nofun)
  refine ⟨?_, horderly.chain.join hqueue hfresh, hminted, horderly.resolved, horderly.free, ?_, ?_, ?_⟩
  · apply accepted_append horderly.accepted
    simp [fair_lock, hqueue, hholder]
  · intro i hi
    have hne : i ≠ call := by
      rintro rfl
      exact hholder hi
    rw [Function.update_of_ne hne]
    exact horderly.held i hi
  · intro i prev own hi
    by_cases heq : i = call
    · exact List.mem_append_right _ (List.mem_singleton.mpr heq)
    · rw [Function.update_of_ne heq] at hi
      exact List.mem_append_left _ (horderly.waiting i prev own hi)
  · intro i own hi
    by_cases heq : i = call
    · subst heq
      rw [Function.update_self] at hi
      cases hi
    · rw [Function.update_of_ne heq] at hi
      exact horderly.holding i own hi

/-- The wait of a call is over only when it is the first of the queue and the lock is
    free. -/
theorem Orderly.first (horderly : Orderly env lock front phases) {prev own : Nat}
    (hqueued : phases call = .queued prev own) (hresolved : prev ∈ env.runtime.resolved) :
    lock.holder = none ∧ front < own ∧
      ∃ rest, lock.queue = call :: rest ∧ Chain phases env.runtime.kms.kms_request_mutex own rest := by
  obtain ⟨rfl, hlt, rest, hqueue, hrest⟩ := horderly.chain.first (horderly.waiting call prev own hqueued) hqueued
    (horderly.resolved prev hresolved)
  refine ⟨?_, hlt, rest, hqueue, hrest⟩
  cases hholder : lock.holder with
  | none => rfl
  | some i => exact absurd hresolved (horderly.held i hholder).2

theorem Orderly.start (horderly : Orderly env lock front phases) {prev own : Nat}
    (hqueued : phases call = .queued prev own) (hresolved : prev ∈ env.runtime.resolved) :
    ∃ next, Orderly { env with log := env.log ++ [.started call] } next own
      (Function.update phases call (.holding own)) := by
  obtain ⟨hfree, hlt, rest, hqueue, hrest⟩ := horderly.first hqueued hresolved
  have hnotin : call ∉ rest := by
    intro hmem
    obtain ⟨prev', own', hqueued', hle⟩ := hrest.queued hmem
    obtain ⟨rfl, -⟩ := LockPhase.queued.inj (hqueued.symm.trans hqueued')
    have hbound := horderly.resolved prev hresolved
    omega
  have hnotresolved : own ∉ env.runtime.resolved := by
    intro hmem
    have hbound := horderly.resolved own hmem
    omega
  refine ⟨{ queue := rest, holder := some call }, ?_, hrest.update hnotin _, horderly.minted, ?_, nofun, ?_, ?_, ?_⟩
  · apply accepted_append horderly.accepted
    simp [fair_lock, hfree, hqueue]
  · intro promise hmem
    exact Nat.le_trans (horderly.resolved promise hmem) (Nat.le_of_lt hlt)
  · rintro i ⟨⟩
    exact ⟨Function.update_self _ _ _, hnotresolved⟩
  · intro i prev' own' hi
    by_cases heq : i = call
    · subst heq
      rw [Function.update_self] at hi
      cases hi
    · rw [Function.update_of_ne heq] at hi
      have hmem := horderly.waiting i prev' own' hi
      rw [hqueue] at hmem
      exact (List.mem_cons.mp hmem).resolve_left heq
  · intro i own' hi
    by_cases heq : i = call
    · rw [heq]
    · rw [Function.update_of_ne heq] at hi
      have hholder := horderly.holding i own' hi
      rw [hfree] at hholder
      cases hholder

theorem Orderly.release (horderly : Orderly env lock front phases) {own : Nat} (hholding : phases call = .holding own) :
    Orderly { runtime := { env.runtime with resolved := own :: env.runtime.resolved }
              log := env.log ++ [.released call] }
      { lock with holder := none } front (Function.update phases call .idle) := by
  have hholder := horderly.holding call own hholding
  obtain rfl : own = front := LockPhase.holding.inj (hholding.symm.trans (horderly.held call hholder).1)
  have hqueue : call ∉ lock.queue := horderly.not_queued (by rw [hholding]; exact fun _ _ => nofun)
  refine ⟨?_, horderly.chain.update hqueue _, horderly.minted, ?_, fun _ => List.mem_cons_self, nofun, ?_, ?_⟩
  · apply accepted_append horderly.accepted
    simp [fair_lock, hholder]
  · intro promise hmem
    obtain rfl | hmem := List.mem_cons.mp hmem
    · exact Nat.le_refl _
    · exact horderly.resolved promise hmem
  · intro i prev own' hi
    by_cases heq : i = call
    · subst heq
      rw [Function.update_self] at hi
      cases hi
    · rw [Function.update_of_ne heq] at hi
      exact horderly.waiting i prev own' hi
  · intro i own' hi
    by_cases heq : i = call
    · subst heq
      rw [Function.update_self] at hi
      cases hi
    · rw [Function.update_of_ne heq] at hi
      have hother := horderly.holding i own' hi
      rw [hholder, Option.some.injEq] at hother
      exact absurd hother.symm heq

end order

section runs

variable {α : Type} {builtins : Builtins}

/-- How a call ends: it waits for nothing, and has released the lock once unless it is a
    `getKey`, which may have taken it twice or not at all. -/
def Origin.Finished (origin : Origin) (g : LockView) : Prop :=
  g.phase = .idle ∧ (origin ≠ .get_key → g.sections = 1)

/-- What is left of a call keeps to the monitor from where the call stands. -/
def LockCall.Stands (call : LockCall) (phase : LockPhase) (sections : Nat) : Prop :=
  ∃ g : LockView, g.phase = phase ∧ g.sections = sections ∧
    call.rest.Obeys lock_monitor (fun _ => call.origin.Finished) g

/-- The lock within a segment of a call, of which `phases` and `log` say how the other
    calls stand. -/
def InSegment (call : Nat) (phases : Nat → LockPhase) (log : List (LockEvent Nat)) (env : Traced) (g : LockView) : Prop :=
  (∃ lock front, Orderly env lock front (Function.update phases call g.phase)) ∧
  g.mutex = env.runtime.kms.kms_request_mutex ∧
  (∀ promise, g.fresh = some promise → g.mutex < promise ∧ promise < env.runtime.next_promise) ∧
  env.log.count (.released call) = g.sections ∧
  ∀ i, i ≠ call → env.log.count (.released i) = log.count (.released i)

theorem InSegment.of_runtime {call : Nat} {phases : Nat → LockPhase} {log : List (LockEvent Nat)} {env : Traced}
    {g : LockView} (hsegment : InSegment call phases log env g) (runtime : Runtime)
    (hmutex : runtime.kms.kms_request_mutex = env.runtime.kms.kms_request_mutex)
    (hresolved : runtime.resolved = env.runtime.resolved) (hnext : env.runtime.next_promise ≤ runtime.next_promise) :
    InSegment call phases log { env with runtime := runtime } g := by
  obtain ⟨⟨lock, front, horderly⟩, hknown, hfresh, hown, hothers⟩ := hsegment
  refine ⟨⟨lock, front, horderly.of_runtime hmutex hresolved hnext⟩, hknown.trans hmutex.symm, ?_, hown, hothers⟩
  intro promise hpromise
  obtain ⟨hlt, hbound⟩ := hfresh promise hpromise
  exact ⟨hlt, Nat.lt_of_lt_of_le hbound hnext⟩

theorem traced_segment {call : Nat} {phases : Nat → LockPhase} {log : List (LockEvent Nat)} (op : Op) (env env' : Traced)
    (r : Res op) (g : LockView) (hsegment : InSegment call phases log env g) (hallowed : lock_monitor.allowed g op)
    (hsync : traced_sync call op env = some (r, env')) :
    ∃ g', lock_monitor.moves g op r g' ∧ InSegment call phases log env' g' := by
  cases op with
  | get =>
    cases hsync
    refine ⟨g, ⟨hsegment.2.1.symm, rfl⟩, ?_⟩
    simp only [lock_events, List.append_nil]
    exact hsegment
  | now =>
    cases hsync
    refine ⟨g, rfl, ?_⟩
    simp only [lock_events, List.append_nil]
    exact hsegment
  | set_timeout promise request_id =>
    cases hsync
    refine ⟨g, rfl, ?_⟩
    simp only [lock_events, List.append_nil]
    exact hsegment.of_runtime _ rfl rfl (Nat.le_refl _)
  | new_promise =>
    cases hsync
    obtain ⟨hlock, hmutex, hfresh, hown, hothers⟩ := hsegment.of_runtime
      { env.runtime with next_promise := env.runtime.next_promise + 1 } rfl rfl (Nat.le_succ _)
    obtain ⟨⟨_, _, horderly⟩, -⟩ := hsegment
    refine ⟨{ g with fresh := some env.runtime.next_promise }, rfl, ?_⟩
    simp only [lock_events, List.append_nil]
    refine ⟨hlock, hmutex, ?_, hown, hothers⟩
    rintro promise ⟨⟩
    exact ⟨hmutex ▸ horderly.minted, Nat.lt_succ_self _⟩
  | update f =>
    cases hsync
    obtain ⟨-, hscope | ⟨own, rfl, hidle, hown⟩⟩ := hallowed
    · refine ⟨g, .inl ⟨hscope, rfl⟩, ?_⟩
      have hmutex := hscope env.runtime.time env.runtime.kms
      simp only [lock_events, if_pos hmutex, List.append_nil]
      exact hsegment.of_runtime _ hmutex rfl (Nat.le_refl _)
    · obtain ⟨⟨lock, front, horderly⟩, hmutex, hfresh, hcount, hothers⟩ := hsegment
      obtain ⟨hlt, hbound⟩ := hfresh own hown
      rw [hmutex] at hlt
      refine ⟨{ g with phase := .queued g.mutex own, mutex := own, fresh := none }, .inr ⟨own, rfl, rfl⟩, ?_⟩
      have hself : Function.update phases call g.phase call = .idle := by rw [Function.update_self, hidle]
      have hjoined := horderly.join hself hlt hbound
      rw [Function.update_idem, ← hmutex] at hjoined
      have hevents : lock_events call (.update (join own)) env.runtime
          { env.runtime with kms := join own env.runtime.time env.runtime.kms } = [.queued call] :=
        if_neg (Nat.ne_of_gt hlt)
      rw [hevents]
      refine ⟨⟨_, _, hjoined⟩, rfl, nofun, ?_, ?_⟩
      · simpa [List.count_append] using hcount
      · intro i hi
        simpa [List.count_append] using hothers i hi
  | resolve promise =>
    cases hsync
    have hholding : g.phase = .holding promise := hallowed
    obtain ⟨⟨lock, front, horderly⟩, hmutex, hfresh, hcount, hothers⟩ := hsegment
    refine ⟨{ g with phase := .idle, sections := g.sections + 1 }, rfl, ?_⟩
    have hself : Function.update phases call g.phase call = .holding promise := by rw [Function.update_self, hholding]
    have hreleased := horderly.release hself
    rw [Function.update_idem] at hreleased
    refine ⟨⟨_, _, hreleased⟩, hmutex, hfresh, ?_, ?_⟩
    · simp [lock_events, List.count_append, hcount]
    · intro i hi
      simpa [lock_events, List.count_append, List.count_singleton, Ne.symm hi] using hothers i hi
  | _ => cases hsync

/-- The calls of a run stand in an orderly queue, those that were not made yet as idle
    ones. -/
def Arranged (s : Locking) : Prop :=
  ∃ lock front phases, Orderly s.env lock front phases ∧
    (∀ i, s.calls.length ≤ i → phases i = .idle ∧ s.env.log.count (.released i) = 0) ∧
    ∀ i (call : LockCall), s.calls[i]? = some call → call.Stands (phases i) (s.env.log.count (.released i))

/-- A segment of a call, whose end is seen from the call itself. -/
theorem InSegment.settle {call : Nat} {phases : Nat → LockPhase} {log : List (LockEvent Nat)} {env : Traced}
    {g : LockView} (hsegment : InSegment call phases log env g) {origin : Origin}
    {p : Program Op Res (Except Thrown Unit)} (hobeys : p.Obeys lock_monitor (fun _ => origin.Finished) g) :
    ∃ phase lock front, Orderly (p.settle (traced_sync call) env).2 lock front (Function.update phases call phase) ∧
      LockCall.Stands ⟨origin, (p.settle (traced_sync call) env).1⟩ phase
        ((p.settle (traced_sync call) env).2.log.count (.released call)) ∧
      ∀ i, i ≠ call → (p.settle (traced_sync call) env).2.log.count (.released i) = log.count (.released i) := by
  obtain ⟨g', hrest, ⟨lock, front, horderly⟩, -, -, hcount, hothers⟩ := hobeys.settle traced_segment hsegment
  exact ⟨g'.phase, lock, front, horderly, ⟨g', rfl, hcount.symm, hrest⟩, hothers⟩

theorem Arranged.begin {s : Locking} (harranged : Arranged s) {origin : Origin}
    {p : Program Op Res (Except Thrown Unit)}
    (hobeys : ∀ g : LockView, g.phase = .idle → g.sections = 0 → p.Obeys lock_monitor (fun _ => origin.Finished) g) :
    Arranged (s.begin origin p) := by
  obtain ⟨lock, front, phases, horderly, hrest, hcalls⟩ := harranged
  obtain ⟨hidle, hnone⟩ := hrest s.calls.length (Nat.le_refl _)
  let g : LockView := ⟨.idle, 0, s.env.runtime.kms.kms_request_mutex, none⟩
  have hsegment : InSegment s.calls.length phases s.env.log s.env g := by
    refine ⟨⟨lock, front, ?_⟩, rfl, nofun, hnone, fun _ _ => rfl⟩
    rw [show g.phase = phases s.calls.length from hidle.symm, Function.update_eq_self]
    exact horderly
  obtain ⟨phase, lock', front', horderly', hstands, hothers⟩ := hsegment.settle (hobeys g rfl rfl)
  refine ⟨lock', front', _, horderly', ?_, ?_⟩
  · intro i hi
    have hlt : s.calls.length < i := by
      simp only [Locking.begin, List.length_append, List.length_singleton] at hi
      omega
    rw [Function.update_of_ne (Nat.ne_of_gt hlt)]
    exact ⟨(hrest i (Nat.le_of_lt hlt)).1, (hothers i (Nat.ne_of_gt hlt)).trans (hrest i (Nat.le_of_lt hlt)).2⟩
  · intro i call hcall
    obtain hcall | ⟨rfl, rfl⟩ := getElem?_concat_cases hcall
    · obtain ⟨hlt, -⟩ := List.getElem?_eq_some_iff.mp hcall
      rw [Function.update_of_ne (Nat.ne_of_lt hlt)]
      have hsame : (s.begin origin p).env.log.count (.released i) = s.env.log.count (.released i) :=
        hothers i (Nat.ne_of_lt hlt)
      rw [hsame]
      exact hcalls i call hcall
    · rw [Function.update_self]
      exact hstands

/-- What the end of an await does to the lock: the wait for a promise of the chain makes
    the call the holder, and any other await nothing. -/
theorem answer_segment {s : Locking} {call : Nat} {op : Op} {settled : Settled} {r : Res op} {lock : FairLock Nat}
    {front : Nat} {phases : Nat → LockPhase} {g : LockView} (horderly : Orderly s.env lock front phases)
    (hphase : g.phase = phases call) (hsections : g.sections = s.env.log.count (.released call))
    (hallowed : lock_monitor.allowed g op) (hanswer : answer op settled s.env.runtime = some r) :
    ∃ g', lock_monitor.moves g op r g' ∧
      InSegment call phases s.env.log { s.env with log := s.env.log ++ start_events call op } g' := by
  cases op with
  | turn promise =>
    obtain ⟨own, hqueued⟩ := hallowed
    have hresolved : promise ∈ s.env.runtime.resolved := by
      cases settled with
      | own =>
        simp only [answer, Option.ite_none_right_eq_some] at hanswer
        exact hanswer.1
      | _ => cases hanswer
    obtain ⟨next, hstarted⟩ := horderly.start (hphase.symm.trans hqueued) hresolved
    refine ⟨⟨.holding own, g.sections, s.env.runtime.kms.kms_request_mutex, none⟩, ⟨own, hqueued, rfl, rfl⟩, ?_⟩
    refine ⟨⟨next, own, hstarted⟩, rfl, nofun, ?_, ?_⟩
    · simpa [start_events, List.count_append] using hsections.symm
    · intro i _
      simp [start_events, List.count_append]
  | get | update | now | new_promise | resolve | set_timeout => simp [answer] at hanswer
  | _ =>
    refine ⟨⟨g.phase, g.sections, s.env.runtime.kms.kms_request_mutex, none⟩, ⟨rfl, rfl⟩, ?_⟩
    simp only [start_events, List.append_nil]
    refine ⟨⟨lock, front, ?_⟩, rfl, nofun, hsections.symm, fun _ _ => rfl⟩
    rw [hphase, Function.update_eq_self]
    exact horderly

theorem Arranged.resume {s next : Locking} (harranged : Arranged s) {call : Nat} {settled : Settled}
    (hresume : s.resume call settled = some next) : Arranged next := by
  unfold Locking.resume at hresume
  split at hresume
  · rename_i origin op rest hcall
    simp only [Option.map_eq_some_iff] at hresume
    obtain ⟨r, hanswer, rfl⟩ := hresume
    obtain ⟨lock, front, phases, horderly, hrest, hcalls⟩ := harranged
    obtain ⟨g, hphase, hsections, hallowed, hnext⟩ := hcalls call _ hcall
    obtain ⟨g', hmoves, hsegment⟩ := answer_segment horderly hphase hsections hallowed hanswer
    obtain ⟨phase, lock', front', horderly', hstands, hothers⟩ := hsegment.settle (hnext r g' hmoves)
    obtain ⟨hlt, -⟩ := List.getElem?_eq_some_iff.mp hcall
    refine ⟨lock', front', _, horderly', ?_, ?_⟩
    · intro i hi
      rw [List.length_set] at hi
      have hne : i ≠ call := by omega
      rw [Function.update_of_ne hne]
      exact ⟨(hrest i hi).1, (hothers i hne).trans (hrest i hi).2⟩
    · intro i other hother
      obtain ⟨rfl, rfl⟩ | ⟨hne, hother⟩ := getElem?_set_cases hother
      · rw [Function.update_self]
        exact hstands
      · rw [Function.update_of_ne hne]
        simp only [hothers i hne]
        exact hcalls i other hother
  · cases hresume

/-- The lock depends on nothing that a step outside the calls changes. -/
theorem Arranged.of_runtime {s : Locking} (harranged : Arranged s) {runtime : Runtime}
    (hmutex : runtime.kms.kms_request_mutex = s.env.runtime.kms.kms_request_mutex)
    (hresolved : runtime.resolved = s.env.runtime.resolved)
    (hnext : runtime.next_promise = s.env.runtime.next_promise) :
    Arranged { s with env := { s.env with runtime := runtime } } := by
  obtain ⟨lock, front, phases, horderly, hrest, hcalls⟩ := harranged
  exact ⟨lock, front, phases, horderly.of_runtime hmutex hresolved (Nat.le_of_eq hnext.symm), hrest, hcalls⟩

theorem handle_kms_message_lock (env : Runtime) (data : Value) :
    (env.handle_kms_message data).kms.kms_request_mutex = env.kms.kms_request_mutex ∧
      (env.handle_kms_message data).resolved = env.resolved ∧
      (env.handle_kms_message data).next_promise = env.next_promise := by
  unfold Runtime.handle_kms_message
  generalize Runtime.kms_messages data = messages
  induction messages generalizing env with
  | nil => exact ⟨rfl, rfl, rfl⟩
  | cons wrapped rest ih =>
    rw [List.foldl_cons, (ih _).1, (ih _).2.1, (ih _).2.2]
    unfold Runtime.resolve_first
    split
    · exact ⟨rfl, rfl, rfl⟩
    · exact ⟨rfl, rfl, rfl⟩

theorem fire_lock {env env' : Runtime} {promise : Nat} (hfire : env.fire promise = some env') :
    env'.kms.kms_request_mutex = env.kms.kms_request_mutex ∧ env'.resolved = env.resolved ∧
      env'.next_promise = env.next_promise := by
  unfold Runtime.fire at hfire
  split at hfire
  · cases hfire
  · split at hfire
    · cases hfire
      exact ⟨rfl, rfl, rfl⟩
    · cases hfire

/-- A method as a call, of which only the outcome is kept. -/
theorem obeys_outcome {m : Async α} {origin : Origin} {g : LockView}
    (hobeys : m.Obeys lock_monitor () g fun _ _ g' => origin.Finished g') :
    (outcome m).Obeys lock_monitor (fun _ => origin.Finished) g :=
  (Program.obeys_bind (m ()) _ g).mpr hobeys

theorem Arranged.step {s next : Locking} {label : LockLabel α} (harranged : Arranged s)
    (hstep : s.step builtins label = some next) : Arranged next := by
  cases label with
  | with_kms_lock callback =>
    cases hstep
    apply harranged.begin
    intro g hidle hsections
    apply obeys_outcome
    apply (with_kms_lock_obeys (fun own sections => callback.keeps HoldsIn.active) hidle).mono
    intro _ _ g' hreleased
    exact ⟨hreleased.1, fun _ => by rw [hreleased.2, hsections]⟩
  | initialize_client =>
    cases hstep
    apply harranged.begin
    intro g hidle hsections
    apply obeys_outcome
    apply (initialize_client_lock hidle).mono
    intro _ _ g' hreleased
    exact ⟨hreleased.1, fun _ => by rw [hreleased.2, hsections]⟩
  | get_key key_uri =>
    cases hstep
    apply harranged.begin
    intro g hidle _
    apply obeys_outcome
    apply (get_key_lock key_uri () g hidle).mono
    intro _ _ g' hidle'
    exact ⟨hidle', fun hother => absurd rfl hother⟩
  | resume call settled => exact harranged.resume hstep
  | deliver data =>
    cases hstep
    obtain ⟨hmutex, hresolved, hnext⟩ := handle_kms_message_lock s.env.runtime data
    exact harranged.of_runtime hmutex hresolved hnext
  | timeout promise =>
    simp only [Locking.step, Option.map_eq_some_iff] at hstep
    obtain ⟨runtime, hfire, rfl⟩ := hstep
    obtain ⟨hmutex, hresolved, hnext⟩ := fire_lock hfire
    exact harranged.of_runtime hmutex hresolved hnext
  | wait millis =>
    cases hstep
    exact harranged.of_runtime rfl rfl rfl

theorem arranged_reachable {token device_url user_id encryption_service_url : String} {s : Locking}
    (hreach : (locking α builtins (new token device_url user_id encryption_service_url)).Reachable Machine.Always s) :
    Arranged s := by
  apply hreach.invariant
  · refine ⟨{}, 0, fun _ => .idle, ?_, fun _ _ => ⟨rfl, rfl⟩, fun _ _ hcall => nomatch hcall⟩
    refine ⟨rfl, rfl, Nat.one_pos, ?_, fun _ => List.mem_cons_self, nofun, nofun, nofun⟩
    intro promise hmem
    exact Nat.le_of_eq (List.mem_singleton.mp hmem)
  · intro s label next _ harranged _ hstep
    exact harranged.step hstep

/-- A call that has ended has released the lock as often as it asked for it. -/
theorem Arranged.released {s : Locking} (harranged : Arranged s) {i : Nat} {call : LockCall}
    {result : Except Thrown Unit} (hcall : s.calls[i]? = some call) (hended : call.rest = .ret result) :
    s.env.log.count (.released i) = s.env.log.count (.queued i) ∧
      (call.origin ≠ .get_key → s.env.log.count (.released i) = 1) := by
  obtain ⟨lock, front, phases, horderly, -, hcalls⟩ := harranged
  obtain ⟨g, hphase, hsections, hobeys⟩ := hcalls i call hcall
  rw [hended] at hobeys
  obtain ⟨hidle, hone⟩ := hobeys
  rw [hidle] at hphase
  have hactive : (phases i).Active := by
    rw [← hphase]
    exact fun _ _ => nofun
  have hnotholding : ∀ own, phases i ≠ .holding own := by
    rw [← hphase]
    exact fun _ => nofun
  have hqueue := horderly.not_queued hactive
  have hholder := horderly.not_holder hnotholding
  have haccounts := FairLock.accounts_of_run horderly.accepted
  have hstarted := haccounts.started i
  have hqueued := haccounts.queued i
  rw [if_neg hholder] at hstarted
  rw [List.count_eq_zero_of_not_mem hqueue] at hqueued
  exact ⟨by omega, fun hother => hsections ▸ hone hother⟩

/-- While the lock is free, the call that has waited for it longest can go on. -/
theorem Arranged.proceeds {s : Locking} (harranged : Arranged s) {first : Nat} {rest : List Nat}
    (hwaiting : requests s.env.log = starts s.env.log ++ first :: rest) (hfree : ∀ i, ¬ Running s.env.log i) :
    (s.resume first .own).isSome := by
  obtain ⟨lock, front, phases, horderly, hidle, hcalls⟩ := harranged
  have haccounts := FairLock.accounts_of_run horderly.accepted
  have hqueue : lock.queue = first :: rest := List.append_cancel_left (haccounts.asked.symm.trans hwaiting)
  have hholder : lock.holder = none := by
    cases hholder : lock.holder with
    | none => rfl
    | some i => exact absurd ((haccounts.running_iff i).mpr hholder) (hfree i)
  have hchain := horderly.chain
  rw [hqueue] at hchain
  obtain ⟨own, -, hqueued, -⟩ := hchain
  have hmade : first < s.calls.length := by
    by_contra hlarge
    have hphase := (hidle first (Nat.le_of_not_lt hlarge)).1
    rw [hqueued] at hphase
    cases hphase
  obtain ⟨g, hphase, -, hobeys⟩ := hcalls first _ (List.getElem?_eq_getElem hmade)
  rw [hqueued] at hphase
  unfold Locking.resume
  rw [List.getElem?_eq_getElem hmade]
  generalize s.calls[first] = call at hobeys ⊢
  obtain ⟨origin, rest⟩ := call
  -- A call that waits for its turn can have neither ended nor stopped at another await.
  cases rest with
  | ret result =>
    have hended : g.phase = .idle := hobeys.1
    rw [hphase] at hended
    cases hended
  | ask op next =>
    have hallowed : lock_monitor.allowed g op := hobeys.1
    cases op with
    | turn promise =>
      obtain ⟨own', hturn⟩ := hallowed
      obtain ⟨rfl, -⟩ := LockPhase.queued.inj (hphase.symm.trans hturn)
      simp [answer, horderly.free hholder]
    | resolve promise =>
      have hholding : g.phase = .holding promise := hallowed
      rw [hphase] at hholding
      cases hholding
    | update f => exact absurd hphase (hallowed.1 front own)
    | _ => exact absurd hphase (hallowed front own)

/-- In every run of calls of the lock, whatever their callbacks do, and of `initialize` and
    `getKey`, the log of the lock is fair. A call that has ended, with an error or not, has
    released it once for each time it asked, and the first of the waiting calls can go on
    as soon as the lock is free. -/
theorem kms_lock_fair (builtins : Builtins) (token device_url user_id encryption_service_url : String) {s : Locking}
    (hreach : (locking α builtins (new token device_url user_id encryption_service_url)).Reachable Machine.Always s) :
    Fair s.env.log ∧
    (∀ i call result, s.calls[i]? = some call → call.rest = .ret result →
      s.env.log.count (.released i) = s.env.log.count (.queued i) ∧
      (call.origin ≠ .get_key → s.env.log.count (.released i) = 1)) ∧
    ∀ first rest, requests s.env.log = starts s.env.log ++ first :: rest → (∀ i, ¬ Running s.env.log i) →
      (s.resume first .own).isSome := by
  have harranged := arranged_reachable hreach
  refine ⟨?_, ?_, ?_⟩
  · obtain ⟨lock, front, phases, horderly, -⟩ := harranged
    exact FairLock.fair_of_run horderly.accepted
  · intro i call result hcall hended
    exact harranged.released hcall hended
  · intro first rest hwaiting hfree
    exact harranged.proceeds hwaiting hfree

end runs

section sample

/-- A callback that throws at once, and one that waits and then returns. -/
def throwing : Callback Unit where
  fn := throw (.error "failed")
  in_scope := Method.keeps_throw _

def waiting : Callback Unit where
  fn := sleep 1000
  in_scope := Method.keeps_request fun _ _ _ => ⟨trivial, fun _ _ _ => trivial⟩

def handed_on_labels : List (LockLabel Unit) :=
  [.with_kms_lock throwing, .with_kms_lock waiting, .get_key "kms://ciscospark.com/keys/a", .resume 0 .own, .resume 1 .own]

/-- The lock of a callback that throws goes to the next call, while a `getKey` waits for
    its turn to renew the context. -/
theorem thrown_lock_handed_on : ∃ s, (locking Unit sample_builtins sample_client).Reachable Machine.Always s ∧
    s.env.log = [.queued 0, .queued 1, .queued 2, .started 0, .released 0, .started 1] ∧ Fair s.env.log := by
  have hobserve : ((locking Unit sample_builtins sample_client).run (locking Unit sample_builtins sample_client).init
      handed_on_labels).map (fun s => s.env.log) =
      some [.queued 0, .queued 1, .queued 2, .started 0, .released 0, .started 1] := by
    decide
  simp only [Option.map_eq_some_iff] at hobserve
  obtain ⟨s, hrun, hlog⟩ := hobserve
  have hreach := Machine.reachable_of_run hrun
  exact ⟨s, hreach, hlog, (kms_lock_fair sample_builtins _ _ _ _ hreach).1⟩

end sample

end webex.node.kms_client

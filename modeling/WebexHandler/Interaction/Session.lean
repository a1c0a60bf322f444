import Mathlib.Data.List.Forall2
import WebexHandler.Interaction.History
import WebexHandler.Interaction.Lockstep

namespace interaction

variable {Op Op' : Type} {Res : Op → Type} {Res' : Op' → Type} {Call σ σ' ε ε' α α' : Type}

/-- What can be seen of a component on which methods are called, one at a time. -/
inductive Event (Res : Op → Type) (Call ε α : Type)
  | called (call : Call)
  | answered (exchange : Exchange Res)
  | returned (outcome : Except ε α)

/-- A component between two calls, or in the middle of one. -/
inductive Session (Op : Type) (Res : Op → Type) (σ ε α : Type)
  | idle (s : σ)
  | busy (rest : Program Op Res (Except ε α × σ))

namespace Session

/-- The runs of a component from its first state, with any calls and any answers. -/
inductive Run (methods : Call → Method Op Res σ ε α) (init : σ) :
    List (Event Res Call ε α) → Session Op Res σ ε α → Prop
  | start : Run methods init [] (.idle init)
  | call {log : List (Event Res Call ε α)} {s : σ} (hrun : Run methods init log (.idle s)) (call : Call) :
    Run methods init (log ++ [.called call]) (.busy (methods call s))
  | answer {log : List (Event Res Call ε α)} {op : Op} {next : Res op → Program Op Res (Except ε α × σ)}
    (hrun : Run methods init log (.busy (.ask op next))) (r : Res op) :
    Run methods init (log ++ [.answered ⟨op, r⟩]) (.busy (next r))
  | finish {log : List (Event Res Call ε α)} {outcome : Except ε α} {s : σ}
    (hrun : Run methods init log (.busy (.ret (outcome, s)))) :
    Run methods init (log ++ [.returned outcome]) (.idle s)

end Session

section lockstep

variable (sync : Sync Op Res Op' Res') (states : σ → σ' → Prop) (outcomes : Except ε α → Except ε' α' → Prop)

/-- Events of two components that are in step. -/
inductive Event.InStep : Event Res Call ε α → Event Res' Call ε' α' → Prop
  | called (call : Call) : InStep (.called call) (.called call)
  | answered {op : Op} {op' : Op'} {r : Res op} {r' : Res' op'} (hops : sync.ops op op')
    (hresults : sync.results op r op' r') : InStep (.answered ⟨op, r⟩) (.answered ⟨op', r'⟩)
  | returned {outcome : Except ε α} {outcome' : Except ε' α'} (houtcomes : outcomes outcome outcome') :
    InStep (.returned outcome) (.returned outcome')

/-- Two components that are in step from here on. -/
inductive Session.InStep : Session Op Res σ ε α → Session Op' Res' σ' ε' α' → Prop
  | idle {s : σ} {s' : σ'} (hstates : states s s') : InStep (.idle s) (.idle s')
  | busy {rest : Program Op Res (Except ε α × σ)} {rest' : Program Op' Res' (Except ε' α' × σ')}
    (hrest : rest.Lockstep sync (fun out out' => outcomes out.1 out'.1 ∧ states out.2 out'.2) rest') :
    InStep (.busy rest) (.busy rest')

variable {sync states outcomes} {methods : Call → Method Op Res σ ε α} {methods' : Call → Method Op' Res' σ' ε' α'}
  {init : σ} {init' : σ'}

/-- A component whose methods are in step with those of another one does what that one can do,
    as long as the other one can be answered in step too. -/
theorem Session.Run.simulates (hinit : states init init')
    (hmethods : ∀ call, (methods call).InStep sync states outcomes (methods' call)) {log : List (Event Res Call ε α)}
    {session : Session Op Res σ ε α} (hrun : Session.Run methods init log session)
    (hanswers : ∀ op r, .answered ⟨op, r⟩ ∈ log → ∀ op', sync.ops op op' → ∃ r', sync.results op r op' r') :
    ∃ log' session', Session.Run methods' init' log' session' ∧ List.Forall₂ (Event.InStep sync outcomes) log log' ∧
      session.InStep sync states outcomes session' := by
  induction hrun with
  | start => exact ⟨[], .idle init', .start, .nil, .idle hinit⟩
  | @call log s hrun call ih =>
    obtain ⟨log', session', hrun', hlog, hsession⟩ := ih fun op r hmem => hanswers op r (List.mem_append_left _ hmem)
    cases hsession with
    | @idle _ s' hstates =>
      exact ⟨_, _, hrun'.call call, List.rel_append hlog (.cons (.called call) .nil), .busy (hmethods call s s' hstates)⟩
  | @answer log op next hrun r ih =>
    obtain ⟨log', session', hrun', hlog, hsession⟩ := ih fun op r hmem => hanswers op r (List.mem_append_left _ hmem)
    cases hsession with
    | @busy _ rest' hrest =>
      cases rest' with
      | ret out' => exact hrest.elim
      | ask op' next' =>
        obtain ⟨hops, hnext⟩ := hrest
        obtain ⟨r', hresults⟩ := hanswers op r (List.mem_append_right _ (List.mem_singleton_self _)) op' hops
        exact ⟨_, _, hrun'.answer r', List.rel_append hlog (.cons (.answered hops hresults) .nil),
          .busy (hnext r r' hresults)⟩
  | finish hrun ih =>
    obtain ⟨log', session', hrun', hlog, hsession⟩ := ih fun op r hmem => hanswers op r (List.mem_append_left _ hmem)
    cases hsession with
    | @busy _ rest' hrest =>
      cases rest' with
      | ask op' next' => exact hrest.elim
      | ret out' =>
        obtain ⟨outcome', s'⟩ := out'
        obtain ⟨houtcomes, hstates⟩ := hrest
        exact ⟨_, _, hrun'.finish, List.rel_append hlog (.cons (.returned houtcomes) .nil), .idle hstates⟩

end lockstep

/-- Someone who sees every event, and what he makes of them. -/
structure Observer (Res : Op → Type) (Call ε α γ : Type) where
  start : γ
  see : γ → Event Res Call ε α → γ

section observer

variable {γ : Type} (observer : Observer Res Call ε α γ)

def Observer.after (log : List (Event Res Call ε α)) : γ := log.foldl observer.see observer.start

theorem Observer.after_append (log : List (Event Res Call ε α)) (event : Event Res Call ε α) :
    observer.after (log ++ [event]) = observer.see (observer.after log) event := by
  rw [Observer.after, List.foldl_append]
  rfl

/-- What the observer has seen decides what may be asked. -/
def Observer.watching (allowed : γ → Op → Prop) : Monitor Op Res γ where
  allowed := allowed
  moves g op r g' := g' = observer.see g (.answered ⟨op, r⟩)

theorem Observer.obeys_bind_request {β : Type} {allowed : γ → Op → Prop} {op : Op} {f : Res op → Method Op Res σ ε β}
    {s : σ} {g : γ} {post : Except ε β → σ → γ → Prop} :
    (Method.request op >>= f).Obeys (observer.watching allowed) s g post ↔
      allowed g op ∧ ∀ r, (f r).Obeys (observer.watching allowed) s (observer.see g (.answered ⟨op, r⟩)) post := by
  rw [Method.obeys_bind_request]
  refine and_congr_right fun _ => ⟨fun h r => h r _ rfl, ?_⟩
  rintro h r _ rfl
  exact h r

/-- An event that comes when it may: what is asked is allowed, and what is returned fits. -/
def Event.Timely (allowed : γ → Op → Prop) (fitting : γ → Except ε α → Prop) (g : γ) : Event Res Call ε α → Prop
  | .called _ => True
  | .answered exchange => allowed g exchange.1
  | .returned outcome => fitting g outcome

/-- A component in a state that what has been seen of it accounts for. -/
def Session.Watched (allowed : γ → Op → Prop) (fitting : γ → Except ε α → Prop) (inv : γ → σ → Prop) (g : γ) :
    Session Op Res σ ε α → Prop
  | .idle s => inv g s
  | .busy rest => rest.Obeys (observer.watching allowed)
    (fun out g' => fitting g' out.1 ∧ inv (observer.see g' (.returned out.1)) out.2) g

variable {observer}

/-- What every call keeps to, every run keeps to. -/
theorem Session.Run.watched {allowed : γ → Op → Prop} {fitting : γ → Except ε α → Prop} {inv : γ → σ → Prop}
    {methods : Call → Method Op Res σ ε α} {init : σ} (hinit : inv observer.start init)
    (hcall : ∀ g s call, inv g s → (methods call).Obeys (observer.watching allowed) s (observer.see g (.called call))
      fun r s' g' => fitting g' r ∧ inv (observer.see g' (.returned r)) s')
    {log : List (Event Res Call ε α)} {session : Session Op Res σ ε α} (hrun : Session.Run methods init log session) :
    Along (fun before event => event.Timely allowed fitting (observer.after before)) [] log ∧
      session.Watched observer allowed fitting inv (observer.after log) := by
  induction hrun with
  | start => exact ⟨trivial, hinit⟩
  | call hrun call ih =>
    rw [Observer.after_append]
    exact ⟨along_append.mpr ⟨ih.1, trivial, trivial⟩, hcall _ _ call ih.2⟩
  | answer hrun r ih =>
    obtain ⟨halong, hallowed, hnext⟩ := ih
    rw [Observer.after_append]
    exact ⟨along_append.mpr ⟨halong, hallowed, trivial⟩, hnext r _ rfl⟩
  | finish hrun ih =>
    obtain ⟨halong, hfitting, hinv⟩ := ih
    rw [Observer.after_append]
    exact ⟨along_append.mpr ⟨halong, hfitting, trivial⟩, hinv⟩

end observer

end interaction

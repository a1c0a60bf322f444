import WebexHandler.Interaction.Obeys
import WebexHandler.Rust.MercurySocket.Tasks

open interaction json transition

namespace webex.rust.mercury_socket

variable {crates : Crates} {options : Options} {γ : Type}

/-- What a read loop does with an item before it goes on or ends. -/
def handle_item (crates : Crates) (max_reconnect : Nat) : Option Item → Loop
  | some (.text text) => handle_text crates text
  | some (.close frame) => handle_close_static max_reconnect ((frame.map Prod.fst).getD 1000)
  | some (.error message) => do
    act (.send (.error message))
    act (.set_connected false)
  | some .other => return ()
  | none => return ()

/-- A read loop keeps to a monitor when it may take an item and look at the flags
    wherever `inv` holds, and what it does with each item keeps to it and restores `inv`. -/
theorem read_loop_obeys {mon : Monitor Action Answer γ} {inv : γ → Prop} {max_reconnect : Nat}
    (hnext : ∀ g item, inv g → mon.allowed g (.next item))
    (hended : ∀ g, inv g → connection_ended.Obeys mon (fun _ => inv) g)
    (hitem : ∀ g item g', inv g → mon.moves g (.next item) () g' →
      (handle_item crates max_reconnect item).Obeys mon (fun _ => inv) g')
    (items : List Item) (g : γ) (hinv : inv g) :
    (read_loop crates max_reconnect items).Obeys mon (fun _ => inv) g := by
  have hthen (item : Option Item) (rest : Loop) (hrest : ∀ g, inv g → rest.Obeys mon (fun _ => inv) g) (g g' : γ)
      (hinv : inv g) (hmove : mon.moves g (.next item) () g') :
      (handle_item crates max_reconnect item >>= fun _ => rest).Obeys mon (fun _ => inv) g' := by
    apply (Program.obeys_bind _ _ _).mpr
    exact (hitem g item g' hinv hmove).mono fun _ g hinv => hrest g hinv
  induction items generalizing g with
  | nil =>
    refine ⟨hnext g none hinv, ?_⟩
    intro _ g' hmove
    exact hthen none connection_ended hended g g' hinv hmove
  | cons item rest ih =>
    have hgoes (continued : Loop) (hcontinued : ∀ g, inv g → continued.Obeys mon (fun _ => inv) g) :
        (act (.next (some item)) >>= fun _ => handle_item crates max_reconnect (some item) >>= fun _ =>
          continued).Obeys mon (fun _ => inv) g := by
      refine ⟨hnext g (some item) hinv, ?_⟩
      intro _ g' hmove
      exact hthen (some item) continued hcontinued g g' hinv hmove
    cases item with
    | text text => exact hgoes _ ih
    | close frame => exact hgoes _ hended
    | error message => exact hgoes _ hended
    | other => exact hgoes _ ih

/-- What one operation of a caller does: an action on what is shared, the start of a
    read loop, or nothing that the tasks see. -/
inductive Performed (crates : Crates) (options : Options) (s : State) : (op : Op) → Res op → State → Prop
  | act (action : Action) : Performed crates options s (.act action) (s.shared.apply none action).1
      { s with shared := (s.shared.apply none action).2, wanted := State.wants s.wanted (.act action) }
  | spawn (items : List Item) : Performed crates options s (.spawn_read_loop items) s.loops.length
      { s with loops := s.loops ++
        [{ rest := read_loop crates options.max_reconnect_attempts items, opened_at := s.shared.time }] }
  | now (millis : Nat) : Performed crates options s .now millis s
  | new_v4 (id : String) : Performed crates options s .new_v4 id s
  | connect_async (url : String) (result : Except String (List Item)) :
    Performed crates options s (.connect_async url) result s
  | write (message : Value) (result : Except String Unit) : Performed crates options s (.write message) result s
  | timeout (value : Bool) : Performed crates options s .timeout value s

theorem perform_performed {s after : State} {op : Op} {choice : Choice} {r : Res op}
    (hperform : s.perform crates options op choice = some (r, after)) : Performed crates options s op r after := by
  cases op with
  | act action =>
    cases choice with
    | done =>
      simp only [State.perform, Option.some.injEq, Prod.mk.injEq] at hperform
      obtain ⟨rfl, rfl⟩ := hperform
      exact .act action
    | _ => exact absurd hperform nofun
  | spawn_read_loop items =>
    cases choice with
    | done =>
      simp only [State.perform, Option.some.injEq, Prod.mk.injEq] at hperform
      obtain ⟨rfl, rfl⟩ := hperform
      exact .spawn items
    | _ => exact absurd hperform nofun
  | now =>
    cases choice with
    | time millis =>
      simp only [State.perform, Option.some.injEq, Prod.mk.injEq] at hperform
      obtain ⟨rfl, rfl⟩ := hperform
      exact .now _
    | _ => exact absurd hperform nofun
  | new_v4 =>
    cases choice with
    | uuid id =>
      simp only [State.perform, Option.some.injEq, Prod.mk.injEq] at hperform
      obtain ⟨rfl, rfl⟩ := hperform
      exact .new_v4 _
    | _ => exact absurd hperform nofun
  | connect_async url =>
    cases choice with
    | opened result =>
      simp only [State.perform, Option.some.injEq, Prod.mk.injEq] at hperform
      obtain ⟨rfl, rfl⟩ := hperform
      exact .connect_async _ _
    | _ => exact absurd hperform nofun
  | write message =>
    cases choice with
    | written result =>
      simp only [State.perform, Option.some.injEq, Prod.mk.injEq] at hperform
      obtain ⟨rfl, rfl⟩ := hperform
      exact .write _ _
    | _ => exact absurd hperform nofun
  | timeout =>
    cases choice with
    | timed_out value =>
      simp only [State.perform, Option.some.injEq, Prod.mk.injEq] at hperform
      obtain ⟨rfl, rfl⟩ := hperform
      exact .timeout _
    | _ => exact absurd hperform nofun

/-- The read loops after an operation of a caller: those there were, and one more when
    the caller has opened a socket. -/
theorem Performed.loops {s after : State} {op : Op} {r : Res op} (hperform : Performed crates options s op r after) :
    (after.loops = s.loops ∧ ∀ done : Progress, (done.after op r).opened = done.opened) ∨
      ∃ items, op = .spawn_read_loop items ∧
        (∀ done : Progress, (done.after op r).opened = some s.loops.length) ∧
        after.loops = s.loops ++
          [{ rest := read_loop crates options.max_reconnect_attempts items, opened_at := s.shared.time }] := by
  cases hperform with
  | spawn items => exact .inr ⟨items, rfl, fun _ => rfl, rfl⟩
  | act action =>
    left
    cases action <;> exact ⟨rfl, fun _ => rfl⟩
  | _ => exact .inl ⟨rfl, fun _ => rfl⟩

/-- An operation of a caller adds read loops that have just been started. -/
theorem Performed.added {s after : State} {op : Op} {r : Res op} (hperform : Performed crates options s op r after) :
    ∃ added, after.loops = s.loops ++ added ∧ ∀ loop ∈ added, ∃ items, loop =
      { rest := read_loop crates options.max_reconnect_attempts items, opened_at := s.shared.time } := by
  obtain ⟨hsame, -⟩ | ⟨items, -, -, hadded⟩ := hperform.loops
  · exact ⟨[], by rw [hsame, List.append_nil], nofun⟩
  · refine ⟨_, hadded, ?_⟩
    intro loop hloop
    exact ⟨items, List.mem_singleton.mp hloop⟩

/-- A read loop that is there after an operation of a caller was there before, or has
    just been started. -/
theorem Performed.loop {s after : State} {op : Op} {r : Res op} (hperform : Performed crates options s op r after)
    {socket : Nat} {loop : Reading} (hloop : after.loops[socket]? = some loop) :
    s.loops[socket]? = some loop ∨ ∃ items, loop =
      { rest := read_loop crates options.max_reconnect_attempts items, opened_at := s.shared.time } := by
  obtain ⟨added, hadded, hstarted⟩ := hperform.added
  rw [hadded, List.getElem?_append] at hloop
  split at hloop
  · exact .inl hloop
  · exact .inr (hstarted loop (List.mem_of_getElem? hloop))

theorem Performed.current {s after : State} {op : Op} {r : Res op} (hperform : Performed crates options s op r after) :
    after.current = s.current := by
  cases hperform <;> rfl

theorem Performed.closed {s after : State} {op : Op} {r : Res op} (hperform : Performed crates options s op r after) :
    after.closed = s.closed := by
  cases hperform <;> rfl

theorem Performed.wanted {s after : State} {op : Op} {r : Res op} (hperform : Performed crates options s op r after) :
    after.wanted = State.wants s.wanted op := by
  cases hperform <;> rfl

section calls

variable {s after : State} {n m : Nat} {call other : Calling}

/-- The calls after one of them has gone on or returned. -/
theorem call_set {c : Option Calling} (hcalls : after.calls = s.calls.set n c) (hcall : after.call m = some call) :
    (m = n ∧ c = some call) ∨ (m ≠ n ∧ s.call m = some call) := by
  rw [State.call, hcalls, List.getElem?_set] at hcall
  split at hcall
  · rename_i heq
    split at hcall
    · exact .inl ⟨heq.symm, hcall⟩
    · cases hcall
  · rename_i hne
    exact .inr ⟨fun heq => hne heq.symm, hcall⟩

theorem calls_return (s : State) (n : Nat) (overlapped : Bool) (result : Except WebexError (Option Nat)) :
    (s.return_call n overlapped result).calls = s.calls.set n none := by
  cases result with
  | error e => rfl
  | ok socket => cases socket <;> rfl

/-- The calls after another one has begun. -/
theorem call_begin {body : Caller (Option Nat)} {closed : Option Mark}
    (hcall : (s.begin_call body closed).call m = some call) :
    (∃ earlier, s.call m = some earlier ∧ call = { earlier with overlapped := true }) ∨
      (m = s.calls.length ∧ call = { rest := body (), overlapped := s.calls.any Option.isSome }) := by
  rw [State.call, State.begin_call, List.getElem?_append, List.length_map] at hcall
  split at hcall
  · left
    rw [List.getElem?_map, Option.join_eq_some_iff] at hcall
    obtain ⟨found, hfound, hmarked⟩ := Option.map_eq_some_iff.mp hcall
    obtain ⟨earlier, rfl, hearlier⟩ := Option.map_eq_some_iff.mp hmarked
    exact ⟨earlier, by rw [State.call, hfound, Option.join_some], hearlier.symm⟩
  · right
    rw [Option.join_eq_some_iff, List.getElem?_singleton] at hcall
    split at hcall
    · rename_i hlate hzero
      cases hcall
      exact ⟨by omega, rfl⟩
    · cases hcall

/-- No call is in progress if none overlaps the one that begins. -/
theorem call_eq_none (halone : s.calls.any Option.isSome = false) (m : Nat) : s.call m = none := by
  rw [State.call]
  cases hfound : s.calls[m]? with
  | none => rfl
  | some found =>
    have hnone : ¬ found.isSome := List.any_eq_false.mp halone found (List.mem_of_getElem? hfound)
    exact Option.not_isSome_iff_eq_none.mp hnone

end calls

/-- The steps of the system, with what each of them needs and does. -/
inductive Stepped (crates : Crates) (options : Options) (s : State) : Label → State → Prop
  | connect (ws_url token : String) : Stepped crates options s (.connect ws_url token)
      (s.begin_call (connect crates ws_url token) none)
  | disconnect : Stepped crates options s .disconnect (s.begin_call disconnect s.closed)
  | perform {n : Nat} {op : Op} {next : Res op → Program Op Res (Except WebexError (Option Nat) × Unit)} {done : Progress}
      {overlapped : Bool} {choice : Choice} {r : Res op} {after : State}
      (hcall : s.call n = some ⟨.ask op next, done, overlapped⟩) (hperform : Performed crates options s op r after) :
      Stepped crates options s (.perform n choice)
        { after with calls := s.calls.set n (some ⟨next r, done.after op r, overlapped⟩) }
  | return_call {n : Nat} {result : Except WebexError (Option Nat)} {done : Progress} {overlapped : Bool}
      (hcall : s.call n = some ⟨.ret (result, ()), done, overlapped⟩) :
      Stepped crates options s (.return_call n) (s.return_call n overlapped result)
  | read {socket : Nat} {loop : Reading} {action : Action} {next : Answer action → Loop}
      (hloop : s.loops[socket]? = some loop) (hrest : loop.rest = .ask action next) :
      Stepped crates options s (.read socket)
        (s.read socket loop action (next (s.shared.apply (some socket) action).1))
  | fire {socket armed_at : Nat} (htask : s.shared.stability_task = some ⟨socket, armed_at, true⟩)
      (hdue : armed_at + options.reconnect_stability ≤ s.shared.time) : Stepped crates options s .fire
      { s with shared := { s.shared with
        reconnect_attempts := 0, stability_task := some ⟨socket, armed_at, false⟩ } }
  | wait (millis : Nat) : Stepped crates options s (.wait millis)
      { s with shared := { s.shared with time := s.shared.time + millis } }

theorem step_stepped {s next : State} {label : Label} (hstep : (tasks crates options).step s label = some next) :
    Stepped crates options s label next := by
  cases label with
  | connect ws_url token =>
    cases hstep
    exact .connect ws_url token
  | disconnect =>
    cases hstep
    exact .disconnect
  | perform n choice =>
    simp only [tasks, State.step] at hstep
    split at hstep
    · rename_i hcall
      simp only [Option.map_eq_some_iff] at hstep
      obtain ⟨⟨r, after⟩, hperform, rfl⟩ := hstep
      exact .perform hcall (perform_performed hperform)
    · exact absurd hstep nofun
  | return_call n =>
    simp only [tasks, State.step] at hstep
    split at hstep
    · rename_i hcall
      cases hstep
      exact .return_call hcall
    · exact absurd hstep nofun
  | read socket =>
    simp only [tasks, State.step] at hstep
    split at hstep
    · exact absurd hstep nofun
    · rename_i loop hloop
      split at hstep
      · exact absurd hstep nofun
      · rename_i action next hrest
        cases hstep
        exact .read hloop hrest
  | fire =>
    simp only [tasks, State.step] at hstep
    split at hstep
    · rename_i htask
      split at hstep
      · rename_i hdue
        cases hstep
        exact .fire htask hdue
      · exact absurd hstep nofun
    · exact absurd hstep nofun
  | wait millis =>
    cases hstep
    exact .wait millis

/-- The loops after an action of one of them. -/
theorem getElem?_read {s : State} {socket other : Nat} {loop found : Reading} {action : Action} {rest : Loop}
    (hfound : (s.read socket loop action rest).loops[other]? = some found) :
    (other = socket ∧ found = loop.resume action s.shared.time rest) ∨
      (other ≠ socket ∧ s.loops[other]? = some found) := by
  change (s.loops.set socket (loop.resume action s.shared.time rest))[other]? = some found at hfound
  rw [List.getElem?_set] at hfound
  by_cases heq : socket = other
  · rw [if_pos heq] at hfound
    split at hfound
    · exact .inl ⟨heq.symm, (Option.some.injEq _ _ ▸ hfound).symm⟩
    · exact absurd hfound nofun
  · rw [if_neg heq] at hfound
    exact .inr ⟨fun h => heq h.symm, hfound⟩

/-- A call that no other call overlaps is the only one in progress. -/
def Apart (s : State) : Prop :=
  ∀ n m call other, s.call n = some call → s.call m = some other → call.overlapped = false → m = n

section apart

variable {s : State}

theorem apart_begin (s : State) (body : Caller (Option Nat)) (closed : Option Mark) :
    Apart (s.begin_call body closed) := by
  intro n m call other hcall hother halone
  obtain ⟨earlier, -, rfl⟩ | ⟨rfl, rfl⟩ := call_begin hcall
  · cases halone
  · obtain ⟨earlier, hearlier, -⟩ | ⟨rfl, -⟩ := call_begin hother
    · rw [call_eq_none halone] at hearlier
      cases hearlier
    · rfl

/-- A call that goes on is overlapped as before. -/
theorem Apart.set {after : State} {n : Nat} {c : Option Calling} (hapart : Apart s)
    (hcalls : after.calls = s.calls.set n c)
    (hkept : ∀ call, c = some call → ∃ earlier, s.call n = some earlier ∧ earlier.overlapped = call.overlapped) :
    Apart after := by
  intro m k call other hcall hother halone
  obtain ⟨rfl, hset⟩ | ⟨hne, hcall⟩ := call_set hcalls hcall
  · obtain ⟨earlier, hearlier, hsame⟩ := hkept call hset
    obtain ⟨rfl, -⟩ | ⟨-, hother⟩ := call_set hcalls hother
    · rfl
    · exact hapart m k earlier other hearlier hother (hsame.trans halone)
  · obtain ⟨rfl, hset⟩ | ⟨-, hother⟩ := call_set hcalls hother
    · obtain ⟨earlier, hearlier, -⟩ := hkept other hset
      exact hapart m k call earlier hcall hearlier halone
    · exact hapart m k call other hcall hother halone

theorem Apart.step {next : State} {label : Label} (hapart : Apart s)
    (hstep : (tasks crates options).step s label = some next) : Apart next := by
  cases step_stepped hstep with
  | connect ws_url token => exact apart_begin _ _ _
  | disconnect => exact apart_begin _ _ _
  | perform hcall hperform =>
    apply hapart.set rfl
    rintro call ⟨⟩
    exact ⟨_, hcall, rfl⟩
  | return_call hcall => exact hapart.set (calls_return _ _ _ _) nofun
  | read hloop hrest => exact hapart
  | fire htask hdue => exact hapart
  | wait millis => exact hapart

end apart

end webex.rust.mercury_socket

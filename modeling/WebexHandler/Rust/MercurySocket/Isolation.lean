import WebexHandler.Rust.MercurySocket.Loops

open interaction json transition

namespace webex.rust.mercury_socket

variable (crates : Crates)

/-- What a read loop may still do before it takes its next item: nothing but ack and
    look at the flags, also send events, or also end its connection. -/
inductive Level
  | quiet
  | steady
  | ending
  deriving DecidableEq, Repr

def Level.allows : Level → Action → Bool
  | _, .next _ => true
  | _, .ack _ => true
  | _, .sleep _ => true
  | _, .get_connected => true
  | _, .get_should_reconnect => true
  | .steady, .send _ => true
  | .ending, .send _ => true
  | .ending, .set_connected value => !value
  | .ending, .set_should_reconnect value => !value
  | .ending, .cancel_stability_timer => true
  | .ending, .take_attempt _ => true
  | _, _ => false

/-- The event that a text frame is turned into. -/
def text_event (text : String) : Option MercuryEvent := do
  let message ← parse_text crates text
  let (data, event_type) ← event_data message
  mercury_event crates data event_type

def item_level : Option Item → Level
  | some (.text text) => if (text_event crates text).isSome then .steady else .quiet
  | some (.close _) => .ending
  | some (.error _) => .ending
  | some .other => .quiet
  | none => .quiet

def Level.after (level : Level) : Action → Level
  | .next item => item_level crates item
  | _ => level

def level_monitor : Monitor Action Answer Level where
  allowed level action := level.allows action = true
  moves level action _ level' := level' = level.after crates action

/-- The rest of a read loop changes nothing that is shared before it takes its next
    item. -/
def Settled (rest : Loop) : Prop := rest.Obeys (level_monitor crates) (fun _ _ => True) .quiet

/-- The action takes back what a call has set. -/
def Progress.undone (done : Progress) : Action → Bool
  | .set_should_reconnect false => done.should_reconnect
  | .set_connected false => done.connected
  | .cancel_stability_timer => done.scheduled.isSome
  | _ => false

/-- The steps that earlier sockets take do not disturb a new one: while `connect` is in
    progress their read loops take nothing back that it has set; when it returns they
    have nothing left to do for an item they took before; and from then on they take
    only items that are turned into no event and end no connection. -/
def Undisturbed (s : State) : Label → Prop
  | .read socket => ∀ action, s.head socket = some action →
      (∀ n call, s.call n = some call → call.overlapped = false → call.done.opened ≠ some socket →
        call.done.undone action = false) ∧
      (∀ window item, s.current = some window → window.socket ≠ socket → action = .next item →
        item_level crates item = .quiet)
  | .return_call n => ∀ socket done, s.call n = some ⟨.ret (.ok (some socket), ()), done, false⟩ →
      ∀ other loop, other ≠ socket → s.loops[other]? = some loop → Settled crates loop.rest
  | _ => True

/-- After the return of a successful `connect`, and until its socket ends or another
    call begins, the shared state is as the call left it, but for the reset of the
    attempts counter and the events of that socket. No step of another read loop
    changes it. -/
structure Isolated (options : Options) (s : State) (window : Window) : Prop where
  connected : s.shared.connected = true
  should_reconnect : s.shared.should_reconnect = true
  reset : s.shared.stability_task.map Reset.socket = some window.socket
  attempts : s.shared.reconnect_attempts = window.attempts ∨
    (s.shared.reconnect_attempts = 0 ∧ s.shared.stability_task.any (!·.pending))
  events : ∀ event ∈ s.shared.events.drop window.sent, event.1 = some window.socket
  unchanged : ∀ socket next, socket ≠ window.socket →
    (tasks crates options).step s (.read socket) = some next → next.shared = s.shared

section levels

variable {crates}

theorem Level.allows_steady {action : Action} (hallows : Level.quiet.allows action = true) :
    Level.steady.allows action = true := by
  cases action <;> first | rfl | exact absurd hallows nofun

theorem Level.allows_ending {level : Level} {action : Action} (hallows : level.allows action = true) :
    Level.ending.allows action = true := by
  cases level <;> cases action <;> first | exact hallows | rfl | exact absurd hallows nofun

theorem obeys_level {level : Level} {p : Loop} {action : Action} {next : Answer action → Loop}
    (hobeys : p.Obeys (level_monitor crates) (fun _ _ => True) level) (hrest : p = .ask action next) :
    level.allows action = true ∧ ∀ r, (next r).Obeys (level_monitor crates) (fun _ _ => True) (level.after crates action) := by
  subst hrest
  exact ⟨hobeys.1, fun r => hobeys.2 r _ rfl⟩

/-- Nothing that a read loop may do at one level is forbidden at a higher one. -/
theorem obeys_of_allows {low high : Level} (hallows : ∀ action, low.allows action = true → high.allows action = true)
    {p : Loop} (hobeys : p.Obeys (level_monitor crates) (fun _ _ => True) low) :
    p.Obeys (level_monitor crates) (fun _ _ => True) high := by
  induction p with
  | ret value => trivial
  | ask action next ih =>
    obtain ⟨hallowed, hnext⟩ := obeys_level hobeys rfl
    refine ⟨hallows action hallowed, ?_⟩
    rintro r _ rfl
    cases action with
    | next item => exact hnext r
    | _ => exact ih r (hnext r)

theorem level_act {level : Level} {action : Action} (hallows : level.allows action = true)
    (hkept : level.after crates action = level) : (act action).Stays (level_monitor crates) level := by
  apply Program.stays_request hallows
  rintro _ _ rfl
  exact hkept

theorem handle_close_level (max_reconnect : Nat) (code : UInt16) :
    (handle_close_static max_reconnect code).Stays (level_monitor crates) .ending := by
  have hpermanent (error reason : String) :
      (handle_permanent_close error reason).Stays (level_monitor crates) .ending := by
    apply Program.stays_bind (level_act rfl rfl)
    intro _
    apply Program.stays_bind (level_act rfl rfl)
    intro _
    exact level_act rfl rfl
  apply Program.stays_bind (level_act rfl rfl)
  intro _
  apply Program.stays_bind (level_act rfl rfl)
  intro _
  split
  · exact hpermanent _ _
  split
  · exact hpermanent _ _
  · apply Program.stays_bind (level_act rfl rfl)
    intro should_reconnect
    split
    · apply Program.stays_bind (level_act rfl rfl)
      intro attempt
      cases attempt with
      | none =>
        apply Program.stays_bind (level_act rfl rfl)
        intro _
        exact level_act rfl rfl
      | some attempt =>
        apply Program.stays_bind (level_act rfl rfl)
        intro _
        apply Program.stays_bind (level_act rfl rfl)
        intro _
        exact level_act rfl rfl
    · exact level_act rfl rfl

theorem handle_text_level (text : String) :
    (handle_text crates text).Stays (level_monitor crates) (item_level crates (some (.text text))) := by
  unfold handle_text
  cases hparsed : parse_text crates text with
  | none => exact Program.stays_pure ()
  | some message =>
    show (handle_message_static crates message).Stays _ _
    unfold handle_message_static
    cases hfound : event_data message with
    | none => exact Program.stays_pure ()
    | some pair =>
      obtain ⟨data, event_type⟩ := pair
      have hlevel : item_level crates (some (.text text)) =
          if (mercury_event crates data event_type).isSome then .steady else .quiet := by
        simp [item_level, text_event, hparsed, hfound]
      rw [hlevel]
      apply Program.stays_bind
      · unfold send_ack
        cases (message.get "id").bind Value.as_str with
        | none => exact Program.stays_pure ()
        | some msg_id => exact level_act (by cases (mercury_event crates data event_type).isSome <;> rfl) rfl
      · intro _
        cases mercury_event crates data event_type with
        | none => exact Program.stays_pure ()
        | some event => exact level_act rfl rfl

theorem connection_ended_level (level : Level) : connection_ended.Stays (level_monitor crates) level := by
  apply Program.stays_bind (level_act (by cases level <;> rfl) rfl)
  intro should_reconnect
  split
  · apply Program.stays_bind (level_act (by cases level <;> rfl) rfl)
    intro _
    exact Program.stays_pure ()
  · exact Program.stays_pure ()

theorem read_loop_level (max_reconnect : Nat) (items : List Item) (level : Level) :
    (read_loop crates max_reconnect items).Obeys (level_monitor crates) (fun _ _ => True) level := by
  refine read_loop_obeys ?_ ?_ ?_ items level trivial
  · intro level item _
    cases level <;> rfl
  · exact fun level _ => (connection_ended_level level).obeys
  · rintro _ item _ - rfl
    cases item with
    | none => trivial
    | some item =>
      cases item with
      | text text => exact (handle_text_level text).obeys
      | close frame => exact (handle_close_level max_reconnect _).obeys
      | other => trivial
      | error message =>
        apply Program.Stays.obeys
        apply Program.stays_bind (level_act rfl rfl)
        intro _
        exact level_act rfl rfl

/-- The level up to which a read loop may go: its connection ends only after it has
    taken its last item. -/
def Reading.limit (loop : Reading) : Level := if loop.ended_at.isSome then .ending else .steady

theorem Reading.limit_resume {loop : Reading} {action : Action} {time : Nat} {rest : Loop} {other : Action}
    (hallows : (loop.limit.after crates action).allows other = true) :
    (loop.resume action time rest).limit.allows other = true := by
  have hended (hsome : (loop.resume action time rest).ended_at.isSome = true) :
      (loop.resume action time rest).limit.allows other = true := by
    rw [Reading.limit, if_pos hsome]
    exact Level.allows_ending hallows
  cases action with
  | next item =>
    cases item with
    | none => exact hended rfl
    | some item =>
      cases item with
      | close frame => exact hended rfl
      | error message => exact hended rfl
      | text text =>
        have hsteady : Level.steady.allows other = true := by
          change (if (text_event crates text).isSome then Level.steady else Level.quiet).allows other = true at hallows
          split at hallows
          · exact hallows
          · exact Level.allows_steady hallows
        by_cases hsome : loop.ended_at.isSome = true
        · exact hended hsome
        · rw [Reading.limit, Reading.resume, if_neg (by simpa [Action.ends] using hsome)]
          exact hsteady
      | other =>
        by_cases hsome : loop.ended_at.isSome = true
        · exact hended hsome
        · rw [Reading.limit, Reading.resume, if_neg (by simpa [Action.ends] using hsome)]
          exact Level.allows_steady hallows
  | _ => exact hallows

end levels

section calls

/-- A call opens one socket and arms the reset for that socket only. -/
def progress_monitor : Monitor Op Res Progress where
  allowed done
    | .act (.schedule_attempts_reset socket) => done.opened = some socket
    | .spawn_read_loop _ => done.opened = none
    | _ => True
  moves done op r done' := done' = done.after op r

/-- A call that returns a socket has opened it and set everything for it. -/
def Prepared (result : Except WebexError (Option Nat)) (done : Progress) : Prop :=
  ∀ socket, result = .ok (some socket) →
    done = { should_reconnect := true, connected := true, opened := some socket, scheduled := some socket }

theorem progress_bind {β : Type} (op : Op) {f : Res op → Caller β} {done : Progress} {post : β → Unit → Progress → Prop}
    (hallowed : progress_monitor.allowed done op)
    (hf : ∀ r, (f r).Yields progress_monitor () (done.after op r) post) :
    Method.Yields progress_monitor (Method.request op >>= f) () done post := by
  apply Method.yields_bind_request hallowed
  rintro r _ rfl
  exact hf r

theorem connect_internal_progress {done : Progress} (hopened : done.opened = none) :
    (connect_internal crates).Yields progress_monitor () done fun socket _ done' =>
      done' = { done with connected := true, opened := some socket } := by
  unfold connect_internal
  apply progress_bind (.act .get_base_url) trivial
  intro base_url
  apply progress_bind .now trivial
  intro timestamp
  apply Method.yields_bind_ofExcept
  intro prepared_url _
  apply progress_bind (.act (.set_connected false)) trivial
  intro _
  apply progress_bind (.connect_async prepared_url) trivial
  intro opened
  apply Method.yields_bind_ofExcept
  intro stream _
  apply progress_bind (.act .get_token) trivial
  intro token
  apply progress_bind .new_v4 trivial
  intro id
  apply progress_bind (.write (authorization_message id token)) trivial
  intro sent
  apply Method.yields_bind_ofExcept
  intro _ _
  apply progress_bind .timeout trivial
  intro timed_out
  apply Method.yields_bind_reject
  intro _
  apply Method.yields_bind_ofExcept
  intro items _
  apply progress_bind (.act (.set_connected true)) trivial
  intro _
  apply Method.yields_request hopened
  rintro socket _ rfl
  exact rfl

theorem connect_progress (ws_url token : String) :
    (connect crates ws_url token ()).Obeys progress_monitor (fun out => Prepared out.1) {} := by
  have hconnect : (connect crates ws_url token).Yields progress_monitor () {} fun value _ done => ∀ socket,
      value = some socket → done = ⟨true, true, some socket, some socket⟩ := by
    apply progress_bind (.act (.set_token token)) trivial
    intro _
    apply progress_bind (.act (.set_base_url ws_url)) trivial
    intro _
    apply progress_bind (.act (.set_should_reconnect true)) trivial
    intro _
    apply progress_bind (.act .cancel_stability_timer) trivial
    intro _
    apply Method.yields_bind (connect_internal_progress crates rfl)
    rintro socket _ _ rfl
    refine progress_bind (.act (.schedule_attempts_reset socket)) ?_ ?_
    · exact rfl
    intro _
    apply Method.yields_pure
    rintro _ ⟨⟩
    rfl
  exact Program.Obeys.mono (fun _ _ hout socket hsocket => hout _ hsocket socket rfl) hconnect

theorem disconnect_progress : (disconnect ()).Obeys progress_monitor (fun out => Prepared out.1) {} := by
  have hdisconnect : disconnect.Yields progress_monitor () {} fun value _ _ => value = none := by
    apply progress_bind (.act (.set_should_reconnect false)) trivial
    intro _
    apply progress_bind (.act (.set_connected false)) trivial
    intro _
    apply progress_bind (.act .cancel_stability_timer) trivial
    intro _
    apply progress_bind (.act (.send (.disconnected "client"))) trivial
    intro _
    exact Method.yields_pure rfl
  exact Program.Obeys.mono (fun _ _ hout socket hsocket => nomatch hout _ hsocket) hdisconnect

end calls

section invariant

variable {crates} {options : Options}

/-- The part of the shared state that a call sets. -/
structure Kept (shared : Shared) (done : Progress) : Prop where
  should_reconnect : done.should_reconnect = true → shared.should_reconnect = true
  connected : done.connected = true → shared.connected = true
  reset : ∀ socket, done.scheduled = some socket → shared.stability_task.map Reset.socket = some socket

/-- What a call has set is in place until the socket it has opened ends. -/
structure Tracked (s : State) (done : Progress) : Prop where
  opened : ∀ socket, done.opened = some socket → socket < s.loops.length
  kept : (∀ (socket : Nat) (loop : Reading), done.opened = some socket → s.loops[socket]? = some loop →
    loop.ended_at = none) → Kept s.shared done

/-- What holds from the return of a successful `connect` on. -/
structure Opened (crates : Crates) (s : State) (window : Window) : Prop where
  idle : ∀ n, s.call n = none
  live : ∃ loop, s.loops[window.socket]? = some loop ∧ loop.ended_at = none
  connected : s.shared.connected = true
  should_reconnect : s.shared.should_reconnect = true
  reset : s.shared.stability_task.map Reset.socket = some window.socket
  attempts : s.shared.reconnect_attempts = window.attempts ∨
    (s.shared.reconnect_attempts = 0 ∧ s.shared.stability_task.any (!·.pending))
  bound : window.sent ≤ s.shared.events.length
  events : ∀ event ∈ s.shared.events.drop window.sent, event.1 = some window.socket
  settled : ∀ other loop, other ≠ window.socket → s.loops[other]? = some loop → Settled crates loop.rest

structure Inv (crates : Crates) (s : State) : Prop where
  loops : ∀ (socket : Nat) (loop : Reading), s.loops[socket]? = some loop →
    loop.rest.Obeys (level_monitor crates) (fun _ _ => True) loop.limit
  apart : Apart s
  calls : ∀ n call, s.call n = some call → s.current = none ∧
    call.rest.Obeys progress_monitor (fun out => Prepared out.1) call.done ∧
    (call.overlapped = false → Tracked s call.done)
  windows : ∀ window, s.current = some window → Opened crates s window

theorem apply_quiet {origin : Option Nat} {action : Action} {shared : Shared}
    (hallows : Level.quiet.allows action = true) : (shared.apply origin action).2 = shared := by
  cases action <;> first | rfl | exact absurd hallows nofun

theorem apply_steady {origin : Option Nat} {action : Action} {shared : Shared}
    (hallows : Level.steady.allows action = true) : ∃ added, (∀ event ∈ added, event.1 = origin) ∧
      (shared.apply origin action).2 = { shared with events := shared.events ++ added } := by
  cases action with
  | send event => exact ⟨[(origin, event)], by simp, rfl⟩
  | next _ | ack _ | sleep _ | get_connected | get_should_reconnect => exact ⟨[], by simp, by simp [Shared.apply]⟩
  | _ => exact absurd hallows nofun

theorem undone_of_steady {done : Progress} {action : Action} (hallows : Level.steady.allows action = true) :
    done.undone action = false := by
  cases action <;> first | rfl | exact absurd hallows nofun

theorem Kept.read {done : Progress} {shared : Shared} {origin : Option Nat} {action : Action}
    (hkept : Kept shared done) (hallows : Level.ending.allows action = true) (hundone : done.undone action = false) :
    Kept (shared.apply origin action).2 done := by
  cases action with
  | set_should_reconnect value =>
    cases value with
    | true => exact absurd hallows nofun
    | false =>
      refine ⟨?_, hkept.connected, hkept.reset⟩
      intro hset
      exact absurd (hset.symm.trans hundone) nofun
  | set_connected value =>
    cases value with
    | true => exact absurd hallows nofun
    | false =>
      refine ⟨hkept.should_reconnect, ?_, hkept.reset⟩
      intro hset
      exact absurd (hset.symm.trans hundone) nofun
  | cancel_stability_timer =>
    refine ⟨hkept.should_reconnect, hkept.connected, ?_⟩
    intro socket hset
    have hsome : done.scheduled.isSome = false := hundone
    simp [hset] at hsome
  | take_attempt max_reconnect =>
    by_cases hmax : max_reconnect ≤ shared.reconnect_attempts
    · rw [Shared.apply, if_pos hmax]
      exact hkept
    · rw [Shared.apply, if_neg hmax]
      exact ⟨hkept.should_reconnect, hkept.connected, hkept.reset⟩
  | _ => first
    | exact ⟨hkept.should_reconnect, hkept.connected, hkept.reset⟩
    | exact absurd hallows nofun

theorem Reading.resume_ended {loop : Reading} {action : Action} {time : Nat} {rest : Loop}
    (hlive : (loop.resume action time rest).ended_at = none) : action.ends = false ∧ loop.ended_at = none := by
  unfold Reading.resume at hlive
  cases hends : action.ends with
  | true => simp [hends] at hlive
  | false => exact ⟨rfl, by simpa [hends] using hlive⟩

section read

variable {s : State} {socket : Nat} {loop : Reading} {action : Action} {next : Answer action → Loop}

theorem Tracked.read {done : Progress} (hinv : Inv crates s) (htracked : Tracked s done)
    (hloop : s.loops[socket]? = some loop) (hrest : loop.rest = .ask action next)
    (hundone : done.opened ≠ some socket → done.undone action = false) (rest : Loop) :
    Tracked (s.read socket loop action rest) done := by
  have hbound : socket < s.loops.length := (List.getElem?_eq_some_iff.mp hloop).1
  obtain ⟨hallows, -⟩ := obeys_level (hinv.loops socket loop hloop) hrest
  constructor
  · intro opened hopened
    have hlength : (s.read socket loop action rest).loops.length = s.loops.length := by simp [State.read]
    rw [hlength]
    exact htracked.opened opened hopened
  · intro hlive
    have hresumed : (s.read socket loop action rest).loops[socket]? =
        some (loop.resume action s.shared.time rest) := by
      simp [State.read, hbound]
    have hkept : Kept s.shared done := by
      apply htracked.kept
      intro opened found hopened hfound
      by_cases heq : opened = socket
      · subst heq
        rw [hloop, Option.some.injEq] at hfound
        subst hfound
        exact (Reading.resume_ended (hlive opened _ hopened hresumed)).2
      · apply hlive opened found hopened
        simpa [State.read, List.getElem?_set, Ne.symm heq] using hfound
    apply hkept.read (Level.allows_ending hallows)
    by_cases hown : done.opened = some socket
    · obtain ⟨-, hopen⟩ := Reading.resume_ended (hlive socket _ hown hresumed)
      rw [Reading.limit, if_neg (by simp [hopen])] at hallows
      exact undone_of_steady hallows
    · exact hundone hown

theorem Opened.read_own {window : Window} (hinv : Inv crates s) (hopened : Opened crates s window)
    (hloop : s.loops[window.socket]? = some loop) (hrest : loop.rest = .ask action next) (hgoes : action.ends = false)
    (rest : Loop) : Opened crates (s.read window.socket loop action rest) window := by
  obtain ⟨hallows, -⟩ := obeys_level (hinv.loops _ loop hloop) hrest
  obtain ⟨found, hfound, hopen⟩ := hopened.live
  rw [hloop, Option.some.injEq] at hfound
  subst hfound
  have hbound : window.socket < s.loops.length := (List.getElem?_eq_some_iff.mp hloop).1
  rw [Reading.limit, if_neg (by simp [hopen])] at hallows
  have hshared : (s.read window.socket loop action rest).shared =
      (s.shared.apply (some window.socket) action).2 := rfl
  obtain ⟨added, horigin, happly⟩ := @apply_steady (some window.socket) action s.shared hallows
  rw [happly] at hshared
  constructor
  · exact hopened.idle
  · refine ⟨loop.resume action s.shared.time rest, ?_, ?_⟩
    · simp [State.read, hbound]
    · simp [Reading.resume, hgoes, hopen]
  · rw [hshared]
    exact hopened.connected
  · rw [hshared]
    exact hopened.should_reconnect
  · rw [hshared]
    exact hopened.reset
  · rw [hshared]
    exact hopened.attempts
  · rw [hshared]
    have hsent := hopened.bound
    simp only [List.length_append]
    omega
  · rw [hshared]
    simp only
    rw [List.drop_append_of_le_length hopened.bound]
    intro event hevent
    obtain h | h := List.mem_append.mp hevent
    · exact hopened.events event h
    · exact horigin event h
  · intro other found hne hfound
    obtain ⟨heq, -⟩ | ⟨-, hfound⟩ := getElem?_read hfound
    · exact absurd heq hne
    · exact hopened.settled other found hne hfound

theorem Opened.read_other {window : Window} (hopened : Opened crates s window) (hne : window.socket ≠ socket)
    (hloop : s.loops[socket]? = some loop) (hrest : loop.rest = .ask action next)
    (hquiet : ∀ item, action = .next item → item_level crates item = .quiet) :
    Opened crates (s.read socket loop action (next (s.shared.apply (some socket) action).1)) window := by
  obtain ⟨hallows, hnext⟩ := obeys_level (hopened.settled socket loop hne.symm hloop) hrest
  have hshared : (s.read socket loop action (next (s.shared.apply (some socket) action).1)).shared = s.shared :=
    apply_quiet hallows
  constructor
  · exact hopened.idle
  · obtain ⟨found, hfound, hopen⟩ := hopened.live
    exact ⟨found, by simpa [State.read, List.getElem?_set, Ne.symm hne] using hfound, hopen⟩
  · rw [hshared]
    exact hopened.connected
  · rw [hshared]
    exact hopened.should_reconnect
  · rw [hshared]
    exact hopened.reset
  · rw [hshared]
    exact hopened.attempts
  · rw [hshared]
    exact hopened.bound
  · rw [hshared]
    exact hopened.events
  · intro other found hother hfound
    obtain ⟨rfl, rfl⟩ | ⟨-, hfound⟩ := getElem?_read hfound
    · have hlevel : Level.quiet.after crates action = .quiet := by
        cases action with
        | next item => exact hquiet item rfl
        | _ => rfl
      have hsettled := hnext (s.shared.apply (some other) action).1
      rw [hlevel] at hsettled
      exact hsettled
    · exact hopened.settled other found hother hfound

theorem Inv.read (hinv : Inv crates s) (hloop : s.loops[socket]? = some loop) (hrest : loop.rest = .ask action next)
    (hcond : Undisturbed crates s (.read socket)) :
    Inv crates (s.read socket loop action (next (s.shared.apply (some socket) action).1)) := by
  have hhead : s.head socket = some action := by simp [State.head, hloop, hrest, Program.head]
  obtain ⟨hcall, hquiet⟩ := hcond action hhead
  obtain ⟨hallows, hnext⟩ := obeys_level (hinv.loops socket loop hloop) hrest
  constructor
  · intro other found hfound
    obtain ⟨rfl, rfl⟩ | ⟨-, hfound⟩ := getElem?_read hfound
    · exact obeys_of_allows (fun _ h => Reading.limit_resume h) (hnext _)
    · exact hinv.loops other found hfound
  · exact hinv.apart
  · intro n call hcalling
    obtain ⟨hcurrent, hobeys, htracked⟩ := hinv.calls n call hcalling
    refine ⟨?_, hobeys, fun halone => (htracked halone).read hinv hloop hrest (hcall n call hcalling halone) _⟩
    show s.current.filter _ = none
    rw [hcurrent]
    rfl
  · intro window hwindow
    change s.current.filter _ = some window at hwindow
    rw [Option.filter_eq_some_iff] at hwindow
    obtain ⟨hwindow, hgoes⟩ := hwindow
    have hopened := hinv.windows window hwindow
    by_cases hown : window.socket = socket
    · subst hown
      exact hopened.read_own hinv hloop hrest (by simpa using hgoes) _
    · exact hopened.read_other hown hloop hrest fun item hitem => hquiet window item hwindow hown hitem

end read

theorem Kept.perform {s after : State} {op : Op} {r : Res op} {done : Progress} (hkept : Kept s.shared done)
    (hperform : Performed crates options s op r after) : Kept after.shared (done.after op r) := by
  cases hperform with
  | act action =>
    cases action with
    | take_attempt max_reconnect =>
      by_cases hmax : max_reconnect ≤ s.shared.reconnect_attempts
      · simp only [Shared.apply, if_pos hmax]
        exact hkept
      · simp only [Shared.apply, if_neg hmax]
        exact ⟨hkept.should_reconnect, hkept.connected, hkept.reset⟩
    | set_should_reconnect value => exact ⟨fun hset => hset, hkept.connected, hkept.reset⟩
    | set_connected value => exact ⟨hkept.should_reconnect, fun hset => hset, hkept.reset⟩
    | cancel_stability_timer => exact ⟨hkept.should_reconnect, hkept.connected, fun _ hset => nomatch hset⟩
    | schedule_attempts_reset socket => exact ⟨hkept.should_reconnect, hkept.connected, fun _ hset => hset⟩
    | _ => exact ⟨hkept.should_reconnect, hkept.connected, hkept.reset⟩
  | _ => exact ⟨hkept.should_reconnect, hkept.connected, hkept.reset⟩

theorem Tracked.perform {s after : State} {op : Op} {r : Res op} {done : Progress} (htracked : Tracked s done)
    (hallowed : progress_monitor.allowed done op) (hperform : Performed crates options s op r after) :
    Tracked after (done.after op r) := by
  obtain ⟨hloops, hopened⟩ | ⟨items, rfl, hopened, hloops⟩ := hperform.loops
  · constructor
    · intro socket hsocket
      rw [hloops]
      exact htracked.opened socket (hopened done ▸ hsocket)
    · intro hlive
      refine Kept.perform (htracked.kept ?_) hperform
      intro socket loop hsocket hloop
      exact hlive socket loop ((hopened done).trans hsocket) (hloops ▸ hloop)
  · have hnone : done.opened = none := hallowed
    constructor
    · intro socket hsocket
      rw [hopened, Option.some.injEq] at hsocket
      rw [hloops, List.length_append, List.length_singleton]
      omega
    · intro _
      refine Kept.perform (htracked.kept ?_) hperform
      intro socket loop hsocket
      rw [hnone] at hsocket
      exact absurd hsocket nofun

theorem Inv.perform {s after : State} {n : Nat} {op : Op}
    {next : Res op → Program Op Res (Except WebexError (Option Nat) × Unit)} {done : Progress} {overlapped : Bool}
    {r : Res op} (hinv : Inv crates s) (hcall : s.call n = some ⟨.ask op next, done, overlapped⟩)
    (hperform : Performed crates options s op r after) (hapart : Apart
      { after with calls := s.calls.set n (some ⟨next r, done.after op r, overlapped⟩) }) :
    Inv crates { after with calls := s.calls.set n (some ⟨next r, done.after op r, overlapped⟩) } := by
  obtain ⟨hcurrent, hobeys, htracked⟩ := hinv.calls n _ hcall
  constructor
  · intro socket loop hloop
    change after.loops[socket]? = some loop at hloop
    obtain hloop | ⟨items, rfl⟩ := hperform.loop hloop
    · exact hinv.loops socket loop hloop
    · exact read_loop_level _ items _
  · exact hapart
  · intro m call hcalling
    obtain ⟨rfl, hgoes⟩ | ⟨hne, hother⟩ := call_set rfl hcalling
    · cases hgoes
      refine ⟨hperform.current.trans hcurrent, hobeys.2 r _ rfl, ?_⟩
      intro halone
      have hafter := (htracked halone).perform hobeys.1 hperform
      exact ⟨hafter.opened, hafter.kept⟩
    · obtain ⟨-, hobeys, -⟩ := hinv.calls m call hother
      refine ⟨hperform.current.trans hcurrent, hobeys, ?_⟩
      intro halone
      exact absurd (hinv.apart m n call _ hother hcall halone) (fun heq => hne heq.symm)
  · intro window hwindow
    change after.current = some window at hwindow
    rw [hperform.current, hcurrent] at hwindow
    exact absurd hwindow nofun

theorem Inv.begin_call {s : State} {body : Caller (Option Nat)} (hinv : Inv crates s)
    (hbody : (body ()).Obeys progress_monitor (fun out => Prepared out.1) {}) (closed : Option Mark) :
    Inv crates (s.begin_call body closed) := by
  constructor
  · exact hinv.loops
  · exact apart_begin s body closed
  · intro n call hcall
    obtain ⟨earlier, hearlier, rfl⟩ | ⟨-, rfl⟩ := call_begin hcall
    · obtain ⟨-, hobeys, -⟩ := hinv.calls n earlier hearlier
      exact ⟨rfl, hobeys, fun halone => absurd halone nofun⟩
    · exact ⟨rfl, hbody, fun _ => ⟨nofun, fun _ => ⟨nofun, nofun, nofun⟩⟩⟩
  · exact nofun

/-- A call is over and opens no window. -/
theorem Inv.without_call {s after : State} {n : Nat} (hinv : Inv crates s) (hcalls : after.calls = s.calls.set n none)
    (hapart : Apart after) (hloops : after.loops = s.loops) (hshared : after.shared = s.shared)
    (hnone : after.current = none) : Inv crates after := by
  refine ⟨hloops ▸ hinv.loops, hapart, ?_, ?_⟩
  · intro m call hfound
    obtain ⟨-, hreturned⟩ | ⟨-, hother⟩ := call_set hcalls hfound
    · cases hreturned
    · obtain ⟨-, hobeys, htracked⟩ := hinv.calls m call hother
      refine ⟨hnone, hobeys, fun halone => ?_⟩
      obtain ⟨hopened, hkept⟩ := htracked halone
      rw [← hloops] at hopened hkept
      exact ⟨hopened, hshared ▸ hkept⟩
  · intro window hwindow
    rw [hnone] at hwindow
    cases hwindow

theorem Inv.return_call {s : State} {n : Nat} {result : Except WebexError (Option Nat)} {done : Progress}
    {overlapped : Bool} (hinv : Inv crates s) (hcall : s.call n = some ⟨.ret (result, ()), done, overlapped⟩)
    (hapart : Apart (s.return_call n overlapped result)) (hcond : Undisturbed crates s (.return_call n)) :
    Inv crates (s.return_call n overlapped result) := by
  obtain ⟨hcurrent, hprepared, htracked⟩ := hinv.calls n _ hcall
  cases result with
  | error e => exact hinv.without_call rfl hapart rfl rfl hcurrent
  | ok value =>
    cases value with
    | none => exact hinv.without_call rfl hapart rfl rfl hcurrent
    | some socket =>
      by_cases hopens : (!overlapped && (s.loops[socket]?).any (·.ended_at.isNone)) = true
      · have hwindows : (s.return_call n overlapped (.ok (some socket))).current =
            some ⟨socket, s.shared.reconnect_attempts, s.shared.events.length⟩ := if_pos hopens
        simp only [Bool.and_eq_true, Bool.not_eq_true'] at hopens
        obtain ⟨rfl, hlive⟩ := hopens
        have hidle (m : Nat) : (s.return_call n false (.ok (some socket))).call m = none := by
          rw [← Option.not_isSome_iff_eq_none, Option.isSome_iff_exists]
          rintro ⟨call, hfound⟩
          obtain ⟨-, hreturned⟩ | ⟨hne, hother⟩ := call_set rfl hfound
          · cases hreturned
          · exact hne (hinv.apart n m _ call hcall hother rfl)
        refine ⟨hinv.loops, hapart, fun m call hfound => absurd ((hidle m).symm.trans hfound) nofun, ?_⟩
        intro window hwindow
        rw [hwindows, Option.some.injEq] at hwindow
        subst hwindow
        obtain ⟨loop, hloop, hopen⟩ := (Option.any_eq_true _ _).mp hlive
        rw [Option.isNone_iff_eq_none] at hopen
        have hdone : done = ⟨true, true, some socket, some socket⟩ := hprepared socket rfl
        have hkept : Kept s.shared done := by
          apply (htracked rfl).kept
          intro opened found hopened hfound
          rw [hdone, Option.some.injEq] at hopened
          subst hopened
          rw [hloop, Option.some.injEq] at hfound
          exact hfound ▸ hopen
        subst hdone
        refine ⟨hidle, ⟨loop, hloop, hopen⟩, hkept.connected rfl, hkept.should_reconnect rfl, hkept.reset socket rfl,
          .inl rfl, Nat.le_refl _, ?_, ?_⟩
        · intro event hevent
          change event ∈ s.shared.events.drop s.shared.events.length at hevent
          rw [List.drop_length] at hevent
          exact absurd hevent (List.not_mem_nil)
        · exact hcond socket _ hcall
      · exact hinv.without_call rfl hapart rfl rfl (if_neg hopens)

theorem Inv.fire {s : State} {socket armed_at : Nat} (hinv : Inv crates s)
    (htask : s.shared.stability_task = some ⟨socket, armed_at, true⟩) :
    Inv crates { s with shared := { s.shared with
      reconnect_attempts := 0, stability_task := some ⟨socket, armed_at, false⟩ } } := by
  constructor
  · exact hinv.loops
  · exact hinv.apart
  · intro n call hcall
    obtain ⟨hcurrent, hobeys, htracked⟩ := hinv.calls n call hcall
    refine ⟨hcurrent, hobeys, fun halone => ⟨(htracked halone).opened, ?_⟩⟩
    intro hlive
    have hkept := (htracked halone).kept hlive
    refine ⟨hkept.should_reconnect, hkept.connected, ?_⟩
    intro scheduled hscheduled
    have hreset := hkept.reset scheduled hscheduled
    rw [htask] at hreset
    exact hreset
  · intro window hwindow
    have hopened := hinv.windows window hwindow
    have hreset := hopened.reset
    rw [htask] at hreset
    exact ⟨hopened.idle, hopened.live, hopened.connected, hopened.should_reconnect, hreset, .inr ⟨rfl, rfl⟩,
      hopened.bound, hopened.events, hopened.settled⟩

theorem Inv.wait {s : State} (hinv : Inv crates s) (millis : Nat) :
    Inv crates { s with shared := { s.shared with time := s.shared.time + millis } } := by
  constructor
  · exact hinv.loops
  · exact hinv.apart
  · intro n call hcall
    obtain ⟨hcurrent, hobeys, htracked⟩ := hinv.calls n call hcall
    refine ⟨hcurrent, hobeys, fun halone => ⟨(htracked halone).opened, ?_⟩⟩
    intro hlive
    have hkept := (htracked halone).kept hlive
    exact ⟨hkept.should_reconnect, hkept.connected, hkept.reset⟩
  · intro window hwindow
    have hopened := hinv.windows window hwindow
    exact ⟨hopened.idle, hopened.live, hopened.connected, hopened.should_reconnect, hopened.reset, hopened.attempts,
      hopened.bound, hopened.events, hopened.settled⟩

theorem Inv.step {s next : State} {label : Label} (hinv : Inv crates s) (hcond : Undisturbed crates s label)
    (hstep : (tasks crates options).step s label = some next) : Inv crates next := by
  have hapart := hinv.apart.step hstep
  cases step_stepped hstep with
  | connect ws_url token => exact hinv.begin_call (connect_progress crates ws_url token) none
  | disconnect => exact hinv.begin_call disconnect_progress s.closed
  | perform hcall hperform => exact hinv.perform hcall hperform hapart
  | return_call hcall => exact hinv.return_call hcall hapart hcond
  | read hloop hrest => exact hinv.read hloop hrest hcond
  | fire htask hdue => exact hinv.fire htask
  | wait millis => exact hinv.wait millis

theorem inv_of_reachable {s : State} (hreach : (tasks crates options).Reachable (Undisturbed crates) s) :
    Inv crates s := by
  have hinit : Inv crates (tasks crates options).init := ⟨nofun, nofun, nofun, nofun⟩
  exact hreach.invariant hinit fun s label next _ hinv hcond hstep => hinv.step hcond hstep

theorem Opened.isolated {s : State} {window : Window} (hopened : Opened crates s window) :
    Isolated crates options s window where
  connected := hopened.connected
  should_reconnect := hopened.should_reconnect
  reset := hopened.reset
  attempts := hopened.attempts
  events := hopened.events
  unchanged socket next hne hstep := by
    cases step_stepped hstep with
    | read hloop hrest =>
      obtain ⟨hallows, -⟩ := obeys_level (hopened.settled socket _ hne hloop) hrest
      exact apply_quiet hallows

end invariant

section test

variable {crates} {options : Options}

/-- A test for `Undisturbed`: at the return of a call, every read loop is about to take
    an item or has ended. -/
def undisturbed (crates : Crates) (s : State) : Label → Bool
  | .read socket => (s.head socket).all fun action =>
      s.calls.all (·.all fun call => call.overlapped || call.done.opened == some socket || !call.done.undone action) &&
      s.current.all fun window => window.socket == socket || match action with
        | .next item => item_level crates item == .quiet
        | _ => true
  | .return_call _ => s.loops.all Reading.resting
  | _ => true

theorem undisturbed_sound {s : State} {label : Label} (hinv : Inv crates s) (htest : undisturbed crates s label = true) :
    Undisturbed crates s label := by
  cases label with
  | read socket =>
    intro action hhead
    simp only [undisturbed, hhead, Option.all_some, Bool.and_eq_true] at htest
    obtain ⟨hcalls, hwindows⟩ := htest
    constructor
    · intro n call hcall halone hother
      have hfound : some call ∈ s.calls := List.mem_of_getElem? (Option.join_eq_some_iff.mp hcall)
      simpa [halone, hother] using List.all_eq_true.mp hcalls _ hfound
    · rintro window item hwindow hother rfl
      simpa [hwindow, hother] using hwindows
  | return_call n =>
    intro socket done hcall other loop hne hloop
    simp only [undisturbed, List.all_eq_true] at htest
    have hrests := htest loop (List.mem_of_getElem? hloop)
    have hobeys := hinv.loops other loop hloop
    unfold Settled
    unfold Reading.resting at hrests
    cases hrest : loop.rest with
    | ret value => trivial
    | ask action next =>
      rw [hrest] at hrests hobeys
      cases action with
      | next item => exact ⟨rfl, hobeys.2⟩
      | _ => exact absurd hrests nofun
  | _ => trivial

theorem reachable_of_undisturbed {s : State}
    (hreach : (tasks crates options).Reachable (fun s label => undisturbed crates s label = true) s) :
    (tasks crates options).Reachable (Undisturbed crates) s := by
  induction hreach with
  | init => exact .init
  | step _ htest hstep ih => exact .step ih (undisturbed_sound (inv_of_reachable ih) htest) hstep

end test

/-- As long as the read loops of earlier sockets do not disturb a new one, it is
    isolated from them, whatever the order of calls, items and steps. -/
theorem isolated_of_undisturbed (options : Options) (s : State)
    (hreach : (tasks crates options).Reachable (Undisturbed crates) s) (window : Window)
    (hwindow : s.current = some window) : Isolated crates options s window :=
  ((inv_of_reachable hreach).windows window hwindow).isolated

/-- A second connection while the stream of the first one still yields frames that mean
    nothing, up to the reset of its attempts counter. -/
def superseded_labels : List Label :=
  connect_labels 0 [.text "pong", .other] ++ disconnect_labels 1 ++ connect_labels 2 [.close none] ++
    ([.read 0, .read 0, .wait 60000, .fire] : List Label)

theorem superseded_socket_isolated :
    ∃ s, (tasks sample_crates ⟨10, 60000⟩).run {} superseded_labels = some s ∧ s.current = some ⟨1, 0, 1⟩ ∧
      Isolated sample_crates ⟨10, 60000⟩ s ⟨1, 0, 1⟩ := by
  have hobserve : (((tasks sample_crates ⟨10, 60000⟩).run {} superseded_labels).map State.current) =
      some (some ⟨1, 0, 1⟩) := by
    decide +kernel
  have hmeets : (tasks sample_crates ⟨10, 60000⟩).meets (undisturbed sample_crates) {} superseded_labels = true := by
    decide +kernel
  obtain ⟨s, hrun, hcurrent⟩ := Option.map_eq_some_iff.mp hobserve
  have hreach := reachable_of_undisturbed (Machine.Reachable.run .init _ (Machine.Meets.of_meets hmeets) hrun)
  exact ⟨s, hrun, hcurrent, isolated_of_undisturbed sample_crates ⟨10, 60000⟩ s hreach _ hcurrent⟩

/-- The server closes a socket that `disconnect` and another `connect` have superseded:
    its read loop takes the connection of the new one down. -/
def stale_close_labels : List Label :=
  connect_labels 0 [.close none] ++ disconnect_labels 1 ++ connect_labels 2 [] ++ [.read 0, .read 0]

theorem stale_close_disconnects :
    ∃ s, (tasks sample_crates ⟨10, 60000⟩).Reachable Machine.Always s ∧ s.current = some ⟨1, 0, 1⟩ ∧
      s.shared.connected = false ∧ ¬ Isolated sample_crates ⟨10, 60000⟩ s ⟨1, 0, 1⟩ := by
  have hobserve : (((tasks sample_crates ⟨10, 60000⟩).run {} stale_close_labels).map fun s =>
      (s.current, s.shared.connected)) = some (some ⟨1, 0, 1⟩, false) := by
    decide
  obtain ⟨s, hrun, hobserved⟩ := Option.map_eq_some_iff.mp hobserve
  rw [Prod.mk.injEq] at hobserved
  refine ⟨s, Machine.reachable_of_run hrun, hobserved.1, hobserved.2, ?_⟩
  intro hisolated
  rw [hisolated.connected] at hobserved
  exact absurd hobserved.2 nofun

end webex.rust.mercury_socket

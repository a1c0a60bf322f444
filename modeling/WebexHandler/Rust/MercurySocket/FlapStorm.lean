import Mathlib.Algebra.BigOperators.Group.List.Basic
import Mathlib.Algebra.GroupWithZero.Nat
import WebexHandler.Rust.MercurySocket.Loops

open interaction json transition

namespace webex.rust.mercury_socket

variable (crates : Crates) (options : Options)

/-- For how long the connection of a socket has been up, or was. -/
def Reading.uptime (loop : Reading) (time : Nat) : Nat := loop.ended_at.getD time - loop.opened_at

/-- Some connection has stayed up for `reconnect_stability`. -/
def held (s : State) : Bool := s.loops.any fun loop => options.reconnect_stability ≤ loop.uptime s.shared.time

/-- The connection that the reset watches has. -/
def stable (s : State) : Bool :=
  s.shared.stability_task.any fun task => (s.loops[task.socket]?).any fun loop =>
    options.reconnect_stability ≤ loop.uptime s.shared.time

def is_reconnecting : MercuryEvent → Bool
  | .reconnecting _ => true
  | _ => false

/-- The loss that a read loop takes is reported by a Close frame. -/
def Action.closes : Action → Bool
  | .next (some (.close _)) => true
  | _ => false

/-- The attempts reset is armed for connections that are up, and taken back when they
    are lost: `connect` does not arm it for a socket that has ended; a socket whose reset
    is not due yet ends with a Close frame; and no time passes between that frame and the
    cancellation. -/
def Watched (s : State) : Label → Prop
  | .perform n _ => ∀ socket next done overlapped,
      s.call n = some ⟨.ask (.act (.schedule_attempts_reset socket)) next, done, overlapped⟩ →
      ∃ loop, s.loops[socket]? = some loop ∧ loop.ended_at = none
  | .read socket => ∀ action armed_at, s.head socket = some action → action.ends = true →
      s.shared.stability_task = some ⟨socket, armed_at, true⟩ →
      action.closes = true ∨ armed_at + options.reconnect_stability ≤ s.shared.time
  | .wait _ => ∀ socket armed_at, s.shared.stability_task = some ⟨socket, armed_at, true⟩ →
      s.head socket ≠ some (.set_connected false) ∧ s.head socket ≠ some .cancel_stability_timer
  | _ => True

/-- The attempts counter stays within its cap, goes back to zero only when the connection
    that the reset watches has stayed up long enough, and caps the reconnects of a run in
    which none has. -/
structure Capped (s : State) : Prop where
  attempts : s.shared.reconnect_attempts ≤ options.max_reconnect_attempts
  reset : ∀ label next, Watched options s label → (tasks crates options).step s label = some next →
    next.shared.reconnect_attempts < s.shared.reconnect_attempts →
    next.shared.reconnect_attempts = 0 ∧ stable options s = true
  reconnects : held options s = false →
    s.shared.events.countP (fun event => is_reconnecting event.2) ≤ options.max_reconnect_attempts

/-- Where a read loop stands: on its way from a Close frame to the cancellation of the
    reset, and with attempts it has taken and not announced yet. -/
structure Course where
  closing : Bool := false
  taken : Nat := 0
  deriving DecidableEq, Repr

def Course.allows (course : Course) : Action → Prop
  | .set_connected value => value = false
  | .cancel_stability_timer => True
  | .schedule_attempts_reset _ => False
  | .take_attempt max_reconnect => course.closing = false ∧ max_reconnect = options.max_reconnect_attempts
  | .send (.reconnecting _) => course.closing = false ∧ 0 < course.taken
  | _ => course.closing = false

def Course.after (course : Course) : (action : Action) → Answer action → Course
  | .next (some (.close _)), _ => { course with closing := true }
  | .next _, _ => { course with closing := false }
  | .cancel_stability_timer, _ => { course with closing := false }
  | .take_attempt _, attempt => { course with taken := course.taken + if Option.isSome attempt then 1 else 0 }
  | .send (.reconnecting _), _ => { course with taken := course.taken - 1 }
  | _, _ => course

def course_monitor : Monitor Action Answer Course where
  allowed course action := course.allows options action
  moves course action r course' := course' = course.after action r

/-- A read loop that follows a course and does not end on the way to a cancellation. -/
def Follows {α : Type} (rest : Program Action Answer α) (course : Course) : Prop :=
  rest.Obeys (course_monitor options) (fun _ course => course.closing = false) course

section loops

variable {crates options}

theorem follows_ask {course : Course} {p : Loop} {action : Action} {next : Answer action → Loop}
    (hfollows : Follows options p course) (hrest : p = .ask action next) :
    course.allows options action ∧ ∀ r, Follows options (next r) (course.after action r) := by
  subst hrest
  exact ⟨hfollows.1, fun r => hfollows.2 r _ rfl⟩

theorem course_act {course : Course} (action : Action) (hallows : course.allows options action)
    (hkept : ∀ r, course.after action r = course) : (act action).Stays (course_monitor options) course := by
  apply Program.stays_request hallows
  rintro r _ rfl
  exact hkept r

theorem follows_act_bind (course : Course) (action : Action) {f : Answer action → Loop}
    (hallows : course.allows options action) (hf : ∀ r, Follows options (f r) (course.after action r)) :
    Follows options (act action >>= f) course := by
  refine ⟨hallows, ?_⟩
  rintro r _ rfl
  exact hf r

theorem follows_act (course : Course) (action : Action) (hallows : course.allows options action)
    (hopen : ∀ r, (course.after action r).closing = false) : Follows options (act action) course := by
  refine ⟨hallows, ?_⟩
  rintro r _ rfl
  exact hopen r

theorem Program.Stays.follows {course : Course} {p : Loop} (hstays : p.Stays (course_monitor options) course)
    (hopen : course.closing = false) : Follows options p course :=
  hstays.mono fun _ _ hsame => hsame ▸ hopen

theorem permanent_close_follows (error reason : String) {course : Course} (hopen : course.closing = false) :
    Follows options (handle_permanent_close error reason) course := by
  apply follows_act_bind _ (.set_should_reconnect false) hopen
  intro _
  apply follows_act_bind _ (.send (.error error)) hopen
  intro _
  exact follows_act _ (.send (.disconnected reason)) hopen fun _ => hopen

theorem recoverable_close_follows {course : Course} (hopen : course.closing = false) :
    Follows options (handle_recoverable_close options.max_reconnect_attempts) course := by
  apply follows_act_bind _ .get_should_reconnect hopen
  intro should_reconnect
  cases should_reconnect with
  | false => exact follows_act _ (.send (.disconnected "manual")) hopen fun _ => hopen
  | true =>
    apply follows_act_bind _ (.take_attempt options.max_reconnect_attempts) ⟨hopen, rfl⟩
    intro attempt
    cases attempt with
    | none =>
      apply follows_act_bind _ (.set_should_reconnect false) hopen
      intro _
      exact follows_act _ (.send (.disconnected "max-attempts-exceeded")) hopen fun _ => hopen
    | some attempt =>
      apply follows_act_bind ⟨course.closing, course.taken + 1⟩ (.send (.reconnecting attempt))
        ⟨hopen, Nat.succ_pos course.taken⟩
      intro _
      apply follows_act_bind course (.sleep attempt) hopen
      intro _
      exact follows_act course (.send (.disconnected "reconnect-needed")) hopen fun _ => hopen

theorem handle_close_follows (code : UInt16) (taken : Nat) :
    Follows options (handle_close_static options.max_reconnect_attempts code) ⟨true, taken⟩ := by
  apply follows_act_bind _ (.set_connected false) rfl
  intro _
  apply follows_act_bind _ .cancel_stability_timer trivial
  intro _
  split
  · exact permanent_close_follows _ _ rfl
  split
  · exact permanent_close_follows _ _ rfl
  · exact recoverable_close_follows rfl

theorem mercury_event_not_reconnecting {data : Value} {event_type : String} {event : MercuryEvent}
    (hevent : mercury_event crates data event_type = some event) (attempt : Nat) : event ≠ .reconnecting attempt := by
  rintro rfl
  unfold mercury_event at hevent
  split at hevent
  · exact absurd hevent nofun
  split at hevent
  · simp only [Option.bind_eq_bind, Option.bind_eq_some_iff, Option.pure_def, Option.some.injEq] at hevent
    obtain ⟨_, _, _, _, heq⟩ := hevent
    exact absurd heq nofun
  · exact absurd hevent nofun

theorem handle_text_follows (text : String) {course : Course} (hopen : course.closing = false) :
    Follows options (handle_text crates text) course := by
  unfold handle_text
  cases parse_text crates text with
  | none => exact hopen
  | some message =>
    show Follows options (handle_message_static crates message) course
    unfold handle_message_static
    cases event_data message with
    | none => exact hopen
    | some pair =>
      obtain ⟨data, event_type⟩ := pair
      have hack : (send_ack message).Stays (course_monitor options) course := by
        unfold send_ack
        cases (message.get "id").bind Value.as_str with
        | none => exact Program.stays_pure ()
        | some msg_id => exact course_act (.ack _) hopen fun _ => rfl
      have hsend : (send_event (mercury_event crates data event_type)).Stays (course_monitor options) course := by
        cases hevent : mercury_event crates data event_type with
        | none => exact Program.stays_pure ()
        | some event =>
          have hother := mercury_event_not_reconnecting hevent
          cases event with
          | reconnecting attempt => exact absurd rfl (hother attempt)
          | _ => exact course_act (.send _) hopen fun _ => rfl
      exact Program.Stays.follows (Program.stays_bind hack fun _ => hsend) hopen

theorem read_loop_follows (items : List Item) {course : Course} (hopen : course.closing = false) :
    Follows options (read_loop crates options.max_reconnect_attempts items) course := by
  refine read_loop_obeys (fun _ _ hopen => hopen) ?_ ?_ items course hopen
  · intro course hopen
    apply follows_act_bind _ .get_should_reconnect hopen
    intro should_reconnect
    cases should_reconnect with
    | false => exact hopen
    | true => exact follows_act_bind _ .get_connected hopen fun _ => hopen
  · rintro course item _ hopen rfl
    cases item with
    | none => exact rfl
    | some item =>
      cases item with
      | text text => exact handle_text_follows text rfl
      | close frame => exact handle_close_follows _ course.taken
      | other => exact rfl
      | error message =>
        apply follows_act_bind ⟨false, course.taken⟩ (.send (.error message)) rfl
        intro _
        exact follows_act ⟨false, course.taken⟩ (.set_connected false) rfl fun _ => rfl

end loops

section calls

variable {crates options}

/-- What no call does: take an attempt or announce one. -/
def Op.plain : Op → Prop
  | .act (.take_attempt _) => False
  | .act (.send (.reconnecting _)) => False
  | _ => True

def plain_monitor : Monitor Op Res Unit where
  allowed _ op := op.plain
  moves _ _ _ _ := True

theorem plain_request (op : Op) (hplain : op.plain) :
    (Method.request op : Caller (Res op)).Ensures plain_monitor (fun _ => True) fun _ => True :=
  Method.ensures_request (fun _ => hplain) fun _ _ _ _ => trivial

theorem connect_internal_plain : (connect_internal crates).Ensures plain_monitor (fun _ => True) fun _ => True := by
  apply Method.ensures_bind (plain_request (.act .get_base_url) trivial)
  intro base_url _
  apply Method.ensures_bind (plain_request .now trivial)
  intro timestamp _
  apply Method.ensures_bind_ofExcept
  intro prepared_url _
  apply Method.ensures_bind (plain_request (.act (.set_connected false)) trivial)
  intro _ _
  apply Method.ensures_bind (plain_request (.connect_async prepared_url) trivial)
  intro opened _
  apply Method.ensures_bind_ofExcept
  intro stream _
  apply Method.ensures_bind (plain_request (.act .get_token) trivial)
  intro token _
  apply Method.ensures_bind (plain_request .new_v4 trivial)
  intro id _
  apply Method.ensures_bind (plain_request (.write (authorization_message id token)) trivial)
  intro sent _
  apply Method.ensures_bind_ofExcept
  intro _ _
  apply Method.ensures_bind (plain_request .timeout trivial)
  intro timed_out _
  apply Method.ensures_bind_reject
  intro _
  apply Method.ensures_bind_ofExcept
  intro items _
  apply Method.ensures_bind (plain_request (.act (.set_connected true)) trivial)
  intro _ _
  exact plain_request (.spawn_read_loop items) trivial

theorem connect_plain (ws_url token : String) :
    (connect crates ws_url token ()).Obeys plain_monitor (fun _ _ => True) () := by
  have hconnect : (connect crates ws_url token).Ensures plain_monitor (fun _ => True) fun _ => True := by
    apply Method.ensures_bind (plain_request (.act (.set_token token)) trivial)
    intro _ _
    apply Method.ensures_bind (plain_request (.act (.set_base_url ws_url)) trivial)
    intro _ _
    apply Method.ensures_bind (plain_request (.act (.set_should_reconnect true)) trivial)
    intro _ _
    apply Method.ensures_bind (plain_request (.act .cancel_stability_timer) trivial)
    intro _ _
    apply Method.ensures_bind connect_internal_plain
    intro socket _
    apply Method.ensures_bind (plain_request (.act (.schedule_attempts_reset socket)) trivial)
    intro _ _
    exact Method.ensures_pure trivial
  exact Program.Obeys.mono (fun _ _ _ => trivial) (hconnect () () trivial)

theorem disconnect_plain : (disconnect ()).Obeys plain_monitor (fun _ _ => True) () :=
  ⟨trivial, fun _ _ _ => ⟨trivial, fun _ _ _ => ⟨trivial, fun _ _ _ => ⟨trivial, fun _ _ _ => trivial⟩⟩⟩⟩

end calls

section invariant

variable {crates options}

/-- The number of reconnects that have been announced. -/
def reconnects (shared : Shared) : Nat := shared.events.countP fun event => is_reconnecting event.2

/-- What the run has led to, with the courses of all read loops. The reset that is
    pending watches a connection that is up, was up long enough, or has just been lost
    to a close that is about to cancel it. -/
structure Storm (options : Options) (s : State) (courses : List Course) : Prop where
  length : courses.length = s.loops.length
  follows : ∀ (socket : Nat) (loop : Reading) (course : Course), s.loops[socket]? = some loop →
    courses[socket]? = some course → Follows options loop.rest course
  calls : ∀ n call, s.call n = some call → call.rest.Obeys plain_monitor (fun _ _ => True) ()
  opened : ∀ loop ∈ s.loops, loop.opened_at ≤ s.shared.time
  ended : ∀ loop ∈ s.loops, ∀ time, loop.ended_at = some time → time ≤ s.shared.time
  attempts : s.shared.reconnect_attempts ≤ options.max_reconnect_attempts
  announced : held options s = true ∨
    reconnects s.shared + (courses.map Course.taken).sum ≤ s.shared.reconnect_attempts
  armed : ∀ socket armed_at, s.shared.stability_task = some ⟨socket, armed_at, true⟩ →
    ∃ loop course, s.loops[socket]? = some loop ∧ courses[socket]? = some course ∧ loop.opened_at ≤ armed_at ∧
      ∀ time, loop.ended_at = some time → armed_at + options.reconnect_stability ≤ time ∨
        (time = s.shared.time ∧ course.closing = true)

/-- An action pays for what it announces with an attempt it has taken. -/
theorem apply_announced {course : Course} {action : Action} (hallows : course.allows options action)
    (socket : Nat) (shared : Shared) :
    reconnects (shared.apply (some socket) action).2 + (course.after action (shared.apply (some socket) action).1).taken +
        shared.reconnect_attempts =
      reconnects shared + course.taken + (shared.apply (some socket) action).2.reconnect_attempts := by
  cases action with
  | take_attempt max_reconnect =>
    by_cases hmax : max_reconnect ≤ shared.reconnect_attempts
    · simp [Shared.apply, hmax, Course.after, reconnects]
    · simp only [Shared.apply, hmax, if_false, Course.after, reconnects, Option.isSome_some, if_true]
      omega
  | send event =>
    cases event with
    | reconnecting attempt =>
      obtain ⟨-, htaken⟩ := hallows
      simp only [Shared.apply, Course.after, reconnects, List.countP_append, List.countP_singleton, is_reconnecting, if_true]
      omega
    | _ => simp [Shared.apply, Course.after, reconnects, List.countP_append, is_reconnecting]
  | next item =>
    cases item with
    | none => rfl
    | some item => cases item <;> rfl
  | _ => rfl

theorem apply_attempts {course : Course} {action : Action} (hallows : course.allows options action)
    {shared : Shared} (hcap : shared.reconnect_attempts ≤ options.max_reconnect_attempts) (socket : Nat) :
    shared.reconnect_attempts ≤ (shared.apply (some socket) action).2.reconnect_attempts ∧
      (shared.apply (some socket) action).2.reconnect_attempts ≤ options.max_reconnect_attempts := by
  cases action with
  | take_attempt max_reconnect =>
    obtain ⟨-, hmax⟩ := hallows
    by_cases hfull : max_reconnect ≤ shared.reconnect_attempts
    · simp only [Shared.apply, hfull, if_true]
      omega
    · simp only [Shared.apply, hfull, if_false]
      omega
  | _ => exact ⟨Nat.le_refl _, hcap⟩

theorem sum_set {l : List Nat} {i : Nat} {old : Nat} (hold : l[i]? = some old) (value : Nat) :
    (l.set i value).sum + old = l.sum + value := by
  induction l generalizing i with
  | nil => exact absurd hold nofun
  | cons head tail ih =>
    cases i with
    | zero =>
      simp only [List.getElem?_cons_zero, Option.some.injEq] at hold
      simp only [List.set_cons_zero, List.sum_cons]
      omega
    | succ i =>
      have htail := ih (i := i) (by simpa using hold)
      simp only [List.set_cons_succ, List.sum_cons]
      omega

theorem held_mono {s next : State} (hloops : ∀ (socket : Nat) (loop : Reading), s.loops[socket]? = some loop →
    ∃ loop', next.loops[socket]? = some loop' ∧ loop.uptime s.shared.time ≤ loop'.uptime next.shared.time)
    (hheld : held options s = true) : held options next = true := by
  unfold held at hheld ⊢
  rw [List.any_eq_true] at hheld ⊢
  obtain ⟨loop, hmem, huptime⟩ := hheld
  obtain ⟨socket, hloop⟩ := List.getElem?_of_mem hmem
  obtain ⟨loop', hloop', hle⟩ := hloops socket loop hloop
  rw [decide_eq_true_eq] at huptime
  refine ⟨loop', List.mem_of_getElem? hloop', ?_⟩
  rw [decide_eq_true_eq]
  omega

theorem apply_time (origin : Option Nat) (action : Action) (shared : Shared) :
    (shared.apply origin action).2.time = shared.time := by
  cases action with
  | take_attempt max_reconnect =>
    by_cases hmax : max_reconnect ≤ shared.reconnect_attempts
    · rw [Shared.apply, if_pos hmax]
    · rw [Shared.apply, if_neg hmax]
  | _ => rfl

theorem uptime_resume {loop : Reading} {action : Action} {time : Nat} {rest : Loop}
    (hended : ∀ ended, loop.ended_at = some ended → ended ≤ time) :
    loop.uptime time ≤ (loop.resume action time rest).uptime time := by
  unfold Reading.uptime Reading.resume
  cases hends : action.ends with
  | false => simp
  | true =>
    cases hsome : loop.ended_at with
    | none => simp
    | some ended =>
      have hle := hended ended hsome
      simp only [Option.getD_some, if_true]
      omega

section read

variable {s : State} {socket : Nat} {loop : Reading} {action : Action} {next : Answer action → Loop}
  {courses : List Course} {course : Course}

theorem held_read (hstorm : Storm options s courses) (hloop : s.loops[socket]? = some loop) {rest : Loop}
    (hheld : held options s = true) : held options (s.read socket loop action rest) = true := by
  have hbound : socket < s.loops.length := (List.getElem?_eq_some_iff.mp hloop).1
  apply held_mono _ hheld
  intro other found hfound
  have htime : (s.read socket loop action rest).shared.time = s.shared.time := apply_time _ _ _
  rw [htime]
  by_cases heq : other = socket
  · subst heq
    rw [hloop, Option.some.injEq] at hfound
    subst hfound
    refine ⟨loop.resume action s.shared.time rest, by simp [State.read, hbound], ?_⟩
    exact uptime_resume (hstorm.ended loop (List.mem_of_getElem? hloop))
  · exact ⟨found, by simpa [State.read, List.getElem?_set, Ne.symm heq] using hfound, Nat.le_refl _⟩

/-- A pending reset is the one there was, or has been cancelled. -/
theorem apply_task {origin : Option Nat} {shared : Shared} (hallows : course.allows options action) :
    (shared.apply origin action).2.stability_task = none ∨
      ((shared.apply origin action).2.stability_task = shared.stability_task ∧ action ≠ .cancel_stability_timer) := by
  cases action with
  | cancel_stability_timer => exact .inl rfl
  | schedule_attempts_reset socket => exact absurd hallows id
  | take_attempt max_reconnect =>
    by_cases hmax : max_reconnect ≤ shared.reconnect_attempts
    · rw [Shared.apply, if_pos hmax]
      exact .inr ⟨rfl, nofun⟩
    · rw [Shared.apply, if_neg hmax]
      exact .inr ⟨rfl, nofun⟩
  | _ => exact .inr ⟨rfl, by simp⟩

/-- What a loop on its way to the cancellation may do. -/
theorem Course.allows_of_closing (hallows : course.allows options action) (hclosing : course.closing = true) :
    action = .set_connected false ∨ action = .cancel_stability_timer := by
  have hopen (hfalse : course.closing = false) : action = .set_connected false ∨ action = .cancel_stability_timer := by
    rw [hclosing] at hfalse
    exact absurd hfalse nofun
  cases action with
  | set_connected value =>
    have hvalue : value = false := hallows
    exact .inl (hvalue ▸ rfl)
  | cancel_stability_timer => exact .inr rfl
  | schedule_attempts_reset socket => exact absurd hallows id
  | take_attempt max_reconnect => exact hopen hallows.1
  | send event =>
    cases event with
    | reconnecting attempt => exact hopen hallows.1
    | _ => exact hopen hallows
  | _ => exact hopen hallows

theorem Storm.armed_read (hstorm : Storm options s courses) (hloop : s.loops[socket]? = some loop)
    (hrest : loop.rest = .ask action next) (hcourse : courses[socket]? = some course)
    (hallows : course.allows options action) (hcond : Watched options s (.read socket)) (rest : Loop)
    (r : Answer action) {watched armed_at : Nat}
    (htask : (s.read socket loop action rest).shared.stability_task = some ⟨watched, armed_at, true⟩) :
    ∃ loop' course', (s.read socket loop action rest).loops[watched]? = some loop' ∧
      (courses.set socket (course.after action r))[watched]? = some course' ∧ loop'.opened_at ≤ armed_at ∧
      ∀ time, loop'.ended_at = some time → armed_at + options.reconnect_stability ≤ time ∨
        (time = (s.read socket loop action rest).shared.time ∧ course'.closing = true) := by
  have htime : (s.read socket loop action rest).shared.time = s.shared.time := apply_time _ _ _
  have hhead : s.head socket = some action := by simp [State.head, hloop, hrest, Program.head]
  have hbound : socket < s.loops.length := (List.getElem?_eq_some_iff.mp hloop).1
  have hcourses : socket < courses.length := (List.getElem?_eq_some_iff.mp hcourse).1
  obtain hnone | ⟨hsame, hcancel⟩ := @apply_task options action course (some socket) s.shared hallows
  · change (s.shared.apply (some socket) action).2.stability_task = _ at htask
    rw [hnone] at htask
    exact absurd htask nofun
  change (s.shared.apply (some socket) action).2.stability_task = _ at htask
  rw [hsame] at htask
  obtain ⟨found, found_course, hfound, hfound_course, hopened, hended⟩ := hstorm.armed watched armed_at htask
  rw [htime]
  by_cases heq : watched = socket
  · subst heq
    rw [hloop, Option.some.injEq] at hfound
    rw [hcourse, Option.some.injEq] at hfound_course
    subst hfound hfound_course
    refine ⟨loop.resume action s.shared.time rest, course.after action r, by simp [State.read, hbound],
      by simp [hcourses], hopened, ?_⟩
    intro time hresumed
    by_cases hends : action.ends = true
    · simp only [Reading.resume, hends, if_true, Option.some.injEq] at hresumed
      subst hresumed
      obtain hcloses | hdue := hcond action armed_at hhead hends htask
      · refine .inr ⟨rfl, ?_⟩
        unfold Action.closes at hcloses
        split at hcloses
        · rfl
        · exact absurd hcloses nofun
      · exact .inl hdue
    · simp only [Reading.resume, hends] at hresumed
      obtain hlong | ⟨hnow, hclosing⟩ := hended time (by simpa using hresumed)
      · exact .inl hlong
      · obtain rfl | rfl := Course.allows_of_closing hallows hclosing
        · exact .inr ⟨hnow, hclosing⟩
        · exact absurd rfl hcancel
  · refine ⟨found, found_course, by simpa [State.read, List.getElem?_set, Ne.symm heq] using hfound,
      by simpa [List.getElem?_set, Ne.symm heq] using hfound_course, hopened, hended⟩

theorem Storm.on_course (hstorm : Storm options s courses) (hloop : s.loops[socket]? = some loop) :
    ∃ course, courses[socket]? = some course ∧ Follows options loop.rest course := by
  have hbound : socket < courses.length := by
    rw [hstorm.length]
    exact (List.getElem?_eq_some_iff.mp hloop).1
  exact ⟨_, List.getElem?_eq_getElem hbound, hstorm.follows socket loop _ hloop (List.getElem?_eq_getElem hbound)⟩

theorem Storm.read (hstorm : Storm options s courses) (hloop : s.loops[socket]? = some loop)
    (hrest : loop.rest = .ask action next) (hcond : Watched options s (.read socket)) :
    ∃ courses', Storm options (s.read socket loop action (next (s.shared.apply (some socket) action).1)) courses' := by
  obtain ⟨course, hcourse, hfollows⟩ := hstorm.on_course hloop
  have hbound : socket < courses.length := (List.getElem?_eq_some_iff.mp hcourse).1
  obtain ⟨hallows, hnext⟩ := follows_ask hfollows hrest
  have htime : (s.read socket loop action (next (s.shared.apply (some socket) action).1)).shared.time =
    s.shared.time := apply_time _ _ _
  obtain ⟨hgrows, hcap⟩ := apply_attempts hallows hstorm.attempts socket
  refine ⟨courses.set socket (course.after action (s.shared.apply (some socket) action).1), ?_, ?_, hstorm.calls,
    ?_, ?_, hcap, ?_, ?_⟩
  · show _ = (s.loops.set socket _).length
    rw [List.length_set, List.length_set, hstorm.length]
  · intro other found found_course hfound hfound_course
    rw [List.getElem?_set] at hfound_course
    obtain ⟨rfl, rfl⟩ | ⟨hne, hfound⟩ := getElem?_read hfound
    · rw [if_pos rfl, if_pos hbound, Option.some.injEq] at hfound_course
      exact hfound_course ▸ hnext _
    · rw [if_neg hne.symm] at hfound_course
      exact hstorm.follows other found found_course hfound hfound_course
  · intro found hmem
    obtain ⟨other, hfound⟩ := List.getElem?_of_mem hmem
    rw [htime]
    obtain ⟨rfl, rfl⟩ | ⟨-, hfound⟩ := getElem?_read hfound
    · exact hstorm.opened loop (List.mem_of_getElem? hloop)
    · exact hstorm.opened found (List.mem_of_getElem? hfound)
  · intro found hmem time hended
    obtain ⟨other, hfound⟩ := List.getElem?_of_mem hmem
    rw [htime]
    obtain ⟨rfl, rfl⟩ | ⟨-, hfound⟩ := getElem?_read hfound
    · unfold Reading.resume at hended
      split at hended
      · rw [Option.some.injEq] at hended
        omega
      · exact hstorm.ended loop (List.mem_of_getElem? hloop) time hended
    · exact hstorm.ended found (List.mem_of_getElem? hfound) time hended
  · obtain hheld | hpaid := hstorm.announced
    · exact .inl (held_read hstorm hloop hheld)
    · right
      have hpay := apply_announced hallows socket s.shared
      have htaken : (courses.map Course.taken)[socket]? = some course.taken := by simp [hcourse]
      have hsum := sum_set htaken (course.after action (s.shared.apply (some socket) action).1).taken
      rw [← List.map_set] at hsum
      change reconnects (s.shared.apply (some socket) action).2 + _ ≤ (s.shared.apply (some socket) action).2.reconnect_attempts
      omega
  · intro watched armed_at htask
    exact hstorm.armed_read hloop hrest hcourse hallows hcond _ _ htask

end read

theorem Performed.shared {s after : State} {op : Op} {r : Res op} (hperform : Performed crates options s op r after)
    (hplain : op.plain) : after.shared.time = s.shared.time ∧ reconnects after.shared = reconnects s.shared ∧
      after.shared.reconnect_attempts = s.shared.reconnect_attempts ∧
      (after.shared.stability_task = none ∨ after.shared.stability_task = s.shared.stability_task ∨
        ∃ socket, op = .act (.schedule_attempts_reset socket) ∧
          after.shared.stability_task = some ⟨socket, s.shared.time, true⟩) := by
  cases hperform with
  | act action =>
    cases action with
    | take_attempt max_reconnect => exact absurd hplain id
    | send event =>
      refine ⟨rfl, ?_, rfl, .inr (.inl rfl)⟩
      cases event with
      | reconnecting attempt => exact absurd hplain id
      | _ => simp [Shared.apply, reconnects, List.countP_append, is_reconnecting]
    | cancel_stability_timer => exact ⟨rfl, rfl, rfl, .inl rfl⟩
    | schedule_attempts_reset socket => exact ⟨rfl, rfl, rfl, .inr (.inr ⟨socket, rfl, rfl⟩)⟩
    | _ => exact ⟨rfl, rfl, rfl, .inr (.inl rfl)⟩
  | _ => exact ⟨rfl, rfl, rfl, .inr (.inl rfl)⟩

/-- The courses after an operation of a caller: a read loop it starts has taken nothing. -/
theorem Storm.perform {s after : State} {n : Nat} {op : Op}
    {next : Res op → Program Op Res (Except WebexError (Option Nat) × Unit)} {done : Progress} {overlapped : Bool}
    {choice : Choice} {r : Res op} {courses : List Course} (hstorm : Storm options s courses)
    (hcall : s.call n = some ⟨.ask op next, done, overlapped⟩) (hperform : Performed crates options s op r after)
    (hcond : Watched options s (.perform n choice)) :
    ∃ courses', Storm options
      { after with calls := s.calls.set n (some ⟨next r, done.after op r, overlapped⟩) } courses' := by
  have hobeys := hstorm.calls n _ hcall
  obtain ⟨htime, hreconnects, hattempts, htask⟩ := hperform.shared hobeys.1
  have hcalls : ∀ m call, ({ after with calls := s.calls.set n (some ⟨next r, done.after op r, overlapped⟩) } : State).call m =
      some call → call.rest.Obeys plain_monitor (fun _ _ => True) () := by
    intro m call hfound
    obtain ⟨-, hgoes⟩ | ⟨-, hother⟩ := call_set rfl hfound
    · cases hgoes
      exact hobeys.2 r () trivial
    · exact hstorm.calls m call hother
  obtain ⟨added, hadded, hstarted⟩ := hperform.added
  have hold {α : Type} {l added : List α} {i : Nat} {a : α} (h : l[i]? = some a) : (l ++ added)[i]? = some a := by
    rw [List.getElem?_append_left (List.getElem?_eq_some_iff.mp h).1]
    exact h
  refine ⟨courses ++ added.map fun _ => ⟨false, 0⟩, ?_, ?_, hcalls, ?_, ?_, ?_, ?_, ?_⟩
  · rw [List.length_append, List.length_map, hstorm.length]
    change _ = after.loops.length
    rw [hadded, List.length_append]
  · intro socket loop course hloop hcourse
    change after.loops[socket]? = some loop at hloop
    rw [hadded, List.getElem?_append] at hloop
    rw [List.getElem?_append, hstorm.length] at hcourse
    split at hloop
    · rename_i hbound
      rw [if_pos hbound] at hcourse
      exact hstorm.follows socket loop course hloop hcourse
    · rename_i hbound
      rw [if_neg hbound, List.getElem?_map, hloop, Option.map_some, Option.some.injEq] at hcourse
      obtain ⟨items, rfl⟩ := hstarted loop (List.mem_of_getElem? hloop)
      exact hcourse ▸ read_loop_follows items rfl
  · intro loop hmem
    change loop ∈ after.loops at hmem
    change loop.opened_at ≤ after.shared.time
    rw [hadded] at hmem
    rw [htime]
    obtain hmem | hmem := List.mem_append.mp hmem
    · exact hstorm.opened loop hmem
    · obtain ⟨items, rfl⟩ := hstarted loop hmem
      exact Nat.le_refl _
  · intro loop hmem time hended
    change loop ∈ after.loops at hmem
    change time ≤ after.shared.time
    rw [hadded] at hmem
    rw [htime]
    obtain hmem | hmem := List.mem_append.mp hmem
    · exact hstorm.ended loop hmem time hended
    · obtain ⟨items, rfl⟩ := hstarted loop hmem
      exact absurd hended nofun
  · change after.shared.reconnect_attempts ≤ _
    rw [hattempts]
    exact hstorm.attempts
  · obtain hheld | hpaid := hstorm.announced
    · left
      apply held_mono _ hheld
      intro socket loop hloop
      refine ⟨loop, ?_, ?_⟩
      · change after.loops[socket]? = some loop
        rw [hadded]
        exact hold hloop
      · change _ ≤ loop.uptime after.shared.time
        exact htime ▸ Nat.le_refl _
    · right
      change reconnects after.shared + _ ≤ after.shared.reconnect_attempts
      rw [hreconnects, hattempts, List.map_append, List.map_map, List.sum_append]
      have hzero : (added.map (Course.taken ∘ fun _ => ⟨false, 0⟩)).sum = 0 := by simp [Function.comp_def]
      omega
  · intro socket armed_at hpending
    change after.shared.stability_task = _ at hpending
    change ∃ loop course, after.loops[socket]? = some loop ∧ _ ∧ _ ∧
      ∀ time, _ → _ ∨ (time = after.shared.time ∧ _)
    rw [hadded, htime]
    -- A reset that this operation arms watches the socket that the call has opened.
    obtain hnone | hsame | ⟨scheduled, rfl, hscheduled⟩ := htask
    · rw [hnone] at hpending
      exact absurd hpending nofun
    · rw [hsame] at hpending
      obtain ⟨loop, course, hloop, hcourse, hopened, hended⟩ := hstorm.armed socket armed_at hpending
      exact ⟨loop, course, hold hloop, hold hcourse, hopened, hended⟩
    · rw [hscheduled, Option.some.injEq, Reset.mk.injEq] at hpending
      obtain ⟨rfl, rfl, -⟩ := hpending
      obtain ⟨loop, hloop, hopen⟩ := hcond scheduled next done overlapped hcall
      obtain ⟨course, hcourse, -⟩ := hstorm.on_course hloop
      refine ⟨loop, course, hold hloop, hold hcourse, hstorm.opened loop (List.mem_of_getElem? hloop), ?_⟩
      intro time hended
      rw [hopen] at hended
      exact absurd hended nofun

/-- The next action of a loop on its way to the cancellation. -/
theorem Follows.head_of_closing {rest : Loop} {course : Course} (hfollows : Follows options rest course)
    (hclosing : course.closing = true) :
    rest.head = some (.set_connected false) ∨ rest.head = some .cancel_stability_timer := by
  cases rest with
  | ret value =>
    have hopen : course.closing = false := hfollows
    rw [hclosing] at hopen
    exact absurd hopen nofun
  | ask action next =>
    obtain ⟨hallows, -⟩ := follows_ask hfollows rfl
    obtain rfl | rfl := Course.allows_of_closing hallows hclosing
    · exact .inl rfl
    · exact .inr rfl

/-- The reset fires only for a connection that has stayed up long enough. -/
theorem Storm.stable_of_due {s : State} {courses : List Course} (hstorm : Storm options s courses)
    {socket armed_at : Nat} (htask : s.shared.stability_task = some ⟨socket, armed_at, true⟩)
    (hdue : armed_at + options.reconnect_stability ≤ s.shared.time) : stable options s = true := by
  obtain ⟨loop, course, hloop, -, hopened, hended⟩ := hstorm.armed socket armed_at htask
  have huptime : options.reconnect_stability ≤ loop.uptime s.shared.time := by
    unfold Reading.uptime
    cases hsome : loop.ended_at with
    | none =>
      rw [Option.getD_none]
      omega
    | some time =>
      have htime := hended time hsome
      rw [Option.getD_some]
      omega
  simp only [stable, htask, hloop, Option.any_some]
  exact decide_eq_true huptime

theorem held_of_stable {s : State} (hstable : stable options s = true) : held options s = true := by
  obtain ⟨task, -, hloop⟩ := (Option.any_eq_true _ _).mp hstable
  obtain ⟨loop, hloop, huptime⟩ := (Option.any_eq_true _ _).mp hloop
  exact List.any_eq_true.mpr ⟨loop, List.mem_of_getElem? hloop, huptime⟩

theorem Storm.wait {s : State} {courses : List Course} (hstorm : Storm options s courses) (millis : Nat)
    (hcond : Watched options s (.wait millis)) :
    Storm options { s with shared := { s.shared with time := s.shared.time + millis } } courses := by
  refine ⟨hstorm.length, hstorm.follows, hstorm.calls, ?_, ?_, hstorm.attempts, ?_, ?_⟩
  · intro loop hmem
    have hopened := hstorm.opened loop hmem
    change loop.opened_at ≤ s.shared.time + millis
    omega
  · intro loop hmem time hended
    have hbefore := hstorm.ended loop hmem time hended
    change time ≤ s.shared.time + millis
    omega
  · obtain hheld | hpaid := hstorm.announced
    · left
      apply held_mono _ hheld
      intro socket loop hloop
      refine ⟨loop, hloop, ?_⟩
      unfold Reading.uptime
      cases loop.ended_at with
      | none =>
        rw [Option.getD_none, Option.getD_none]
        change _ ≤ s.shared.time + millis - _
        omega
      | some time => exact Nat.le_refl _
    · exact .inr hpaid
  · intro socket armed_at htask
    obtain ⟨loop, course, hloop, hcourse, hopened, hended⟩ := hstorm.armed socket armed_at htask
    refine ⟨loop, course, hloop, hcourse, hopened, ?_⟩
    intro time hsome
    obtain hlong | ⟨-, hclosing⟩ := hended time hsome
    · exact .inl hlong
    · obtain ⟨hnot_connected, hnot_cancel⟩ := hcond socket armed_at htask
      have hhead : s.head socket = loop.rest.head := by simp [State.head, hloop]
      rw [hhead] at hnot_connected hnot_cancel
      obtain h | h := (hstorm.follows socket loop course hloop hcourse).head_of_closing hclosing
      · exact absurd h hnot_connected
      · exact absurd h hnot_cancel

/-- The calls are plain, also when another one has begun. -/
theorem Storm.begin_call {s : State} {courses : List Course} {body : Caller (Option Nat)} (hstorm : Storm options s courses)
    (hbody : (body ()).Obeys plain_monitor (fun _ _ => True) ()) (closed : Option Mark) :
    Storm options (s.begin_call body closed) courses := by
  refine ⟨hstorm.length, hstorm.follows, ?_, hstorm.opened, hstorm.ended, hstorm.attempts, hstorm.announced,
    hstorm.armed⟩
  intro n call hcall
  obtain ⟨earlier, hearlier, rfl⟩ | ⟨-, rfl⟩ := call_begin hcall
  · exact hstorm.calls n earlier hearlier
  · exact hbody

theorem Storm.step {s next : State} {label : Label} {courses : List Course} (hstorm : Storm options s courses)
    (hcond : Watched options s label) (hstep : (tasks crates options).step s label = some next) :
    ∃ courses', Storm options next courses' := by
  cases step_stepped hstep with
  | connect ws_url token => exact ⟨courses, hstorm.begin_call (connect_plain ws_url token) none⟩
  | disconnect => exact ⟨courses, hstorm.begin_call disconnect_plain s.closed⟩
  | perform hcall hperform => exact hstorm.perform hcall hperform hcond
  | @return_call n result done overlapped hcall =>
    have hcalls : ∀ m call, (s.return_call n overlapped result).call m = some call →
        call.rest.Obeys plain_monitor (fun _ _ => True) () := by
      intro m call hfound
      obtain ⟨-, hreturned⟩ | ⟨-, hother⟩ := call_set (calls_return s n overlapped result) hfound
      · cases hreturned
      · exact hstorm.calls m call hother
    refine ⟨courses, ?_⟩
    cases result with
    | error e => exact ⟨hstorm.length, hstorm.follows, hcalls, hstorm.opened, hstorm.ended, hstorm.attempts,
        hstorm.announced, hstorm.armed⟩
    | ok value =>
      cases value <;> exact ⟨hstorm.length, hstorm.follows, hcalls, hstorm.opened, hstorm.ended, hstorm.attempts,
        hstorm.announced, hstorm.armed⟩
  | read hloop hrest => exact hstorm.read hloop hrest hcond
  | fire htask hdue =>
    have hheld : held options s = true := held_of_stable (hstorm.stable_of_due htask hdue)
    exact ⟨courses, hstorm.length, hstorm.follows, hstorm.calls, hstorm.opened, hstorm.ended, Nat.zero_le _,
      .inl hheld, nofun⟩
  | wait millis => exact ⟨courses, hstorm.wait millis hcond⟩

/-- The courses of a reached state. -/
def Stormed (options : Options) (s : State) : Prop := ∃ courses, Storm options s courses

theorem stormed_of_reachable {s : State} (hreach : (tasks crates options).Reachable (Watched options) s) :
    Stormed options s := by
  have hinit : Stormed options (tasks crates options).init :=
    ⟨[], rfl, nofun, nofun, nofun, nofun, Nat.zero_le _, .inr (Nat.le_refl _), nofun⟩
  apply hreach.invariant hinit
  intro s label next _ hstormed hcond hstep
  obtain ⟨courses, hstorm⟩ := hstormed
  exact hstorm.step hcond hstep

/-- Only the reset lowers the counter. -/
theorem Storm.reset {s next : State} {label : Label} {courses : List Course} (hstorm : Storm options s courses)
    (hstep : (tasks crates options).step s label = some next)
    (hlower : next.shared.reconnect_attempts < s.shared.reconnect_attempts) :
    next.shared.reconnect_attempts = 0 ∧ stable options s = true := by
  cases step_stepped hstep with
  | fire htask hdue => exact ⟨rfl, hstorm.stable_of_due htask hdue⟩
  | perform hcall hperform =>
    obtain ⟨-, -, hattempts, -⟩ := hperform.shared (hstorm.calls _ _ hcall).1
    change _ < _ at hlower
    rw [hattempts] at hlower
    exact absurd hlower (Nat.lt_irrefl _)
  | @read socket _ _ _ hloop hrest =>
    obtain ⟨course, -, hfollows⟩ := hstorm.on_course hloop
    obtain ⟨hallows, -⟩ := follows_ask hfollows hrest
    have hgrows := (apply_attempts hallows hstorm.attempts socket).1
    exact absurd hlower (Nat.not_lt.mpr hgrows)
  | @return_call n result done overlapped hcall =>
    cases result with
    | error e => exact absurd hlower (Nat.lt_irrefl _)
    | ok value => cases value <;> exact absurd hlower (Nat.lt_irrefl _)
  | connect ws_url token => exact absurd hlower (Nat.lt_irrefl _)
  | disconnect => exact absurd hlower (Nat.lt_irrefl _)
  | wait millis => exact absurd hlower (Nat.lt_irrefl _)

end invariant

/-- As long as the reset watches connections that are up, the attempts counter caps every
    storm of reconnects. -/
theorem flap_storm_capped_of_watched (s : State) (hreach : (tasks crates options).Reachable (Watched options) s) :
    Capped crates options s := by
  obtain ⟨courses, hstorm⟩ := stormed_of_reachable hreach
  refine ⟨hstorm.attempts, ?_, ?_⟩
  · intro label next _ hstep hlower
    exact hstorm.reset hstep hlower
  · intro hnever
    obtain hheld | hpaid := hstorm.announced
    · rw [hnever] at hheld
      exact absurd hheld nofun
    · have hcap := hstorm.attempts
      change reconnects s.shared ≤ _
      omega

section test

variable {options}

/-- A test for `Watched`. -/
def watched (options : Options) (s : State) : Label → Bool
  | .perform n _ => (s.call n).all fun call => match call.rest.head with
      | some (.act (.schedule_attempts_reset socket)) => (s.loops[socket]?).any (·.ended_at.isNone)
      | _ => true
  | .read socket => (s.head socket).all fun action => !action.ends || action.closes ||
      s.shared.stability_task.all fun task => task.socket != socket || !task.pending ||
        decide (task.armed_at + options.reconnect_stability ≤ s.shared.time)
  | .wait _ => s.shared.stability_task.all fun task => !task.pending || (s.head task.socket).all fun action =>
      match action with
      | .set_connected false => false
      | .cancel_stability_timer => false
      | _ => true
  | _ => true

theorem watched_sound {s : State} {label : Label} (htest : watched options s label = true) : Watched options s label := by
  cases label with
  | perform n choice =>
    intro socket next done overlapped hcall
    simp only [watched, hcall, Option.all_some, Program.head] at htest
    obtain ⟨loop, hloop, hopen⟩ := (Option.any_eq_true _ _).mp htest
    exact ⟨loop, hloop, Option.isNone_iff_eq_none.mp hopen⟩
  | read socket =>
    intro action armed_at hhead hends htask
    simpa [watched, hhead, hends, htask] using htest
  | wait millis =>
    intro socket armed_at htask
    simp only [watched, htask, Option.all_some, Bool.not_true, Bool.false_or] at htest
    constructor
    · intro hhead
      simp [hhead] at htest
    · intro hhead
      simp [hhead] at htest
  | _ => trivial

end test

/-- A connection that is closed at once, and one that stays up long enough. -/
def stable_labels : List Label :=
  connect_labels 0 [.close none] ++ List.replicate 9 (.read 0) ++ connect_labels 1 [.close none] ++
    ([.wait 60000, .fire] : List Label) ++ List.replicate 9 (.read 1)

theorem stable_connection_capped :
    ∃ s, (tasks sample_crates ⟨1, 60000⟩).run {} stable_labels = some s ∧ s.shared.reconnect_attempts = 1 ∧
      held ⟨1, 60000⟩ s = true ∧ Capped sample_crates ⟨1, 60000⟩ s := by
  have hobserve : (((tasks sample_crates ⟨1, 60000⟩).run {} stable_labels).map fun s =>
      (s.shared.reconnect_attempts, held ⟨1, 60000⟩ s)) = some (1, true) := by
    decide
  have hmeets : (tasks sample_crates ⟨1, 60000⟩).meets (watched ⟨1, 60000⟩) {} stable_labels = true := by
    decide
  obtain ⟨s, hrun, hobserved⟩ := Option.map_eq_some_iff.mp hobserve
  rw [Prod.mk.injEq] at hobserved
  have htested := Machine.Reachable.run .init _ (Machine.Meets.of_meets hmeets) hrun
  have hreach := htested.mono fun _ _ htest => watched_sound htest
  exact ⟨s, hrun, hobserved.1, hobserved.2, flap_storm_capped_of_watched sample_crates ⟨1, 60000⟩ s hreach⟩

/-- The read loop handles a close before the `connect` that opened the socket has armed
    the reset, which fires although the connection is long gone. -/
def early_close_labels (socket : Nat) : List Label :=
  (connect_labels socket [.close none]).take 15 ++ List.replicate 9 (.read socket) ++
    ([.perform socket .done, .return_call socket, .wait 60000, .fire] : List Label)

theorem early_close_uncapped :
    ∃ s, (tasks sample_crates ⟨1, 60000⟩).Reachable Machine.Always s ∧ held ⟨1, 60000⟩ s = false ∧
      reconnects s.shared = 2 ∧ ¬ Capped sample_crates ⟨1, 60000⟩ s := by
  have hobserve : (((tasks sample_crates ⟨1, 60000⟩).run {} (early_close_labels 0 ++ early_close_labels 1)).map fun s =>
      (held ⟨1, 60000⟩ s, reconnects s.shared)) = some (false, 2) := by
    decide +kernel
  obtain ⟨s, hrun, hobserved⟩ := Option.map_eq_some_iff.mp hobserve
  rw [Prod.mk.injEq] at hobserved
  obtain ⟨hheld, hreconnects⟩ := hobserved
  refine ⟨s, Machine.reachable_of_run hrun, hheld, hreconnects, ?_⟩
  intro hcapped
  have hcap : reconnects s.shared ≤ 1 := hcapped.reconnects hheld
  omega

end webex.rust.mercury_socket

import WebexHandler.Go.MercurySocket.Goroutines

open transition

namespace webex.go.mercury_socket

/-- The durations of a socket in nanoseconds. -/
structure Durations where
  ping_interval : Nat
  pong_timeout : Nat
  ping_interval_pos : 0 < ping_interval
  pong_timeout_pos : 0 < pong_timeout

/-- What `New` makes of the durations of a configuration. One that is absent, or shorter
    than a nanosecond, is replaced by its default. -/
def new_durations (ping_interval pong_timeout : Nat) : Durations where
  ping_interval := if ping_interval = 0 then 15000000000 else ping_interval
  pong_timeout := if pong_timeout = 0 then 14000000000 else pong_timeout
  ping_interval_pos := by
    split
    · decide
    · omega
  pong_timeout_pos := by
    split
    · decide
    · omega

/-- A goroutine that has waited for its pong up to the timeout, as it finds the socket. -/
structure Expiry where
  id : String
  alive : Bool
  answered : Bool
  reconnects : Bool
  deriving DecidableEq, Repr

/-- The ping loop of one connection and its goroutines, on a clock: when the ticker next
    ticks, and when the goroutines' timers end. The ids of the pings and of the pongs are
    kept, and the goroutines that ran at their timeout. -/
structure Heartbeat where
  process : Process
  next_tick : Nat
  clock : Nat := 0
  deadlines : List Nat := []
  pinged : List String := []
  received : List String := []
  expiries : List Expiry := []

/-- Time passes, the ping loop or a goroutine goes on, a pong is handled, or the connection
    is closed. -/
inductive Beat
  | elapse (nanos : Nat)
  | ping (id : String) (ok : Bool)
  | pong (index : Nat) (timeout : Bool)
  | receive (id : String)
  | close
  deriving DecidableEq, Repr

namespace Heartbeat

def alive (h : Heartbeat) (ctx : Nat) : Bool := !(h.process.conns ctx).cancelled

/-- The ping loop. It waits for the ticker or the end of its context, whichever its `select`
    takes, and `uuid.New` makes a new id. -/
def ping (durations : Durations) (h : Heartbeat) (id : String) (ok : Bool) (ping : Ping) : Option Heartbeat :=
  match ping.pc with
  | .waiting =>
    if (h.alive ping.ctx = true ∨ ok = true) ∧ h.clock < h.next_tick then none
    else (h.process.ping_next 0 ping id ok).map fun process =>
      { h with process, next_tick := (h.clock / durations.ping_interval + 1) * durations.ping_interval }
  | .ticked _ =>
    if id = "" ∨ id ∈ h.pinged then none
    else (h.process.ping_next 0 ping id ok).map fun process => { h with process, pinged := h.pinged ++ [id] }
  | .writing _ _ => (h.process.ping_next 0 ping id ok).map fun process =>
      { h with process, deadlines := if ok then h.deadlines ++ [h.clock + durations.pong_timeout] else h.deadlines }
  | .done => none

/-- A goroutine that waits for a pong. -/
def pong (h : Heartbeat) (index : Nat) (timeout : Bool) (pong : Pong) : Option Heartbeat :=
  if timeout = true then
    if h.clock < h.deadlines.getD index 0 then none
    else (h.process.pong_next index pong true).map fun process =>
      let expiry : Expiry :=
        { id := pong.expected_id, alive := h.alive pong.ctx, answered := h.received.contains pong.expected_id,
          reconnects := decide (h.process.triggers < process.triggers) }
      { h with process, expiries := h.expiries ++ [expiry] }
  else (h.process.pong_next index pong false).map fun process => { h with process }

def step (durations : Durations) (h : Heartbeat) : Beat → Option Heartbeat
  | .elapse nanos => some { h with clock := h.clock + nanos }
  | .ping id ok => (h.process.pings[0]?).bind (h.ping durations id ok)
  | .pong index timeout => (h.process.pongs[index]?).bind (h.pong index timeout)
  | .receive id => some { h with process := h.process.handle_pong id, received := h.received ++ [id] }
  | .close => some { h with process := h.process.close_web_socket }

end Heartbeat

/-- A socket whose `Connect` has returned, and whose ping loop starts. -/
def connected (max_reconnect_attempts : Nat) : Process where
  ms :=
    { max_reconnect_attempts, conn := some 0, cancel_fn := some 0, connection_ready := true, should_reconnect := true }
  conns := fun c => if c = 0 then { ready_closes := 1, read := .reading } else {}
  next_conn := 1
  pings := [{ ctx := 0 }]
  calls := [.connected true]

theorem Process.eq_of_conns {p q : Process} (hrest : { p with conns := fun _ => {} } = { q with conns := fun _ => {} })
    (hconns : ∀ c, p.conns c = q.conns c) : p = q := by
  obtain ⟨_, _⟩ := p
  obtain ⟨_, _⟩ := q
  simp only [Process.mk.injEq] at hrest ⊢
  simp only [hrest, true_and, and_true]
  exact funext hconns

theorem run_connect_labels (max_reconnect_attempts : Nat) :
    (interleavings max_reconnect_attempts).run (new_process max_reconnect_attempts) connect_labels =
      some (connected max_reconnect_attempts) := by
  refine congrArg some (Process.eq_of_conns rfl ?_)
  intro c
  cases c with
  | zero => rfl
  | succ c => rfl

/-- Every interleaving of pings and pongs on one connection. -/
def heartbeats (durations : Durations) (max_reconnect_attempts : Nat) : Machine Heartbeat Beat where
  init := { process := connected max_reconnect_attempts, next_tick := durations.ping_interval }
  step := Heartbeat.step durations

section specification

namespace Heartbeat

/-- A goroutine that has found its context alive and its ping unanswered at the timeout has
    called `triggerReconnect`. -/
def Heeded (h : Heartbeat) : Prop :=
  ∀ expiry ∈ h.expiries, expiry.alive = true → expiry.answered = false → expiry.reconnects = true

/-- A goroutine runs at its timeout, with its context alive and its ping unanswered. -/
structure Expires (h : Heartbeat) (index : Nat) (pong : Pong) : Prop where
  waits : h.process.pongs[index]? = some pong
  running : pong.done = false
  due : h.deadlines.getD index 0 ≤ h.clock
  alive : h.alive pong.ctx = true
  unanswered : pong.expected_id ∉ h.received

/-- Such a goroutine's ping is the latest. -/
def Latest (h : Heartbeat) (beat : Beat) : Prop :=
  ∀ index pong, beat = .pong index true → h.Expires index pong → h.pinged.getLast? = some pong.expected_id

end Heartbeat

end specification

section invariant

namespace Heartbeat

/-- The ids of the goroutines. -/
def expected (h : Heartbeat) : List String := h.process.pongs.map Pong.expected_id

/-- The ids of those that ran at their timeout. -/
def expired (h : Heartbeat) : List String := h.expiries.map Expiry.id

/-- How the pending id follows the pings, and the goroutines the ids. -/
structure Tracked (h : Heartbeat) : Prop where
  /-- The pending id is the latest ping's. -/
  pending : h.process.ms.pending_pong_id ≠ "" → h.pinged.getLast? = some h.process.ms.pending_pong_id
  /-- On a live connection it is cleared only by its pong or its timeout. -/
  latest : ∀ id, h.pinged.getLast? = some id → h.alive 0 = true → id ∉ h.received → id ∉ h.expired →
    h.process.ms.pending_pong_id = id
  named : "" ∉ h.pinged
  distinct : h.pinged.Nodup
  expected_sublist : h.expected.Sublist h.pinged
  /-- A ping that is being written has no goroutine yet. -/
  writing : ∀ (ping : Ping) (c : Nat) (id : String), h.process.pings = [ping] → ping.pc = .writing c id → h.pinged.getLast? = some id ∧ id ∉ h.expected
  expired_expected : ∀ id ∈ h.expired, id ∈ h.expected
  unexpired : ∀ (index : Nat) (pong : Pong), h.process.pongs[index]? = some pong → pong.done = false → pong.expected_id ∉ h.expired
  one_loop : ∃ ping, h.process.pings = [ping] ∧ ping.ctx = 0
  one_context : ∀ pong ∈ h.process.pongs, pong.ctx = 0
  cancellable : h.alive 0 = true → h.process.ms.cancel_fn = some 0

variable {durations : Durations} {max_reconnect_attempts : Nat} {h next : Heartbeat}

theorem init_tracked : Tracked (heartbeats durations max_reconnect_attempts).init where
  pending := nofun
  latest := nofun
  named := nofun
  distinct := List.nodup_nil
  expected_sublist := List.Sublist.slnil
  writing ping c id hping hwriting := by
    obtain rfl := List.singleton_injective hping
    cases hwriting
  expired_expected := nofun
  unexpired := nofun
  one_loop := ⟨_, rfl, rfl⟩
  one_context := nofun
  cancellable _ := rfl

theorem elapse_tracked (htracked : h.Tracked) (nanos : Nat) : Tracked { h with clock := h.clock + nanos } := by
  obtain ⟨pending, latest, named, distinct, sublist, writing, expired, unexpired, loop, context, cancellable⟩ := htracked
  exact ⟨pending, latest, named, distinct, sublist, writing, expired, unexpired, loop, context, cancellable⟩

theorem Tracked.pings_eq (htracked : h.Tracked) {ping : Ping} (hindex : h.process.pings[0]? = some ping) :
    h.process.pings = [ping] := by
  obtain ⟨loop, hloop, -⟩ := htracked.one_loop
  rw [hloop] at hindex ⊢
  cases hindex
  rfl

/-- A pong clears the pending id if it is its own, and nothing else. -/
theorem handle_pong_eq (p : Process) (id : String) : ∃ pending,
    p.handle_pong id = { p with ms := { p.ms with pending_pong_id := pending } } ∧
      (pending = p.ms.pending_pong_id ∨ pending = "" ∧ p.ms.pending_pong_id = id) := by
  unfold Process.handle_pong
  split
  · rename_i hown
    exact ⟨"", rfl, .inr ⟨rfl, hown.2.symm⟩⟩
  · exact ⟨p.ms.pending_pong_id, rfl, .inl rfl⟩

theorem receive_tracked (htracked : h.Tracked) (id : String) :
    Tracked { h with process := h.process.handle_pong id, received := h.received ++ [id] } := by
  obtain ⟨cleared, heq, hcleared⟩ := handle_pong_eq h.process id
  rw [heq]
  obtain ⟨pending, latest, named, distinct, sublist, writing, expired, unexpired, loop, context, cancellable⟩ := htracked
  refine ⟨?_, ?_, named, distinct, sublist, writing, expired, unexpired, loop, context, cancellable⟩
  · intro hne
    obtain hsame | ⟨hempty, -⟩ := hcleared
    · exact hsame ▸ pending (hsame ▸ hne)
    · exact absurd hempty hne
  · intro last hlast halive hunanswered hunexpired
    simp only [List.mem_append, List.mem_singleton, not_or] at hunanswered
    have hpending := latest last hlast halive hunanswered.1 hunexpired
    obtain hsame | ⟨-, hown⟩ := hcleared
    · exact hsame.trans hpending
    · exact absurd (hpending.symm.trans hown) hunanswered.2

/-- Closing the connection cancels its context. -/
theorem close_web_socket_eq (p : Process) : ∃ conns, p.close_web_socket = { p with ms := p.ms.close_web_socket, conns } ∧
    (∀ c, p.ms.cancel_fn = some c → (conns c).cancelled = true) ∧ ∀ c, (p.conns c).cancelled = true → (conns c).cancelled = true := by
  have hclosed : ∀ (q : Process) (other c : Nat), ((q.close_conn other).conns c).cancelled = (q.conns c).cancelled := by
    intro q other c
    simp only [Process.close_conn, Process.set_conn]
    split
    · rename_i heq
      rw [heq]
    · rfl
  have hkept : ∀ (q : Process) c, ((p.ms.conn.elim q q.close_conn).conns c).cancelled = (q.conns c).cancelled := by
    intro q c
    cases p.ms.conn with
    | none => rfl
    | some other => exact hclosed q other c
  refine ⟨p.close_web_socket.conns, ?_, ?_, ?_⟩
  · unfold Process.close_web_socket
    cases p.ms.cancel_fn <;> cases p.ms.conn <;> rfl
  · intro c hcancel
    refine (hkept _ c).trans ?_
    rw [hcancel]
    simp [Process.cancel, Process.set_conn]
  · intro c hcancelled
    refine (hkept _ c).trans ?_
    cases p.ms.cancel_fn with
    | none => exact hcancelled
    | some other =>
      simp only [Option.elim, Process.cancel, Process.set_conn]
      split
      · rfl
      · exact hcancelled

theorem close_tracked (htracked : h.Tracked) : Tracked { h with process := h.process.close_web_socket } := by
  obtain ⟨pending, latest, named, distinct, sublist, writing, expired, unexpired, loop, context, cancellable⟩ := htracked
  obtain ⟨conns, heq, hcancels, hcancelled⟩ := close_web_socket_eq h.process
  have hdead : (conns 0).cancelled = true := by
    cases halive : h.alive 0 with
    | true => exact hcancels 0 (cancellable halive)
    | false => exact hcancelled 0 (by simpa [alive] using halive)
  rw [heq]
  refine ⟨nofun, ?_, named, distinct, sublist, writing, expired, unexpired, loop, context, ?_⟩
  · intro last hlast halive
    simp [alive, hdead] at halive
  · intro halive
    simp [alive, hdead] at halive

/-- The loop waits for a tick, or ends. -/
theorem waiting_tracked (htracked : h.Tracked) {ping : Ping} {pc : PingPc} (hping : h.process.pings = [ping])
    (hquiet : ∀ c id, pc ≠ .writing c id) (next_tick : Nat) :
    Tracked { h with process := { h.process with pings := h.process.pings.set 0 { ping with pc := pc } }, next_tick } := by
  obtain ⟨pending, latest, named, distinct, sublist, writing, expired, unexpired, ⟨loop, hloop, hctx⟩, context, cancellable⟩ := htracked
  obtain rfl := List.singleton_injective (hping.symm.trans hloop)
  refine ⟨pending, latest, named, distinct, sublist, ?_, expired, unexpired, ⟨{ ping with pc := pc }, by rw [hping]; rfl, hctx⟩, context, cancellable⟩
  intro other c id hother hwriting
  rw [hping] at hother
  obtain rfl := List.singleton_injective hother
  exact absurd hwriting (hquiet c id)

/-- A new id replaces whichever is pending. -/
theorem ticked_tracked (htracked : h.Tracked) {ping : Ping} (hping : h.process.pings = [ping]) {c : Nat} {id : String}
    (hnamed : id ≠ "") (hnew : id ∉ h.pinged) :
    Tracked { h with
      process := { h.process with
        ms := { h.process.ms with pending_pong_id := id }
        pings := h.process.pings.set 0 { ping with pc := .writing c id } }
      pinged := h.pinged ++ [id] } := by
  have hunexpected : id ∉ h.expected := fun hmem => hnew (htracked.expected_sublist.subset hmem)
  obtain ⟨pending, latest, named, distinct, sublist, writing, expired, unexpired, ⟨loop, hloop, hctx⟩, context, cancellable⟩ := htracked
  obtain rfl := List.singleton_injective (hping.symm.trans hloop)
  refine ⟨?_, ?_, ?_, ?_, ?_, ?_, expired, unexpired, ⟨{ ping with pc := .writing c id }, by rw [hping]; rfl, hctx⟩, context, cancellable⟩
  · exact fun _ => List.getLast?_concat
  · intro last hlast _ _ _
    rw [List.getLast?_concat] at hlast
    exact Option.some.inj hlast
  · simp only [List.mem_append, List.mem_singleton, not_or]
    exact ⟨named, fun heq => hnamed heq.symm⟩
  · rw [List.nodup_append]
    refine ⟨distinct, by simp, ?_⟩
    intro other hother new hmem heq
    rw [List.mem_singleton] at hmem
    exact hnew (hmem ▸ heq ▸ hother)
  · exact sublist.trans (List.sublist_append_left _ _)
  · intro other c' id' hother hwriting
    rw [hping] at hother
    obtain rfl := List.singleton_injective hother
    cases hwriting
    exact ⟨List.getLast?_concat, hunexpected⟩

theorem sublist_of_not_mem {list other : List String} {id : String} (hsublist : list.Sublist (other ++ [id])) (hnot : id ∉ list) :
    list.Sublist other := by
  obtain ⟨first, last, rfl, hfirst, hlast⟩ := List.sublist_append_iff.mp hsublist
  cases last with
  | nil => rwa [List.append_nil]
  | cons c rest =>
    obtain rfl := List.mem_singleton.mp (hlast.subset List.mem_cons_self)
    exact absurd (List.mem_append_right first List.mem_cons_self) hnot

/-- Once a ping has been written, a goroutine waits for its pong. -/
theorem written_tracked (htracked : h.Tracked) {ping : Ping} (hping : h.process.pings = [ping]) {c : Nat} {id : String}
    (hwriting : ping.pc = .writing c id) (deadlines : List Nat) :
    Tracked { h with
      process := { h.process with
        pings := h.process.pings.set 0 { ping with pc := .waiting }
        pongs := h.process.pongs ++ [{ ctx := ping.ctx, expected_id := id }] }
      deadlines } := by
  obtain ⟨pending, latest, named, distinct, sublist, writing, expired, unexpired, ⟨loop, hloop, hctx⟩, context, cancellable⟩ := htracked
  obtain rfl := List.singleton_injective (hping.symm.trans hloop)
  obtain ⟨hlast, hunexpected⟩ := writing ping c id hping hwriting
  refine ⟨pending, latest, named, distinct, ?_, ?_, ?_, ?_, ⟨{ ping with pc := .waiting }, by rw [hping]; rfl, hctx⟩, ?_, cancellable⟩
  · obtain ⟨earlier, hearlier⟩ := List.getLast?_eq_some_iff.mp hlast
    simp only [expected, List.map_append, List.map_cons, List.map_nil]
    rw [hearlier] at sublist ⊢
    exact (sublist_of_not_mem sublist hunexpected).append (List.Sublist.refl [id])
  · intro other c' id' hother hother_writing
    rw [hping] at hother
    obtain rfl := List.singleton_injective hother
    cases hother_writing
  · intro other hother
    have hmem := expired other hother
    simp only [expected, List.map_append, List.mem_append] at hmem ⊢
    exact .inl hmem
  · intro index pong hindex hrunning hexpired
    rw [List.getElem?_append] at hindex
    split at hindex
    · exact unexpired index pong hindex hrunning hexpired
    · rw [List.getElem?_singleton] at hindex
      split at hindex
      · cases hindex
        exact hunexpected (expired id hexpired)
      · cases hindex
  · intro pong hmem
    rw [List.mem_append, List.mem_singleton] at hmem
    obtain hmem | rfl := hmem
    · exact context pong hmem
    · exact hctx

theorem map_set_done {pongs : List Pong} {index : Nat} {pong : Pong} (hindex : pongs[index]? = some pong) :
    (pongs.set index { pong with done := true }).map Pong.expected_id = pongs.map Pong.expected_id := by
  obtain ⟨hlt, rfl⟩ := List.getElem?_eq_some_iff.mp hindex
  rw [List.map_set]
  have hself := List.set_getElem_self (List.length_map Pong.expected_id ▸ hlt : index < (pongs.map Pong.expected_id).length)
  rwa [List.getElem_map] at hself

/-- A goroutine ends, with its context or at its timeout. -/
theorem ended_tracked (htracked : h.Tracked) {index : Nat} {pong : Pong} (hindex : h.process.pongs[index]? = some pong)
    {pending : String} (triggers : Nat) (expiries : List Expiry)
    (hexpiries : expiries.map Expiry.id = h.expired ∨ expiries.map Expiry.id = h.expired ++ [pong.expected_id])
    (hpending : pending = h.process.ms.pending_pong_id ∨
      pending = "" ∧ h.process.ms.pending_pong_id = pong.expected_id ∧ expiries.map Expiry.id = h.expired ++ [pong.expected_id]) :
    Tracked { h with
      process := { h.process with
        ms := { h.process.ms with pending_pong_id := pending }
        pongs := h.process.pongs.set index { pong with done := true }
        triggers }
      expiries } := by
  have hexpected := map_set_done hindex
  have hpong : pong.expected_id ∈ h.expected := List.mem_map_of_mem (List.mem_of_getElem? hindex)
  have hids : (h.process.pongs.map Pong.expected_id).Nodup := htracked.distinct.sublist htracked.expected_sublist
  have hsubset : h.expired ⊆ expiries.map Expiry.id := by
    obtain hsame | hmore := hexpiries
    · rw [hsame]
      exact List.Subset.refl _
    · rw [hmore]
      exact List.subset_append_left _ _
  have hmem : ∀ id ∈ expiries.map Expiry.id, id ∈ h.expired ∨ id = pong.expected_id := by
    intro id hid
    obtain hsame | hmore := hexpiries
    · exact .inl (hsame ▸ hid)
    · rw [hmore, List.mem_append, List.mem_singleton] at hid
      exact hid
  obtain ⟨hcurrent, latest, named, distinct, sublist, writing, expired, unexpired, loop, context, cancellable⟩ := htracked
  refine ⟨?_, ?_, named, distinct, ?_, ?_, ?_, ?_, loop, ?_, cancellable⟩
  · intro hne
    obtain rfl | ⟨rfl, -⟩ := hpending
    · exact hcurrent hne
    · exact absurd rfl hne
  · intro last hlast halive hunanswered hunexpired
    have holder := latest last hlast halive hunanswered fun hexpired => hunexpired (hsubset hexpired)
    obtain rfl | ⟨rfl, hown, hmore⟩ := hpending
    · exact holder
    · refine absurd ?_ hunexpired
      show last ∈ expiries.map Expiry.id
      rw [hmore, ← hown, holder]
      simp
  · show ((h.process.pongs.set index { pong with done := true }).map Pong.expected_id).Sublist h.pinged
    rw [hexpected]
    exact sublist
  · intro ping c id hping hwriting
    obtain ⟨hlast, hunexpected⟩ := writing ping c id hping hwriting
    refine ⟨hlast, ?_⟩
    show id ∉ (h.process.pongs.set index { pong with done := true }).map Pong.expected_id
    rw [hexpected]
    exact hunexpected
  · intro id hid
    show id ∈ (h.process.pongs.set index { pong with done := true }).map Pong.expected_id
    rw [hexpected]
    obtain hid | rfl := hmem id hid
    · exact expired id hid
    · exact hpong
  · intro other pong' hother hrunning' hid
    have hne : index ≠ other := by
      rintro rfl
      rw [List.getElem?_set_self (List.getElem?_eq_some_iff.mp hindex).1, Option.some.injEq] at hother
      rw [← hother] at hrunning'
      cases hrunning'
    rw [List.getElem?_set_ne hne] at hother
    obtain hid | hid := hmem _ hid
    · exact unexpired other pong' hother hrunning' hid
    · have hlt : index < (h.process.pongs.map Pong.expected_id).length := by
        rw [List.length_map]
        exact (List.getElem?_eq_some_iff.mp hindex).1
      refine hne ((List.getElem?_inj hlt hids).mp ?_)
      rw [List.getElem?_map, List.getElem?_map, hindex, hother, Option.map_some, Option.map_some, hid]
  · intro pong' hmem'
    obtain hmem' | rfl := List.mem_or_eq_of_mem_set hmem'
    · exact context pong' hmem'
    · exact context pong (List.mem_of_getElem? hindex)

/-- What a goroutine of a ping does at its timeout. -/
theorem pong_timeout_eq {index : Nat} {pong : Pong} (hrunning : pong.done = false) (hdue : h.deadlines.getD index 0 ≤ h.clock) :
    ∃ reconnects pending triggers, h.pong index true pong = some { h with
      process := { h.process with
        ms := { h.process.ms with pending_pong_id := pending }
        pongs := h.process.pongs.set index { pong with done := true }
        triggers }
      expiries := h.expiries ++ [⟨pong.expected_id, h.alive pong.ctx, h.received.contains pong.expected_id, reconnects⟩] } ∧
      (reconnects = true ↔ h.process.ms.pending_pong_id = pong.expected_id) ∧
      (pending = h.process.ms.pending_pong_id ∨ pending = "" ∧ h.process.ms.pending_pong_id = pong.expected_id) := by
  have hnot : ¬h.clock < h.deadlines.getD index 0 := Nat.not_lt.mpr hdue
  by_cases hpending : h.process.ms.pending_pong_id = pong.expected_id
  · refine ⟨true, "", h.process.triggers + 1, ?_, by simp [hpending], .inr ⟨rfl, hpending⟩⟩
    rw [Heartbeat.pong, if_pos rfl, if_neg hnot]
    simp [Process.pong_next, Process.go_trigger, hrunning, hpending]
  · refine ⟨false, h.process.ms.pending_pong_id, h.process.triggers, ?_, by simp [hpending], .inl rfl⟩
    rw [Heartbeat.pong, if_pos rfl, if_neg hnot]
    simp [Process.pong_next, hrunning, hpending]

theorem pong_enabled {index : Nat} {pong : Pong} (hstep : h.pong index true pong = some next) :
    pong.done = false ∧ h.deadlines.getD index 0 ≤ h.clock := by
  unfold Heartbeat.pong at hstep
  rw [if_pos rfl] at hstep
  split at hstep
  · cases hstep
  · rename_i hnot
    refine ⟨?_, Nat.not_lt.mp hnot⟩
    cases hdone : pong.done with
    | false => rfl
    | true => simp [Process.pong_next, hdone] at hstep

theorem step_tracked (htracked : h.Tracked) (beat : Beat) (hstep : h.step durations beat = some next) : next.Tracked := by
  cases beat with
  | elapse nanos =>
    cases hstep
    exact elapse_tracked htracked nanos
  | receive id =>
    cases hstep
    exact receive_tracked htracked id
  | close =>
    cases hstep
    exact close_tracked htracked
  | pong index timeout =>
    simp only [step, Option.bind_eq_some_iff] at hstep
    obtain ⟨pong, hindex, hstep⟩ := hstep
    cases timeout with
    | true =>
      obtain ⟨hrunning, hdue⟩ := pong_enabled hstep
      obtain ⟨reconnects, pending, triggers, heq, -, hpending⟩ := pong_timeout_eq hrunning hdue
      rw [heq] at hstep
      cases hstep
      let expiry : Expiry := ⟨pong.expected_id, h.alive pong.ctx, h.received.contains pong.expected_id, reconnects⟩
      have hexpired : (h.expiries ++ [expiry]).map Expiry.id = h.expired ++ [pong.expected_id] := List.map_append
      refine ended_tracked htracked hindex _ _ (.inr hexpired) ?_
      obtain hsame | ⟨hempty, hown⟩ := hpending
      · exact .inl hsame
      · exact .inr ⟨hempty, hown, hexpired⟩
    | false =>
      have hrunning : pong.done = false := by
        cases hdone : pong.done with
        | false => rfl
        | true => simp [Heartbeat.pong, Process.pong_next, hdone] at hstep
      rw [Heartbeat.pong, if_neg (by decide), Option.map_eq_some_iff] at hstep
      obtain ⟨process, hprocess, rfl⟩ := hstep
      simp only [Process.pong_next, hrunning, Bool.false_eq_true, if_false, Bool.not_false, if_true, Option.ite_none_right_eq_some,
        Option.some.injEq] at hprocess
      obtain ⟨-, rfl⟩ := hprocess
      exact ended_tracked htracked hindex h.process.triggers h.expiries (.inl rfl) (.inl rfl)
  | ping id ok =>
    simp only [step, Option.bind_eq_some_iff] at hstep
    obtain ⟨ping, hindex, hstep⟩ := hstep
    have hping := htracked.pings_eq hindex
    unfold Heartbeat.ping Process.ping_next at hstep
    cases hpc : ping.pc with
    | waiting =>
      simp only [hpc] at hstep
      split at hstep
      · cases hstep
      · cases hstep
        refine waiting_tracked htracked hping ?_ _
        intro c id
        split
        · nofun
        · cases h.process.ms.conn with
          | none => nofun
          | some c => nofun
    | ticked c =>
      simp only [hpc] at hstep
      split at hstep
      · cases hstep
      · rename_i hnew
        rw [not_or] at hnew
        cases hstep
        exact ticked_tracked htracked hping hnew.1 hnew.2
    | writing c id =>
      simp only [hpc] at hstep
      cases ok with
      | true =>
        simp only [if_true] at hstep
        split at hstep
        · cases hstep
        · cases hstep
          exact written_tracked htracked hping hpc _
      | false =>
        cases hstep
        refine waiting_tracked htracked hping ?_ h.next_tick
        intro other id
        nofun
    | done => simp [hpc] at hstep

/-- The steps that no goroutine takes at its timeout. -/
theorem step_expiries {beat : Beat} (hquiet : ∀ index, beat ≠ .pong index true) (hstep : h.step durations beat = some next) :
    next.expiries = h.expiries := by
  cases beat with
  | elapse nanos =>
    cases hstep
    rfl
  | receive id =>
    cases hstep
    rfl
  | close =>
    cases hstep
    rfl
  | pong index timeout =>
    cases timeout with
    | true => exact absurd rfl (hquiet index)
    | false =>
      simp only [step, Option.bind_eq_some_iff, Heartbeat.pong, Bool.false_eq_true, if_false, Option.map_eq_some_iff] at hstep
      obtain ⟨pong, -, process, -, rfl⟩ := hstep
      rfl
  | ping id ok =>
    simp only [step, Option.bind_eq_some_iff] at hstep
    obtain ⟨ping, -, hstep⟩ := hstep
    unfold Heartbeat.ping at hstep
    split at hstep
    · split at hstep
      · cases hstep
      · obtain ⟨process, -, rfl⟩ := Option.map_eq_some_iff.mp hstep
        rfl
    · split at hstep
      · cases hstep
      · obtain ⟨process, -, rfl⟩ := Option.map_eq_some_iff.mp hstep
        rfl
    · obtain ⟨process, -, rfl⟩ := Option.map_eq_some_iff.mp hstep
      rfl
    · cases hstep

/-- Of a goroutine that runs at its timeout, with its context alive and its ping unanswered. -/
theorem reconnects_iff_latest (htracked : h.Tracked) {index : Nat} {pong : Pong} (hexpires : h.Expires index pong) :
    h.process.ms.pending_pong_id = pong.expected_id ↔ h.pinged.getLast? = some pong.expected_id := by
  have hmem : pong ∈ h.process.pongs := List.mem_of_getElem? hexpires.waits
  have hpinged : pong.expected_id ∈ h.pinged := htracked.expected_sublist.subset (List.mem_map_of_mem hmem)
  constructor
  · intro hpending
    rw [← hpending]
    apply htracked.pending
    rw [hpending]
    rintro hempty
    exact htracked.named (hempty ▸ hpinged)
  · intro hlast
    have halive := hexpires.alive
    rw [htracked.one_context pong hmem] at halive
    exact htracked.latest _ hlast halive hexpires.unanswered (htracked.unexpired index pong hexpires.waits hexpires.running)

theorem step_heeded (htracked : h.Tracked) (hheeded : h.Heeded) {beat : Beat} (hlatest : h.Latest beat)
    (hstep : h.step durations beat = some next) : next.Heeded := by
  by_cases hquiet : ∀ index, beat ≠ .pong index true
  · intro expiry hmem
    rw [step_expiries hquiet hstep] at hmem
    exact hheeded expiry hmem
  · simp only [ne_eq, not_forall, not_not] at hquiet
    obtain ⟨index, rfl⟩ := hquiet
    simp only [step, Option.bind_eq_some_iff] at hstep
    obtain ⟨pong, hindex, hstep⟩ := hstep
    obtain ⟨hrunning, hdue⟩ := pong_enabled hstep
    obtain ⟨reconnects, pending, triggers, heq, hreconnects, -⟩ := pong_timeout_eq hrunning hdue
    rw [heq] at hstep
    cases hstep
    intro expiry hmem halive hunanswered
    rw [List.mem_append, List.mem_singleton] at hmem
    obtain hmem | rfl := hmem
    · exact hheeded expiry hmem halive hunanswered
    · have hexpires : h.Expires index pong := ⟨hindex, hrunning, hdue, halive, by simpa using hunanswered⟩
      rw [hreconnects, reconnects_iff_latest htracked hexpires]
      exact hlatest index pong rfl hexpires

theorem step_unheeded (htracked : h.Tracked) {beat : Beat} (hnot : ¬h.Latest beat) :
    ∃ next, h.step durations beat = some next ∧ ¬next.Heeded := by
  simp only [Latest, not_forall] at hnot
  obtain ⟨index, pong, rfl, hexpires, hlast⟩ := hnot
  obtain ⟨reconnects, pending, triggers, heq, hreconnects, -⟩ := pong_timeout_eq hexpires.running hexpires.due
  rw [reconnects_iff_latest htracked hexpires] at hreconnects
  have hstep : h.step durations (.pong index true) = h.pong index true pong := by
    rw [step, hexpires.waits, Option.bind_some]
  refine ⟨_, hstep.trans heq, ?_⟩
  intro hheeded
  have hunanswered : h.received.contains pong.expected_id = false := by simpa using hexpires.unanswered
  exact hlast (hreconnects.mp (hheeded _ (List.mem_append_right _ List.mem_cons_self) hexpires.alive hunanswered))

end Heartbeat

end invariant

/-- Of every run: no expired ping is ignored exactly if, whenever a goroutine runs at its
    timeout with its context alive and its ping unanswered, no later ping has been made. -/
theorem expired_heeded_iff (durations : Durations) (max_reconnect_attempts : Nat) (beats : List Beat) :
    (heartbeats durations max_reconnect_attempts).Throughout Heartbeat.Heeded (heartbeats durations max_reconnect_attempts).init beats ↔
      (heartbeats durations max_reconnect_attempts).Meets Heartbeat.Latest (heartbeats durations max_reconnect_attempts).init beats := by
  have hinit : (heartbeats durations max_reconnect_attempts).init.Tracked ∧ (heartbeats durations max_reconnect_attempts).init.Heeded :=
    ⟨Heartbeat.init_tracked, nofun⟩
  have hprop : ∀ h : Heartbeat, h.Tracked ∧ h.Heeded → h.Heeded := fun h hinv => hinv.2
  refine Machine.throughout_iff_meets hprop ?_ ?_ hinit beats
  · rintro h beat next ⟨htracked, hheeded⟩ hlatest hstep
    exact ⟨Heartbeat.step_tracked htracked beat hstep, Heartbeat.step_heeded htracked hheeded hlatest hstep⟩
  · rintro h beat ⟨htracked, -⟩ hnot
    exact Heartbeat.step_unheeded htracked hnot

section timing

namespace Heartbeat

/-- A ping is written early enough for its timeout to end before the next tick, and when a
    tick is handled, the goroutines whose timeouts have ended have run. -/
structure OnTime (durations : Durations) (h : Heartbeat) (beat : Beat) : Prop where
  written : ∀ (id : String) (ping : Ping) (c : Nat) (written : String), beat = .ping id true → h.process.pings[0]? = some ping →
    ping.pc = .writing c written → h.clock + durations.pong_timeout < h.next_tick
  handled : ∀ (id : String) (ok : Bool) (ping : Ping) (c : Nat), beat = .ping id ok → h.process.pings[0]? = some ping →
    ping.pc = .ticked c → ∀ (index : Nat) (pong : Pong), h.process.pongs[index]? = some pong → pong.done = false →
      h.clock < h.deadlines.getD index 0

/-- The goroutines that still wait, by where the ping loop stands. -/
def Due (h : Heartbeat) (deadline : Nat) : PingPc → Prop
  | .waiting => deadline < h.next_tick
  | .ticked _ => deadline ≤ h.clock
  | .writing _ _ => False
  | .done => True

/-- A goroutine that still waits is the latest ping's, and its timeout ends before the next
    tick. -/
structure Punctual (h : Heartbeat) : Prop where
  due : ∀ (ping : Ping) (index : Nat) (pong : Pong), h.process.pings[0]? = some ping → h.process.pongs[index]? = some pong →
    pong.done = false → h.Due (h.deadlines.getD index 0) ping.pc
  newest : ∀ (index : Nat) (pong : Pong), h.process.pongs[index]? = some pong → pong.done = false →
    h.pinged.getLast? = some pong.expected_id
  aligned : h.deadlines.length = h.process.pongs.length

variable {durations : Durations} {h next : Heartbeat}

theorem pong_punctual (hpunctual : h.Punctual) {index : Nat} {pong : Pong} (process : Process) (expiries : List Expiry)
    (hpings : process.pings = h.process.pings) (hpongs : process.pongs = h.process.pongs.set index { pong with done := true }) :
    Punctual { h with process, expiries } := by
  obtain ⟨due, newest, aligned⟩ := hpunctual
  have hwaiting : ∀ (other : Nat) (pong' : Pong), process.pongs[other]? = some pong' → pong'.done = false →
      h.process.pongs[other]? = some pong' := by
    intro other pong' hother hrunning
    rw [hpongs, List.getElem?_set] at hother
    split at hother
    · split at hother
      · cases hother
        cases hrunning
      · cases hother
    · exact hother
  refine ⟨?_, fun other pong' hother hrunning => newest other pong' (hwaiting other pong' hother hrunning) hrunning, ?_⟩
  · intro ping other pong' hping hother hrunning
    exact due ping other pong' (hpings ▸ hping) (hwaiting other pong' hother hrunning) hrunning
  · rw [aligned, hpongs, List.length_set]

/-- The ping loop goes on without a new goroutine. -/
theorem loop_punctual (hpunctual : h.Punctual) {ping : Ping} {pc : PingPc} (hping : h.process.pings = [ping]) (ms : MercurySocket)
    (pinged : List String) (next_tick : Nat)
    (hdue : ∀ (index : Nat) (pong : Pong), h.process.pongs[index]? = some pong → pong.done = false →
      Due { h with next_tick } (h.deadlines.getD index 0) pc ∧ pinged.getLast? = some pong.expected_id) :
    Punctual { h with
      process := { h.process with
        ms
        pings := h.process.pings.set 0 { ping with pc := pc } }
      pinged
      next_tick } := by
  refine ⟨?_, fun index pong hindex hrunning => (hdue index pong hindex hrunning).2, hpunctual.aligned⟩
  intro other index pong hother hindex hrunning
  rw [hping] at hother
  cases hother
  have hpong := (hdue index pong hindex hrunning).1
  cases pc <;> exact hpong

theorem written_punctual (hpunctual : h.Punctual) {ping : Ping} {c deadline : Nat} {id : String} (hping : h.process.pings = [ping])
    (hwriting : ping.pc = .writing c id) (hlast : h.pinged.getLast? = some id) (hbefore : deadline < h.next_tick) :
    Punctual { h with
      process := { h.process with
        pings := h.process.pings.set 0 { ping with pc := .waiting }
        pongs := h.process.pongs ++ [{ ctx := ping.ctx, expected_id := id }] }
      deadlines := h.deadlines ++ [deadline] } := by
  obtain ⟨due, newest, aligned⟩ := hpunctual
  have hnew : ∀ (index : Nat) (pong : Pong), (h.process.pongs ++ [{ ctx := ping.ctx, expected_id := id }])[index]? = some pong →
      pong.done = false → (h.deadlines ++ [deadline]).getD index 0 = deadline ∧ pong.expected_id = id := by
    intro index pong hindex hrunning
    rw [List.getElem?_append] at hindex
    split at hindex
    · have hdue := due ping index pong (by rw [hping]; rfl) hindex hrunning
      rw [hwriting] at hdue
      exact hdue.elim
    · rename_i hge
      rw [List.getElem?_singleton] at hindex
      split at hindex
      · cases hindex
        have hindex : index = h.deadlines.length := by omega
        simp [hindex]
      · cases hindex
  refine ⟨?_, ?_, by simp [aligned]⟩
  · intro other index pong hother hindex hrunning
    rw [hping] at hother
    cases hother
    show (h.deadlines ++ [deadline]).getD index 0 < h.next_tick
    rw [(hnew index pong hindex hrunning).1]
    exact hbefore
  · intro index pong hindex hrunning
    rw [(hnew index pong hindex hrunning).2]
    exact hlast

theorem ping_punctual (htracked : h.Tracked) (hpunctual : h.Punctual) {id : String} {ok : Bool}
    (hon_time : h.OnTime durations (.ping id ok)) {ping : Ping} (hping : h.process.pings = [ping])
    (hstep : h.ping durations id ok ping = some next) : next.Punctual := by
  have hindex : h.process.pings[0]? = some ping := by
    rw [hping]
    rfl
  unfold Heartbeat.ping Process.ping_next at hstep
  cases hpc : ping.pc with
  | waiting =>
    simp only [hpc] at hstep
    split at hstep
    · cases hstep
    · rename_i hticked
      cases hstep
      refine loop_punctual hpunctual hping h.process.ms h.pinged _ fun index pong hpong hrunning => ?_
      have hdue := hpunctual.due ping index pong hindex hpong hrunning
      rw [hpc] at hdue
      refine ⟨?_, hpunctual.newest index pong hpong hrunning⟩
      split
      · trivial
      · rename_i hcancelled
        have hticks : h.alive ping.ctx = true ∨ ok = true := by
          simpa [alive, imp_iff_not_or] using hcancelled
        cases h.process.ms.conn with
        | none => trivial
        | some c =>
          have hdue : h.deadlines.getD index 0 < h.next_tick := hdue
          have hle : ¬h.clock < h.next_tick := fun hlt => hticked ⟨hticks, hlt⟩
          show h.deadlines.getD index 0 ≤ h.clock
          omega
  | ticked c =>
    simp only [hpc] at hstep
    split at hstep
    · cases hstep
    · cases hstep
      refine loop_punctual hpunctual hping _ _ h.next_tick fun index pong hpong hrunning => ?_
      have hdue := hpunctual.due ping index pong hindex hpong hrunning
      rw [hpc] at hdue
      have hdue : h.deadlines.getD index 0 ≤ h.clock := hdue
      have hwaiting := hon_time.handled id ok ping c rfl hindex hpc index pong hpong hrunning
      omega
  | writing c written =>
    simp only [hpc] at hstep
    cases ok with
    | true =>
      simp only [if_true] at hstep
      split at hstep
      · cases hstep
      · cases hstep
        have hlast := (htracked.writing ping c written hping hpc).1
        exact written_punctual hpunctual hping hpc hlast (hon_time.written id ping c written rfl hindex hpc)
    | false =>
      cases hstep
      refine loop_punctual hpunctual hping h.process.ms h.pinged h.next_tick fun index pong hpong hrunning => ?_
      exact ⟨trivial, hpunctual.newest index pong hpong hrunning⟩
  | done => simp [hpc] at hstep

theorem step_punctual (htracked : h.Tracked) (hpunctual : h.Punctual) {beat : Beat} (hon_time : h.OnTime durations beat)
    (hstep : h.step durations beat = some next) : next.Punctual := by
  cases beat with
  | elapse nanos =>
    cases hstep
    refine ⟨?_, hpunctual.newest, hpunctual.aligned⟩
    intro ping index pong hping hindex hrunning
    have hdue := hpunctual.due ping index pong hping hindex hrunning
    cases hpc : ping.pc with
    | ticked c =>
      rw [hpc] at hdue
      exact Nat.le_add_right_of_le hdue
    | _ =>
      rw [hpc] at hdue
      exact hdue
  | receive id =>
    cases hstep
    obtain ⟨pending, heq, -⟩ := handle_pong_eq h.process id
    rw [heq]
    obtain ⟨due, newest, aligned⟩ := hpunctual
    exact ⟨due, newest, aligned⟩
  | close =>
    cases hstep
    obtain ⟨conns, heq, -⟩ := close_web_socket_eq h.process
    rw [heq]
    obtain ⟨due, newest, aligned⟩ := hpunctual
    exact ⟨due, newest, aligned⟩
  | pong index timeout =>
    simp only [step, Option.bind_eq_some_iff] at hstep
    obtain ⟨pong, hindex, hstep⟩ := hstep
    cases timeout with
    | true =>
      obtain ⟨hrunning, hdue⟩ := pong_enabled hstep
      obtain ⟨reconnects, pending, triggers, heq, -, -⟩ := pong_timeout_eq hrunning hdue
      rw [heq] at hstep
      cases hstep
      exact pong_punctual hpunctual _ _ rfl rfl
    | false =>
      rw [Heartbeat.pong, if_neg (by decide), Option.map_eq_some_iff] at hstep
      obtain ⟨process, hprocess, rfl⟩ := hstep
      unfold Process.pong_next at hprocess
      split at hprocess
      · cases hprocess
      · split at hprocess
        · split at hprocess
          · cases hprocess
            exact pong_punctual hpunctual _ _ rfl rfl
          · cases hprocess
        · contradiction
  | ping id ok =>
    simp only [step, Option.bind_eq_some_iff] at hstep
    obtain ⟨ping, hindex, hstep⟩ := hstep
    exact ping_punctual htracked hpunctual hon_time (htracked.pings_eq hindex) hstep

end Heartbeat

/-- A run that is on time meets the condition. It needs a timeout that is shorter than the
    interval by what the writing of a ping takes. -/
theorem latest_of_on_time (durations : Durations) (max_reconnect_attempts : Nat) (beats : List Beat)
    (hon_time : (heartbeats durations max_reconnect_attempts).Meets (Heartbeat.OnTime durations)
      (heartbeats durations max_reconnect_attempts).init beats) :
    (heartbeats durations max_reconnect_attempts).Meets Heartbeat.Latest (heartbeats durations max_reconnect_attempts).init beats := by
  have hinit : (heartbeats durations max_reconnect_attempts).init.Tracked ∧ (heartbeats durations max_reconnect_attempts).init.Punctual :=
    ⟨Heartbeat.init_tracked, nofun, nofun, rfl⟩
  have hkeep : ∀ (h : Heartbeat) (beat : Beat) (next : Heartbeat), h.Tracked ∧ h.Punctual → h.OnTime durations beat →
      h.step durations beat = some next → next.Tracked ∧ next.Punctual := by
    rintro h beat next ⟨htracked, hpunctual⟩ hon_time hstep
    exact ⟨Heartbeat.step_tracked htracked beat hstep, Heartbeat.step_punctual htracked hpunctual hon_time hstep⟩
  refine Machine.Meets.of_invariant hkeep ?_ hinit hon_time
  rintro h beat ⟨-, hpunctual⟩ - index pong - hexpires
  exact hpunctual.newest index pong hexpires.waits hexpires.running

end timing

/-- A configuration with pings every second and a timeout of two. -/
def overlapping : Durations := new_durations 1000000000 2000000000

/-- Two pings a second apart, and the timeout of the first. -/
def unanswered_pings : List Beat :=
  [.elapse 1000000000, .ping "" true, .ping "a" true, .ping "" true, .elapse 1000000000, .ping "" true, .ping "b" true,
    .ping "" true, .elapse 1000000000, .pong 0 true]

theorem expired_ping_ignored : ¬∀ durations max_reconnect_attempts beats,
    (heartbeats durations max_reconnect_attempts).Throughout Heartbeat.Heeded
      (heartbeats durations max_reconnect_attempts).init beats := by
  intro hheeded
  have hignored : ((heartbeats overlapping 10).run (heartbeats overlapping 10).init unanswered_pings).map Heartbeat.expiries =
      some [⟨"a", true, false, false⟩] := by
    decide
  obtain ⟨last, hrun, hexpiries⟩ := Option.map_eq_some_iff.mp hignored
  have hreconnects := (hheeded overlapping 10 unanswered_pings).of_run hrun _ (hexpiries ▸ List.mem_cons_self) rfl rfl
  cases hreconnects

end webex.go.mercury_socket

import WebexHandler.Interaction.Pool
import WebexHandler.Node.MercurySocket.Readiness

open json transition

namespace webex.node.mercury_socket

def Attempt.is_pending_reconnect (attempt : Attempt) : Bool :=
  attempt.origin == .reconnect && attempt.promise == .pending

def Promise.is_rejected : Promise → Bool
  | .rejected _ => true
  | _ => false

namespace MercurySocket

/-- The number of unsettled attempts that reconnects have started. -/
def pending_reconnects (self : MercurySocket) : Nat := self.attempts.countP Attempt.is_pending_reconnect

def has_failed (self : MercurySocket) (i : Nat) : Bool := (self.attempts[i]?).any fun attempt => attempt.promise.is_rejected

/-- Reconnects that wait for their timer, for their attempt, or for the reaction to its
    failure. -/
def under_way (self : MercurySocket) : Nat :=
  self.reconnect_timers + self.pending_reconnects + self.reactions.countP self.has_failed

/-- Whether the attempt gave a connection that can be lost, or was to restore one. -/
def counts (self : MercurySocket) (i : Nat) : Bool :=
  (self.attempts[i]?).any fun attempt => attempt.promise == .resolved || attempt.origin == .reconnect

end MercurySocket

/-- A socket with an account of its losses: the attempts whose connection was lost or that
    failed, the number of attempts before the last `disconnect`, whose ends are no losses,
    the attempt of the last `connect`, and the sockets that have closed, announced a shutdown
    or left a ping unanswered. -/
structure Ledger where
  self : MercurySocket
  lost : List Nat := []
  abandoned : Nat := 0
  latest : Option Nat := none
  ended : List Nat := []

namespace Ledger

/-- The attempt whose connection is lost, or that fails, in a step: its socket closes or
    announces a shutdown, a ping on it goes unanswered, or it reports an error or cannot be
    created before it is ready. -/
def reported (builtins : Builtins) (s : Ledger) : Label → Option Nat
  | .close i _ => (some i).filter s.self.counts
  | .error i _ => (some i).filter fun i => (s.self.attempts[i]?).any fun attempt =>
      attempt.is_pending_reconnect && !attempt.settled
  | .message i raw_data => (some i).filter fun i => s.self.counts i &&
      (received builtins raw_data).any MercurySocket.announces_shutdown
  | .timer id now factory =>
    match s.self.timers.find? (·.id == id) with
    | some ⟨_, .pong, _⟩ => s.self.ws.filter s.self.counts
    | some ⟨_, .reconnect, _⟩ =>
      match s.self.should_reconnect, MercurySocket.create_socket builtins s.self.base_url now factory with
      | true, .error _ => some s.self.attempts.length
      | _, _ => none
    | _ => none
  | _ => none

/-- The socket that closes, announces a shutdown or leaves a ping unanswered in a step. -/
def ending (builtins : Builtins) (s : Ledger) : Label → Option Nat
  | .close i _ => some i
  | .message i raw_data =>
    if (received builtins raw_data).any MercurySocket.announces_shutdown then some i else none
  | .timer id _ _ =>
    match s.self.timers.find? (·.id == id) with
    | some ⟨_, .pong, _⟩ => s.self.ws.filter fun i => (s.self.attempts[i]?).isSome
    | _ => none
  | _ => none

/-- A loss is accounted for once, and only until the client disconnects. -/
def account (s : Ledger) (i : Nat) : List Nat := if i ∈ s.lost ∨ i < s.abandoned then s.lost else s.lost ++ [i]

def step (builtins : Builtins) (s : Ledger) (label : Label) : Option Ledger :=
  (s.self.step builtins label).map fun self =>
    { self := self
      lost := (s.reported builtins label).elim s.lost s.account
      abandoned := match label with
        | .disconnect => s.self.attempts.length
        | _ => s.abandoned
      latest := match label with
        | .connect _ _ _ _ => some s.self.attempts.length
        | _ => s.latest
      ended := (s.ending builtins label).elim s.ended fun i => s.ended ++ [i] }

end Ledger

def accounted (builtins : Builtins) (self : MercurySocket) : Machine Ledger Label where
  init := { self := self }
  step := Ledger.step builtins

/-- At most one reconnect waits for its timer or its attempt, every loss and every failed
    attempt has been counted once, and none is under way when the last `connect` was
    rejected. -/
structure SingleReconnect (s : Ledger) : Prop where
  one : s.self.reconnect_timers + s.self.pending_reconnects ≤ 1
  counted : s.self.reactions = [] → s.self.increments = s.lost.length
  rejected : ∀ (i : Nat) (attempt : Attempt), s.latest = some i → s.self.attempts[i]? = some attempt →
    attempt.promise.is_rejected = true → s.self.reconnect_timers + s.self.pending_reconnects = 0

namespace Ledger

/-- The connection of an attempt since the last `disconnect` is up: its socket has neither
    closed nor announced a shutdown, and has answered every ping. -/
def Live (s : Ledger) (i : Nat) : Prop :=
  (∃ attempt, s.self.attempts[i]? = some attempt ∧ attempt.promise = .resolved) ∧ i ∉ s.ended ∧ s.abandoned ≤ i

def AttemptLeft (s : Ledger) : Prop := s.self.reconnect_attempts < s.self.max_reconnect_attempts

def permanent (code : Nat) : Bool := code == 4401 || code == 4400 || code == 4403

/-- The last `connect` has failed, or fails when its socket closes. -/
def Failing (s : Ledger) (i : Nat) : Prop :=
  s.latest = some i ∧ ∃ attempt, s.self.attempts[i]? = some attempt ∧
    (attempt.promise.is_rejected = true ∨ (attempt.promise = .pending ∧ attempt.settled = false))

/-- What the callers and the sockets may do while the client wants to stay connected. A
    socket that closes, announces a shutdown or leaves a ping unanswered is that of a
    connection that is up, so that it is the first time it does any of these, an attempt is
    left, and a close has no permanent code. Only the socket of a `connect` that has not
    succeeded may be closed with a permanent code. A failed reconnect finds an attempt left,
    too. `connect` is called while nothing is connected, connecting or about to, and
    `disconnect` while no failure waits for its reaction. -/
def Orderly (builtins : Builtins) (s : Ledger) : Label → Prop
  | .connect _ _ _ _ => s.self.under_way = 0 ∧ (∀ attempt ∈ s.self.attempts, attempt.promise ≠ .pending) ∧ ∀ i, ¬ s.Live i
  | .disconnect => s.self.reactions.countP s.self.has_failed = 0
  | .message i raw_data => (received builtins raw_data).any MercurySocket.announces_shutdown = true →
      s.self.should_reconnect = true → s.Live i ∧ s.AttemptLeft
  | .close i code => s.self.should_reconnect = true →
      if permanent code then s.Failing i else s.Live i ∧ s.AttemptLeft
  | .timer id _ _ => ∀ timer, s.self.timers.find? (·.id == id) = some timer → timer.task = .pong →
      s.self.should_reconnect = true → ∃ i, s.self.ws = some i ∧ s.Live i ∧ s.AttemptLeft
  | .react => ∀ i rest, s.self.reactions = i :: rest → s.self.has_failed i = true → s.abandoned ≤ i → s.AttemptLeft
  | _ => True

end Ledger

section quiet

def Attempt.key (attempt : Attempt) : Origin × Promise := (attempt.origin, attempt.promise)

/-- Who has started an attempt, and its promise. -/
def MercurySocket.key (self : MercurySocket) (i : Nat) : Option (Origin × Promise) :=
  (self.attempts[i]?).map Attempt.key

section keys

variable {before after : MercurySocket} (hkeys : after.attempts.map Attempt.key = before.attempts.map Attempt.key)
include hkeys

theorem key_congr : after.key = before.key := by
  funext i
  have hkey := congrArg (·[i]?) hkeys
  simpa [MercurySocket.key] using hkey

theorem has_failed_congr : after.has_failed = before.has_failed := by
  funext i
  have hkey := congrArg (Option.any fun key => key.2.is_rejected) (congrFun (key_congr hkeys) i)
  simpa [MercurySocket.has_failed, MercurySocket.key, Attempt.key, Option.any_map, Function.comp_def] using hkey

theorem attempts_length_congr : after.attempts.length = before.attempts.length := by
  simpa using congrArg List.length hkeys

end keys

/-- A part of a step in which no promise settles, no attempt is made or counted and no
    reaction is queued or run. -/
structure Quiet (before after : MercurySocket) : Prop where
  keys : after.attempts.map Attempt.key = before.attempts.map Attempt.key
  reactions : after.reactions = before.reactions
  increments : after.increments = before.increments
  reconnect_timers : after.reconnect_timers ≤ before.reconnect_timers

namespace Quiet

variable {before middle after : MercurySocket}

theorem trans (h : Quiet before middle) (h' : Quiet middle after) : Quiet before after :=
  ⟨h'.keys.trans h.keys, h'.reactions.trans h.reactions, h'.increments.trans h.increments,
    Nat.le_trans h'.reconnect_timers h.reconnect_timers⟩

theorem of_calm (hcalm : MercurySocket.Calm before after) : Quiet before after :=
  ⟨by rw [hcalm.attempts], hcalm.reactions, hcalm.increments, hcalm.reconnect_timers⟩

theorem update_attempt (i : Nat) {f : Attempt → Attempt} (hf : ∀ attempt, (f attempt).key = attempt.key) :
    Quiet before (before.update_attempt i f) := by
  refine ⟨?_, rfl, rfl, Nat.le_refl _⟩
  apply List.ext_getElem?
  intro j
  simp only [MercurySocket.update_attempt, List.getElem?_map, List.getElem?_modify, Option.map_eq_map, Option.map_map]
  congr 1
  funext attempt
  by_cases heq : i = j
  · simp [heq, hf]
  · simp [heq]

theorem close_websocket (before : MercurySocket) : Quiet before before.close_websocket := by
  obtain heq | ⟨i, heq⟩ := before.close_websocket_eq
  · rw [heq]
    exact of_calm (MercurySocket.Calm.refl before)
  · rw [heq]
    exact update_attempt i fun _ => rfl

theorem attempt (hquiet : Quiet before after) {i : Nat} {attempt : Attempt} (hattempt : before.attempts[i]? = some attempt) :
    ∃ other : Attempt, after.attempts[i]? = some other ∧ other.origin = attempt.origin ∧ other.promise = attempt.promise := by
  have hkey := congrArg (·[i]?) hquiet.keys
  simp only [List.getElem?_map, hattempt, Option.map_some, Option.map_eq_some_iff] at hkey
  obtain ⟨other, hother, hkey⟩ := hkey
  exact ⟨other, hother, congrArg Prod.fst hkey, congrArg Prod.snd hkey⟩

theorem pending_reconnects (hquiet : Quiet before after) : after.pending_reconnects = before.pending_reconnects := by
  have hcount := congrArg (List.countP fun key : Origin × Promise => key.1 == .reconnect && key.2 == .pending) hquiet.keys
  rw [List.countP_map, List.countP_map] at hcount
  exact hcount

theorem has_failed (hquiet : Quiet before after) : after.has_failed = before.has_failed := has_failed_congr hquiet.keys

theorem under_way_le (hquiet : Quiet before after) : after.under_way ≤ before.under_way := by
  unfold MercurySocket.under_way
  rw [hquiet.pending_reconnects, hquiet.has_failed, hquiet.reactions]
  have hle := hquiet.reconnect_timers
  omega

end Quiet

end quiet

namespace Ledger

variable {s : Ledger} {self' : MercurySocket}

/-- The last `connect` has succeeded. -/
def Connected (s : Ledger) : Prop :=
  ∃ (i : Nat) (attempt : Attempt), s.latest = some i ∧ s.self.attempts[i]? = some attempt ∧ attempt.promise = .resolved

/-- A reconnect may start: the socket wants one and has an attempt left, none is under way,
    and the last `connect` has succeeded. -/
def MayStart (s : Ledger) : Prop := s.self.CanReconnect ∧ s.self.under_way = 0 ∧ s.Connected

/-- The end of the attempt's socket is no loss, or one that was accounted for. -/
def Spent (s : Ledger) (i : Nat) : Prop := i ∈ s.lost ∨ i < s.abandoned ∨ s.self.counts i = false

/-- An attempt since the last `disconnect` that is unsettled, or whose connection is up. -/
def Active (s : Ledger) (i : Nat) (promise : Promise) : Prop :=
  s.abandoned ≤ i ∧ (promise = .pending ∨ (promise = .resolved ∧ i ∉ s.ended))

/-- What keeps the calls and the sockets apart. One attempt at most is active, the last one,
    and none is once the client no longer wants to be connected; no reconnect is under way
    beside it, and a connection is up only if the last `connect` has succeeded. What was
    counted and is not active any more was accounted for. -/
structure Held (s : Ledger) : Prop where
  last : ∀ i origin promise, s.self.key i = some (origin, promise) → s.Active i promise → i + 1 = s.self.attempts.length
  idle : ∀ i origin promise, s.self.key i = some (origin, promise) → s.Active i promise →
    ¬ (origin = .reconnect ∧ promise = .pending) → s.self.under_way = 0
  connected : ∀ i origin, s.self.key i = some (origin, .resolved) → s.Active i .resolved → s.Connected
  awaited : ∀ i, s.self.key i = some (.connect, .pending) → s.abandoned ≤ i → s.latest = some i
  stopped : s.self.should_reconnect = false → ∀ i origin promise, s.self.key i = some (origin, promise) →
    ¬ s.Active i promise
  accounted : ∀ i origin promise, s.self.key i = some (origin, promise) → s.abandoned ≤ i →
    (promise = .resolved ∨ origin = .reconnect) → ¬ s.Active i promise → i ∈ s.lost
  fresh : ∀ i ∈ s.lost, i ∈ s.ended ∨ s.self.has_failed i = true
  unended : ∀ i origin, s.self.key i = some (origin, .pending) → s.abandoned ≤ i → i ∉ s.ended
  bounded : ∀ i ∈ s.ended, i < s.self.attempts.length
  stale : ∀ i origin, s.self.key i = some (origin, .pending) → i < s.abandoned → s.self.should_reconnect = false
  reacting : ∀ i ∈ s.self.reactions, s.self.has_failed i = true → (s.self.should_reconnect = true ↔ s.abandoned ≤ i)
  latest : ∀ i origin promise, s.latest = some i → s.self.key i = some (origin, promise) → origin = .connect

/-- The invariant behind `SingleReconnect`: the reconnects that wait for the reaction to a
    failure are counted too. -/
structure Balanced (s : Ledger) : Prop where
  held : s.Held
  single : s.self.under_way ≤ 1
  counted : s.lost.length =
    s.self.increments + s.self.reactions.countP fun i => s.self.has_failed i && decide (s.abandoned ≤ i)
  connected : 0 < s.self.under_way → s.Connected
  queued : ∀ i ∈ s.self.reactions, ∃ attempt : Attempt, s.self.attempts[i]? = some attempt ∧ attempt.promise ≠ .pending
  lost : ∀ i ∈ s.lost, ∃ attempt : Attempt, s.self.attempts[i]? = some attempt ∧ attempt.promise ≠ .pending
  abandoned : s.abandoned ≤ s.self.attempts.length

section held

theorem key_of_attempt {self : MercurySocket} {i : Nat} {attempt : Attempt} (hattempt : self.attempts[i]? = some attempt) :
    self.key i = some (attempt.origin, attempt.promise) := by
  rw [MercurySocket.key, hattempt]
  rfl

theorem attempt_of_key {self : MercurySocket} {i : Nat} {origin : Origin} {promise : Promise}
    (hkey : self.key i = some (origin, promise)) :
    ∃ attempt, self.attempts[i]? = some attempt ∧ attempt.origin = origin ∧ attempt.promise = promise := by
  obtain ⟨attempt, hattempt, hpair⟩ := Option.map_eq_some_iff.mp hkey
  rw [Attempt.key, Prod.mk.injEq] at hpair
  exact ⟨attempt, hattempt, hpair.1, hpair.2⟩

/-- A part of a step in which no promise settles, and after which the client wants what it
    wanted before. -/
structure Unsettling (before after : MercurySocket) : Prop where
  keys : after.attempts.map Attempt.key = before.attempts.map Attempt.key
  should_reconnect : after.should_reconnect = before.should_reconnect
  under_way : after.under_way ≤ before.under_way
  reactions : after.reactions ⊆ before.reactions

theorem Connected.of_keys (hconnected : s.Connected)
    (hkeys : self'.attempts.map Attempt.key = s.self.attempts.map Attempt.key) : Connected { s with self := self' } := by
  obtain ⟨i, attempt, hlatest, hattempt, hresolved⟩ := hconnected
  have hkey := key_of_attempt hattempt
  rw [← key_congr hkeys] at hkey
  obtain ⟨other, hother, -, hpromise⟩ := attempt_of_key hkey
  exact ⟨i, other, hlatest, hother, hpromise.trans hresolved⟩

theorem Held.unsettling (hheld : Held s) (hsame : Unsettling s.self self') : Held { s with self := self' } := by
  constructor
  all_goals dsimp only
  · rw [key_congr hsame.keys, attempts_length_congr hsame.keys]
    exact hheld.last
  · rw [key_congr hsame.keys]
    intro i origin promise hkey hactive hwaits
    exact Nat.le_zero.mp (hheld.idle i origin promise hkey hactive hwaits ▸ hsame.under_way)
  · rw [key_congr hsame.keys]
    intro i origin hkey hactive
    exact (hheld.connected i origin hkey hactive).of_keys hsame.keys
  · rw [key_congr hsame.keys]
    exact hheld.awaited
  · rw [hsame.should_reconnect, key_congr hsame.keys]
    exact hheld.stopped
  · rw [key_congr hsame.keys]
    exact hheld.accounted
  · rw [has_failed_congr hsame.keys]
    exact hheld.fresh
  · rw [key_congr hsame.keys]
    exact hheld.unended
  · rw [attempts_length_congr hsame.keys]
    exact hheld.bounded
  · rw [hsame.should_reconnect, key_congr hsame.keys]
    exact hheld.stale
  · rw [has_failed_congr hsame.keys, hsame.should_reconnect]
    exact fun i hmem => hheld.reacting i (hsame.reactions hmem)
  · rw [key_congr hsame.keys]
    exact hheld.latest

/-- The end of a socket, once it is accounted for. -/
theorem Held.end_socket (hheld : Held s) {i : Nat} (hbound : i < s.self.attempts.length)
    (hlost : ∀ origin promise, s.self.key i = some (origin, promise) → s.abandoned ≤ i →
      promise ≠ .pending ∧ (promise = .resolved → i ∈ s.lost)) :
    Held { s with ended := s.ended ++ [i] } := by
  have hwas {j : Nat} {promise : Promise} (hactive : Active { s with ended := s.ended ++ [i] } j promise) :
      s.Active j promise := by
    refine ⟨hactive.1, hactive.2.imp_right fun hup => ⟨hup.1, fun hmem => hup.2 (List.mem_append_left _ hmem)⟩⟩
  constructor
  · exact fun j origin promise hkey hactive => hheld.last j origin promise hkey (hwas hactive)
  · exact fun j origin promise hkey hactive => hheld.idle j origin promise hkey (hwas hactive)
  · exact fun j origin hkey hactive => hheld.connected j origin hkey (hwas hactive)
  · exact hheld.awaited
  · exact fun hshould j origin promise hkey hactive => hheld.stopped hshould j origin promise hkey (hwas hactive)
  · intro j origin promise hkey habandoned hcounts hinactive
    by_cases hactive : s.Active j promise
    · obtain ⟨-, hpending | ⟨hresolved, hup⟩⟩ := hactive
      · exact absurd ⟨habandoned, .inl hpending⟩ hinactive
      · have hsame : j = i := by
          by_contra hne
          refine hinactive ⟨habandoned, .inr ⟨hresolved, ?_⟩⟩
          simpa [hne] using hup
        subst hsame
        exact (hlost origin promise hkey habandoned).2 hresolved
    · exact hheld.accounted j origin promise hkey habandoned hcounts hactive
  · exact fun j hmem => (hheld.fresh j hmem).imp_left (List.mem_append_left _)
  · intro j origin hkey habandoned hmem
    obtain hmem | hmem := List.mem_append.mp hmem
    · exact hheld.unended j origin hkey habandoned hmem
    · obtain rfl := List.mem_singleton.mp hmem
      exact (hlost origin .pending hkey habandoned).1 rfl
  · intro j hmem
    obtain hmem | hmem := List.mem_append.mp hmem
    · exact hheld.bounded j hmem
    · exact List.mem_singleton.mp hmem ▸ hbound
  · exact hheld.stale
  · exact hheld.reacting
  · exact hheld.latest

end held

theorem Balanced.result (hbalanced : Balanced s) : SingleReconnect s := by
  have hsingle := hbalanced.single
  unfold MercurySocket.under_way at hsingle
  refine ⟨by omega, ?_, ?_⟩
  · intro hreactions
    rw [hbalanced.counted, hreactions]
    rfl
  · intro i attempt hlatest hattempt hrejected
    by_contra hsome
    have hunder : 0 < s.self.under_way := by
      unfold MercurySocket.under_way
      omega
    obtain ⟨j, other, hlatest', hother, hresolved⟩ := hbalanced.connected hunder
    obtain rfl : i = j := Option.some.inj (hlatest.symm.trans hlatest')
    rw [hattempt, Option.some.injEq] at hother
    rw [hother, hresolved] at hrejected
    cases hrejected

theorem unsettling_of_quiet (hquiet : Quiet s.self self') (hshould : self'.should_reconnect = s.self.should_reconnect) :
    Unsettling s.self self' :=
  ⟨hquiet.keys, hshould, hquiet.under_way_le, fun _ hmem => hquiet.reactions ▸ hmem⟩

/-- A settled attempt stays settled. -/
theorem settled_quiet {i : Nat} (hquiet : Quiet s.self self')
    (hsettled : ∃ attempt : Attempt, s.self.attempts[i]? = some attempt ∧ attempt.promise ≠ .pending) :
    ∃ attempt : Attempt, self'.attempts[i]? = some attempt ∧ attempt.promise ≠ .pending := by
  obtain ⟨attempt, hattempt, hsettled⟩ := hsettled
  obtain ⟨other, hother, -, hpromise⟩ := hquiet.attempt hattempt
  exact ⟨other, hother, hpromise ▸ hsettled⟩

theorem Balanced.of_held (hbalanced : Balanced s) (hquiet : Quiet s.self self') (hheld : Held { s with self := self' }) :
    Balanced { s with self := self' } where
  held := hheld
  single := Nat.le_trans hquiet.under_way_le hbalanced.single
  counted := by
    dsimp only
    rw [hquiet.increments, hquiet.reactions, hquiet.has_failed]
    exact hbalanced.counted
  connected := by
    intro hunder
    exact (hbalanced.connected (Nat.lt_of_lt_of_le hunder hquiet.under_way_le)).of_keys hquiet.keys
  queued := by
    dsimp only
    rw [hquiet.reactions]
    exact fun i hmem => settled_quiet hquiet (hbalanced.queued i hmem)
  lost := fun i hmem => settled_quiet hquiet (hbalanced.lost i hmem)
  abandoned := by
    dsimp only
    rw [attempts_length_congr hquiet.keys]
    exact hbalanced.abandoned

theorem Balanced.quiet (hbalanced : Balanced s) (hquiet : Quiet s.self self')
    (hshould : self'.should_reconnect = s.self.should_reconnect) : Balanced { s with self := self' } :=
  hbalanced.of_held hquiet (hbalanced.held.unsettling (unsettling_of_quiet hquiet hshould))

section schedule

variable {i : Nat}

/-- The end of a connection that was up, and the reconnect that follows it. -/
theorem Held.schedule (hheld : Held s) (hlive : s.Live i) (hschedules : MercurySocket.Schedules s.self self')
    (hshould : s.self.should_reconnect = true) :
    Held { s with self := self', lost := s.lost ++ [i], ended := s.ended ++ [i] } := by
  obtain ⟨⟨attempt, hattempt, hresolved⟩, hup, habandoned⟩ := hlive
  have hkeys : self'.key = s.self.key := by
    unfold MercurySocket.key
    rw [hschedules.attempts]
  have hkey : s.self.key i = some (attempt.origin, .resolved) := hresolved ▸ key_of_attempt hattempt
  have hlast := hheld.last i _ _ hkey ⟨habandoned, .inr ⟨rfl, hup⟩⟩
  -- No other attempt was active, and this one is not any more.
  have hinactive : ∀ j origin promise, s.self.key j = some (origin, promise) →
      ¬ Active { s with ended := s.ended ++ [i] } j promise := by
    intro j origin promise hother hactive
    have hwas : s.Active j promise :=
      ⟨hactive.1, hactive.2.imp_right fun h => ⟨h.1, fun hmem => h.2 (List.mem_append_left _ hmem)⟩⟩
    have hsame : j = i := by
      have hlast' := hheld.last j origin promise hother hwas
      omega
    subst hsame
    rw [hkey, Option.some.injEq, Prod.mk.injEq] at hother
    obtain ⟨-, rfl⟩ := hother
    obtain ⟨-, hpending | ⟨-, hnot⟩⟩ := hactive
    · cases hpending
    · exact hnot (List.mem_append_right _ (List.mem_singleton_self j))
  constructor
  all_goals dsimp only
  · rw [hkeys]
    exact fun j origin promise hother hactive => absurd hactive (hinactive j origin promise hother)
  · rw [hkeys]
    exact fun j origin promise hother hactive => absurd hactive (hinactive j origin promise hother)
  · rw [hkeys]
    exact fun j origin hother hactive => absurd hactive (hinactive j origin .resolved hother)
  · rw [hkeys]
    exact hheld.awaited
  · intro hstopped
    rw [hschedules.should_reconnect, hshould] at hstopped
    cases hstopped
  · rw [hkeys]
    intro j origin promise hother hkept hcounts _
    by_cases hsame : j = i
    · rw [hsame]
      exact List.mem_append_right _ (List.mem_singleton_self i)
    · apply List.mem_append_left
      apply hheld.accounted j origin promise hother hkept hcounts
      intro hwas
      refine hinactive j origin promise hother ⟨hkept, hwas.2.imp_right fun h => ⟨h.1, ?_⟩⟩
      simpa [hsame] using h.2
  · intro j hmem
    have hfailed : self'.has_failed = s.self.has_failed := by
      unfold MercurySocket.has_failed
      rw [hschedules.attempts]
    obtain hmem | hmem := List.mem_append.mp hmem
    · exact (hheld.fresh j hmem).imp (List.mem_append_left _) fun h => hfailed ▸ h
    · exact .inl (List.mem_append_right _ hmem)
  · rw [hkeys]
    intro j origin hother hkept hmem
    obtain hmem | hmem := List.mem_append.mp hmem
    · exact hheld.unended j origin hother hkept hmem
    · obtain rfl := List.mem_singleton.mp hmem
      rw [hkey] at hother
      cases hother
  · rw [hschedules.attempts]
    intro j hmem
    obtain hmem | hmem := List.mem_append.mp hmem
    · exact hheld.bounded j hmem
    · rw [List.mem_singleton.mp hmem]
      omega
  · rw [hkeys, hschedules.should_reconnect]
    exact hheld.stale
  · have hfailed : self'.has_failed = s.self.has_failed := by
      unfold MercurySocket.has_failed
      rw [hschedules.attempts]
    rw [hschedules.reactions, hfailed, hschedules.should_reconnect]
    exact hheld.reacting
  · rw [hkeys]
    exact hheld.latest

/-- A connection that was up has ended, and a reconnect is scheduled. -/
theorem Balanced.schedule (hbalanced : Balanced s) (hstart : s.MayStart) (hlive : s.Live i) :
    Balanced { s with self := s.self.reconnect, lost := s.lost ++ [i], ended := s.ended ++ [i] } := by
  obtain ⟨hcan, hunder, hconnected⟩ := hstart
  obtain ⟨attempt, hattempt, hresolved⟩ := hlive.1
  have hsettled : attempt.promise ≠ .pending := by
    rw [hresolved]
    exact nofun
  have hschedules := MercurySocket.reconnect_schedules hcan
  have hfailed : s.self.reconnect.has_failed = s.self.has_failed := by
    unfold MercurySocket.has_failed
    rw [hschedules.attempts]
  have hpending : s.self.reconnect.pending_reconnects = s.self.pending_reconnects := by
    unfold MercurySocket.pending_reconnects
    rw [hschedules.attempts]
  have hafter : s.self.reconnect.under_way = 1 := by
    unfold MercurySocket.under_way at hunder ⊢
    rw [hschedules.reconnect_timers, hpending, hschedules.reactions, hfailed]
    omega
  refine ⟨hbalanced.held.schedule hlive hschedules hcan.1, Nat.le_of_eq hafter, ?_, ?_, ?_, ?_, ?_⟩
  · dsimp only
    rw [List.length_append, List.length_singleton, hschedules.increments, hschedules.reactions, hfailed, hbalanced.counted]
    omega
  · intro _
    obtain ⟨j, other, hlatest, hother, hresolved⟩ := hconnected
    exact ⟨j, other, hlatest, by rw [hschedules.attempts]; exact hother, hresolved⟩
  · dsimp only
    rw [hschedules.reactions, hschedules.attempts]
    exact hbalanced.queued
  · dsimp only
    rw [hschedules.attempts]
    intro j hmem
    obtain hmem | hmem := List.mem_append.mp hmem
    · exact hbalanced.lost j hmem
    · rw [List.mem_singleton.mp hmem]
      exact ⟨attempt, hattempt, hsettled⟩
  · dsimp only
    rw [hschedules.attempts]
    exact hbalanced.abandoned

end schedule

end Ledger

end webex.node.mercury_socket

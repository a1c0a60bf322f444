import Mathlib.Logic.Function.Basic
import WebexHandler.Interaction.Run
import WebexHandler.Rust.Handler.Lifecycle

open interaction json

namespace webex.rust.handler

open device_manager (DeviceManager DeviceRegistration)
open kms_client (KmsClient)

/-- What the servers answer during a call, in the order in which they are asked. The
    answers to the KMS client's operations stand for the event loop too, which puts the
    KMS responses in its mailbox. -/
structure Servers where
  fetched : Nat → Except String FetchResponse
  kms : Nat → (op : kms_client.Op) → kms_client.Res op
  opened : Except WebexError Unit
  attempts : Nat := 0
  event : Option MercuryEvent := none
  now : Nat := 0

/-- The mutexes of the handler, and how much of the servers' answers is used up. -/
structure Cells where
  content : (cell : Cell) → Content cell
  next_mailbox : Nat
  requests : List FetchRequest := []
  kms_operations : Nat := 0

/-- The `MercurySocket` of the handler, with the sockets whose read loops still deliver
    events. -/
structure Socket where
  connected : Bool
  read_loops : List Nat
  next_socket : Nat

structure World where
  cells : Cells
  socket : Socket

def Cells.store (cells : Cells) (cell : Cell) (content : Content cell) : Cells :=
  { cells with content := Function.update cells.content cell content }

/-- `connect_async` and what follows it. The flag is cleared first. -/
def Socket.opened (socket : Socket) : Except WebexError Unit → Socket
  | .error _ => { socket with connected := false }
  | .ok () => {
      connected := true
      read_loops := socket.read_loops ++ [socket.next_socket]
      next_socket := socket.next_socket + 1 }

/-- One operation of a call that has the handler to itself. -/
def World.respond (servers : Servers) : (op : Op) → World → Res op × World
  | .acquire cell, w => (w.cells.content cell, w)
  | .release cell content, w => ((), { w with cells := w.cells.store cell content })
  | .fetch req, w => (servers.fetched w.cells.requests.length,
      { w with cells := { w.cells with requests := w.cells.requests ++ [req] } })
  | .kms _ op, w => (servers.kms w.cells.kms_operations op,
      { w with cells := { w.cells with kms_operations := w.cells.kms_operations + 1 } })
  | .new_mailbox, w => (w.cells.next_mailbox,
      { w with cells := { w.cells with next_mailbox := w.cells.next_mailbox + 1 } })
  | .handle_kms_message _ _, w => ((), w)
  | .open_socket _ _ _, w => (servers.opened, { w with socket := w.socket.opened servers.opened })
  | .mercury_disconnect, w => ((), { w with socket := { w.socket with connected := false } })
  | .mercury_connected, w => (w.socket.connected, w)
  | .mercury_attempts, w => (servers.attempts, w)
  | .start_event_loop, w => ((), w)
  | .next_event, w => (servers.event, w)
  | .spawn_activity _, w => ((), w)
  | .now, w => (servers.now, w)
  | .send _, w => ((), w)
  | .try_send _, w => ((), w)

/-- What the read loops can do to the socket in the meantime, if streams may end: a loop
    ends, with or without clearing the flag. None of them sets it. -/
structure Socket.Weakened (lossy : Bool) (before after : Socket) : Prop where
  read_loops : after.read_loops.Sublist before.read_loops
  connected : after.connected = true → before.connected = true
  next_socket : after.next_socket = before.next_socket
  kept : lossy = false ∨ before.read_loops = [] → after = before

theorem Socket.Weakened.refl (lossy : Bool) (socket : Socket) : socket.Weakened lossy socket where
  read_loops := List.Sublist.refl _
  connected := id
  next_socket := rfl
  kept _ := rfl

theorem Socket.Weakened.trans {lossy : Bool} {s₁ s₂ s₃ : Socket} (hfirst : s₁.Weakened lossy s₂)
    (hthen : s₂.Weakened lossy s₃) : s₁.Weakened lossy s₃ where
  read_loops := hthen.read_loops.trans hfirst.read_loops
  connected := fun h => hfirst.connected (hthen.connected h)
  next_socket := hthen.next_socket.trans hfirst.next_socket
  kept := by
    intro h
    have hsame := hfirst.kept h
    subst hsame
    exact hthen.kept h

/-- The surroundings of a call: the servers, and the read loops of the socket. -/
def surroundings (servers : Servers) (lossy : Bool) : Monitor Op Res World where
  allowed _ _ := True
  moves w op r w' := ∃ socket, w.socket.Weakened lossy socket ∧
    World.respond servers op { w with socket := socket } = (r, w')

/-- A relation between the sockets before and after a part of a call that allows for the
    read loops. -/
structure Tolerant (lossy : Bool) (R : Socket → Socket → Prop) : Prop where
  weakened : ∀ s s', s.Weakened lossy s' → R s s'
  trans : ∀ s₁ s₂ s₃, R s₁ s₂ → R s₂ s₃ → R s₁ s₃

theorem tolerant_weakened (lossy : Bool) : Tolerant lossy (Socket.Weakened lossy) where
  weakened _ _ h := h
  trans _ _ _ hfirst hthen := hfirst.trans hthen

theorem tolerant_true (lossy : Bool) : Tolerant lossy fun _ _ => True where
  weakened _ _ _ := trivial
  trans _ _ _ _ _ := trivial

section evaluation

variable {servers : Servers} {lossy : Bool} {R : Socket → Socket → Prop} {α β : Type}

/-- Whatever the read loops do, a method has this result and leaves these cells behind. -/
def Evaluates (servers : Servers) (lossy : Bool) (R : Socket → Socket → Prop) (m : Handler α) (cells : Cells)
    (r : Except WebexError α) (cells' : Cells) : Prop :=
  ∀ socket, m.Obeys (surroundings servers lossy) () ⟨cells, socket⟩ fun r' _ w =>
    r' = r ∧ w.cells = cells' ∧ R socket w.socket

theorem evaluates_ofExcept (hR : Tolerant lossy R) (value : Except WebexError α) (cells : Cells) :
    Evaluates servers lossy R (Method.ofExcept value) cells value cells :=
  fun _ => ⟨rfl, rfl, hR.weakened _ _ (Socket.Weakened.refl _ _)⟩

theorem evaluates_pure (hR : Tolerant lossy R) (value : α) (cells : Cells) :
    Evaluates servers lossy R (pure value) cells (.ok value) cells :=
  evaluates_ofExcept hR (.ok value) cells

theorem evaluates_bind (hR : Tolerant lossy R) {m : Handler α} {f : α → Handler β} {value : α}
    {r : Except WebexError β} {c₁ c₂ c₃ : Cells} (hm : Evaluates servers lossy R m c₁ (.ok value) c₂)
    (hf : Evaluates servers lossy R (f value) c₂ r c₃) : Evaluates servers lossy R (m >>= f) c₁ r c₃ := by
  intro socket
  apply Method.Obeys.bind (hm socket)
  · rintro v _ ⟨_, socket'⟩ ⟨⟨⟩, rfl, hsocket⟩
    apply (hf socket').mono
    rintro r' _ w ⟨rfl, hcells, hsocket'⟩
    exact ⟨rfl, hcells, hR.trans _ _ _ hsocket hsocket'⟩
  · rintro e _ w ⟨h, -, -⟩
    cases h

theorem evaluates_bind_error {m : Handler α} {f : α → Handler β} {e : WebexError} {c₁ c₂ : Cells}
    (hm : Evaluates servers lossy R m c₁ (.error e) c₂) :
    Evaluates servers lossy R (m >>= f) c₁ (.error e) c₂ := by
  intro socket
  apply Method.Obeys.bind (hm socket)
  · rintro v _ w ⟨h, -, -⟩
    cases h
  · rintro e' _ w ⟨⟨⟩, hcells, hsocket⟩
    exact ⟨rfl, hcells, hsocket⟩

theorem evaluates_attempt {m : Handler α} {r : Except WebexError α} {c c' : Cells}
    (hm : Evaluates servers lossy R m c r c') : Evaluates servers lossy R m.attempt c (.ok r) c' := by
  intro socket
  rw [Method.obeys_attempt]
  apply (hm socket).mono
  rintro r' _ w ⟨rfl, hcells, hsocket⟩
  exact ⟨rfl, hcells, hsocket⟩

/-- An operation on the cells, whose answer does not depend on the socket. -/
theorem evaluates_request (hR : Tolerant lossy R) {op : Op} {cells cells' : Cells} {r : Res op}
    (hrespond : ∀ socket, World.respond servers op ⟨cells, socket⟩ = (r, ⟨cells', socket⟩)) :
    Evaluates servers lossy R (Method.request op) cells (.ok r) cells' := by
  intro socket
  refine ⟨trivial, ?_⟩
  rintro r' w ⟨socket', hweakened, hmove⟩
  rw [hrespond socket'] at hmove
  cases hmove
  exact ⟨rfl, rfl, hR.weakened _ _ hweakened⟩

variable (hR : Tolerant lossy R) (cells : Cells)

include hR

theorem evaluates_acquire (cell : Cell) :
    Evaluates servers lossy R (acquire cell) cells (.ok (cells.content cell)) cells :=
  evaluates_request hR fun _ => rfl

theorem evaluates_release (cell : Cell) (content : Content cell) :
    Evaluates servers lossy R (release cell content) cells (.ok ()) (cells.store cell content) :=
  evaluates_request hR fun _ => rfl

theorem evaluates_fetch (req : FetchRequest) :
    Evaluates servers lossy R (fetch req) cells (.ok (servers.fetched cells.requests.length))
      { cells with requests := cells.requests ++ [req] } :=
  evaluates_request hR fun _ => rfl

theorem evaluates_new_mailbox : Evaluates servers lossy R new_mailbox cells (.ok cells.next_mailbox)
    { cells with next_mailbox := cells.next_mailbox + 1 } :=
  evaluates_request hR fun _ => rfl

theorem evaluates_start_event_loop : Evaluates servers lossy R start_event_loop cells (.ok ()) cells :=
  evaluates_request hR fun _ => rfl

theorem evaluates_try_send (event : HandlerEvent) :
    Evaluates servers lossy R (try_send event) cells (.ok ()) cells :=
  evaluates_request hR fun _ => rfl

theorem evaluates_now : Evaluates servers lossy R now cells (.ok servers.now) cells :=
  evaluates_request hR fun _ => rfl

omit hR in
theorem store_content_self (cell : Cell) : cells.store cell (cells.content cell) = cells := by
  rw [Cells.store, Function.update_eq_self]

/-- A guard dropped with the content it was taken with. -/
theorem evaluates_unlock (cell : Cell) :
    Evaluates servers lossy R (release cell (cells.content cell)) cells (.ok ()) cells := by
  have hrelease : Evaluates servers lossy R (release cell (cells.content cell)) cells (.ok ())
      (cells.store cell (cells.content cell)) := evaluates_release hR cells cell _
  rwa [store_content_self] at hrelease

theorem evaluates_read_cell (cell : Cell) :
    Evaluates servers lossy R (read_cell cell) cells (.ok (cells.content cell)) cells := by
  apply evaluates_bind hR (evaluates_acquire hR cells cell)
  apply evaluates_bind hR (evaluates_unlock hR cells cell)
  exact evaluates_pure hR _ _

theorem evaluates_write_cell (cell : Cell) (content : Content cell) :
    Evaluates servers lossy R (write_cell cell content) cells (.ok ()) (cells.store cell content) :=
  evaluates_bind hR (evaluates_acquire hR cells cell) (evaluates_release hR cells cell content)

end evaluation

/-- The answers to the requests of a `DeviceManager`, with the requests made so far. -/
def Servers.answer_fetch (servers : Servers) (req : FetchRequest) (requests : List FetchRequest) :
    device_manager.Res req × List FetchRequest :=
  (servers.fetched requests.length, requests ++ [req])

/-- The answers to a `KmsClient`, with the number of operations so far. -/
def Servers.answer_kms (servers : Servers) (op : kms_client.Op) (operations : Nat) : kms_client.Res op × Nat :=
  (servers.kms operations op, operations + 1)

section components

variable {servers : Servers} {lossy : Bool} {R : Socket → Socket → Prop} {α τ : Type}

/-- A component's method runs as it does against the answers alone, which are taken from a
    part of the cells. -/
theorem evaluates_call (hR : Tolerant lossy R) {Op' : Type} {Res' : Op' → Type} {E : Type} {inject : Op' → Op}
    {project : ∀ op, Res (inject op) → Res' op} {answer : (op : Op') → E → Res' op × E} (part : Cells → E)
    (with_part : Cells → E → Cells) (hpart : ∀ cells e, part (with_part cells e) = e)
    (hwith : ∀ cells e e', with_part (with_part cells e) e' = with_part cells e')
    (hrespond : ∀ op cells socket, project op (World.respond servers (inject op) ⟨cells, socket⟩).1 =
        (answer op (part cells)).1 ∧ (World.respond servers (inject op) ⟨cells, socket⟩).2 =
        ⟨with_part cells (answer op (part cells)).2, socket⟩)
    (m : Method Op' Res' τ WebexError α) (t : τ) (cells : Cells) (hself : with_part cells (part cells) = cells) :
    Evaluates servers lossy R (m.call inject project t) cells (.ok ((m t).exec answer (part cells)).1)
      (with_part cells ((m t).exec answer (part cells)).2) := by
  intro socket
  rw [Method.obeys_call]
  have hprogram : ∀ (p : Program Op' Res' (Except WebexError α × τ)) e s, R socket s →
      p.Obeys ((surroundings servers lossy).restrict inject project) (fun out w => out = (p.exec answer e).1 ∧
        w.cells = with_part cells (p.exec answer e).2 ∧ R socket w.socket) ⟨with_part cells e, s⟩ := by
    intro p
    induction p with
    | ret value =>
      intro e s hs
      exact ⟨rfl, rfl, hs⟩
    | ask op next ih =>
      intro e s hs
      refine ⟨trivial, ?_⟩
      rintro r w ⟨r', rfl, s', hweakened, hmove⟩
      obtain ⟨hresult, hworld⟩ := hrespond op (with_part cells e) s'
      rw [hmove, hpart] at hresult hworld
      rw [hwith] at hworld
      dsimp only at hresult hworld
      rw [hresult, hworld]
      exact ih _ _ _ (hR.trans _ _ _ hs (hR.weakened _ _ hweakened))
  have hstart := hprogram (m t) (part cells) socket (hR.weakened _ _ (Socket.Weakened.refl _ _))
  rw [hself] at hstart
  apply Program.Obeys.mono _ hstart
  rintro ⟨r, t'⟩ w ⟨hout, hcells, hsocket⟩
  exact ⟨congrArg Except.ok hout, hcells, hsocket⟩

theorem evaluates_call_device (hR : Tolerant lossy R) (m : device_manager.Dm α) (dm : DeviceManager)
    (cells : Cells) :
    Evaluates servers lossy R (call_device m dm) cells (.ok ((m dm).exec servers.answer_fetch cells.requests).1)
      { cells with requests := ((m dm).exec servers.answer_fetch cells.requests).2 } := by
  refine evaluates_call hR Cells.requests (fun cells requests => { cells with requests := requests }) ?_ ?_ ?_ m dm
    cells rfl
  · intro cells requests
    rfl
  · intro cells requests requests'
    rfl
  · intro req cells socket
    exact ⟨rfl, rfl⟩

theorem evaluates_call_kms (hR : Tolerant lossy R) (mailbox : Nat) (m : kms_client.Kms α) (kms : KmsClient)
    (cells : Cells) :
    Evaluates servers lossy R (call_kms mailbox m kms) cells
      (.ok ((m kms).exec servers.answer_kms cells.kms_operations).1)
      { cells with kms_operations := ((m kms).exec servers.answer_kms cells.kms_operations).2 } := by
  refine evaluates_call hR Cells.kms_operations (fun cells operations => { cells with kms_operations := operations })
    ?_ ?_ ?_ m kms cells rfl
  · intro cells operations
    rfl
  · intro cells operations operations'
    rfl
  · intro op cells socket
    exact ⟨rfl, rfl⟩

end components

end webex.rust.handler

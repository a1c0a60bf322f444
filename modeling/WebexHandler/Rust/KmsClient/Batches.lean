import WebexHandler.Rust.KmsClient.Hygiene

open json transition

namespace webex.rust.kms_client

/-- The batch that an event carries: its own `kmsMessages` if these are an array, or else
    those under `encryption`. -/
inductive CarriesBatch (data : Value) (items : List Value) : Prop
  | own (hitems : data.get "kmsMessages" = some (.array items))
  | nested (encryption : Value) (hown : ∀ others, data.get "kmsMessages" ≠ some (.array others))
      (hencryption : data.get "encryption" = some encryption)
      (hitems : encryption.get "kmsMessages" = some (.array items))

theorem as_array_eq_some {value : Value} {items : List Value} : value.as_array = some items ↔ value = .array items := by
  cases value with
  | array others => simp [Value.as_array]
  | _ => simp [Value.as_array]

theorem kms_messages_eq_some {data : Value} {items : List Value} : kms_messages data = some items ↔ CarriesBatch data items := by
  unfold kms_messages
  constructor
  · intro hitems
    rw [Option.or_eq_some_iff] at hitems
    obtain hown | ⟨hnone, hnested⟩ := hitems
    · obtain ⟨value, hvalue, harray⟩ := Option.bind_eq_some_iff.mp hown
      rw [as_array_eq_some.mp harray] at hvalue
      exact .own hvalue
    · obtain ⟨value, hvalue, harray⟩ := Option.bind_eq_some_iff.mp hnested
      obtain ⟨encryption, hencryption, hmember⟩ := Option.bind_eq_some_iff.mp hvalue
      rw [as_array_eq_some.mp harray] at hmember
      refine .nested encryption (fun others hothers => ?_) hencryption hmember
      rw [hothers] at hnone
      contradiction
  · intro hcarries
    cases hcarries with
    | own hitems => rw [hitems, Option.bind_some, Value.as_array, Option.some_or]
    | nested encryption hown hencryption hitems =>
      have hnone : (data.get "kmsMessages").bind Value.as_array = none := by
        by_contra hsome
        obtain ⟨others, hothers⟩ := Option.ne_none_iff_exists'.mp hsome
        obtain ⟨value, hvalue, harray⟩ := Option.bind_eq_some_iff.mp hothers
        rw [as_array_eq_some.mp harray] at hvalue
        exact hown others hvalue
      rw [hnone, hencryption, Option.none_or, Option.bind_some, hitems, Option.bind_some, Value.as_array]

namespace Mailbox

/-- One round of the loop over a batch, which passes over what is no string. -/
def handle_raw (self : Mailbox) (raw_msg : Value) : Mailbox :=
  match raw_msg.as_str with
  | none => self
  | some wrapped => self.handle_response wrapped

theorem foldl_handle_raw (self : Mailbox) (items : List Value) :
    items.foldl handle_raw self = (Value.strings items).foldl handle_response self := by
  unfold Value.strings
  induction items generalizing self with
  | nil => rfl
  | cons raw_msg items ih =>
    rw [List.foldl_cons, ih]
    cases htext : raw_msg.as_str with
    | none => rw [handle_raw, htext, List.filterMap_cons_none htext]
    | some wrapped => rw [handle_raw, htext, List.filterMap_cons_some htext, List.foldl_cons]

theorem handle_kms_message_eq {data : Value} {items : List Value} (hcarries : CarriesBatch data items) (self : Mailbox) :
    self.handle_kms_message data = items.foldl handle_raw self := by
  rw [foldl_handle_raw, handle_kms_message, kms_messages_eq_some.mpr hcarries]

/-- A text on the channel of a request. -/
def send (sent : Nat → Option String) (delivery : (String × Nat) × String) : Nat → Option String :=
  fun rx => if rx = delivery.1.2 then some delivery.2 else sent rx

/-- The texts of a batch go to the requests at the same places. -/
theorem foldl_handle_response (self : Mailbox) (texts : List String) :
    texts.foldl handle_response self = { self with
      pending := self.pending.drop texts.length
      sent := (self.pending.zip texts).foldl send self.sent } := by
  induction texts generalizing self with
  | nil => simp
  | cons wrapped texts ih =>
    rw [List.foldl_cons, ih]
    obtain ⟨pending, sent, next_rx⟩ := self
    cases pending with
    | nil => simp [handle_response]
    | cons entry rest => rfl

theorem foldl_send_of_not_mem {deliveries : List ((String × Nat) × String)} {rx : Nat} (sent : Nat → Option String)
    (hother : ∀ delivery ∈ deliveries, rx ≠ delivery.1.2) : deliveries.foldl send sent rx = sent rx := by
  induction deliveries generalizing sent with
  | nil => rfl
  | cons delivery deliveries ih =>
    simp only [List.mem_cons, forall_eq_or_imp] at hother
    rw [List.foldl_cons, ih _ hother.2, send, if_neg hother.1]

/-- A delivery stays on its channel if no later one is on the same. -/
theorem foldl_send_of_mem {pending : List (String × Nat)} (hdistinct : (pending.map Prod.snd).Nodup)
    {texts : List String} {i : Nat} {entry : String × Nat} {text : String} (sent : Nat → Option String)
    (hentry : pending[i]? = some entry) (htext : texts[i]? = some text) :
    (pending.zip texts).foldl send sent entry.2 = some text := by
  induction pending generalizing texts i sent with
  | nil => simp at hentry
  | cons first pending ih =>
    rw [List.map_cons, List.nodup_cons] at hdistinct
    cases texts with
    | nil => simp at htext
    | cons wrapped texts =>
      rw [List.zip_cons_cons, List.foldl_cons]
      cases i with
      | zero =>
        simp only [List.getElem?_cons_zero, Option.some.injEq] at hentry htext
        subst hentry htext
        rw [foldl_send_of_not_mem, send, if_pos rfl]
        intro delivery hdelivery hsame
        have hmem := List.of_mem_zip hdelivery
        exact hdistinct.1 (hsame ▸ List.mem_map_of_mem hmem.1)
      | succ i =>
        simp only [List.getElem?_cons_succ] at hentry htext
        exact ih hdistinct.2 _ hentry htext

theorem sent_on_channel {self : Mailbox} (hdistinct : (self.pending.map Prod.snd).Nodup) {data : Value}
    {items : List Value} (hcarries : CarriesBatch data items) {i : Nat} {entry : String × Nat} {text : String}
    (hentry : self.pending[i]? = some entry) (htext : (Value.strings items)[i]? = some text) :
    (self.handle_kms_message data).sent entry.2 = some text := by
  rw [handle_kms_message_eq hcarries, foldl_handle_raw, foldl_handle_response]
  exact foldl_send_of_mem hdistinct self.sent hentry htext

end Mailbox

/-- Requests never share a channel, so in every run each gets the text at its place. -/
theorem sent_of_reachable {crates : Crates} {s : Exchange} (hreach : (exchange crates).Reachable Machine.Always s)
    {data : Value} {items : List Value} (hcarries : CarriesBatch data items) {i : Nat} {entry : String × Nat} {text : String}
    (hentry : s.world.mailbox.pending[i]? = some entry) (htext : (Value.strings items)[i]? = some text) :
    (s.world.mailbox.handle_kms_message data).sent entry.2 = some text :=
  Mailbox.sent_on_channel (tidy_of_reachable hreach).pending_channels hcarries hentry htext

/-- What handling a batch does to the pending requests, of which each has a channel of its
    own. -/
structure FifoBatches (before : Mailbox) : Prop where
  sends : ∀ (data : Value) (items : List Value), CarriesBatch data items → before.handle_kms_message data = { before with
    pending := before.pending.drop (Value.strings items).length
    sent := (before.pending.zip (Value.strings items)).foldl Mailbox.send before.sent }
  delivers : ∀ (data : Value) (items : List Value) (i : Nat) (entry : String × Nat) (text : String), CarriesBatch data items →
    (before.pending.map Prod.snd).Nodup → before.pending[i]? = some entry → (Value.strings items)[i]? = some text →
      (before.handle_kms_message data).sent entry.2 = some text
  nothing_else : ∀ (data : Value) (items : List Value) (rx : Nat), CarriesBatch data items →
    rx ∉ (before.pending.take (Value.strings items).length).map Prod.snd →
      (before.handle_kms_message data).sent rx = before.sent rx
  concatenates : ∀ (data data' both : Value) (items items' : List Value), CarriesBatch data items → CarriesBatch data' items' →
    CarriesBatch both (items ++ items') →
      (before.handle_kms_message data).handle_kms_message data' = before.handle_kms_message both

/-- A batch answers the oldest pending requests in the order of their registration, and
    two batches answer what their concatenation would. -/
theorem handle_kms_message_fifo (before : Mailbox) : FifoBatches before := by
  have hsends : ∀ data items, CarriesBatch data items → before.handle_kms_message data = { before with
      pending := before.pending.drop (Value.strings items).length
      sent := (before.pending.zip (Value.strings items)).foldl Mailbox.send before.sent } := by
    intro data items hcarries
    rw [Mailbox.handle_kms_message_eq hcarries, Mailbox.foldl_handle_raw, Mailbox.foldl_handle_response]
  constructor
  · exact hsends
  · intro data items i entry text hcarries hdistinct hentry htext
    exact Mailbox.sent_on_channel hdistinct hcarries hentry htext
  · intro data items rx hcarries hother
    rw [hsends data items hcarries]
    apply Mailbox.foldl_send_of_not_mem
    rintro ⟨entry, text⟩ hdelivery rfl
    refine hother (List.mem_map_of_mem ?_)
    obtain ⟨i, hi⟩ := List.mem_iff_getElem?.mp hdelivery
    rw [List.getElem?_zip_eq_some] at hi
    have hlt := (List.getElem?_eq_some_iff.mp hi.2).1
    exact List.mem_iff_getElem?.mpr ⟨i, by rw [List.getElem?_take_of_lt hlt, hi.1]⟩
  · intro data data' both items items' hcarries hcarries' hboth
    rw [Mailbox.handle_kms_message_eq hcarries, Mailbox.handle_kms_message_eq hcarries',
      Mailbox.handle_kms_message_eq hboth, List.foldl_append]

end webex.rust.kms_client

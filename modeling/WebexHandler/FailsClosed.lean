import WebexHandler.Go.Handler.SelfMessages
import WebexHandler.Node.Handler.SelfMessages
import WebexHandler.Python.Handler.SelfMessages
import WebexHandler.Rust.Handler.SelfMessages

open json

namespace webex

/-- Self-message filtering fails closed in the Go, Rust and Node ports exactly for a body
    that is rejected or whose id stands for a plain identity, and in the Python port exactly
    for a body that is rejected. -/
theorem self_messages_fail_closed_iff (status : Nat) :
    (∀ (parse_json : go.handler.Text → Except String Value) (body : go.handler.Text),
      go.handler.FailsClosed parse_json status body ↔ ∀ data id, parse_json body = .ok data →
        go.handler.unmarshal_id data = .ok id → go.handler.formats.Plain (go.handler.extract_person_uuid id)) ∧
    (∀ (crates : rust.handler.Crates) (body : rust.Bytes),
      rust.handler.FailsClosed crates status body ↔ ∀ data id, crates.kms.from_slice body = .ok data →
        (data.get "id").bind Value.as_str = some id →
          rust.handler.formats.Plain (rust.handler.formats.extract_person_uuid id)) ∧
    (∀ (buffers : node.handler.Buffers) (parse_json : List UInt8 → Except String Value)
        (body : List UInt8),
      node.handler.FailsClosed buffers parse_json status body ↔
        ∀ person_info, parse_json body = .ok person_info → person_info ≠ .null →
          ∃ uuid, node.handler.extract_value_uuid buffers (person_info.get "id") = some (.string uuid) ∧
            (node.handler.formats buffers).Plain uuid) ∧
    ∀ (parse_json : List UInt8 → Except String Value) (body : List UInt8),
      python.handler.FailsClosed parse_json status body ↔
        ∀ members raw_id, parse_json body = .ok (.object members) →
          ((Value.object members).get "id").getD (.string "") ≠ .string raw_id := by
  refine ⟨?_, ?_, ?_, ?_⟩
  · intro parse_json body
    exact go.handler.fails_closed_iff_plain status body
  · intro crates body
    exact rust.handler.fails_closed_iff_plain status body
  · intro buffers parse_json body
    exact node.handler.fails_closed_iff_plain status body
  · intro parse_json body
    exact python.handler.fails_closed_iff_rejected status body

/-- An object without an id is accepted in Go, and filtering is off from then on. -/
theorem empty_identity_accepted :
    go.handler.fetch_bot_person_id (fun _ => .ok (.object [])) (.ok ⟨200, true, person_id.utf8 "\x7b\x7d"⟩) = .ok [] ∧
      ¬ go.handler.FailsClosed (fun _ => .ok (.object [])) 200 (person_id.utf8 "\x7b\x7d") := by
  refine ⟨rfl, ?_⟩
  intro hclosed
  obtain ⟨uuid, hid, hnonempty, _⟩ := hclosed (.ok ()) (.ok ()) (.ok ()) [] rfl
  cases hid
  exact hnonempty rfl

end webex

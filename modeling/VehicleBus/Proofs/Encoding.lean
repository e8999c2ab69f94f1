import VehicleBus.Encoding
import VehicleBus.Proofs.Wire.Size

/-!
# What the formats accept

Both formats accept the messages within their limits and no others, and both
report the same fault for a message that they refuse: a JSON document can always
be written, and an envelope always fits its buffer.  `encode_eq` says so in one
equation; whatever is said about encoding afterwards follows from it.

`accepted_within_limits` spells it out by the texts of a message: which messages are
accepted, what is reported of the others, and how long an envelope may become.
-/

namespace VehicleBus.OutputFormat

/-- The bytes of a message that is accepted. -/
def bytes : OutputFormat → Message → Wire.Bytes
  | json, message => jsonBytes message
  | proto, message => (Wire.Envelope.ofMessage message).delimited

/-- The buffer never turns a message within its limits away. -/
theorem write_eq (format : OutputFormat) {message : Message} (h : message.Bounded) :
    format.write message = .ok (format.bytes message) := by
  cases format with
  | json => rfl
  | proto =>
      have hfits := Wire.Envelope.delimited_length_le_sizeLimit h
      simp only [write, Wire.Envelope.writeWithin, if_pos hfits, bytes]

/-- **Acceptance does not depend on the format.**  Only an overlong text keeps a
message from being encoded. -/
theorem encode_eq (format : OutputFormat) (message : Message) :
    format.encode message =
      match message.overlong? with
      | some fault => .error fault
      | none => .ok (format.bytes message) := by
  unfold encode
  cases h : message.overlong? with
  | some fault => rfl
  | none => exact write_eq format (Message.overlong?_eq_none_iff_bounded.mp h)

/-- A message is encoded exactly if its texts are within bounds, and then to the bytes of
its format. -/
theorem encode_eq_ok_iff {format : OutputFormat} {message : Message} {output : Wire.Bytes} :
    format.encode message = .ok output ↔ message.Bounded ∧ format.bytes message = output := by
  rw [encode_eq, ← Message.overlong?_eq_none_iff_bounded]
  cases h : message.overlong? with
  | some fault => simp
  | none => simp

/-- A message is refused exactly with the fault of its first overlong text. -/
theorem encode_eq_error_iff {format : OutputFormat} {message : Message} {fault : Fault} :
    format.encode message = .error fault ↔ message.overlong? = some fault := by
  rw [encode_eq]
  cases message.overlong? with
  | some other => simp
  | none => simp

/-- Texts within bounds are all that a message needs to be encoded. -/
theorem encode_of_bounded (format : OutputFormat) {message : Message} (h : message.Bounded) :
    format.encode message = .ok (format.bytes message) :=
  encode_eq_ok_iff.mpr ⟨h, rfl⟩

/-- **Both formats accept the same messages, and envelopes fit their buffer.**  In either
format a message is accepted exactly if each of its texts keeps its limit.  What is
reported of any other message is the first of its texts that is too long, in the order
name, value, event, so it is the same in both formats and never a buffer that is too
small.  An envelope with its length has no more bytes than the buffer. -/
theorem accepted_within_limits (message : Message) :
    (∀ format : OutputFormat, (∃ output, format.encode message = .ok output) ↔
      ∀ entry ∈ message.texts, entry.2.utf8ByteSize ≤ entry.1.limit) ∧
      (∀ (format : OutputFormat) (fault : Fault), format.encode message = .error fault ↔
        ∃ front kind content back, message.texts = front ++ (kind, content) :: back ∧
          (∀ entry ∈ front, entry.2.utf8ByteSize ≤ entry.1.limit) ∧
          kind.limit < content.utf8ByteSize ∧
          fault = .tooLong kind content.utf8ByteSize kind.limit) ∧
      ∀ output, proto.encode message = .ok output → output.length ≤ Wire.Envelope.sizeLimit := by
  refine ⟨?_, ?_, ?_⟩
  · intro format
    rw [← Message.overlong?_eq_none_iff_texts, Message.overlong?_eq_none_iff_bounded]
    constructor
    · rintro ⟨output, haccepted⟩
      exact (encode_eq_ok_iff.mp haccepted).1
    · intro hbounded
      exact ⟨format.bytes message, format.encode_of_bounded hbounded⟩
  · intro format fault
    rw [encode_eq_error_iff, Message.overlong?_eq_some_iff]
  · intro output haccepted
    obtain ⟨hbounded, rfl⟩ := encode_eq_ok_iff.mp haccepted
    exact Wire.Envelope.delimited_length_le_sizeLimit hbounded

example : Wire.Envelope.sizeLimit = 1194 := by decide +kernel

end VehicleBus.OutputFormat

import VehicleBus.Proofs.Pipeline
import VehicleBus.Proofs.Wire.Envelope

/-!
# Streams of envelopes

A stream is what a writer receives: delimited envelopes one behind the other.
`Envelope.decodeAll` takes it apart again, one length and one body at a time.

The main fact is that nothing is lost on the way: an encoded message is decoded
to that message whatever stands behind it, and the bytes of several messages are
split into exactly these messages.  The prefixes matter here, since neither the
wire form nor `decode` says where a stream ends.
-/

namespace VehicleBus.Wire.Envelope

/-! ## Taking a stream apart -/

/-- Cutting an envelope off a stream uses up at least one byte. -/
theorem readDelimited_length_lt {stream rest : Bytes} {envelope : Envelope}
    (h : readDelimited stream = some (envelope, rest)) : rest.length < stream.length := by
  simp only [readDelimited, Option.bind_eq_bind, Option.bind_eq_some_iff] at h
  obtain ⟨⟨length, behind⟩, hlength, ⟨body, left⟩, htake, read, _, hpair⟩ := h
  have hprefix : behind.length < stream.length := readVarintWithin_length_lt hlength
  have hleft : left.length ≤ behind.length := by
    simp only [takeBytes] at htake
    split at htake
    · cases htake
      simp
    · cases htake
  cases hpair
  show left.length < stream.length
  omega

/-- Read the messages of a whole stream, one length and its body at a time. -/
def decodeAll (stream : Bytes) : Except Fault (List Message) :=
  if stream.isEmpty then .ok []
  else
    match hread : readDelimited stream with
    | none => .error .malformedEnvelope
    | some (envelope, rest) =>
      have : rest.length < stream.length := readDelimited_length_lt hread
      match envelope.toMessage with
      | .error fault => .error (.unsupported fault)
      | .ok message => (decodeAll rest).map (message :: ·)
termination_by stream.length

/-- An empty stream holds no message. -/
theorem decodeAll_nil : decodeAll [] = .ok [] := by
  rw [decodeAll]
  rfl

/-- The message at the front of a stream is the first one of all. -/
theorem decodeAll_of_readDelimited {stream rest : Bytes} {envelope : Envelope} {message : Message}
    (hread : readDelimited stream = some (envelope, rest))
    (hmessage : envelope.toMessage = .ok message) :
    decodeAll stream = (decodeAll rest).map (message :: ·) := by
  have hnonempty : ¬ stream.isEmpty := by
    have := readDelimited_length_lt hread
    cases stream with
    | nil => simp at this
    | cons byte tail => simp
  rw [decodeAll, if_neg hnonempty]
  split
  next hnone => rw [hread] at hnone; cases hnone
  next found left hsome =>
    rw [hread] at hsome
    cases hsome
    rw [hmessage]

/-! ## Encoded messages -/

/-- The bytes of a message within its limits are cut off as its envelope. -/
theorem readDelimited_ofMessage {message : Message} (h : message.Bounded) (rest : Bytes) :
    readDelimited (OutputFormat.proto.bytes message ++ rest) = some (ofMessage message, rest) :=
  readDelimited_append (ofMessage message) (bytes_length_lt h) rest

/-- A message is read from the front of a stream, whatever stands behind it. -/
theorem decode_append {message : Message} (h : message.Bounded) (rest : Bytes) :
    decode (OutputFormat.proto.bytes message ++ rest) = .ok message := by
  simp only [decode, readDelimited_ofMessage h rest, toMessage_ofMessage]
  rfl

/-- The bytes of several messages are split into these messages. -/
theorem decodeAll_flatten {messages : List Message}
    (h : ∀ message ∈ messages, message.Bounded) :
    decodeAll (messages.map OutputFormat.proto.bytes).flatten = .ok messages := by
  induction messages with
  | nil => exact decodeAll_nil
  | cons message messages ih =>
      have hfront := readDelimited_ofMessage (h message List.mem_cons_self)
        (messages.map OutputFormat.proto.bytes).flatten
      have hrest := ih fun other hother => h other (List.mem_cons_of_mem _ hother)
      rw [List.map_cons, List.flatten_cons,
        decodeAll_of_readDelimited hfront (toMessage_ofMessage message), hrest]
      rfl

/-- **Messages read back from a stream.**  A message that is accepted is decoded
from its bytes, whatever follows them; and what a writer receives for a row of
accepted messages is split into exactly these messages. -/
theorem decode_encode_append :
    (∀ message output, OutputFormat.proto.encode message = .ok output →
      ∀ rest, decode (output ++ rest) = .ok message) ∧
    (∀ messages : List Message,
      (∀ message ∈ messages, ∃ output, OutputFormat.proto.encode message = .ok output) →
      decodeAll (Pipeline.sendAll { format := .proto, sink := .writer {} } messages).sink.written =
        .ok messages) := by
  constructor
  · intro message output hencode rest
    obtain ⟨hbounded, rfl⟩ := OutputFormat.encode_eq_ok_iff.mp hencode
    exact decode_append hbounded rest
  · intro messages haccepted
    have hbounded : ∀ message ∈ messages, message.Bounded := by
      intro message hmember
      obtain ⟨output, hencode⟩ := haccepted message hmember
      exact (OutputFormat.encode_eq_ok_iff.mp hencode).1
    have hwritten : (Pipeline.sendAll { format := .proto, sink := .writer {} } messages).sink.written =
        (messages.map OutputFormat.proto.bytes).flatten := by
      rw [Pipeline.sendAll_eq]
      show (Sink.acceptAll (.writer {}) _).written = _
      rw [Sink.written_acceptAll_writer rfl, OutputFormat.outputs_of_all_bounded _ hbounded]
      rfl
    rw [hwritten]
    exact decodeAll_flatten hbounded

/-- A frame with an identifier over 2^31 and an event with an empty name, in one
stream. -/
theorem decode_encode_append_two :
    decode (OutputFormat.proto.bytes (.raw ⟨255, 0x9FFFFFFF⟩ 0x8000000000000000) ++ [0xFF, 0x80]) =
      .ok (.raw ⟨255, 0x9FFFFFFF⟩ 0x8000000000000000) ∧
    decodeAll (Pipeline.sendAll { format := .proto, sink := .writer {} }
        [.raw ⟨255, 0x9FFFFFFF⟩ 0x8000000000000000, .evented "" "driver" (.flag false)]).sink.written =
      .ok [.raw ⟨255, 0x9FFFFFFF⟩ 0x8000000000000000, .evented "" "driver" (.flag false)] := by
  have hframe : OutputFormat.proto.encode (.raw ⟨255, 0x9FFFFFFF⟩ 0x8000000000000000) =
      .ok (OutputFormat.proto.bytes (.raw ⟨255, 0x9FFFFFFF⟩ 0x8000000000000000)) :=
    OutputFormat.encode_of_bounded .proto trivial
  have hevent : OutputFormat.proto.encode (.evented "" "driver" (.flag false)) =
      .ok (OutputFormat.proto.bytes (.evented "" "driver" (.flag false))) :=
    OutputFormat.encode_of_bounded .proto ⟨by decide, by decide, fun _ h => by cases h⟩
  refine ⟨decode_encode_append.1 _ _ hframe _, decode_encode_append.2 _ ?_⟩
  intro message hmember
  simp only [List.mem_cons, List.not_mem_nil, or_false] at hmember
  rcases hmember with rfl | rfl
  · exact ⟨_, hframe⟩
  · exact ⟨_, hevent⟩

end VehicleBus.Wire.Envelope

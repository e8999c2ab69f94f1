import VehicleBus.Proofs.Pipeline

/-!
# A store that fills up

A store with a limit keeps the front of what it is handed, as far as there is room
(`Store.Keeps`).  The message that meets the limit is cut there, and nothing of a later
one gets in, however short it is: the bytes in the store are always the first ones of the
stream of all messages.

The pipeline goes on counting as if nothing had happened.  That something is missing shows
in the notices of the messages that did not fit, and in the end in the flush, which fails
as soon as the stream has reached the limit (`Pipeline.truncates_at_limit`).

`Store.write` takes a message at once.  `Store.writeByParts` offers it in single writes,
each of which takes what fits; the outcome is the same.
-/

namespace VehicleBus

open Wire (Bytes)

namespace Store

/-- As much of a piece as there is room for. -/
def fitting (store : Store) (piece : Bytes) : Bytes :=
  match store.limit with
  | none => piece
  | some limit => piece.take (limit - store.size)

/-- Store a part of a piece. -/
def put (store : Store) (part : Bytes) : Store :=
  { store with pieces := part :: store.pieces, size := store.size + part.length }

/-- A store takes the part of a piece that fits, and says so if this is not all. -/
theorem write_eq (store : Store) (piece : Bytes) :
    store.write piece =
      (store.put (store.fitting piece),
        if (store.fitting piece).length = piece.length then none else some .storeFull) := rfl

@[simp] theorem bytes_put (store : Store) (part : Bytes) :
    (store.put part).bytes = store.bytes ++ part := by
  simp [put, bytes]

/-- What fits is a beginning of the piece. -/
theorem isPrefix_fitting (store : Store) (piece : Bytes) : store.fitting piece <+: piece := by
  unfold fitting
  split
  · exact List.prefix_rfl
  · exact List.take_prefix _ _

/-- What fits and what does not make up the piece. -/
theorem fitting_append_drop (store : Store) (piece : Bytes) :
    store.fitting piece ++ piece.drop (store.fitting piece).length = piece :=
  List.prefix_iff_eq_append.mp (store.isPrefix_fitting piece)

/-- Something was taken, so less is left. -/
theorem length_rest_lt {store : Store} {piece : Bytes} (h : store.fitting piece ≠ []) :
    (piece.drop (store.fitting piece).length).length < piece.length := by
  have hsome : 0 < (store.fitting piece).length := List.length_pos_iff.mpr h
  have hwhole : (store.fitting piece).length ≤ piece.length := (store.isPrefix_fitting piece).length_le
  rw [List.length_drop]
  omega

/-- Store a piece by single writes.  Each takes as much as there is room for, the rest is
offered again, and a write that takes nothing is refused and ends it. -/
def writeByParts (store : Store) (piece : Bytes) : Store × Option OutputFault :=
  if piece = [] then (store, none)
  else if hnone : store.fitting piece = [] then (store, some .storeFull)
  else
    have := length_rest_lt hnone
    writeByParts (store.put (store.fitting piece)) (piece.drop (store.fitting piece).length)
termination_by piece.length
decreasing_by exact this

/-- A store with a limit that was handed a stream and has kept the front of it. -/
structure Keeps (store : Store) (limit : Nat) (stream : Bytes) : Prop where
  limited : store.limit = some limit
  bytes : store.bytes = stream.take limit
  size : store.size = min limit stream.length

variable {store : Store} {limit : Nat} {stream : Bytes}

/-- An unused store keeps the beginning of an empty stream. -/
theorem Keeps.empty (limit : Nat) : Keeps { limit := some limit } limit [] :=
  ⟨rfl, List.take_nil.symm, (Nat.min_zero limit).symm⟩

/-- What fits of a piece depends on how much was offered before. -/
theorem Keeps.fitting (h : store.Keeps limit stream) (piece : Bytes) :
    store.fitting piece = piece.take (limit - stream.length) := by
  have hroom : limit - min limit stream.length = limit - stream.length := by omega
  rw [Store.fitting, h.limited, h.size]
  show piece.take (limit - min limit stream.length) = _
  rw [hroom]

/-- What there is room for continues the stream. -/
theorem Keeps.put (h : store.Keeps limit stream) {piece part : Bytes}
    (hpart : part = piece.take (limit - stream.length)) :
    (store.put part).Keeps limit (stream ++ piece) where
  limited := h.limited
  bytes := by rw [bytes_put, h.bytes, hpart, List.take_append]
  size := by
    show store.size + part.length = _
    rw [h.size, hpart, List.length_take, List.length_append]
    omega

/-- **A write keeps the front of the longer stream.**  It fails if the piece goes beyond
the limit. -/
theorem Keeps.write (h : store.Keeps limit stream) (piece : Bytes) :
    (store.write piece).1.Keeps limit (stream ++ piece) ∧
      (store.write piece).2 =
        if piece.length ≤ limit - stream.length then none else some .storeFull := by
  rw [write_eq]
  refine ⟨h.put (h.fitting piece), ?_⟩
  have hlength : (store.fitting piece).length = piece.length ↔
      piece.length ≤ limit - stream.length := by
    rw [h.fitting, List.length_take]
    omega
  simp only [hlength]

/-- Single writes come to the same. -/
theorem Keeps.writeByParts (h : store.Keeps limit stream) (piece : Bytes) :
    (store.writeByParts piece).1.Keeps limit (stream ++ piece) ∧
      (store.writeByParts piece).2 = (store.write piece).2 := by
  rw [(h.write piece).2]
  induction store, piece using Store.writeByParts.induct generalizing stream with
  | case1 store =>
      rw [Store.writeByParts, if_pos rfl, List.append_nil]
      exact ⟨h, rfl⟩
  | case2 store piece hpiece hnone =>
      -- Without room the stream had reached the limit before.
      have hroom : limit - stream.length = 0 := by
        rw [h.fitting, List.take_eq_nil_iff] at hnone
        exact hnone.resolve_right hpiece
      have hsame : (store.put []).Keeps limit (stream ++ piece) :=
        h.put (by rw [hroom, List.take_zero])
      rw [Store.writeByParts, if_neg hpiece, dif_pos hnone]
      have hlong : ¬ piece.length ≤ limit - stream.length := by
        have := List.length_pos_iff.mpr hpiece
        omega
      refine ⟨⟨h.limited, ?_, ?_⟩, (if_neg hlong).symm⟩
      · rw [← hsame.bytes, bytes_put, List.append_nil]
      · exact hsame.size
  | case3 store piece hpiece hnone _ ih =>
      have hpart : store.fitting piece = piece.take (limit - stream.length) := h.fitting piece
      have hkept : (store.put (store.fitting piece)).Keeps limit (stream ++ store.fitting piece) := by
        refine h.put ?_
        rw [hpart, List.take_take, Nat.min_self]
      obtain ⟨hall, hfault⟩ := ih hkept
      rw [Store.writeByParts, if_neg hpiece, dif_neg hnone]
      rw [List.append_assoc, fitting_append_drop] at hall
      refine ⟨hall, ?_⟩
      rw [hfault]
      have hlength : (piece.drop (store.fitting piece).length).length ≤
          limit - (stream ++ store.fitting piece).length ↔ piece.length ≤ limit - stream.length := by
        rw [List.length_drop, List.length_append, hpart, List.length_take]
        omega
      simp only [hlength]

/-- A flush fails exactly when the stream has reached the limit. -/
theorem Keeps.flush (h : store.Keeps limit stream) :
    store.flush = if limit ≤ stream.length then .error .storeFull else .ok () := by
  have hfull : limit ≤ min limit stream.length ↔ limit ≤ stream.length := by omega
  rw [Store.flush, h.limited, h.size]
  simp only [hfull]

end Store

/-! ## Pipelines -/

/-- A store that is handed several messages keeps the front of the stream of them all. -/
theorem Sink.acceptAll_writer {store : Store} {limit : Nat} {stream : Bytes}
    (h : store.Keeps limit stream) (outputs : List Bytes) :
    ∃ after, (writer store).acceptAll outputs = writer after ∧
      after.Keeps limit (stream ++ outputs.flatten) := by
  induction outputs generalizing store stream with
  | nil => exact ⟨store, rfl, by rwa [List.flatten_nil, List.append_nil]⟩
  | cons output outputs ih =>
      obtain ⟨after, haccept, hafter⟩ := ih (h.write output).1
      refine ⟨after, haccept, ?_⟩
      rwa [List.flatten_cons, ← List.append_assoc]

/-- The same in single writes. -/
theorem Store.Keeps.foldl_writeByParts {store : Store} {limit : Nat} {stream : Bytes}
    (h : store.Keeps limit stream) (outputs : List Bytes) :
    (outputs.foldl (fun store output => (store.writeByParts output).1) store).Keeps limit
      (stream ++ outputs.flatten) := by
  induction outputs generalizing store stream with
  | nil => rwa [List.flatten_nil, List.append_nil]
  | cons output outputs ih =>
      rw [List.flatten_cons, ← List.append_assoc]
      exact ih (h.writeByParts output).1

/-- No message is encoded as nothing. -/
theorem OutputFormat.bytes_ne_nil (format : OutputFormat) (message : Message) :
    format.bytes message ≠ [] := by
  cases format with
  | json => simp [bytes, jsonBytes]
  | proto =>
      have hlength := Wire.varint_length_pos (Wire.Envelope.ofMessage message).bytes.length
      intro hnil
      have hempty := (List.append_eq_nil_iff.mp hnil).1
      rw [hempty] at hlength
      cases hlength

namespace Pipeline

/-- A message that is accepted is noted, and so is a fault of the sink. -/
theorem send_snd_of_encode (pipeline : Pipeline) {message : Message} {output : Bytes}
    (h : pipeline.format.encode message = .ok output) :
    (pipeline.send message).2 =
      .serialized output ::
        (pipeline.sink.accept output).2.toList.map (.writeFailed pipeline.format) := by
  simp only [send, h]

/-- A pipeline on a store that has kept the front of a stream: a flush fails exactly when
the stream has reached the limit, and changes nothing. -/
theorem flush_of_keeps {pipeline : Pipeline} {store : Store} {limit : Nat} {stream : Bytes}
    (hsink : pipeline.sink = .writer store) (h : store.Keeps limit stream) :
    pipeline.flush = if limit ≤ stream.length then .error .storeFull else .ok pipeline := by
  rw [flush, hsink, Sink.flush, h.flush]
  split
  · rfl
  · show Except.ok { pipeline with sink := .writer store } = _
    rw [← hsink]

/-- A message that goes beyond the limit is noted, and no other one. -/
theorem writeFailed_mem_send_iff {pipeline : Pipeline} {store : Store} {limit : Nat}
    {stream : Bytes} (hsink : pipeline.sink = .writer store) (h : store.Keeps limit stream)
    {message : Message} {output : Bytes} (haccepted : pipeline.format.encode message = .ok output) :
    .writeFailed pipeline.format .storeFull ∈ (pipeline.send message).2 ↔
      limit < stream.length + output.length := by
  have hnonempty : output ≠ [] := by
    obtain ⟨-, rfl⟩ := OutputFormat.encode_eq_ok_iff.mp haccepted
    exact pipeline.format.bytes_ne_nil message
  have hlength := List.length_pos_iff.mpr hnonempty
  have hfault : (pipeline.sink.accept output).2 =
      if output.length ≤ limit - stream.length then none else some .storeFull := by
    rw [hsink]
    exact (h.write output).2
  rw [pipeline.send_snd_of_encode haccepted, hfault]
  by_cases hover : limit < stream.length + output.length
  · have hlong : ¬ output.length ≤ limit - stream.length := by omega
    rw [if_neg hlong, iff_true_right hover]
    simp
  · have hfits : output.length ≤ limit - stream.length := by omega
    rw [if_pos hfits, iff_false_right hover]
    simp

/-- **A store that fills up cuts the stream, and the loss is reported.**  Send any messages
through a new pipeline to a store with a limit.  Then the store holds the first bytes of
the stream of all encodings, up to the limit, whether the messages are written at once or
in single writes that take what fits.  The counts are those of a pipeline with any other
sink, so they count what was lost as well.  A flush fails exactly when the stream has
reached the limit, hence whenever a byte is missing, and changes nothing; the notices of a
message tell whether it went beyond the limit. -/
theorem truncates_at_limit (format : OutputFormat) (limit : Nat) (messages : List Message) :
    let start : Pipeline := { format, sink := .writer { limit := some limit } }
    let after := start.sendAll messages
    let outputs := messages.filterMap fun message => (format.encode message).toOption
    after.sink.written = outputs.flatten.take limit ∧
      (outputs.foldl (fun (store : Store) output => (store.writeByParts output).1)
        { limit := some limit }).bytes = outputs.flatten.take limit ∧
      after.counts.bytes = outputs.flatten.length ∧
      (∀ sink, after.counts = (Pipeline.sendAll { format, sink } messages).counts) ∧
      after.flush =
        (if limit ≤ after.counts.bytes then .error .storeFull else .ok after) ∧
      (after.sink.written ≠ outputs.flatten → after.flush = .error .storeFull) ∧
      ∀ message output, format.encode message = .ok output →
        (.writeFailed format .storeFull ∈ (after.send message).2 ↔
          limit < after.counts.bytes + output.length) := by
  intro start after outputs
  have houtputs : outputs = format.outputs messages := (format.outputs_eq_filterMap messages).symm
  have hafter : after = _ := start.sendAll_eq messages
  obtain ⟨store, hsink, hkeeps⟩ := Sink.acceptAll_writer (.empty limit) (format.outputs messages)
  rw [← houtputs, List.nil_append] at hkeeps
  have hstore : after.sink = .writer store := by
    rw [hafter]
    exact hsink
  have hbytes : after.counts.bytes = outputs.flatten.length := by
    rw [hafter, houtputs]
    exact Nat.zero_add _
  have hflush : after.flush = if limit ≤ after.counts.bytes then .error .storeFull else .ok after := by
    rw [hbytes]
    exact flush_of_keeps hstore hkeeps
  refine ⟨?_, ?_, hbytes, ?_, hflush, ?_, ?_⟩
  · rw [hstore]
    exact hkeeps.bytes
  · have hparts := (Store.Keeps.empty limit).foldl_writeByParts outputs
    rw [List.nil_append] at hparts
    exact hparts.bytes
  · intro sink
    rw [hafter, sendAll_eq]
  · intro hlost
    rw [hflush, if_pos]
    apply Nat.le_of_not_lt
    intro hroom
    apply hlost
    rw [hstore]
    show store.bytes = _
    rw [hkeeps.bytes, List.take_of_length_le (by omega)]
  · intro message output haccepted
    have hformat : after.format = format := start.sendAll_format messages
    rw [← hformat] at haccepted
    rw [hbytes, ← hformat]
    exact writeFailed_mem_send_iff hstore hkeeps haccepted

/-- Messages of 41, 32 and 30 bytes on a store of 43: the second one is cut after two
bytes, and the third one gets nothing in. -/
example :
    let start : Pipeline := { format := .json, sink := .writer { limit := some 43 } }
    let after := start.sendAll [.boolean "headlamp_status" true, .boolean "brake" false,
      .boolean "horn" true]
    after.counts = ⟨3, 103, 0⟩ ∧
      after.sink.written = (OutputFormat.json.bytes (.boolean "headlamp_status" true)) ++ [123, 34] := by
  decide +kernel

end Pipeline

end VehicleBus

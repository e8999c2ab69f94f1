import VehicleBus.Proofs.Pipeline

/-!
# Blocks lose nothing

A writer in front of a device with room keeps messages back, or passes several of them on
at once.  What the device got and what still waits are together the messages in the order
in which they came (`BlockWriter.Sound.write`, `Sink.acceptAll_blocks`).  A flush leaves
nothing waiting (`BlockWriter.Sound.flush`), so after it the device has them all.
-/

namespace VehicleBus

open Wire (Bytes)

namespace BlockWriter

/-- The bytes that the device got, and those that wait behind them. -/
def bytes (writer : BlockWriter) : Bytes :=
  writer.passed.reverse.flatten ++ writer.waiting.reverse.flatten

/-- The device has room, and the writer knows how much waits. -/
structure Sound (writer : BlockWriter) : Prop where
  room : writer.refusal = none
  size : writer.size = writer.waiting.flatten.length

variable {writer : BlockWriter}

/-- If nothing waits, the device has everything. -/
theorem bytes_of_waiting (h : writer.waiting.flatten = []) :
    writer.bytes = writer.passed.reverse.flatten := by
  have hwaiting : writer.waiting.reverse.flatten = [] := by
    rw [List.flatten_eq_nil_iff] at h ⊢
    simpa using h
  rw [bytes, hwaiting, List.append_nil]

/-- A flush moves what waits to the device. -/
theorem Sound.flush (h : writer.Sound) :
    ∃ flushed, writer.flush = .ok flushed ∧ flushed.Sound ∧ flushed.bytes = writer.bytes ∧
      flushed.waiting.flatten = [] := by
  by_cases hsize : writer.size = 0
  · have hnone : writer.waiting.flatten = [] := List.eq_nil_of_length_eq_zero (h.size ▸ hsize)
    exact ⟨writer, if_pos hsize, h, rfl, hnone⟩
  · refine ⟨{ writer with waiting := [], size := 0, passed := writer.waiting ++ writer.passed },
      ?_, ⟨h.room, rfl⟩, ?_, rfl⟩
    · rw [BlockWriter.flush, if_neg hsize, h.room]
    · simp [bytes]

/-- A message takes its place behind those that wait; a large one only if there are none. -/
theorem Sound.append (h : writer.Sound) {message : Bytes}
    (hplace : message.length < blockSize ∨ writer.waiting.flatten = []) :
    ∃ next, writer.append message = .ok next ∧ next.Sound ∧
      next.bytes = writer.bytes ++ message := by
  by_cases hsmall : message.length < blockSize
  · refine ⟨{ writer with
      waiting := message :: writer.waiting, size := writer.size + message.length },
      if_pos hsmall, ⟨h.room, ?_⟩, ?_⟩
    · simp [h.size, Nat.add_comm]
    · simp [bytes]
  · have hnone := hplace.resolve_left hsmall
    have hbytes : bytes { writer with passed := message :: writer.passed } =
        (message :: writer.passed).reverse.flatten := bytes_of_waiting hnone
    refine ⟨{ writer with passed := message :: writer.passed }, ?_, ⟨h.room, h.size⟩, ?_⟩
    · rw [BlockWriter.append, if_neg hsmall, h.room]
    · rw [hbytes, bytes_of_waiting hnone]
      simp

/-- **A written message comes behind everything before it.** -/
theorem Sound.write (h : writer.Sound) (message : Bytes) :
    (writer.write message).1.Sound ∧
      (writer.write message).1.bytes = writer.bytes ++ message := by
  -- What stands before the message is a writer in which there is a place for it.
  have hmade : ∃ made,
      (if blockSize < writer.size + message.length then writer.flush else .ok writer) = .ok made ∧
        made.Sound ∧ made.bytes = writer.bytes ∧
        (message.length < blockSize ∨ made.waiting.flatten = []) := by
    by_cases hlarge : blockSize < writer.size + message.length
    · obtain ⟨made, hflush, hsound, hbytes, hnone⟩ := h.flush
      exact ⟨made, by rw [if_pos hlarge, hflush], hsound, hbytes, .inr hnone⟩
    · refine ⟨writer, if_neg hlarge, h, rfl, ?_⟩
      by_cases hsize : writer.size = 0
      · exact .inr (List.eq_nil_of_length_eq_zero (h.size ▸ hsize))
      · exact .inl (by omega)
  obtain ⟨made, hmade, hsound, hbytes, hplace⟩ := hmade
  obtain ⟨next, happend, hnext, hall⟩ := hsound.append hplace
  have hwrite : (writer.write message).1 = next := by
    rw [BlockWriter.write, hmade]
    simp only [Except.bind, happend]
  rw [hwrite, hall, hbytes]
  exact ⟨hnext, rfl⟩

end BlockWriter

namespace Sink

/-- Any number of messages comes behind everything before them, in order. -/
theorem acceptAll_blocks {block : BlockWriter} (h : block.Sound) (outputs : List Bytes) :
    ∃ after, (blocks block).acceptAll outputs = blocks after ∧ after.Sound ∧
      after.bytes = block.bytes ++ outputs.flatten := by
  induction outputs generalizing block with
  | nil => exact ⟨block, rfl, h, by simp⟩
  | cons output outputs ih =>
      obtain ⟨hsound, hbytes⟩ := h.write output
      obtain ⟨after, haccept, hafter, hall⟩ := ih hsound
      refine ⟨after, haccept, hafter, ?_⟩
      rw [hall, hbytes, List.flatten_cons, List.append_assoc]

end Sink

end VehicleBus

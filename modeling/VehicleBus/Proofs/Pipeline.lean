import VehicleBus.Pipeline
import VehicleBus.Proofs.Encoding

/-!
# What a pipeline hands over

A pipeline remembers nothing between two messages but its counts.  After a row of
messages its sink has been handed the encodings of the accepted ones, in order,
and nothing else (`Pipeline.sendAll_eq`); a step of the frame path only matters to
the pipeline by the message that it sends (`Pipeline.performAll_fst`).
-/

namespace VehicleBus

open Wire (Bytes)

/-! ## Sinks -/

namespace Sink

/-- Hand over the bytes of several messages, in order. -/
def acceptAll (sink : Sink) (outputs : List Bytes) : Sink :=
  outputs.foldl (fun sink output => (sink.accept output).1) sink

@[simp] theorem acceptAll_nil (sink : Sink) : sink.acceptAll [] = sink := rfl

@[simp] theorem acceptAll_cons (sink : Sink) (output : Bytes) (outputs : List Bytes) :
    sink.acceptAll (output :: outputs) = (sink.accept output).1.acceptAll outputs := rfl

/-- A buffer keeps everything that it is handed. -/
theorem acceptAll_buffer (waiting outputs : List Bytes) :
    (buffer waiting).acceptAll outputs = buffer (outputs.reverse ++ waiting) := by
  induction outputs generalizing waiting with
  | nil => rfl
  | cons output outputs ih =>
      rw [acceptAll_cons]
      show (buffer (output :: waiting)).acceptAll outputs = _
      rw [ih, List.reverse_cons, List.append_assoc]
      rfl

/-- A buffer that was empty gives away what it was handed, in order. -/
theorem take_acceptAll_emptyBuffer (outputs : List Bytes) :
    (emptyBuffer.acceptAll outputs).take.2 = outputs := by
  rw [emptyBuffer, acceptAll_buffer, List.append_nil, take, List.reverse_reverse]

/-- An unlimited writer passes on everything that it is handed. -/
theorem written_acceptAll_writer {store : Store} (hlimit : store.limit = none)
    (outputs : List Bytes) :
    ((writer store).acceptAll outputs).written = store.bytes ++ outputs.flatten := by
  induction outputs generalizing store with
  | nil => simp [written]
  | cons output outputs ih =>
      have hwrite : (store.write output).1 =
          { store with pieces := output :: store.pieces, size := store.size + output.length } := by
        simp [Store.write, hlimit]
      have hbytes : (store.write output).1.bytes = store.bytes ++ output := by
        simp [hwrite, Store.bytes]
      rw [acceptAll_cons]
      show ((writer (store.write output).1).acceptAll outputs).written = _
      rw [ih (by rw [hwrite]; exact hlimit), hbytes, List.append_assoc, List.flatten_cons]

end Sink

/-! ## Messages -/

/-- Is no text of a message too long? -/
def Message.isAccepted (message : Message) : Bool := message.overlong?.isNone

/-- The accepted messages are those whose texts are within bounds. -/
theorem Message.isAccepted_iff {message : Message} : message.isAccepted ↔ message.Bounded := by
  rw [isAccepted, Option.isNone_iff_eq_none, overlong?_eq_none_iff_bounded]

/-- The encodings of the messages that are accepted, in order. -/
def OutputFormat.outputs (format : OutputFormat) (messages : List Message) : List Bytes :=
  (messages.filter Message.isAccepted).map format.bytes

@[simp] theorem OutputFormat.outputs_nil (format : OutputFormat) : format.outputs [] = [] := rfl

theorem OutputFormat.outputs_append (format : OutputFormat) (front back : List Message) :
    format.outputs (front ++ back) = format.outputs front ++ format.outputs back := by
  simp [outputs]

/-- The outputs of accepted messages are their encodings, one for one. -/
theorem OutputFormat.map_encode_filter (format : OutputFormat) (messages : List Message) :
    (messages.filter Message.isAccepted).map format.encode =
      (format.outputs messages).map .ok := by
  rw [outputs, List.map_map]
  apply List.map_congr_left
  intro message hmember
  have haccepted := (List.mem_filter.mp hmember).2
  exact format.encode_of_bounded (Message.isAccepted_iff.mp haccepted)

/-- The outputs are what encoding gives, without the messages that it refuses. -/
theorem OutputFormat.outputs_eq_filterMap (format : OutputFormat) (messages : List Message) :
    format.outputs messages = messages.filterMap fun message => (format.encode message).toOption := by
  induction messages with
  | nil => rfl
  | cons message messages ih =>
      rw [show message :: messages = [message] ++ messages from rfl, outputs_append, ih,
        List.filterMap_append]
      congr 1
      rw [outputs, List.filterMap_cons, encode_eq]
      cases h : message.overlong? with
      | none => simp [Message.isAccepted, h, Except.toOption]
      | some fault => simp [Message.isAccepted, h, Except.toOption]

/-- If all texts are within bounds, every message has an output. -/
theorem OutputFormat.outputs_of_all_bounded (format : OutputFormat) {messages : List Message}
    (h : ∀ message ∈ messages, message.Bounded) :
    format.outputs messages = messages.map format.bytes := by
  have hall : messages.filter Message.isAccepted = messages :=
    List.filter_eq_self.mpr fun message hmember => Message.isAccepted_iff.mpr (h message hmember)
  rw [outputs, hall]

/-! ## Pipelines -/

namespace Pipeline

/-- Send several messages, in order. -/
def sendAll (pipeline : Pipeline) (messages : List Message) : Pipeline :=
  messages.foldl (fun pipeline message => (pipeline.send message).1) pipeline

@[simp] theorem sendAll_nil (pipeline : Pipeline) : pipeline.sendAll [] = pipeline := rfl

@[simp] theorem sendAll_cons (pipeline : Pipeline) (message : Message) (messages : List Message) :
    pipeline.sendAll (message :: messages) = (pipeline.send message).1.sendAll messages := rfl

theorem sendAll_append (pipeline : Pipeline) (front back : List Message) :
    pipeline.sendAll (front ++ back) = (pipeline.sendAll front).sendAll back :=
  List.foldl_append

/-- An accepted message is handed over and counted with its bytes. -/
theorem send_of_accepted (pipeline : Pipeline) {message : Message} (h : message.isAccepted) :
    (pipeline.send message).1 =
      { pipeline with
        sink := (pipeline.sink.accept (pipeline.format.bytes message)).1
        counts := { pipeline.counts with
          sent := pipeline.counts.sent + 1
          bytes := pipeline.counts.bytes + (pipeline.format.bytes message).length } } := by
  have hencode := pipeline.format.encode_of_bounded (Message.isAccepted_iff.mp h)
  simp only [send, hencode]

/-- A refused message is counted as dropped, and nothing else happens. -/
theorem send_of_refused (pipeline : Pipeline) {message : Message} (h : ¬ message.isAccepted) :
    (pipeline.send message).1 =
      { pipeline with
        counts := { pipeline.counts with dropped := pipeline.counts.dropped + 1 } } := by
  have hfault : message.overlong? ≠ none := fun hnone => h (by simp [Message.isAccepted, hnone])
  obtain ⟨fault, hsome⟩ := Option.ne_none_iff_exists'.mp hfault
  have hencode : pipeline.format.encode message = .error fault := by
    rw [OutputFormat.encode_eq, hsome]
  simp only [send, hencode]

/-- **A pipeline hands over the accepted messages.**  The sink gets their
encodings in order, and every message counts once, as sent or as dropped. -/
theorem sendAll_eq (pipeline : Pipeline) (messages : List Message) :
    pipeline.sendAll messages =
      { pipeline with
        sink := pipeline.sink.acceptAll (pipeline.format.outputs messages)
        counts := {
          sent := pipeline.counts.sent + (messages.filter Message.isAccepted).length
          bytes := pipeline.counts.bytes + (pipeline.format.outputs messages).flatten.length
          dropped := pipeline.counts.dropped +
            (messages.filter fun message => !message.isAccepted).length } } := by
  induction messages generalizing pipeline with
  | nil => simp
  | cons message messages ih =>
      rw [sendAll_cons, ih]
      by_cases h : message.isAccepted
      · simp [send_of_accepted pipeline h, OutputFormat.outputs, h]
        omega
      · simp [send_of_refused pipeline h, OutputFormat.outputs, h]
        omega

@[simp] theorem sendAll_format (pipeline : Pipeline) (messages : List Message) :
    (pipeline.sendAll messages).format = pipeline.format := by
  rw [sendAll_eq]

/-- Of the steps of the frame path only the messages matter to the pipeline. -/
theorem performAll_fst (pipeline : Pipeline) (steps : List Step) :
    (pipeline.performAll steps).1 = pipeline.sendAll (Step.messages steps) := by
  induction steps generalizing pipeline with
  | nil => rfl
  | cons step steps ih =>
      cases step with
      | send message => exact ih (pipeline.send message).1
      | note notice => exact ih pipeline

end Pipeline

end VehicleBus

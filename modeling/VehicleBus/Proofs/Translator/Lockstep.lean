import VehicleBus.Proofs.Translator.Run
import VehicleBus.Proofs.Translator.Setup

/-!
# The format changes only the bytes

A configuration can be built for either format, and the two translators that come
of it are driven by the same operations.  Since the router never asks for the
format and both formats accept the same messages, nothing but the bytes tells them
apart (`Clocked.formats_in_lockstep`): after every operation their routers are the
same, and there is one row of messages that one of them wrote as JSON and the other
as envelopes.
-/

namespace VehicleBus

open Wire (Bytes)

namespace Clocked

/-! ## The messages of a run -/

/-- The messages that a run puts out, whatever the format. -/
def accepted (clocked : Clocked) (operations : List Operation) : List Message :=
  (clocked.runMessages operations).filter Message.isAccepted

theorem runMessages_append (clocked : Clocked) (front back : List Operation) :
    clocked.runMessages (front ++ back) =
      clocked.runMessages front ++ (clocked.run front).runMessages back := by
  induction front generalizing clocked with
  | nil => rfl
  | cons operation rest ih =>
      rw [List.cons_append, runMessages, runMessages, ih, List.append_assoc]
      rfl

/-- A longer run only adds messages behind those of a shorter one. -/
theorem accepted_isPrefix (clocked : Clocked) {front operations : List Operation}
    (h : front <+: operations) : clocked.accepted front <+: clocked.accepted operations := by
  obtain ⟨back, rfl⟩ := h
  rw [accepted, accepted, runMessages_append, List.filter_append]
  exact List.prefix_append _ _

/-- The sink after a run was handed the encodings of the accepted messages. -/
theorem run_sink (clocked : Clocked) (operations : List Operation) :
    ∃ outputs,
      (clocked.accepted operations).map clocked.translator.pipeline.format.encode =
        outputs.map .ok ∧
      (clocked.run operations).translator.pipeline.sink =
        clocked.translator.pipeline.sink.acceptAll outputs := by
  refine ⟨clocked.translator.pipeline.format.outputs (clocked.runMessages operations), ?_, ?_⟩
  · exact OutputFormat.map_encode_filter _ _
  · rw [run_pipeline, Pipeline.sendAll_eq]

/-- How many messages were sent and how many were dropped in a run. -/
theorem run_counts (clocked : Clocked) (operations : List Operation) :
    (clocked.run operations).translator.pipeline.counts.sent =
        clocked.translator.pipeline.counts.sent + (clocked.accepted operations).length ∧
      (clocked.run operations).translator.pipeline.counts.dropped =
        clocked.translator.pipeline.counts.dropped +
          ((clocked.runMessages operations).filter fun message => !message.isAccepted).length := by
  rw [run_pipeline, Pipeline.sendAll_eq]
  exact ⟨rfl, rfl⟩

/-! ## Lock step -/

/-- Two translators that differ in the bytes alone: `a` wrote some messages to a
sink as JSON, `b` wrote the same messages to another one as envelopes. -/
structure InLockstep (sink sink' : Sink) (messages : List Message) (a b : Clocked) : Prop where
  /-- Signal table, buses, catalog and frame counts. -/
  router : a.translator.router = b.translator.router
  now : a.now = b.now
  sent : a.translator.pipeline.counts.sent = b.translator.pipeline.counts.sent
  dropped : a.translator.pipeline.counts.dropped = b.translator.pipeline.counts.dropped
  json : ∃ outputs, messages.map OutputFormat.json.encode = outputs.map .ok ∧
    a.translator.pipeline.sink = sink.acceptAll outputs
  proto : ∃ outputs, messages.map OutputFormat.proto.encode = outputs.map .ok ∧
    b.translator.pipeline.sink = sink'.acceptAll outputs

/-- Translators with the same router and unused pipelines run in lock step. -/
theorem run_inLockstep {a b : Clocked} (h : SameFront a b) {sink sink' : Sink}
    (ha : a.translator.pipeline = { format := .json, sink })
    (hb : b.translator.pipeline = { format := .proto, sink := sink' })
    (operations : List Operation) :
    InLockstep sink sink' (a.accepted operations) (a.run operations) (b.run operations) := by
  obtain ⟨hfront, -, hmessages⟩ := run_congr h operations
  have haccepted : a.accepted operations = b.accepted operations := by
    rw [accepted, accepted, hmessages]
  obtain ⟨hsentA, hdroppedA⟩ := a.run_counts operations
  obtain ⟨hsentB, hdroppedB⟩ := b.run_counts operations
  obtain ⟨outputsA, hjson, hsinkA⟩ := a.run_sink operations
  obtain ⟨outputsB, hproto, hsinkB⟩ := b.run_sink operations
  rw [ha] at hsentA hdroppedA hjson hsinkA
  rw [hb] at hsentB hdroppedB hproto hsinkB
  refine ⟨hfront.router, hfront.now, ?_, ?_, ⟨outputsA, hjson, hsinkA⟩, ?_⟩
  · rw [hsentA, hsentB, haccepted]
  · rw [hdroppedA, hdroppedB, hmessages]
  · rw [haccepted]
    exact ⟨outputsB, hproto, hsinkB⟩

end Clocked

/-! ## Configurations -/

/-- The format is not part of what is checked. -/
theorem Config.Vehicle.Valid.withFormat {vehicle : Config.Vehicle} (h : vehicle.Valid)
    (format : OutputFormat) : Valid { vehicle with format } :=
  ⟨h.rawFrequency, h.busAddresses, h.knownBuses, h.messageKeys, h.channels, h.signalNames, h.room,
    h.rawFrequencies, h.undecoded⟩

/-- What is built in one format is built in the other, with the same router. -/
theorem Translator.ofVehicle_withFormat {vehicle : Config.Vehicle} {sink : Sink}
    {translator : Translator} {notices : List Notice}
    (hbuilt : ofVehicle vehicle sink = .ok (translator, notices)) (format : OutputFormat)
    (other : Sink) :
    ∃ ready, ofVehicle { vehicle with format } other =
      .ok (⟨translator.router, { format, sink := other }⟩, ready) := by
  obtain ⟨hvalid, hkeys, hrouter, -⟩ := ofVehicle_eq_ok hbuilt
  have hofVehicle : Router.ofVehicle { vehicle with format } = .ok (Router.configured vehicle) :=
    Router.ofVehicle_of_nodup (hvalid.withFormat format) hkeys
  rw [ofVehicle_eq, hofVehicle, hrouter]
  exact ⟨_, rfl⟩

/-- **The format changes only the bytes.**  A configuration that is built in some
format is built in both, on any sinks.  Driven by the same operations the two
translators report the same faults, and there is one row of messages for the run
such that they are in lock step after each part of it, with the messages up to
there. -/
theorem Clocked.formats_in_lockstep {vehicle : Config.Vehicle} {unused : Sink}
    {translator : Translator} {notices : List Notice}
    (hbuilt : Translator.ofVehicle vehicle unused = .ok (translator, notices))
    (sink sink' : Sink) (start : Time) (operations : List Operation) :
    ∃ a b ready ready',
      Translator.ofVehicle { vehicle with format := .json } sink = .ok (a, ready) ∧
      Translator.ofVehicle { vehicle with format := .proto } sink' = .ok (b, ready') ∧
      faults ⟨a, start⟩ operations = faults ⟨b, start⟩ operations ∧
      ∃ messages, InLockstep sink sink' messages
          (run ⟨a, start⟩ operations) (run ⟨b, start⟩ operations) ∧
        ∀ front, front <+: operations → ∃ sent, sent <+: messages ∧
          InLockstep sink sink' sent (run ⟨a, start⟩ front) (run ⟨b, start⟩ front) := by
  obtain ⟨ready, hjson⟩ := Translator.ofVehicle_withFormat hbuilt .json sink
  obtain ⟨ready', hproto⟩ := Translator.ofVehicle_withFormat hbuilt .proto sink'
  have hfront : SameFront ⟨⟨translator.router, { format := .json, sink }⟩, start⟩
      ⟨⟨translator.router, { format := .proto, sink := sink' }⟩, start⟩ := ⟨rfl, rfl⟩
  refine ⟨_, _, ready, ready', hjson, hproto, (run_congr hfront operations).2.1, ?_⟩
  refine ⟨_, run_inLockstep hfront rfl rfl operations, ?_⟩
  intro front hprefix
  exact ⟨_, accepted_isPrefix _ hprefix, run_inLockstep hfront rfl rfl front⟩

/-- A frame, a new channel with a strategy of its own and a message that is too
long: the two translators agree on each. -/
theorem Clocked.formats_in_lockstep_two_buses :
    let operations : List Operation := [.input (.frame ⟨1, 0x128⟩ 5),
      .addChannel {
        signal := { name := "load", key := ⟨1, 2⟩, position := 0, size := 8 }
        handler := .customNumeric fun _ table value _ => (value, table.isEmpty) },
      .setHandler "load" .state, .send (.text "note" (String.ofList (List.replicate 101 'x')))]
    ∃ a b ready ready',
      Translator.ofVehicle { twoBuses with format := .json } .emptyBuffer = .ok (a, ready) ∧
      Translator.ofVehicle { twoBuses with format := .proto } (.writer {}) = .ok (b, ready') ∧
      faults ⟨a, 3⟩ operations = faults ⟨b, 3⟩ operations ∧
      ∃ messages, InLockstep .emptyBuffer (.writer {}) messages
        (run ⟨a, 3⟩ operations) (run ⟨b, 3⟩ operations) := by
  intro operations
  have hbuilt : Translator.ofVehicle twoBuses .emptyBuffer =
      .ok (⟨Router.configured twoBuses, { format := .json, sink := .emptyBuffer }⟩,
        [.ready 2 2 .json]) := rfl
  obtain ⟨a, b, ready, ready', hjson, hproto, hfaults, messages, hend, -⟩ :=
    formats_in_lockstep hbuilt .emptyBuffer (.writer {}) 3 operations
  exact ⟨a, b, ready, ready', hjson, hproto, hfaults, messages, hend⟩

end VehicleBus

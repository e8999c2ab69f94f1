import VehicleBus.Notice
import VehicleBus.Sink

/-!
# Output pipelines

A pipeline encodes messages in one format and hands their bytes to a sink.  A
message that cannot be encoded is dropped, counted, and leaves no trace in the
sink; what the sink makes of the bytes does not show in the counts.
-/

namespace VehicleBus

open Wire (Bytes)

/-- Counts of messages that were sent or dropped. -/
structure PipelineCounts where
  sent : Nat := 0
  bytes : Nat := 0
  dropped : Nat := 0
deriving DecidableEq, Repr, Inhabited

structure Pipeline where
  format : OutputFormat
  sink : Sink
  counts : PipelineCounts := {}
deriving DecidableEq, Repr, Inhabited

namespace Pipeline

/-- Encode a message and hand it over, or drop it. -/
def send (pipeline : Pipeline) (message : Message) : Pipeline × List Notice :=
  let counts := pipeline.counts
  match pipeline.format.encode message with
  | .ok bytes =>
    let (sink, fault) := pipeline.sink.accept bytes
    ({ pipeline with
        sink
        counts := { counts with sent := counts.sent + 1, bytes := counts.bytes + bytes.length } },
      .serialized bytes :: fault.toList.map (.writeFailed pipeline.format))
  | .error fault =>
    ({ pipeline with counts := { counts with dropped := counts.dropped + 1 } },
      [.dropped pipeline.format fault])

/-- Carry out one step: send its message or pass on its notice. -/
def perform (pipeline : Pipeline) : Step → Pipeline × List Notice
  | .send message => pipeline.send message
  | .note notice => (pipeline, [notice])

/-- Carry out steps in order. -/
def performAll (pipeline : Pipeline) : List Step → Pipeline × List Notice
  | [] => (pipeline, [])
  | step :: rest =>
    let (pipeline, notices) := pipeline.perform step
    let (pipeline, more) := pipeline.performAll rest
    (pipeline, notices ++ more)

/-- Let a device behind the sink refuse what is passed on to it from now on. -/
def refuse (fault : OutputFault) (pipeline : Pipeline) : Pipeline :=
  { pipeline with sink := pipeline.sink.refuse fault }

/-- Take the messages that the sink gives away. -/
def take (pipeline : Pipeline) : Pipeline × List Bytes :=
  let (sink, messages) := pipeline.sink.take
  ({ pipeline with sink }, messages)

/-- Pass on whatever waits in the sink. -/
def flush (pipeline : Pipeline) : Except OutputFault Pipeline := do
  return { pipeline with sink := ← pipeline.sink.flush }

end Pipeline

end VehicleBus

import VehicleBus.Fault
import VehicleBus.Wire.Varint

/-!
# Sinks

Where encoded messages go: a buffer that keeps them apart, a writer on a store
of bytes that may be limited, or a writer that passes them on to a device in
blocks.  A writer that fails loses a message, never part of a later one.
-/

namespace VehicleBus

open Wire (Bytes)

/-- Bytes behind a writer. -/
structure Store where
  /-- Most bytes that the store takes, `none` if there is no bound. -/
  limit : Option Nat := none
  /-- What was written, the latest piece first. -/
  pieces : List Bytes := []
  /-- Number of bytes written. -/
  size : Nat := 0
deriving DecidableEq, Repr, Inhabited

namespace Store

/-- Everything that was written, in order. -/
def bytes (store : Store) : Bytes := store.pieces.reverse.flatten

/-- Write as much as there is room for, with the fault if that was not all. -/
def write (store : Store) (piece : Bytes) : Store × Option OutputFault :=
  let fitting := match store.limit with
    | none => piece
    | some limit => piece.take (limit - store.size)
  ({ store with pieces := fitting :: store.pieces, size := store.size + fitting.length },
    if fitting.length = piece.length then none else some .storeFull)

/-- Push out what was written; a store without any room left refuses. -/
def flush (store : Store) : Except OutputFault Unit :=
  match store.limit with
  | none => .ok ()
  | some limit => if limit ≤ store.size then .error .storeFull else .ok ()

end Store

/-- A writer that gathers messages and passes them on to a device in blocks.  A
message waits whole, or not at all. -/
structure BlockWriter where
  /-- Why the device takes nothing, `none` as long as it has room. -/
  refusal : Option OutputFault := none
  /-- Messages that wait for the device, the latest first. -/
  waiting : List Bytes := []
  /-- Number of bytes that wait. -/
  size : Nat := 0
  /-- Messages that the device got and nobody took, the latest first. -/
  passed : List Bytes := []
deriving DecidableEq, Repr, Inhabited

namespace BlockWriter

/-- Most bytes that wait. -/
def blockSize : Nat := 8192

/-- Pass on what waits, if the device takes it. -/
def flush (writer : BlockWriter) : Except OutputFault BlockWriter :=
  if writer.size = 0 then .ok writer
  else
    match writer.refusal with
    | some fault => .error fault
    | none =>
      .ok { writer with waiting := [], size := 0, passed := writer.waiting ++ writer.passed }

/-- Take a message behind those that wait.  A message of a block or more goes to
the device at once. -/
def append (message : Bytes) (writer : BlockWriter) : Except OutputFault BlockWriter :=
  if message.length < blockSize then
    .ok { writer with
      waiting := message :: writer.waiting, size := writer.size + message.length }
  else
    match writer.refusal with
    | some fault => .error fault
    | none => .ok { writer with passed := message :: writer.passed }

/-- Take a message, after what waits is passed on if there is no room beside it.
A message that finds no room is lost, and what waits stays. -/
def write (writer : BlockWriter) (message : Bytes) : BlockWriter × Option OutputFault :=
  let made := if blockSize < writer.size + message.length then writer.flush else .ok writer
  match made.bind (·.append message) with
  | .ok writer => (writer, none)
  | .error fault => (writer, some fault)

end BlockWriter

inductive Sink where
  /-- Encoded messages that wait to be taken, the latest first. -/
  | buffer (waiting : List Bytes)
  | writer (store : Store)
  | blocks (block : BlockWriter)
deriving DecidableEq, Repr, Inhabited

namespace Sink

/-- A buffer without messages. -/
def emptyBuffer : Sink := buffer []

/-- Messages that are not passed on yet, in order; a store is handed each at once. -/
def waiting : Sink → List Bytes
  | buffer waiting => waiting.reverse
  | writer _ => []
  | blocks block => block.waiting.reverse

/-- Bytes that were passed on and can still be read. -/
def written : Sink → Bytes
  | buffer _ => []
  | writer store => store.bytes
  | blocks block => block.passed.reverse.flatten

/-- Hand over the bytes of one message, with the fault if they did not all arrive. -/
def accept (bytes : Bytes) : Sink → Sink × Option OutputFault
  | buffer waiting => (buffer (bytes :: waiting), none)
  | writer store =>
    let (store, fault) := store.write bytes
    (writer store, fault)
  | blocks block =>
    let (block, fault) := block.write bytes
    (blocks block, fault)

/-- Pass on whatever waits for a store or a device. -/
def flush : Sink → Except OutputFault Sink
  | buffer waiting => .ok (buffer waiting)
  | writer store => store.flush.map fun _ => writer store
  | blocks block => block.flush.map blocks

/-- Let a device refuse what is passed on to it from now on. -/
def refuse (fault : OutputFault) : Sink → Sink
  | blocks block => blocks { block with refusal := some fault }
  | sink => sink

/-- Take the messages of a buffer, or those that a device got. -/
def take : Sink → Sink × List Bytes
  | buffer waiting => (emptyBuffer, waiting.reverse)
  | writer store => (writer store, [])
  | blocks block => (blocks { block with passed := [] }, block.passed.reverse)

end Sink

end VehicleBus

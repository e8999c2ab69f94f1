import VehicleBus.Payload
import VehicleBus.Sampling.Clock
import VehicleBus.Text.Hex

/-!
# Frames

A frame is what the reception layer delivers: eight data bytes under an
identifier on one bus, perhaps with the time it was received.  The pair of bus
and identifier is the frame's `Key`; definitions are looked up by it.
-/

namespace VehicleBus

/-- The bus and the identifier of a kind of frame. -/
structure Key where
  bus : UInt8
  id : UInt32
deriving DecidableEq, Repr, Inhabited

namespace Key

/-- The key inside a sentence. -/
def describe (key : Key) : String :=
  s!"0x{Text.upperHex key.id.toNat} on bus {key.bus}"

end Key

/-- One received frame. -/
structure Frame where
  key : Key
  payload : Payload
  timestamp : Option Time := none
deriving DecidableEq, Repr, Inhabited

end VehicleBus

import VehicleBus.Frame
import VehicleBus.Decimal.Layout

/-!
# Faults

Everything that can be wrong with a definition, a configuration, a message or
an output, as data.  The wording of a fault is given by `Fault.message` alone,
so theorems speak of causes and never of sentences.
-/

namespace VehicleBus

/-- What is wrong with a signal definition. -/
inductive SignalFault where
  | emptyName
  | outsidePayload (name : String) (position size : UInt8)
  | nonFiniteScaling (name : String) (factor offset : Binary64)
  | invalidFrequency (name : String) (frequency : Binary32)
  | stateless (name : String)
  /-- The state handler was chosen later, for a signal without states. -/
  | noStatesForHandler (name : String)
  | nameUsedTwice (name : String)
deriving DecidableEq, Repr

/-- What is wrong with a vehicle configuration as a whole. -/
inductive ConfigFault where
  | invalidRawFrequency (frequency : Binary32)
  | busDefinedTwice (address : UInt8)
  | unknownBus (key : Key)
  | tooManyRawMessages (count capacity : Nat)
  | invalidRawMessageFrequency (key : Key) (frequency : Binary32)
  | rawMessageHasSignals (key : Key)
  | unknownFormat (name : String)
deriving DecidableEq, Repr

/-- Why a well-formed envelope stands for no message. -/
inductive EnvelopeFault where
  | missing (part : String)
  | unknownType (code : Int32)
  | busOutOfRange (bus : Int32)
deriving DecidableEq, Repr

/-- Texts whose length is limited. -/
inductive LimitedText where
  | name
  | value
  | event
  | stateName
deriving DecidableEq, Repr

/-- Why bytes did not get through an output. -/
inductive OutputFault where
  /-- The store holds as many bytes as it can. -/
  | storeFull
  | deviceFull
  /-- What the host system says. -/
  | host (text : String)
deriving DecidableEq, Repr

inductive Fault where
  | signal (fault : SignalFault)
  | config (fault : ConfigFault)
  | signalNotFound (name : String)
  | catalogFull (key : Key) (capacity : Nat)
  | duplicateMessage (key : Key)
  | tooLong (text : LimitedText) (length limit : Nat)
  /-- The bytes are no envelope at all. -/
  | malformedEnvelope
  /-- A delimited envelope is larger than the buffer that it is written into. -/
  | bufferTooSmall (required remaining : Nat)
  | unsupported (fault : EnvelopeFault)
  | output (fault : OutputFault)
deriving DecidableEq, Repr

namespace SignalFault

def message : SignalFault → String
  | emptyName => "signal name must not be empty"
  | outsidePayload name position size =>
    let last := position.toNat + size.toNat
    s!"'{name}' spans bits {position}..{last}, outside the 64-bit payload"
  | nonFiniteScaling name factor offset =>
    s!"'{name}' has non-finite scaling (factor {factor.text}, offset {offset.text})"
  | invalidFrequency name frequency => s!"'{name}' has invalid frequency {frequency.text} Hz"
  | stateless name => s!"'{name}' uses the state handler but has no states"
  | noStatesForHandler name => s!"'{name}' has no states for the state handler"
  | nameUsedTwice name => s!"signal name '{name}' is used twice"

end SignalFault

namespace ConfigFault

def message : ConfigFault → String
  | invalidRawFrequency frequency => s!"raw message frequency {frequency.text} Hz is invalid"
  | busDefinedTwice address => s!"bus {address} is defined twice"
  | unknownBus key =>
    s!"message 0x{Text.upperHex key.id.toNat} references unknown bus {key.bus}"
  | tooManyRawMessages count capacity =>
    s!"{count} raw messages exceed the message capacity of {capacity}"
  | invalidRawMessageFrequency key frequency =>
    s!"raw message {key.describe} has invalid frequency {frequency.text} Hz"
  | rawMessageHasSignals key => s!"raw message {key.describe} also has signal definitions"
  | unknownFormat name => s!"unknown output format: {name}"

end ConfigFault

namespace EnvelopeFault

def message : EnvelopeFault → String
  | missing part => s!"envelope is missing {part}"
  | unknownType code => s!"unknown message type {code.toInt}"
  | busOutOfRange bus => s!"bus {bus.toInt} out of range"

end EnvelopeFault

namespace LimitedText

def label : LimitedText → String
  | name => "name"
  | value => "value"
  | event => "event"
  | stateName => "state name"

end LimitedText

namespace OutputFault

def message : OutputFault → String
  | storeFull => "sink is full"
  | deviceFull => "No space left on device (os error 28)"
  | host text => text

end OutputFault

namespace Fault

/-- The sentence that reports a fault. -/
def message : Fault → String
  | signal fault => "Invalid signal definition: " ++ fault.message
  | config fault => "Invalid configuration: " ++ fault.message
  | signalNotFound name => "Signal not found: " ++ name
  | catalogFull key capacity =>
    s!"Message definition registry is full (capacity {capacity}), cannot add {key.describe}"
  | duplicateMessage key => "Duplicate message definition: " ++ key.describe
  | tooLong text length limit =>
    s!"Field '{text.label}' is {length} bytes, maximum is {limit}"
  | malformedEnvelope => "Failed to decode protobuf"
  | bufferTooSmall required remaining =>
    "Failed to encode protobuf: failed to encode Protobuf message; insufficient buffer capacity " ++
      s!"(required: {required}, remaining: {remaining})"
  | unsupported fault => "Unsupported message: " ++ fault.message
  | output fault => "Output error: " ++ fault.message

end Fault

end VehicleBus

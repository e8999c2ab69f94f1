import VehicleBus.Wire.Scalar
import VehicleBus.Message

/-!
# Envelopes

A message travels in an envelope: a type and one record out of seven.  Every
part of an envelope may be absent, so an absent part and a zero are told apart.

`Envelope.ofMessage` fills the record of a message and `Envelope.toMessage`
looks only at the record that the type selects; `Envelope.bytes` and
`Envelope.ofBytes?` are the written form.  Reading merges: the last value of a
field counts, and a record that occurs twice is read as one.
-/

namespace VehicleBus.Wire

/-- The record of a forwarded frame. -/
structure RawRecord where
  bus : Option Int32 := none
  id : Option UInt32 := none
  data : Option UInt64 := none
deriving DecidableEq, Repr

/-- The record of a named value. -/
structure NamedRecord (α : Type) where
  name : Option String := none
  value : Option α := none
deriving DecidableEq, Repr

/-- The record of a named text with an event. -/
structure EventRecord (α : Type) where
  name : Option String := none
  value : Option String := none
  event : Option α := none
deriving DecidableEq, Repr

structure Envelope where
  type : Option Int32 := none
  raw : Option RawRecord := none
  text : Option (NamedRecord String) := none
  number : Option (NamedRecord Binary64) := none
  flag : Option (NamedRecord Bool) := none
  eventText : Option (EventRecord String) := none
  eventNumber : Option (EventRecord Binary64) := none
  eventFlag : Option (EventRecord Bool) := none
deriving DecidableEq, Repr

/-- The seven types of envelopes. -/
inductive EnvelopeType where
  | raw
  | text
  | number
  | flag
  | eventText
  | eventNumber
  | eventFlag
deriving DecidableEq, Repr

namespace EnvelopeType

def code : EnvelopeType → Int32
  | raw => 1
  | text => 2
  | number => 3
  | flag => 4
  | eventText => 5
  | eventNumber => 6
  | eventFlag => 7

def all : List EnvelopeType := [raw, text, number, flag, eventText, eventNumber, eventFlag]

def ofCode? (code : Int32) : Option EnvelopeType := all.find? (·.code == code)

end EnvelopeType

namespace RawRecord

def bytes (record : RawRecord) : Bytes :=
  Scalar.int32.writeOption 1 record.bus ++ Scalar.uint32.writeOption 2 record.id ++
    Scalar.uint64.writeOption 3 record.data

/-- Take one field into a record; fields with other numbers are passed over. -/
def merge (record : RawRecord) (field : Field) : Option RawRecord :=
  match field.number with
  | 1 => (Scalar.int32.read field.value).map fun bus => { record with bus := some bus }
  | 2 => (Scalar.uint32.read field.value).map fun id => { record with id := some id }
  | 3 => (Scalar.uint64.read field.value).map fun data => { record with data := some data }
  | _ => some record

end RawRecord

namespace NamedRecord

variable {α : Type}

def bytes (scalar : Scalar α) (record : NamedRecord α) : Bytes :=
  Scalar.text.writeOption 1 record.name ++ scalar.writeOption 2 record.value

/-- Take one field into a record; fields with other numbers are passed over. -/
def merge (scalar : Scalar α) (record : NamedRecord α) (field : Field) : Option (NamedRecord α) :=
  match field.number with
  | 1 => (Scalar.text.read field.value).map fun name => { record with name := some name }
  | 2 => (scalar.read field.value).map fun value => { record with value := some value }
  | _ => some record

end NamedRecord

namespace EventRecord

variable {α : Type}

def bytes (scalar : Scalar α) (record : EventRecord α) : Bytes :=
  Scalar.text.writeOption 1 record.name ++ Scalar.text.writeOption 2 record.value ++
    scalar.writeOption 3 record.event

/-- Take one field into a record; fields with other numbers are passed over. -/
def merge (scalar : Scalar α) (record : EventRecord α) (field : Field) : Option (EventRecord α) :=
  match field.number with
  | 1 => (Scalar.text.read field.value).map fun name => { record with name := some name }
  | 2 => (Scalar.text.read field.value).map fun value => { record with value := some value }
  | 3 => (scalar.read field.value).map fun event => { record with event := some event }
  | _ => some record

end EventRecord

/-- Take all fields into a record, the first that does not fit spoils it. -/
def mergeAll {ρ : Type} (merge : ρ → Field → Option ρ) (record : ρ) : List Field → Option ρ
  | [] => some record
  | field :: rest => (merge record field).bind fun record => mergeAll merge record rest

namespace Envelope

/-! ## Messages -/

/-- The envelope of a message: its type, one record, and nothing else. -/
def ofMessage : Message → Envelope
  | .numeric name value =>
    { type := some EnvelopeType.number.code, number := some ⟨some name, some value⟩ }
  | .boolean name value =>
    { type := some EnvelopeType.flag.code, flag := some ⟨some name, some value⟩ }
  | .text name value =>
    { type := some EnvelopeType.text.code, text := some ⟨some name, some value⟩ }
  | .evented name value (.text event) =>
    { type := some EnvelopeType.eventText.code
      eventText := some ⟨some name, some value, some event⟩ }
  | .evented name value (.number event) =>
    { type := some EnvelopeType.eventNumber.code
      eventNumber := some ⟨some name, some value, some event⟩ }
  | .evented name value (.flag event) =>
    { type := some EnvelopeType.eventFlag.code
      eventFlag := some ⟨some name, some value, some event⟩ }
  | .raw key data =>
    { type := some EnvelopeType.raw.code
      raw := some ⟨some key.bus.toUInt32.toInt32, some key.id, some data⟩ }

/-- A part of an envelope that has to be there. -/
def need {α : Type} (part : String) : Option α → Except EnvelopeFault α
  | some value => .ok value
  | none => .error (.missing part)

/-- The message of an envelope, read from the record that its type selects. -/
def toMessage (envelope : Envelope) : Except EnvelopeFault Message := do
  let code ← need "type" envelope.type
  match EnvelopeType.ofCode? code with
  | none => .error (.unknownType code)
  | some .number =>
    let record ← need "numerical_message" envelope.number
    return .numeric (← need "name" record.name) (← need "value" record.value)
  | some .flag =>
    let record ← need "boolean_message" envelope.flag
    return .boolean (← need "name" record.name) (← need "value" record.value)
  | some .text =>
    let record ← need "string_message" envelope.text
    return .text (← need "name" record.name) (← need "value" record.value)
  | some .eventText =>
    let record ← need "evented_string_message" envelope.eventText
    return .evented (← need "name" record.name) (← need "value" record.value)
      (.text (← need "event" record.event))
  | some .eventNumber =>
    let record ← need "evented_numerical_message" envelope.eventNumber
    return .evented (← need "name" record.name) (← need "value" record.value)
      (.number (← need "event" record.event))
  | some .eventFlag =>
    let record ← need "evented_boolean_message" envelope.eventFlag
    return .evented (← need "name" record.name) (← need "value" record.value)
      (.flag (← need "event" record.event))
  | some .raw =>
    let record ← need "raw_message" envelope.raw
    let bus ← need "bus" record.bus
    if 0 ≤ bus.toInt ∧ bus.toInt < 256 then
      let id ← need "message_id" record.id
      let data ← need "data" record.data
      return .raw ⟨UInt8.ofNat bus.toInt.toNat, id⟩ data
    else .error (.busOutOfRange bus)

/-! ## Bytes -/

/-- The bytes of a record that may be absent. -/
def recordField {ρ : Type} (number : Nat) (write : ρ → Bytes) : Option ρ → Bytes
  | none => []
  | some record => bytesField number (write record)

/-- The written form of an envelope. -/
def bytes (envelope : Envelope) : Bytes :=
  Scalar.int32.writeOption 1 envelope.type ++
  recordField 2 RawRecord.bytes envelope.raw ++
  recordField 3 (NamedRecord.bytes Scalar.text) envelope.text ++
  recordField 4 (NamedRecord.bytes Scalar.double) envelope.number ++
  recordField 5 (NamedRecord.bytes Scalar.bool) envelope.flag ++
  recordField 6 (EventRecord.bytes Scalar.text) envelope.eventText ++
  recordField 7 (EventRecord.bytes Scalar.double) envelope.eventNumber ++
  recordField 8 (EventRecord.bytes Scalar.bool) envelope.eventFlag

/-- How deep groups may nest among the fields of an envelope. -/
def groupDepth : Nat := 99

/-- Read a record out of a field and merge it with what was read before. -/
def readRecord {ρ : Type} (merge : ρ → Field → Option ρ) (before : ρ) (value : Value) :
    Option ρ :=
  match value with
  | .bytes body => (readFields (groupDepth - 1) body).bind (mergeAll merge before)
  | _ => none

/-- Take one field into an envelope; fields with other numbers are passed over. -/
def merge (envelope : Envelope) (field : Field) : Option Envelope :=
  match field.number with
  | 1 => (Scalar.int32.read field.value).map fun type => { envelope with type := some type }
  | 2 => (readRecord RawRecord.merge (envelope.raw.getD {}) field.value).map
      fun raw => { envelope with raw := some raw }
  | 3 => (readRecord (NamedRecord.merge Scalar.text) (envelope.text.getD {}) field.value).map
      fun text => { envelope with text := some text }
  | 4 => (readRecord (NamedRecord.merge Scalar.double) (envelope.number.getD {}) field.value).map
      fun number => { envelope with number := some number }
  | 5 => (readRecord (NamedRecord.merge Scalar.bool) (envelope.flag.getD {}) field.value).map
      fun flag => { envelope with flag := some flag }
  | 6 => (readRecord (EventRecord.merge Scalar.text) (envelope.eventText.getD {}) field.value).map
      fun eventText => { envelope with eventText := some eventText }
  | 7 =>
    (readRecord (EventRecord.merge Scalar.double) (envelope.eventNumber.getD {}) field.value).map
      fun eventNumber => { envelope with eventNumber := some eventNumber }
  | 8 => (readRecord (EventRecord.merge Scalar.bool) (envelope.eventFlag.getD {}) field.value).map
      fun eventFlag => { envelope with eventFlag := some eventFlag }
  | _ => some envelope

/-- Read the written form of an envelope. -/
def ofBytes? (bytes : Bytes) : Option Envelope :=
  (readFields groupDepth bytes).bind (mergeAll merge {})

/-! ## Streams -/

/-- An envelope behind its length, as it is put into a stream. -/
def delimited (envelope : Envelope) : Bytes := varint envelope.bytes.length ++ envelope.bytes

/-- Cut one envelope off the front of a stream. -/
def readDelimited (stream : Bytes) : Option (Envelope × Bytes) := do
  let (length, rest) ← readVarint stream
  let (body, rest) ← takeBytes length rest
  return (← ofBytes? body, rest)

/-- The message at the front of a stream; what follows it is not looked at. -/
def decode (stream : Bytes) : Except Fault Message :=
  match readDelimited stream with
  | none => .error .malformedEnvelope
  | some (envelope, _) => envelope.toMessage.mapError .unsupported

/-! ## Size -/

/-- Bytes of a field with a one-byte key whose content has at most `content`
bytes behind its length. -/
def delimitedSize (content : Nat) : Nat := 1 + (varint content).length + content

/-- Greatest size of an envelope in which every record is present, each text is
as long as it may be and each number as wide. -/
def bodyLimit : Nat :=
  let name := delimitedSize nameLimit
  let value := delimitedSize valueLimit
  let number := 1 + 8
  let flag := 1 + 1
  let type := 1 + (varint EnvelopeType.eventFlag.code.toInt.toNat).length
  type +
    delimitedSize ((1 + 10) + (1 + 5) + (1 + 10)) +
    delimitedSize (name + value) +
    delimitedSize (name + number) +
    delimitedSize (name + flag) +
    delimitedSize (name + 2 * value) +
    delimitedSize (name + value + number) +
    delimitedSize (name + value + flag)

/-- Greatest size of a delimited envelope. -/
def sizeLimit : Nat := (varint bodyLimit).length + bodyLimit

/-- Write a delimited envelope into a buffer, if it fits. -/
def writeWithin (capacity : Nat) (envelope : Envelope) : Except Fault Bytes :=
  if envelope.delimited.length ≤ capacity then .ok envelope.delimited
  else .error (.bufferTooSmall envelope.delimited.length capacity)

end Envelope

end VehicleBus.Wire

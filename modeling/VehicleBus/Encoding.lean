import VehicleBus.Document
import VehicleBus.Text.Lowercase
import VehicleBus.Wire.Envelope

/-!
# Encodings of messages

A message leaves the library in one of two formats: as a JSON document that ends
in carriage return and line feed, or as a delimited envelope.  Messages with an
overlong text are refused before anything is written.
-/

namespace VehicleBus

inductive OutputFormat where
  | json
  | proto
deriving DecidableEq, Repr, Inhabited

namespace OutputFormat

def name : OutputFormat → String
  | json => "json"
  | proto => "proto"

def all : List OutputFormat := [json, proto]

/-- The format with exactly a given name. -/
def ofName? (name : String) : Option OutputFormat := all.find? (·.name == name)

/-- The format that a text names, in any case; the binary format has two
names. -/
def ofText (text : String) : Except Fault OutputFormat :=
  let name := Text.lowercase text
  if name = "protobuf" then .ok proto
  else
    match ofName? name with
    | some format => .ok format
    | none => .error (.config (.unknownFormat name))

/-- A data word as `0x` and sixteen digits. -/
def dataText (data : Payload) : String := "0x" ++ Text.lowerHex 16 data.toNat

/-- A number in a document: whole numbers below 2^53 have no point, so that
readers may take them as integers. -/
def numberDocument (value : Binary64) : Document :=
  match value.toInt? with
  | some n => if n.natAbs < Nat.pow 2 53 then .integer n else .double value
  | none => .double value

def eventDocument : Event → Document
  | .number value => numberDocument value
  | .flag value => .flag value
  | .text value => .text value

/-- The document of a message. -/
def document : Message → Document
  | .numeric name value => .object [("name", .text name), ("value", numberDocument value)]
  | .boolean name value => .object [("name", .text name), ("value", .flag value)]
  | .text name value => .object [("name", .text name), ("value", .text value)]
  | .evented name value event =>
    .object [("name", .text name), ("value", .text value), ("event", eventDocument event)]
  | .raw key data =>
    .object [("bus", .integer key.bus.toNat), ("id", .integer key.id.toNat),
      ("data", .text (dataText data))]

/-- The bytes of a document and its end of line. -/
def jsonBytes (message : Message) : Wire.Bytes :=
  (document message).render.toUTF8.data.toList ++ [13, 10]

/-- Write a message whose texts are not too long.  An envelope goes through a
buffer of the greatest size that an envelope may have. -/
def write : OutputFormat → Message → Except Fault Wire.Bytes
  | json, message => .ok (jsonBytes message)
  | proto, message => (Wire.Envelope.ofMessage message).writeWithin Wire.Envelope.sizeLimit

/-- Encode a message, unless one of its texts is too long. -/
def encode (format : OutputFormat) (message : Message) : Except Fault Wire.Bytes :=
  match message.overlong? with
  | some fault => .error fault
  | none => format.write message

end OutputFormat

end VehicleBus

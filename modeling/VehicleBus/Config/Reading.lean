import VehicleBus.Config
import VehicleBus.Json.Reader
import VehicleBus.Toml.Reader

/-!
# Reading configurations

A configuration is read from a node.  Each record is a table, in which unknown
keys are passed over and a known key may occur once, or a list of its fields in
order, of which the last ones may be left out when they have a usual value.

The few points in which the text formats differ are collected in a `Dialect`.
-/

namespace VehicleBus.Config

/-- The decisions of a text format about records and choices. -/
structure Dialect where
  /-- May a record in the form of a list have more items than fields? -/
  surplusItems : Bool
  /-- The value that may stand behind the name of a choice when that name is
  written as the only key of a table. -/
  choicePayload : Node → Bool

namespace Dialect

/-- Configurations in JSON. -/
def json : Dialect where
  surplusItems := false
  choicePayload
    | .null => true
    | _ => false

/-- Configurations in TOML. -/
def toml : Dialect where
  surplusItems := true
  choicePayload
    | .table [] => true
    | .list [] => true
    | _ => false

end Dialect

/-! ## Values -/

def readFlag : Node → Option Bool
  | .flag value => some value
  | _ => none

def readText : Node → Option String
  | .text value => some value
  | _ => none

/-- An integer from zero to below a bound. -/
def readNatural (bound : Nat) : Node → Option Nat
  | .integer value => if 0 ≤ value ∧ value < bound then some value.toNat else none
  | _ => none

def readByte (node : Node) : Option UInt8 := (readNatural UInt8.size node).map UInt8.ofNat

def readWord (node : Node) : Option UInt32 := (readNatural UInt32.size node).map UInt32.ofNat

def readCode : Node → Option Int32
  | .integer value =>
    if Int32.minValue.toInt ≤ value ∧ value ≤ Int32.maxValue.toInt then some (Int32.ofInt value) else none
  | _ => none

def readDouble : Node → Option Binary64
  | .integer value => some (Binary64.ofInt value)
  | .real value => some value
  | _ => none

def readSingle : Node → Option Binary32
  | .integer value => some (Binary32.ofInt value)
  | .real value => some (Binary32.narrow value)
  | _ => none

/-- A list of values of one kind. -/
def readList {α : Type} (read : Node → Option α) : Node → Option (List α)
  | .list items => items.mapM read
  | _ => none

/-- A choice by its name. -/
def readChoice {α : Type} (dialect : Dialect) (ofName? : String → Option α) : Node → Option α
  | .text name => ofName? name
  | .table [(name, payload)] => if dialect.choicePayload payload then ofName? name else none
  | _ => none

/-! ## Records -/

/-- The fields of a record that are present. -/
abbrev Fields := List (String × Node)

/-- The known fields of a node, none of them twice. -/
def fields? (dialect : Dialect) (names : List String) : Node → Option Fields
  | .table members =>
    let known := members.filter fun member => names.contains member.1
    if (known.map (·.1)).Nodup then some known else none
  | .list items =>
    if dialect.surplusItems || decide (items.length ≤ names.length) then some (names.zip items)
    else none
  | _ => none

/-- A field that has to be there. -/
def required {α : Type} (fields : Fields) (name : String) (read : Node → Option α) : Option α :=
  (fields.lookup name).bind read

/-- A field with a usual value. -/
def optional {α : Type} (fields : Fields) (name : String) (usual : α) (read : Node → Option α) :
    Option α :=
  match fields.lookup name with
  | some node => read node
  | none => some usual

variable (dialect : Dialect)

def readBus (node : Node) : Option Bus := do
  let fields ← fields? dialect ["address", "raw_passthrough"] node
  return {
    address := ← required fields "address" readByte
    rawPassthrough := ← optional fields "raw_passthrough" false readFlag }

def readState (node : Node) : Option SignalState := do
  let fields ← fields? dialect ["value", "name"] node
  return {
    code := ← required fields "value" readCode
    name := ← required fields "name" readText }

/-- The fields of a signal, in order. -/
def signalFields : List String :=
  ["generic_name", "bit_position", "bit_size", "factor", "offset", "frequency_hz",
    "force_send_changed", "send_same", "handler", "states"]

def readSignal (node : Node) : Option SignalDef := do
  let fields ← fields? dialect signalFields node
  return {
    name := ← required fields "generic_name" readText
    position := ← required fields "bit_position" readByte
    size := ← required fields "bit_size" readByte
    factor := ← optional fields "factor" Binary64.one readDouble
    offset := ← optional fields "offset" Binary64.zero readDouble
    frequency := ← optional fields "frequency_hz" Binary32.zero readSingle
    forceChanged := ← optional fields "force_send_changed" false readFlag
    sendSame := ← optional fields "send_same" true readFlag
    handler := ← optional fields "handler" .passthrough (readChoice dialect HandlerKind.ofName?)
    states := ← optional fields "states" [] (readList (readState dialect)) }

def readMessage (node : Node) : Option MessageDef := do
  let fields ← fields? dialect ["bus", "id", "signals"] node
  return {
    key := ⟨← required fields "bus" readByte, ← required fields "id" readWord⟩
    signals := ← optional fields "signals" [] (readList (readSignal dialect)) }

def readRawMessage (node : Node) : Option RawMessageDef := do
  let fields ← fields? dialect ["bus", "id", "frequency_hz", "force_send_changed"] node
  return {
    key := ⟨← required fields "bus" readByte, ← required fields "id" readWord⟩
    frequency := ← optional fields "frequency_hz" Binary32.zero readSingle
    forceChanged := ← optional fields "force_send_changed" false readFlag }

/-- The fields of a configuration, in order. -/
def vehicleFields : List String :=
  ["output_format", "message_capacity", "raw_frequency_hz", "buses", "messages", "raw_messages"]

/-- The configuration of a node. -/
def Vehicle.ofNode? (node : Node) : Option Vehicle := do
  let fields ← fields? dialect vehicleFields node
  return {
    format := ← optional fields "output_format" .json (readChoice dialect OutputFormat.ofName?)
    capacity := ← optional fields "message_capacity" 64 (readNatural UInt64.size)
    rawFrequency := ← optional fields "raw_frequency_hz" Binary32.zero readSingle
    buses := ← optional fields "buses" [] (readList (readBus dialect))
    messages := ← optional fields "messages" [] (readList (readMessage dialect))
    rawMessages := ← optional fields "raw_messages" [] (readList (readRawMessage dialect)) }

/-- Read a configuration from a JSON text. -/
def Vehicle.ofJson? (text : String) : Option Vehicle :=
  (Node.ofJson? text).bind (Vehicle.ofNode? Dialect.json)

/-- Read a configuration from a TOML text. -/
def Vehicle.ofToml? (text : String) : Option Vehicle :=
  (Node.ofToml? text).bind (Vehicle.ofNode? Dialect.toml)

end VehicleBus.Config

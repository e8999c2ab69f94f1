import VehicleBus.Wire.Varint

/-!
# Fields of a record

A record is a sequence of fields, each a number and a value in one of the wire
forms.  Writing puts fields one after the other; reading splits a sequence of
bytes back into fields before anyone asks what they mean.

Groups are an old way to nest records.  They are never written; a reader checks
that they are well formed and passes over them.
-/

namespace VehicleBus.Wire

/-- The wire form of a value. -/
inductive Value where
  | varint (value : Nat)
  /-- Eight bytes, the lowest first. -/
  | fixed64 (bytes : Bytes)
  | bytes (value : Bytes)
  /-- A group, whose fields nobody reads. -/
  | group
  /-- Four bytes, the lowest first. -/
  | fixed32 (bytes : Bytes)
deriving DecidableEq, Repr

structure Field where
  number : Nat
  value : Value
deriving DecidableEq, Repr

/-! ## Writing -/

/-- A field that holds a number of variable length. -/
def varintField (number value : Nat) : Bytes := varint (number * 8) ++ varint value

/-- A field that holds a 64-bit word, the lowest byte first. -/
def fixed64Field (number : Nat) (word : UInt64) : Bytes :=
  varint (number * 8 + 1) ++ (List.range 8).map fun i => UInt8.ofNat (word.toNat / Nat.pow 256 i)

/-- A field that holds a sequence of bytes behind its length. -/
def bytesField (number : Nat) (bytes : Bytes) : Bytes :=
  varint (number * 8 + 2) ++ varint bytes.length ++ bytes

/-! ## Reading -/

/-- Cut a number of bytes off the front. -/
def takeBytes (count : Nat) (bytes : Bytes) : Option (Bytes × Bytes) :=
  if count ≤ bytes.length then some (bytes.take count, bytes.drop count) else none

/-- Read the number and the wire form of a field.  Keys have at most 32 bits,
and no field has the number zero. -/
def readKey (bytes : Bytes) : Option (Nat × Nat × Bytes) :=
  match readVarint bytes with
  | some (key, rest) =>
    if key < UInt32.size ∧ 8 ≤ key then some (key / 8, key % 8, rest) else none
  | none => none

/-- Read the value of a field that is no group. -/
def readScalar (form : Nat) (bytes : Bytes) : Option (Value × Bytes) :=
  match form with
  | 0 => (readVarint bytes).map fun (value, rest) => (.varint value, rest)
  | 1 => (takeBytes 8 bytes).map fun (value, rest) => (.fixed64 value, rest)
  | 2 => do
    let (length, rest) ← readVarint bytes
    let (value, rest) ← takeBytes length rest
    return (.bytes value, rest)
  | 5 => (takeBytes 4 bytes).map fun (value, rest) => (.fixed32 value, rest)
  | _ => none

/-- Pass over the fields of an open group up to its end.  `depth` bounds how
much deeper groups may nest, and `fuel` the number of fields. -/
def skipGroup : (fuel depth number : Nat) → Bytes → Option Bytes
  | 0, _, _, _ => none
  | fuel + 1, depth, number, bytes =>
    match readKey bytes with
    | none => none
    | some (inner, form, rest) =>
      if form = 4 then
        if inner = number then some rest else none
      else
        match depth with
        | 0 => none
        | depth + 1 =>
          if form = 3 then
            match skipGroup fuel depth inner rest with
            | some rest => skipGroup fuel (depth + 1) number rest
            | none => none
          else
            match readScalar form rest with
            | some (_, rest) => skipGroup fuel (depth + 1) number rest
            | none => none

/-- Read one field. -/
def readField (depth : Nat) (bytes : Bytes) : Option (Field × Bytes) :=
  match readKey bytes with
  | none => none
  | some (number, form, rest) =>
    if form = 3 then
      (skipGroup (rest.length + 1) (depth - 1) number rest).map fun rest => (⟨number, .group⟩, rest)
    else
      (readScalar form rest).map fun (value, rest) => (⟨number, value⟩, rest)

/-- Split bytes into fields, at most `fuel` of them. -/
def readFieldsWithin : (fuel depth : Nat) → Bytes → Option (List Field)
  | _, _, [] => some []
  | 0, _, _ :: _ => none
  | fuel + 1, depth, bytes =>
    match readField depth bytes with
    | some (field, rest) => (readFieldsWithin fuel depth rest).map (field :: ·)
    | none => none

/-- Split the whole of a record into its fields.  Every field takes at least one
byte, so the length bounds their number. -/
def readFields (depth : Nat) (bytes : Bytes) : Option (List Field) :=
  readFieldsWithin bytes.length depth bytes

end VehicleBus.Wire

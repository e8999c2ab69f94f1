import VehicleBus.Wire.Field
import VehicleBus.Proofs.Wire.Varint

/-!
# Fields read back

`Field.bytes` is the written form of a field, and `Field.Fits` says which fields
have one: the number needs a key of 32 bits, a number and a length at most 64
bits, and a group is never written.  A field that fits is read back from the
front of any bytes, and a row of such fields is split into just these fields.
-/

namespace VehicleBus.Wire

/-! ## Written fields -/

/-- The written form of a field. -/
def Field.bytes : Field → Bytes
  | ⟨number, .varint value⟩ => varintField number value
  | ⟨number, .fixed64 word⟩ => varint (number * 8 + 1) ++ word
  | ⟨number, .bytes value⟩ => bytesField number value
  | ⟨_, .group⟩ => []
  | ⟨number, .fixed32 word⟩ => varint (number * 8 + 5) ++ word

/-- Can a value be written? -/
def Value.Fits : Value → Prop
  | .varint value => value < 2 ^ 64
  | .fixed64 word => word.length = 8
  | .bytes value => value.length < 2 ^ 64
  | .group => False
  | .fixed32 word => word.length = 4

/-- The numbers that a field may have. -/
def ValidNumber (number : Nat) : Prop := 0 < number ∧ number < 2 ^ 29

instance (number : Nat) : Decidable (ValidNumber number) := by
  unfold ValidNumber; infer_instance

/-- Can a field be written? -/
structure Field.Fits (field : Field) : Prop where
  number : ValidNumber field.number
  value : field.value.Fits

/-- A written key is read back, with the rest of the stream. -/
theorem readKey_append {number : Nat} (hnumber : ValidNumber number) (form : Nat)
    (hform : form < 8) (rest : Bytes) :
    readKey (varint (number * 8 + form) ++ rest) = some (number, form, rest) := by
  obtain ⟨hpos, hlt⟩ := hnumber
  have hkey : number * 8 + form < UInt32.size ∧ 8 ≤ number * 8 + form := by
    simp only [UInt32.size]
    omega
  have hquot : (number * 8 + form) / 8 = number := by omega
  have hrem : (number * 8 + form) % 8 = form := by omega
  simp only [readKey, readVarint_append (by omega : number * 8 + form < 2 ^ 64), if_pos hkey,
    hquot, hrem]

/-- Bytes are taken off the front of a stream. -/
theorem takeBytes_append (front rest : Bytes) :
    takeBytes front.length (front ++ rest) = some (front, rest) := by
  simp [takeBytes]

/-- **Fields read back.**  A field that can be written is read from the front of
any bytes. -/
theorem readField_append {field : Field} (h : field.Fits) (depth : Nat) (rest : Bytes) :
    readField depth (field.bytes ++ rest) = some (field, rest) := by
  obtain ⟨number, value⟩ := field
  obtain ⟨hnumber, hvalue⟩ := h
  cases value with
  | varint n =>
      have hkey := readKey_append hnumber 0 (by omega) (varint n ++ rest)
      simp only [Nat.add_zero] at hkey
      simp [Field.bytes, varintField, readField, hkey, readScalar, readVarint_append hvalue]
  | fixed64 word =>
      have hkey := readKey_append hnumber 1 (by omega) (word ++ rest)
      have htake := takeBytes_append word rest
      rw [hvalue] at htake
      simp [Field.bytes, readField, hkey, readScalar, htake]
  | bytes content =>
      have hkey := readKey_append hnumber 2 (by omega)
        (varint content.length ++ (content ++ rest))
      simp [Field.bytes, bytesField, readField, hkey, readScalar, readVarint_append hvalue,
        takeBytes_append]
  | group => exact hvalue.elim
  | fixed32 word =>
      have hkey := readKey_append hnumber 5 (by omega) (word ++ rest)
      have htake := takeBytes_append word rest
      rw [hvalue] at htake
      simp [Field.bytes, readField, hkey, readScalar, htake]

/-- A field that can be written starts with a key. -/
theorem Field.Fits.bytes_length_pos {field : Field} (h : field.Fits) :
    0 < field.bytes.length := by
  obtain ⟨number, value⟩ := field
  cases value with
  | group => exact h.value.elim
  | varint n =>
      have := varint_length_pos (number * 8)
      simp only [Field.bytes, varintField, List.length_append]
      omega
  | fixed64 word =>
      have := varint_length_pos (number * 8 + 1)
      simp only [Field.bytes, List.length_append]
      omega
  | bytes content =>
      have := varint_length_pos (number * 8 + 2)
      simp only [Field.bytes, bytesField, List.length_append]
      omega
  | fixed32 word =>
      have := varint_length_pos (number * 8 + 5)
      simp only [Field.bytes, List.length_append]
      omega

/-- Written fields are split again, as long as there is fuel for each. -/
theorem readFieldsWithin_flatMap {fuel : Nat} {fields : List Field}
    (hfits : ∀ field ∈ fields, field.Fits) (hfuel : fields.length ≤ fuel) (depth : Nat) :
    readFieldsWithin fuel depth (fields.flatMap Field.bytes) = some fields := by
  induction fields generalizing fuel with
  | nil => simp [readFieldsWithin]
  | cons field rest ih =>
      obtain ⟨fuel, rfl⟩ : ∃ n, fuel = n + 1 := ⟨fuel - 1, by simp at hfuel; omega⟩
      have hfield := hfits field List.mem_cons_self
      have hrest := ih (fun other hother => hfits other (List.mem_cons_of_mem _ hother))
        (by simpa using hfuel)
      have hread := readField_append hfield depth (rest.flatMap Field.bytes)
      obtain ⟨byte, tail, hbytes⟩ := List.exists_cons_of_length_pos hfield.bytes_length_pos
      rw [List.flatMap_cons]
      rw [hbytes, List.cons_append] at hread ⊢
      simp only [readFieldsWithin, hread, hrest, Option.map_some]

/-- Every field takes a byte at least. -/
theorem length_le_length_flatMap {fields : List Field}
    (hfits : ∀ field ∈ fields, field.Fits) :
    fields.length ≤ (fields.flatMap Field.bytes).length := by
  induction fields with
  | nil => simp
  | cons field rest ih =>
      have hfield := (hfits field List.mem_cons_self).bytes_length_pos
      have hrest := ih (fun other hother => hfits other (List.mem_cons_of_mem _ hother))
      simp only [List.flatMap_cons, List.length_append, List.length_cons]
      omega

/-- A row of written fields is split into these fields. -/
theorem readFields_flatMap {fields : List Field} (hfits : ∀ field ∈ fields, field.Fits)
    (depth : Nat) : readFields depth (fields.flatMap Field.bytes) = some fields :=
  readFieldsWithin_flatMap hfits (length_le_length_flatMap hfits) depth

end VehicleBus.Wire

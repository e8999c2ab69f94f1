import VehicleBus.Wire.Envelope
import VehicleBus.Proofs.Message
import VehicleBus.Proofs.Wire.Varint

/-!
# Sizes of envelopes

The buffer that an envelope is written into is as large as an envelope with all
of its records would need.  A message fills only one record, each of whose parts
keeps its own bound, so a message within its limits always fits
(`delimited_length_le_sizeLimit`).

All field numbers are below 16, so every key is a single byte.
-/

namespace VehicleBus.Wire

/-! ## Fields -/

/-- A small key takes one byte. -/
theorem key_length {key : Nat} (h : key < 128) : (varint key).length = 1 := by
  rw [varint_of_lt h, List.length_singleton]

/-- A bounded number takes no more bytes than its bound behind its key. -/
theorem varintField_length_le {number : Nat} (hnumber : number < 16) {value limit : Nat}
    (hvalue : value ≤ limit) :
    (varintField number value).length ≤ 1 + (varint limit).length := by
  have hkey := key_length (by omega : number * 8 < 128)
  have hmono := varint_length_mono hvalue
  simp only [varintField, List.length_append]
  omega

/-- A number of at most 64 bits takes at most ten bytes behind its key. -/
theorem varintField_length_le_of_lt {number : Nat} (hnumber : number < 16) {value groups : Nat}
    (hvalue : value < 128 ^ (groups + 1)) :
    (varintField number value).length ≤ 1 + (groups + 1) := by
  have hkey := key_length (by omega : number * 8 < 128)
  have hlength := varint_length_le hvalue
  simp only [varintField, List.length_append]
  omega

/-- A number of fixed width takes eight bytes behind its key. -/
theorem fixed64Field_length {number : Nat} (hnumber : number < 16) (word : UInt64) :
    (fixed64Field number word).length = 1 + 8 := by
  have hkey := key_length (by omega : number * 8 + 1 < 128)
  simp only [fixed64Field, List.length_append, List.length_map, List.length_range]
  omega

namespace Envelope

theorem delimitedSize_mono {m n : Nat} (h : m ≤ n) : delimitedSize m ≤ delimitedSize n := by
  have := varint_length_mono h
  unfold delimitedSize
  omega

/-- Bounded content takes no more than the bytes of its bound. -/
theorem bytesField_length_le {number : Nat} (hnumber : number < 16) {content : Bytes}
    {limit : Nat} (hcontent : content.length ≤ limit) :
    (bytesField number content).length ≤ delimitedSize limit := by
  have hkey := key_length (by omega : number * 8 + 2 < 128)
  have hmono := delimitedSize_mono hcontent
  simp only [delimitedSize] at hmono
  simp only [bytesField, delimitedSize, List.length_append]
  omega

/-- A text within its limit takes no more than the bytes of the limit. -/
theorem text_length_le {number : Nat} (hnumber : number < 16) {text : String} {limit : Nat}
    (htext : text.utf8ByteSize ≤ limit) :
    (Scalar.text.write number text).length ≤ delimitedSize limit := by
  apply bytesField_length_le hnumber
  simpa using htext

/-- A truth value takes two bytes. -/
theorem bool_length_le {number : Nat} (hnumber : number < 16) (flag : Bool) :
    (Scalar.bool.write number flag).length ≤ 1 + 1 :=
  varintField_length_le_of_lt hnumber (by cases flag <;> decide)

/-! ## Records -/

/-- A raw record takes no more than its three numbers at their widest. -/
theorem raw_length_le (bus : Int32) (id : UInt32) (data : UInt64) :
    (RawRecord.bytes ⟨some bus, some id, some data⟩).length ≤ (1 + 10) + (1 + 5) + (1 + 10) := by
  have hbus : (Scalar.int32.write 1 bus).length ≤ 1 + (9 + 1) :=
    varintField_length_le_of_lt (by omega) (by omega)
  have hid : (Scalar.uint32.write 2 id).length ≤ 1 + (4 + 1) :=
    varintField_length_le_of_lt (by omega) (by have := id.toNat_lt; omega)
  have hdata : (Scalar.uint64.write 3 data).length ≤ 1 + (9 + 1) :=
    varintField_length_le_of_lt (by omega) (by have := data.toNat_lt; omega)
  simp only [RawRecord.bytes, Scalar.writeOption, List.length_append]
  omega

section

variable {α : Type} {scalar : Scalar α} {name value : String} {size : Nat}

/-- A named record takes no more than its name and its value at their limits. -/
theorem named_length_le {content : α} (hname : name.utf8ByteSize ≤ nameLimit)
    (hcontent : (scalar.write 2 content).length ≤ size) :
    (NamedRecord.bytes scalar ⟨some name, some content⟩).length ≤
      delimitedSize nameLimit + size := by
  have := text_length_le (by omega : 1 < 16) hname
  simp only [NamedRecord.bytes, Scalar.writeOption, List.length_append]
  omega

/-- An event record takes no more than its name, its value and its event at their limits.
-/
theorem evented_length_le {event : α} (hname : name.utf8ByteSize ≤ nameLimit)
    (hvalue : value.utf8ByteSize ≤ valueLimit)
    (hevent : (scalar.write 3 event).length ≤ size) :
    (EventRecord.bytes scalar ⟨some name, some value, some event⟩).length ≤
      delimitedSize nameLimit + delimitedSize valueLimit + size := by
  have := text_length_le (by omega : 1 < 16) hname
  have := text_length_le (by omega : 2 < 16) hvalue
  simp only [EventRecord.bytes, Scalar.writeOption, List.length_append]
  omega

end

/-! ## Envelopes -/

/-- The type of an envelope takes as many bytes as the greatest type does. -/
theorem type_length_le (type : EnvelopeType) :
    (Scalar.int32.write 1 type.code).length ≤
      1 + (varint EnvelopeType.eventFlag.code.toInt.toNat).length :=
  varintField_length_le (by omega) (by cases type <;> decide)

/-- The type of the envelope of a message. -/
def typeOf : Message → EnvelopeType
  | .raw _ _ => .raw
  | .text _ _ => .text
  | .numeric _ _ => .number
  | .boolean _ _ => .flag
  | .evented _ _ (.text _) => .eventText
  | .evented _ _ (.number _) => .eventNumber
  | .evented _ _ (.flag _) => .eventFlag

/-- The record that a message fills. -/
def recordOf : Message → Bytes
  | .raw key data => RawRecord.bytes ⟨some key.bus.toUInt32.toInt32, some key.id, some data⟩
  | .text name value => NamedRecord.bytes Scalar.text ⟨some name, some value⟩
  | .numeric name value => NamedRecord.bytes Scalar.double ⟨some name, some value⟩
  | .boolean name value => NamedRecord.bytes Scalar.bool ⟨some name, some value⟩
  | .evented name value (.text event) =>
    EventRecord.bytes Scalar.text ⟨some name, some value, some event⟩
  | .evented name value (.number event) =>
    EventRecord.bytes Scalar.double ⟨some name, some value, some event⟩
  | .evented name value (.flag event) =>
    EventRecord.bytes Scalar.bool ⟨some name, some value, some event⟩

/-- The field of the record that goes with a type. -/
def fieldOf : EnvelopeType → Nat
  | .raw => 2
  | .text => 3
  | .number => 4
  | .flag => 5
  | .eventText => 6
  | .eventNumber => 7
  | .eventFlag => 8

/-- The greatest size of the record that goes with a type. -/
def recordLimit : EnvelopeType → Nat
  | .raw => (1 + 10) + (1 + 5) + (1 + 10)
  | .text => delimitedSize nameLimit + delimitedSize valueLimit
  | .number => delimitedSize nameLimit + (1 + 8)
  | .flag => delimitedSize nameLimit + (1 + 1)
  | .eventText => delimitedSize nameLimit + 2 * delimitedSize valueLimit
  | .eventNumber => delimitedSize nameLimit + delimitedSize valueLimit + (1 + 8)
  | .eventFlag => delimitedSize nameLimit + delimitedSize valueLimit + (1 + 1)

/-- The envelope of a message is its type and one record. -/
theorem bytes_ofMessage (message : Message) :
    (ofMessage message).bytes = Scalar.int32.write 1 (typeOf message).code ++
      bytesField (fieldOf (typeOf message)) (recordOf message) := by
  cases message with
  | evented name value event =>
      cases event <;>
        simp [ofMessage, bytes, recordField, Scalar.writeOption, typeOf, fieldOf, recordOf]
  | _ => simp [ofMessage, bytes, recordField, Scalar.writeOption, typeOf, fieldOf, recordOf]

/-- The record of a message within its limits keeps the limit of its type. -/
theorem recordOf_length_le {message : Message} (h : message.Bounded) :
    (recordOf message).length ≤ recordLimit (typeOf message) := by
  cases message with
  | numeric name value =>
      have hvalue : (Scalar.double.write 2 value).length ≤ 1 + 8 :=
        Nat.le_of_eq (fixed64Field_length (by omega) value.bits)
      exact named_length_le h hvalue
  | boolean name value => exact named_length_le h (bool_length_le (by omega) value)
  | text name value => exact named_length_le h.1 (text_length_le (by omega) h.2)
  | evented name value event =>
      obtain ⟨hname, hvalue, hevent⟩ := h
      cases event with
      | number event =>
          have hcontent : (Scalar.double.write 3 event).length ≤ 1 + 8 :=
            Nat.le_of_eq (fixed64Field_length (by omega) event.bits)
          exact evented_length_le hname hvalue hcontent
      | flag event => exact evented_length_le hname hvalue (bool_length_le (by omega) event)
      | text event =>
          have hrecord := evented_length_le hname hvalue
            (text_length_le (by omega : 3 < 16) (hevent event rfl))
          simp only [recordOf, recordLimit, typeOf]
          omega
  | raw key data => exact raw_length_le key.bus.toUInt32.toInt32 key.id data

/-- There is room for a type and any one record. -/
theorem delimitedSize_recordLimit_le (type : EnvelopeType) :
    1 + (varint EnvelopeType.eventFlag.code.toInt.toNat).length +
      delimitedSize (recordLimit type) ≤ bodyLimit := by
  cases type <;> simp only [recordLimit, bodyLimit] <;> omega

/-- The envelope of a message within its limits is no larger than an envelope
may be. -/
theorem bytes_length_le_bodyLimit {message : Message} (h : message.Bounded) :
    (ofMessage message).bytes.length ≤ bodyLimit := by
  have htype := type_length_le (typeOf message)
  have hnumber : fieldOf (typeOf message) < 16 := by cases typeOf message <;> decide
  have hrecord := bytesField_length_le hnumber (recordOf_length_le h)
  have hroom := delimitedSize_recordLimit_le (typeOf message)
  rw [bytes_ofMessage, List.length_append]
  omega

/-- **Messages within their limits fit the buffer.** -/
theorem delimited_length_le_sizeLimit {message : Message} (h : message.Bounded) :
    (ofMessage message).delimited.length ≤ sizeLimit := by
  have hbody := bytes_length_le_bodyLimit h
  have hmono := varint_length_mono hbody
  simp only [delimited, sizeLimit, List.length_append]
  omega

/-- A field takes no more than twice its content and two bytes. -/
theorem delimitedSize_le (n : Nat) : delimitedSize n ≤ 2 * n + 2 := by
  have hpow : n < 128 ^ (n + 1) :=
    Nat.lt_of_lt_of_le (Nat.lt_pow_self (by omega)) (Nat.pow_le_pow_right (by omega) (by omega))
  have := varint_length_le hpow
  unfold delimitedSize
  omega

/-- An envelope is far shorter than the lengths that a stream can carry. -/
theorem bodyLimit_lt : bodyLimit < 2 ^ 64 := by
  have htype : (varint EnvelopeType.eventFlag.code.toInt.toNat).length = 1 :=
    key_length (by decide)
  have hname : delimitedSize nameLimit ≤ 2 * 100 + 2 := delimitedSize_le nameLimit
  have hvalue : delimitedSize valueLimit ≤ 2 * 100 + 2 := delimitedSize_le valueLimit
  have hsize := delimitedSize_le
  have hraw := hsize ((1 + 10) + (1 + 5) + (1 + 10))
  have htext := hsize (delimitedSize nameLimit + delimitedSize valueLimit)
  have hnumber := hsize (delimitedSize nameLimit + (1 + 8))
  have hflag := hsize (delimitedSize nameLimit + (1 + 1))
  have heventText := hsize (delimitedSize nameLimit + 2 * delimitedSize valueLimit)
  have heventNumber := hsize (delimitedSize nameLimit + delimitedSize valueLimit + (1 + 8))
  have heventFlag := hsize (delimitedSize nameLimit + delimitedSize valueLimit + (1 + 1))
  simp only [bodyLimit]
  omega

/-- A message within its limits has an envelope whose length can be written. -/
theorem bytes_length_lt {message : Message} (h : message.Bounded) :
    (ofMessage message).bytes.length < 2 ^ 64 :=
  Nat.lt_of_le_of_lt (bytes_length_le_bodyLimit h) bodyLimit_lt

end Envelope

end VehicleBus.Wire

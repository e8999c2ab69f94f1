import VehicleBus.Encoding
import VehicleBus.Proofs.Frame.Line

/-!
# Ways to write a frame

A frame without a time may be written in many ways: the bus may have any name in front of
its number, zeros may lead the numbers of bus and identifier, letters may be in upper or
in lower case, and blanks may be around the two words.  All of them are read as the same
frame (`Frame.ofLine_spelling`).  In particular the data of a forwarded frame can be taken
from its document.
-/

namespace VehicleBus

open Text

/-- What is free in the text of a frame, apart from the case of its data. -/
structure Spelling where
  before : List Char := []
  name : List Char := []
  busZeros : Nat := 0
  between : List Char := [' ']
  id : List Char
  after : List Char := []

namespace Spelling

/-- The digits of a bus. -/
def busDigits (spelling : Spelling) (bus : UInt8) : List Char :=
  List.replicate spelling.busZeros '0' ++ Nat.toDigits 10 bus.toNat

/-- The line of a frame on a bus, with some text as its data. -/
def lineText (spelling : Spelling) (bus : UInt8) (data : List Char) : String :=
  String.ofList (spelling.before ++ (spelling.name ++ spelling.busDigits bus) ++
    spelling.between ++ (spelling.id ++ '#' :: data) ++ spelling.after)

/-- The text is one of the given key. -/
structure Lawful (spelling : Spelling) (key : Key) : Prop where
  before : AllBlank spelling.before
  name : ∀ c ∈ spelling.name, isBlank c = false ∧ c.isDigit = false
  opening : ∀ c ∈ spelling.name.head?, c ≠ '(' ∧ c ≠ ';'
  between : AllBlank spelling.between ∧ spelling.between ≠ []
  id : ∃ zeros, spelling.id.map Char.toLower =
    List.replicate zeros '0' ++ Nat.toDigits 16 key.id.toNat
  idBound : key.id.toNat ≤ 0x1FFFFFFF
  after : AllBlank spelling.after

variable {spelling : Spelling} {key : Key}

/-- However a bus is spelled, its digits have its value. -/
theorem valueOfDigits_busDigits (spelling : Spelling) (bus : UInt8) :
    valueOfDigits 10 (spelling.busDigits bus) = bus.toNat := by
  rw [busDigits, valueOfDigits_replicate_append, valueOfDigits_toDigits (by decide) (by decide)]

/-- A bus is spelled with decimal digits. -/
theorem isDigit_of_mem_busDigits {bus : UInt8} {c : Char} (h : c ∈ spelling.busDigits bus) :
    c.isDigit = true := by
  rcases List.mem_append.mp h with hzero | hdigit
  · rw [List.eq_of_mem_replicate hzero]
    rfl
  · exact Nat.isDigit_of_mem_toDigits (by decide) (by decide) hdigit

/-- However an identifier is spelled, its digits have its value. -/
theorem Lawful.valueOfDigits_id (h : spelling.Lawful key) :
    valueOfDigits 16 spelling.id = key.id.toNat := by
  obtain ⟨zeros, hid⟩ := h.id
  rw [← valueOfDigits_map_toLower, hid, valueOfDigits_replicate_append,
    valueOfDigits_toDigits (by decide) (by decide)]

/-- The spelling of an identifier is a hexadecimal numeral. -/
theorem Lawful.isSignedNumeral_id (h : spelling.Lawful key) : IsSignedNumeral 16 spelling.id := by
  obtain ⟨zeros, hid⟩ := h.id
  refine ⟨spelling.id, .inl rfl, ?_, fun c hc => isSome_digit?_sixteen.mpr ?_⟩
  · intro hnil
    rw [hnil, List.map_nil] at hid
    exact Nat.toDigits_ne_nil (List.append_eq_nil_iff.mp hid.symm).2
  · have hlower : c.toLower ∈ List.replicate zeros '0' ++ Nat.toDigits 16 key.id.toNat := by
      rw [← hid]
      exact List.mem_map_of_mem hc
    rw [isHexDigit, ← hexDigit?_toLower, ← isHexDigit]
    rcases List.mem_append.mp hlower with hzero | hdigit
    · rw [List.eq_of_mem_replicate hzero]
      rfl
    · exact isHexDigit_of_mem_toDigits hdigit

end Spelling

namespace Frame

variable {spelling : Spelling} {key : Key}

/-- A line with two digits for each of up to eight bytes is read. -/
theorem ofLine_digits (h : spelling.Lawful key) {data : List Char} {count : Nat}
    (hdigits : ∀ c ∈ data, isHexDigit c = true) (hlength : data.length = 2 * count)
    (hcount : count ≤ 8) {payload : Payload}
    (hpayload : payload.toNat = valueOfDigits 16 data * 256 ^ (8 - count)) :
    ofLine (spelling.lineText key.bus data) = .ok (some ⟨key, payload, none⟩) := by
  have heven : data.length % 2 = 0 := by omega
  obtain ⟨pairs, rfl⟩ := exists_pairs heven
  rw [length_pairChars] at hlength
  obtain rfl : pairs.length = count := by omega
  let line : FrameLine :=
    { before := spelling.before, name := spelling.name, bus := spelling.busDigits key.bus,
      between := spelling.between, id := spelling.id, data := pairs, after := spelling.after }
  have hlawful : line.Lawful :=
    { before := h.before
      time := by simp [line]
      opening := fun _ => h.opening
      name := h.name
      bus := ⟨List.append_ne_nil_of_right_ne_nil _ Nat.toDigits_ne_nil,
        fun c hc => Spelling.isDigit_of_mem_busDigits hc⟩
      between := h.between
      id := h.isSignedNumeral_id
      data := ⟨hcount, fun pair hpair =>
        ⟨.inl (hdigits _ (mem_pairChars hpair).1), hdigits _ (mem_pairChars hpair).2⟩⟩
      after := h.after }
  have htells : line.Tells ⟨key, payload, none⟩ :=
    { bus := spelling.valueOfDigits_busDigits key.bus
      id := h.valueOfDigits_id
      idBound := h.idBound
      payload := hpayload
      timestamp := rfl }
  have htext : spelling.lineText key.bus (pairChars pairs) = String.ofList line.chars := by
    simp [Spelling.lineText, FrameLine.chars, FrameLine.busWord, FrameLine.bodyWord, line]
  rw [htext]
  exact ofLine_of_tells hlawful htells

/-! ## Data -/

/-- The digits of bytes, in lower case. -/
def bytesText (bytes : List UInt8) : List Char := bytes.flatMap fun byte => (byteHex byte).toList

/-- The text of some bytes has two digits for each. -/
theorem length_bytesText (bytes : List UInt8) : (bytesText bytes).length = 2 * bytes.length := by
  induction bytes with
  | nil => rfl
  | cons byte bytes ih =>
      have hbyte : (byteHex byte).toList.length = 2 := length_lowerHex (by decide) byte.toNat_lt
      rw [bytesText, List.flatMap_cons, List.length_append, hbyte, ← bytesText, ih,
        List.length_cons]
      omega

theorem isHexDigit_of_mem_bytesText {bytes : List UInt8} {c : Char} (h : c ∈ bytesText bytes) :
    isHexDigit c = true := by
  obtain ⟨byte, -, hc⟩ := List.mem_flatMap.mp h
  exact isHexDigit_of_mem_lowerHex hc

/-- The text of some bytes has their value. -/
theorem valueOfDigits_bytesText (bytes : List UInt8) :
    valueOfDigits 16 (bytesText bytes) = valueOfBytes bytes := by
  induction bytes using List.reverseRecOn with
  | nil => rfl
  | append_singleton bytes byte ih =>
      have hbyte : valueOfDigits 16 (byteHex byte).toList = byte.toNat := valueOfDigits_lowerHex 2 _
      have hlength : (byteHex byte).toList.length = 2 := length_lowerHex (by decide) byte.toNat_lt
      have hsplit : bytesText (bytes ++ [byte]) = bytesText bytes ++ (byteHex byte).toList := by
        simp [bytesText]
      rw [hsplit, valueOfDigits, appendDigits_append, ← valueOfDigits, appendDigits_eq, ih, hbyte,
        hlength, valueOfBytes_append_singleton]
      rfl

/-- **Every way to write a frame is read as that frame**: with bytes in either case, which
are aligned to the left, and with the digits of a data word as they stand in documents. -/
theorem ofLine_spelling (h : spelling.Lawful key) :
    (∀ (bytes : List UInt8) (data : List Char), bytes.length ≤ 8 →
      data.map Char.toLower = bytesText bytes →
      ofLine (spelling.lineText key.bus data) =
        .ok (some ⟨key, UInt64.ofNat (valueOfBytes bytes * 256 ^ (8 - bytes.length)), none⟩)) ∧
    ∀ payload, ofLine (spelling.lineText key.bus
        ((OutputFormat.dataText payload).toList.drop 2)) = .ok (some ⟨key, payload, none⟩) := by
  constructor
  · intro bytes data hbytes hdata
    have hlength : data.length = 2 * bytes.length := by
      rw [← length_bytesText, ← hdata, List.length_map]
    have hdigits : ∀ c ∈ data, isHexDigit c = true := by
      intro c hc
      have hlower : c.toLower ∈ bytesText bytes := hdata ▸ List.mem_map_of_mem hc
      rw [isHexDigit, ← hexDigit?_toLower]
      exact isHexDigit_of_mem_bytesText hlower
    have hvalue : valueOfDigits 16 data = valueOfBytes bytes := by
      rw [← valueOfDigits_map_toLower, hdata, valueOfDigits_bytesText]
    refine ofLine_digits h hdigits hlength hbytes ?_
    rw [hvalue, ← toNat_payloadOfBytes hbytes, UInt64.ofNat_toNat]
  · intro payload
    have hdata : (OutputFormat.dataText payload).toList.drop 2 =
        (lowerHex 16 payload.toNat).toList := by
      simp [OutputFormat.dataText]
    have hlength : (lowerHex 16 payload.toNat).toList.length = 16 :=
      length_lowerHex (by decide) payload.toNat_lt
    rw [hdata]
    refine ofLine_digits h (fun c hc => isHexDigit_of_mem_lowerHex hc) hlength (Nat.le_refl 8) ?_
    rw [valueOfDigits_lowerHex, Nat.sub_self, Nat.pow_zero, Nat.mul_one]

/-- A bus with a zero in front of it, digits in both cases, and blanks and tabs around the
words: two bytes of data, and all eight. -/
theorem ofLine_spelling_mixed :
    ofLine "\tvcan01 \t07eC#0aB1 " = .ok (some ⟨⟨1, 0x7EC⟩, 0x0AB1000000000000, none⟩) ∧
      ofLine ("\tvcan01 \t07eC#" ++ "0123456789abcdef" ++ " ") =
        .ok (some ⟨⟨1, 0x7EC⟩, 0x0123456789ABCDEF, none⟩) := by
  let spelling : Spelling :=
    { before := ['\t'], name := ['v', 'c', 'a', 'n'], busZeros := 1, between := [' ', '\t'],
      id := ['0', '7', 'e', 'C'], after := [' '] }
  have h : spelling.Lawful ⟨1, 0x7EC⟩ :=
    { before := by simp [AllBlank, spelling]; decide
      name := by simp [spelling]; decide
      opening := by simp [spelling]
      between := ⟨by simp [AllBlank, spelling]; decide, by decide⟩
      id := ⟨1, by decide⟩
      idBound := by decide
      after := by simp [AllBlank, spelling]; decide }
  exact ⟨(ofLine_spelling h).1 [0x0A, 0xB1] ['0', 'a', 'B', '1'] (by decide) (by decide),
    (ofLine_spelling h).2 0x0123456789ABCDEF⟩

end Frame

end VehicleBus

import Mathlib.Data.List.Induction
import Mathlib.Tactic.Ring
import VehicleBus.Frame.Line
import VehicleBus.Proofs.Text.Integer

/-!
# Data bytes that are read

Data is read in pairs of characters (`Frame.readPayload_eq_ok_iff`).  A pair is two digits
of base sixteen; but since a byte is read like any unsigned integer, a plus sign may stand
in place of the first digit.

The bytes fill the payload from the front: it is the number that all digits together stand
for, moved to the left by the digits that are missing (`Frame.toNat_payloadOfBytes_map`).
-/

namespace VehicleBus

open Text

theorem map_eq_ok_iff {ε α β : Type} {result : Except ε α} {f : α → β} {b : β} :
    result.map f = .ok b ↔ ∃ a, result = .ok a ∧ f a = b := by
  cases result <;> simp [Except.map]

/-! ## Characters -/

namespace Text

/-- Hexadecimal digits lie between the zero and the small f. -/
theorem toNat_of_isHexDigit {c : Char} (h : isHexDigit c = true) :
    48 ≤ c.toNat ∧ c.toNat ≤ 102 := by
  obtain ⟨value, hvalue⟩ := Option.isSome_iff_exists.mp h
  have hrange := hexDigit?_eq_some hvalue
  omega

/-- A character of 7 bits is one byte. -/
theorem utf8Size_of_lt {c : Char} (h : c.toNat < 128) : c.utf8Size = 1 := by
  rw [Char.utf8Size_eq_one_iff, UInt32.le_iff_toNat_le, Char.toNat_val]
  exact Nat.le_of_lt_succ h

/-- Digits behind a number move it to the left. -/
theorem appendDigits_eq (base value : Nat) (digits : List Char) :
    appendDigits base value digits = value * base ^ digits.length + valueOfDigits base digits := by
  induction digits using List.reverseRecOn with
  | nil => simp [appendDigits, valueOfDigits]
  | append_singleton front c ih =>
      have hlast : ∀ start, appendDigits base start (front ++ [c]) =
          appendDigits base start front * base + (hexDigit? c).getD 0 := by
        intro start
        rw [appendDigits_append]
        rfl
      have hfront : valueOfDigits base front = appendDigits base 0 front := rfl
      rw [valueOfDigits, hlast, hlast, ih, hfront, List.length_append, List.length_singleton,
        Nat.pow_succ]
      ring

end Text

namespace Frame

/-! ## Pairs -/

/-- Two characters that are read as a byte; a plus sign counts as zero. -/
def IsByte (pair : Char × Char) : Prop :=
  (isHexDigit pair.1 = true ∨ pair.1 = '+') ∧ isHexDigit pair.2 = true

/-- The byte of two characters. -/
def byteOf (pair : Char × Char) : UInt8 := UInt8.ofNat (valueOfDigits 16 [pair.1, pair.2])

/-- The characters of pairs, in order. -/
def pairChars (pairs : List (Char × Char)) : List Char :=
  pairs.flatMap fun pair => [pair.1, pair.2]

theorem pairChars_cons (pair : Char × Char) (pairs : List (Char × Char)) :
    pairChars (pair :: pairs) = pair.1 :: pair.2 :: pairChars pairs := rfl

/-- Each pair has two characters. -/
theorem length_pairChars (pairs : List (Char × Char)) :
    (pairChars pairs).length = 2 * pairs.length := by
  induction pairs with
  | nil => rfl
  | cons pair pairs ih =>
      rw [pairChars_cons, List.length_cons, List.length_cons, List.length_cons, ih]
      omega

/-- A text of an even length is made of pairs. -/
theorem exists_pairs : ∀ {text : List Char}, text.length % 2 = 0 →
    ∃ pairs, pairChars pairs = text
  | [], _ => ⟨[], rfl⟩
  | [_], h => by cases h
  | c :: d :: rest, h => by
      have hrest : rest.length % 2 = 0 := by
        rw [List.length_cons, List.length_cons] at h
        omega
      obtain ⟨pairs, rfl⟩ := exists_pairs hrest
      exact ⟨(c, d) :: pairs, rfl⟩

theorem mem_pairChars {pairs : List (Char × Char)} {pair : Char × Char} (h : pair ∈ pairs) :
    pair.1 ∈ pairChars pairs ∧ pair.2 ∈ pairChars pairs :=
  ⟨List.mem_flatMap.mpr ⟨pair, h, by simp⟩, List.mem_flatMap.mpr ⟨pair, h, by simp⟩⟩

namespace IsByte

variable {pair : Char × Char}

/-- The characters of a byte are ASCII. -/
theorem toNat_lt (h : IsByte pair) : pair.1.toNat < 128 ∧ pair.2.toNat < 128 := by
  have hsecond := toNat_of_isHexDigit h.2
  rcases h.1 with hfirst | hfirst
  · have hfirst := toNat_of_isHexDigit hfirst
    omega
  · rw [hfirst]
    exact ⟨by decide, by omega⟩

/-- The value of two digits fits a byte. -/
theorem valueOfDigits_lt (h : IsByte pair) : valueOfDigits 16 [pair.1, pair.2] < 256 := by
  obtain ⟨low, hlow⟩ := Option.isSome_iff_exists.mp h.2
  have hlowBound := hexDigit?_lt hlow
  have hhigh : (hexDigit? pair.1).getD 0 < 16 := by
    rcases h.1 with hfirst | hfirst
    · obtain ⟨high, hhigh⟩ := Option.isSome_iff_exists.mp hfirst
      rw [hhigh]
      exact hexDigit?_lt hhigh
    · rw [hfirst]
      decide
  simp only [valueOfDigits, appendDigits, List.foldl_cons, List.foldl_nil, hlow, Option.getD_some]
  omega

/-- A byte has the value of its two digits. -/
theorem toNat_byteOf (h : IsByte pair) :
    (byteOf pair).toNat = valueOfDigits 16 [pair.1, pair.2] :=
  UInt8.toNat_ofNat_of_lt' h.valueOfDigits_lt

end IsByte

/-- A byte is read from two characters that are one. -/
theorem readUnsigned_pair_eq_ok_iff {c d : Char} {n : Nat} :
    readUnsigned 16 UInt8.size [c, d] = .ok n ↔ IsByte (c, d) ∧ valueOfDigits 16 [c, d] = n := by
  rw [readUnsigned_eq_ok_iff (by decide) (by decide)]
  constructor
  · rintro ⟨digits, htext, ⟨-, hdigits⟩, rfl, -⟩
    simp only [isSome_digit?_sixteen] at hdigits
    rcases htext with rfl | htext
    · exact ⟨⟨.inl (hdigits c (by simp)), hdigits d (by simp)⟩, rfl⟩
    · obtain ⟨rfl, rfl⟩ := List.cons_eq_cons.mp htext
      exact ⟨⟨.inr rfl, hdigits d (by simp)⟩, valueOfDigits_plus 16 [d]⟩
  · rintro ⟨hbyte, rfl⟩
    have hbound := hbyte.valueOfDigits_lt
    obtain ⟨hfirst, hsecond⟩ := hbyte
    rcases hfirst with hfirst | hplus
    · refine ⟨[c, d], .inl rfl, ⟨List.cons_ne_nil _ _, fun e he => ?_⟩, rfl, hbound⟩
      rw [isSome_digit?_sixteen]
      simp only [List.mem_cons, List.not_mem_nil, or_false] at he
      rcases he with rfl | rfl
      · exact hfirst
      · exact hsecond
    · obtain rfl : c = '+' := hplus
      refine ⟨[d], .inr rfl, ⟨List.cons_ne_nil _ _, fun e he => ?_⟩, (valueOfDigits_plus 16 [d]).symm,
        hbound⟩
      rw [isSome_digit?_sixteen, List.mem_singleton.mp he]
      exact hsecond

/-! ## Reading bytes -/

/-- **Bytes are read from pairs.** -/
theorem readBytes_eq_ok_iff {text : List Char} {bytes : List UInt8} :
    readBytes text = .ok bytes ↔
      ∃ pairs, text = pairChars pairs ∧ (∀ pair ∈ pairs, IsByte pair) ∧ bytes = pairs.map byteOf := by
  constructor
  · intro hread
    fun_induction readBytes text generalizing bytes with
    | case1 | case2 | case3 | case4 => cases hread
    | case5 c d rest _ _ _ byte hbyte ih =>
        obtain ⟨more, hmore, rfl⟩ := map_eq_ok_iff.mp hread
        obtain ⟨pairs, rfl, hpairs, rfl⟩ := ih hmore
        obtain ⟨hpair, rfl⟩ := readUnsigned_pair_eq_ok_iff.mp hbyte
        exact ⟨(c, d) :: pairs, rfl, List.forall_mem_cons.mpr ⟨hpair, hpairs⟩, rfl⟩
    | case6 | case7 => cases hread
    | case8 =>
        cases hread
        exact ⟨[], rfl, by simp, rfl⟩
  · rintro ⟨pairs, rfl, hpairs, rfl⟩
    induction pairs with
    | nil => rfl
    | cons pair pairs ih =>
        obtain ⟨hpair, hrest⟩ := List.forall_mem_cons.mp hpairs
        obtain ⟨hfirst, hsecond⟩ := hpair.toNat_lt
        have hbyte : readUnsigned 16 UInt8.size [pair.1, pair.2] =
            .ok (valueOfDigits 16 [pair.1, pair.2]) := readUnsigned_pair_eq_ok_iff.mpr ⟨hpair, rfl⟩
        rw [pairChars_cons, readBytes, utf8Size_of_lt hfirst, utf8Size_of_lt hsecond, hbyte,
          ih hrest]
        rfl

/-- Pairs of digits take a byte for each character when they are encoded. -/
theorem encodedLength_pairChars {pairs : List (Char × Char)} (h : ∀ pair ∈ pairs, IsByte pair) :
    encodedLength (pairChars pairs) = 2 * pairs.length := by
  induction pairs with
  | nil => rfl
  | cons pair pairs ih =>
      obtain ⟨hpair, hrest⟩ := List.forall_mem_cons.mp h
      obtain ⟨hfirst, hsecond⟩ := hpair.toNat_lt
      have hlength : encodedLength (pairChars (pair :: pairs)) =
          pair.1.utf8Size + (pair.2.utf8Size + encodedLength (pairChars pairs)) := rfl
      rw [hlength, utf8Size_of_lt hfirst, utf8Size_of_lt hsecond, ih hrest, List.length_cons]
      omega

/-- **What is read as data**: up to eight bytes. -/
theorem readPayload_eq_ok_iff {text : List Char} {data : Payload} :
    readPayload text = .ok data ↔ ∃ pairs, text = pairChars pairs ∧ pairs.length ≤ 8 ∧
      (∀ pair ∈ pairs, IsByte pair) ∧ data = payloadOfBytes (pairs.map byteOf) := by
  constructor
  · intro hread
    rw [readPayload] at hread
    split at hread
    · cases hread
    · split at hread
      · cases hread
      · rename_i hlength
        obtain ⟨bytes, hbytes, rfl⟩ := map_eq_ok_iff.mp hread
        obtain ⟨pairs, rfl, hpairs, rfl⟩ := readBytes_eq_ok_iff.mp hbytes
        rw [encodedLength_pairChars hpairs] at hlength
        exact ⟨pairs, rfl, by omega, hpairs, rfl⟩
  · rintro ⟨pairs, rfl, hlength, hpairs, rfl⟩
    have hremote : (pairChars pairs).head? ≠ some 'R' := by
      intro hhead
      cases pairs with
      | nil => cases hhead
      | cons pair pairs =>
          have hfirst : pair.1 = 'R' := Option.some.inj hhead
          have hbyte := (hpairs pair List.mem_cons_self).1
          rw [hfirst] at hbyte
          rcases hbyte with hdigit | hplus
          · cases hdigit
          · cases hplus
    rw [readPayload, if_neg hremote, if_neg (by rw [encodedLength_pairChars hpairs]; omega),
      readBytes_eq_ok_iff.mpr ⟨pairs, rfl, hpairs, rfl⟩]
    rfl

/-! ## Payloads -/

/-- The number that bytes stand for, the first one most significant. -/
def valueOfBytes (bytes : List UInt8) : Nat :=
  bytes.foldl (fun value (byte : UInt8) => value * 256 + byte.toNat) 0

/-- One byte more stands in the lowest place. -/
theorem valueOfBytes_append_singleton (bytes : List UInt8) (byte : UInt8) :
    valueOfBytes (bytes ++ [byte]) = valueOfBytes bytes * 256 + byte.toNat := by
  simp [valueOfBytes]

/-- Zeros at the end raise the value by powers of 256. -/
theorem valueOfBytes_append_zeros (bytes : List UInt8) (count : Nat) :
    valueOfBytes (bytes ++ List.replicate count 0) = valueOfBytes bytes * 256 ^ count := by
  induction count with
  | zero => simp
  | succ count ih =>
      rw [List.replicate_succ', ← List.append_assoc, valueOfBytes_append_singleton, ih,
        Nat.pow_succ]
      simp [Nat.mul_assoc]

/-- The value of some bytes is below that power of 256. -/
theorem valueOfBytes_lt (bytes : List UInt8) : valueOfBytes bytes < 256 ^ bytes.length := by
  induction bytes using List.reverseRecOn with
  | nil => decide
  | append_singleton bytes byte ih =>
      have hbyte := byte.toNat_lt
      rw [valueOfBytes_append_singleton, List.length_append, List.length_singleton, Nat.pow_succ]
      omega

/-- **Bytes fill a payload from its front.** -/
theorem toNat_payloadOfBytes {bytes : List UInt8} (h : bytes.length ≤ 8) :
    (payloadOfBytes bytes).toNat = valueOfBytes bytes * 256 ^ (8 - bytes.length) := by
  have hvalue : payloadOfBytes bytes =
      UInt64.ofNat (valueOfBytes (bytes ++ List.replicate (8 - bytes.length) 0)) := rfl
  have hbound := valueOfBytes_lt (bytes ++ List.replicate (8 - bytes.length) 0)
  rw [List.length_append, List.length_replicate, Nat.add_sub_cancel' h] at hbound
  rw [hvalue, UInt64.toNat_ofNat_of_lt' hbound, valueOfBytes_append_zeros]

/-- The bytes of pairs stand for the number of all their digits. -/
theorem valueOfBytes_map_byteOf {pairs : List (Char × Char)} (h : ∀ pair ∈ pairs, IsByte pair) :
    valueOfBytes (pairs.map byteOf) = valueOfDigits 16 (pairChars pairs) := by
  induction pairs using List.reverseRecOn with
  | nil => rfl
  | append_singleton pairs pair ih =>
      have hchars : pairChars (pairs ++ [pair]) = pairChars pairs ++ [pair.1, pair.2] := by
        simp [pairChars]
      have hvalue : valueOfDigits 16 (pairChars (pairs ++ [pair])) =
          appendDigits 16 (valueOfDigits 16 (pairChars pairs)) [pair.1, pair.2] := by
        rw [hchars]
        exact appendDigits_append 16 0 _ _
      rw [List.map_append, List.map_singleton, valueOfBytes_append_singleton,
        (h pair (by simp)).toNat_byteOf, ih fun other hother => h other (by simp [hother]), hvalue,
        appendDigits_eq]
      rfl

/-- Up to eight pairs of digits fill a payload from its highest byte on. -/
theorem toNat_payloadOfBytes_map {pairs : List (Char × Char)} (hlength : pairs.length ≤ 8)
    (hpairs : ∀ pair ∈ pairs, IsByte pair) :
    (payloadOfBytes (pairs.map byteOf)).toNat =
      valueOfDigits 16 (pairChars pairs) * 256 ^ (8 - pairs.length) := by
  rw [toNat_payloadOfBytes (by rwa [List.length_map]), List.length_map,
    valueOfBytes_map_byteOf hpairs]

end Frame

end VehicleBus

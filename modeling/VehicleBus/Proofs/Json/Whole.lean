import VehicleBus.Config.Reading
import VehicleBus.Proofs.Decimal.Whole
import VehicleBus.Proofs.Json.Reader
import VehicleBus.Proofs.Text.Integer

/-!
# Whole numbers in documents

A whole number in a document is read from its digits and one zero behind the point: ten
times the number, which is divided by ten again.  As long as all of this fits the
significand no step rounds, so the word that was written is read back
(`readDouble_node_double`, `readSingle_node_single`).
-/

namespace VehicleBus

open Binary

/-- A whole number of either sign with a magnitude below a bound. -/
def Binary.Datum.IsWhole (f : Format) (bound : Nat) (datum : Datum) : Prop :=
  ∃ negative n, n < bound ∧ datum = .finite negative (n * f.one)

namespace Json

/-! ## Reading digits -/

namespace NumberText

theorem lawful_ofWhole (negative : Bool) (n : Nat) : (ofWhole negative n).Lawful where
  whole := ⟨Nat.toDigits_ne_nil, fun _ hc => Nat.isDigit_of_mem_toDigits (by decide) (by decide) hc⟩
  noLeadingZero := (lawful_ofInt n).noLeadingZero
  fraction := by
    rintro _ ⟨⟩
    simp
  exponent := by simp [ofWhole]

/-- Digits before the point are taken one by one as long as their number fits 64 bits. -/
theorem foldl_takeWhole (digits : List Char) (s : Significand) (hfull : s.full = false)
    (hfits : Text.appendDigits 10 s.value digits < UInt64.size) :
    digits.foldl Significand.takeWhole s =
      { s with value := Text.appendDigits 10 s.value digits } := by
  induction digits generalizing s with
  | nil => rfl
  | cons c digits ih =>
      have hnext : Text.appendDigits 10 s.value (c :: digits) =
          Text.appendDigits 10 (Text.appendDigits 10 s.value [c]) digits := rfl
      rw [hnext] at hfits ⊢
      have hstep : s.takeWhole c = { s with value := Text.appendDigits 10 s.value [c] } := by
        have hlow : ¬ UInt64.size ≤ Text.appendDigits 10 s.value [c] :=
          Nat.not_le.mpr (Nat.lt_of_le_of_lt (Text.le_appendDigits (by decide) _ _) hfits)
        rw [Significand.takeWhole]
        simp [hfull, hlow]
      rw [List.foldl_cons, hstep]
      exact ih _ hfull hfits

theorem datum_powerOfTen_one : (powerOfTen 1).datum = .finite false (10 * binary64.one) := by
  decide +kernel

/-- **The digits of a whole number stand for it exactly.** -/
theorem magnitude_ofWhole (negative : Bool) {n : Nat} (hn : n * 10 < 2 ^ 53) :
    ∃ x : Binary64, (ofWhole negative n).magnitude = some x ∧
      x.datum = .finite false (n * binary64.one) := by
  have hdigits : Text.valueOfDigits 10 (Nat.toDigits 10 n) = n :=
    Text.valueOfDigits_toDigits (by decide) (by decide) n
  have hsize : UInt64.size = 2 ^ 64 := rfl
  have hwhole : (Nat.toDigits 10 n).foldl Significand.takeWhole {} = { value := n } := by
    rw [foldl_takeWhole _ _ rfl]
    · exact congrArg (fun value => ({ value } : Significand)) hdigits
    · show Text.valueOfDigits 10 (Nat.toDigits 10 n) < UInt64.size
      omega
  have hfraction : Significand.takeFraction { value := n } '0' =
      { value := n * 10, exponent := -1 } := by
    have hnext : Text.appendDigits 10 n ['0'] = n * 10 := rfl
    have hlow : ¬ UInt64.size ≤ n * 10 := by omega
    simp [Significand.takeFraction, hnext, hlow]
  refine ⟨Binary64.ofNat (n * 10) / powerOfTen 1, ?_, ?_⟩
  · simp only [magnitude, ofWhole, hwhole, Option.getD_some, List.foldl_cons, List.foldl_nil,
      hfraction]
    rfl
  · have hshort : n < 2 ^ 53 := by omega
    exact Binary64.datum_ofWord (Format.encodes_div_whole (Binary64.datum_ofNat hn)
      datum_powerOfTen_one hshort (by decide) (by decide) (by decide))

/-- A whole number with a zero behind its point is read without loss, if ten times its
value is below 2^53. -/
theorem node_ofWhole (negative : Bool) {n : Nat} (hn : n * 10 < 2 ^ 53) :
    ∃ x : Binary64, (ofWhole negative n).node = .real x ∧
      x.datum = .finite negative (n * binary64.one) := by
  obtain ⟨x, hmagnitude, hdatum⟩ := magnitude_ofWhole negative hn
  refine ⟨if negative then -x else x, ?_, ?_⟩
  · have hfraction : (ofWhole negative n).fraction.isNone = false := rfl
    rw [node]
    simp only [hfraction, Bool.false_eq_true, false_and, if_false, hmagnitude]
    rfl
  · cases negative with
    | false => exact hdatum
    | true => exact Binary64.datum_neg hdatum

end NumberText

/-- What a written whole number is read as. -/
theorem numberNode_whole {text : String} {negative : Bool} {n : Nat} (hn : n * 10 < 2 ^ 53)
    (htext : text.toList = (NumberText.ofWhole negative n).chars) :
    ∃ x : Binary64, numberNode text = .real x ∧ x.datum = .finite negative (n * binary64.one) := by
  obtain ⟨x, hnode, hdatum⟩ := NumberText.node_ofWhole negative hn
  have hread := readNumber_chars (NumberText.lawful_ofWhole negative n) endsNumber_nil
  rw [List.append_nil, ← htext] at hread
  refine ⟨x, ?_, hdatum⟩
  rw [numberNode, hread, ← hnode]
  rfl

end Json

/-! ## Documents -/

namespace Config

open Decimal

/-- **A whole number of 64 bits is read back from its document.** -/
theorem readDouble_node_double {x : Binary64} (h : x.datum.IsWhole binary64 (2 ^ 32)) :
    readDouble (Document.double x).node = some x := by
  obtain ⟨negative, n, hn, hdatum⟩ := h
  have hcount : digitCount n ≤ 10 := (digitCount_le_iff (by decide)).mpr (by omega)
  have hfinite : x.isFinite = true := by rw [Binary64.isFinite, hdatum]; rfl
  have htext : x.documentText.toList = (Json.NumberText.ofWhole negative n).chars := by
    refine Layout.toList_render_whole ?_ rfl (Nat.lt_trans hn (by decide)) hdatum
    rw [Layout.document64, decide_eq_true_eq]
    omega
  obtain ⟨y, hnode, hy⟩ := Json.numberNode_whole (by omega) htext
  rw [Document.node, if_pos hfinite, hnode, readDouble, Binary64.eq_of_datum hy hdatum]

/-- **A whole number of 32 bits is read back from its document.** -/
theorem readSingle_node_single {x : Binary32} (h : x.datum.IsWhole binary32 (2 ^ 24)) :
    readSingle (Document.single x).node = some x := by
  obtain ⟨negative, n, hn, hdatum⟩ := h
  have hcount : digitCount n ≤ 8 := (digitCount_le_iff (by decide)).mpr (by omega)
  have hfinite : x.isFinite = true := by rw [Binary32.isFinite, hdatum]; rfl
  have htext : x.documentText.toList = (Json.NumberText.ofWhole negative n).chars := by
    refine Layout.toList_render_whole ?_ rfl (Nat.lt_of_lt_of_le hn (by decide)) hdatum
    rw [Layout.document32, decide_eq_true_eq]
    omega
  obtain ⟨y, hnode, hy⟩ := Json.numberNode_whole (by omega) htext
  have hnarrow : (Binary32.narrow y).datum = .finite negative (n * binary32.one) :=
    Binary32.datum_ofWord (Format.encodes_ofFormat_whole hy hn (by decide) (by decide))
  rw [Document.node, if_pos hfinite, hnode, readSingle, Binary32.eq_of_datum hnarrow hdatum]

end Config

end VehicleBus

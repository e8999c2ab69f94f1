import Mathlib.Algebra.Ring.Int.Defs
import VehicleBus.Json.Number
import VehicleBus.Proofs.Text.Digits

/-!
# Numbers that are written and read

`NumberText.chars` puts the parts of a number together again.  A number whose parts keep
to the grammar is read back from its characters, whatever follows that cannot go on with
it (`readNumber_chars`).
-/

namespace VehicleBus.Json

/-! ## The grammar -/

namespace NumberText

/-- The characters of an exponent. -/
def exponentChars : Bool × List Char → List Char
  | (negative, digits) => 'e' :: (if negative then '-' else '+') :: digits

/-- The characters of a number. -/
def chars (n : NumberText) : List Char :=
  (if n.negative then ['-'] else []) ++ n.whole ++ (n.fraction.map ('.' :: ·)).getD [] ++
    (n.exponent.map exponentChars).getD []

/-- The parts of a number keep to the grammar. -/
structure Lawful (n : NumberText) : Prop where
  whole : n.whole ≠ [] ∧ ∀ c ∈ n.whole, c.isDigit
  /-- No zero leads other digits. -/
  noLeadingZero : n.whole.head? = some '0' → n.whole = ['0']
  fraction : ∀ digits ∈ n.fraction, digits ≠ [] ∧ ∀ c ∈ digits, c.isDigit
  exponent : ∀ e ∈ n.exponent, e.2 ≠ [] ∧ ∀ c ∈ e.2, c.isDigit

end NumberText

/-- A text that cannot go on with a number. -/
def EndsNumber (rest : List Char) : Prop :=
  ∀ c ∈ rest.head?, c.isDigit = false ∧ c ≠ '.' ∧ c ≠ 'e' ∧ c ≠ 'E'

theorem endsNumber_nil : EndsNumber [] := by simp [EndsNumber]

/-- What ends a number does not start with a digit. -/
theorem EndsNumber.noDigit {rest : List Char} (h : EndsNumber rest) :
    ∀ c ∈ rest.head?, ¬ c.isDigit := fun c hc => by simp [(h c hc).1]

/-! ## Reading -/

/-- An exponent is read back, and nothing is read where there is none. -/
theorem readExponent_chars {exponent : Option (Bool × List Char)} {rest : List Char}
    (h : ∀ e ∈ exponent, e.2 ≠ [] ∧ ∀ c ∈ e.2, c.isDigit) (hrest : EndsNumber rest) :
    readExponent ((exponent.map NumberText.exponentChars).getD [] ++ rest) =
      some (exponent, rest) := by
  cases exponent with
  | none =>
      show readExponent rest = _
      cases rest with
      | nil => rfl
      | cons c rest =>
          obtain ⟨-, -, he, hE⟩ := hrest c rfl
          simp [readExponent, he, hE]
  | some e =>
      obtain ⟨negative, digits⟩ := e
      obtain ⟨hne, hdigits⟩ := h _ rfl
      have hspan : Text.spanDigits (digits ++ rest) = (digits, rest) :=
        Text.spanDigits_append hdigits hrest.noDigit
      cases negative <;>
        simp [readExponent, NumberText.exponentChars, hspan, hne]

/-- What follows a fraction is no digit and no point. -/
theorem head?_exponentChars (exponent : Option (Bool × List Char)) {rest : List Char}
    (hrest : EndsNumber rest) :
    ∀ c ∈ ((exponent.map NumberText.exponentChars).getD [] ++ rest).head?,
      ¬ c.isDigit ∧ c ≠ '.' := by
  cases exponent with
  | none => exact fun c hc => ⟨hrest.noDigit c hc, (hrest c hc).2.1⟩
  | some e =>
      intro c hc
      obtain rfl : 'e' = c := by simpa [NumberText.exponentChars] using hc
      decide

/-- A fraction is read back, and nothing is read where there is none. -/
theorem readFraction_chars {fraction : Option (List Char)} {rest : List Char}
    (h : ∀ digits ∈ fraction, digits ≠ [] ∧ ∀ c ∈ digits, c.isDigit)
    (hrest : ∀ c ∈ rest.head?, ¬ c.isDigit ∧ c ≠ '.') :
    readFraction ((fraction.map ('.' :: ·)).getD [] ++ rest) = some (fraction, rest) := by
  cases fraction with
  | none =>
      show readFraction rest = _
      unfold readFraction
      split
      · exact absurd rfl (hrest '.' rfl).2
      · rfl
  | some digits =>
      obtain ⟨hne, hdigits⟩ := h _ rfl
      have hspan : Text.spanDigits (digits ++ rest) = (digits, rest) :=
        Text.spanDigits_append hdigits fun c hc => (hrest c hc).1
      simp [readFraction, hspan, hne]

/-- **A lawful number is read back from its characters.** -/
theorem readNumber_chars {n : NumberText} (h : n.Lawful) {rest : List Char}
    (hrest : EndsNumber rest) : readNumber (n.chars ++ rest) = some (n, rest) := by
  obtain ⟨negative, whole, fraction, exponent⟩ := n
  obtain ⟨⟨hne, hdigits⟩, hzero, hfraction, hexponent⟩ := h
  dsimp only at hne hdigits hzero hfraction hexponent
  have htail := head?_exponentChars exponent hrest
  have hbehind : ∀ c ∈ ((fraction.map ('.' :: ·)).getD [] ++
      ((exponent.map NumberText.exponentChars).getD [] ++ rest)).head?, ¬ c.isDigit := by
    cases fraction with
    | none => exact fun c hc => (htail c hc).1
    | some digits =>
        intro c hc
        obtain rfl : '.' = c := by simpa using hc
        decide
  have hspan := Text.spanDigits_append hdigits hbehind
  have hreadFraction := readFraction_chars hfraction htail
  have hreadExponent := readExponent_chars hexponent hrest
  cases whole with
  | nil => exact absurd rfl hne
  | cons d digits =>
      have hd : d ≠ '-' := by
        rintro rfl
        exact absurd (hdigits '-' List.mem_cons_self) (by decide)
      rw [List.cons_append] at hspan
      cases negative with
      | false | true =>
          simp only [readNumber, NumberText.chars, Bool.false_eq_true, ↓reduceIte, List.nil_append,
            List.cons_append, List.append_assoc, List.cons.injEq, hd, false_and, imp_self,
            implies_true, hspan, Option.pure_def, Option.bind_eq_bind]
          split
          · contradiction
          · -- a leading zero stands alone
            rename_i hwhole
            cases hwhole
            exact absurd (hzero rfl) (by simp)
          · simp [hreadFraction, hreadExponent]

/-! ## Integers -/

namespace NumberText

/-- An integer by its parts. -/
def ofInt (n : Int) : NumberText where
  negative := decide (n < 0)
  whole := Nat.toDigits 10 n.natAbs
  fraction := none
  exponent := none

/-- An integer is written with its decimal digits. -/
theorem chars_ofInt (n : Int) : (ofInt n).chars = (toString n).toList := by
  cases n with
  | ofNat n =>
      have hsign : ¬ (n : Int) < 0 := by omega
      show (ofInt (n : Int)).chars = n.repr.toList
      simp [chars, ofInt, hsign]
  | negSucc n =>
      show (ofInt (Int.negSucc n)).chars = ("-" ++ (n + 1).repr).toList
      simp [chars, ofInt, Int.negSucc_lt_zero]

theorem lawful_ofInt (n : Int) : (ofInt n).Lawful where
  whole := ⟨Nat.toDigits_ne_nil, fun _ hc => Nat.isDigit_of_mem_toDigits (by decide) (by decide) hc⟩
  noLeadingZero := by
    intro hzero
    have hn : n.natAbs = 0 := by
      by_contra hne
      exact Text.head?_toDigits_ne_zero (by decide) (Nat.pos_of_ne_zero hne) hzero
    simp [ofInt, hn]
  fraction := by simp [ofInt]
  exponent := by simp [ofInt]

/-- An integer of at most 64 bits is read as itself. -/
theorem node_ofInt {n : Int} (hlow : -(2 ^ 63) ≤ n) (hhigh : n < 2 ^ 64) :
    (ofInt n).node = .integer n := by
  have hvalue : Text.valueOfDigits 10 (Nat.toDigits 10 n.natAbs) = n.natAbs :=
    Text.valueOfDigits_toDigits (by decide) (by decide) _
  have hsize : UInt64.size = 2 ^ 64 := rfl
  have hpow : Nat.pow 2 63 = 2 ^ 63 := rfl
  by_cases hsign : n < 0
  · have hparts : 0 < n.natAbs ∧ n.natAbs ≤ Nat.pow 2 63 := by rw [hpow]; omega
    simp only [node, ofInt, hvalue]
    rw [if_neg (by simp [hsign]), if_pos (by simp [hsign, hparts])]
    exact congrArg Node.integer (by omega)
  · have hbound : n.natAbs < UInt64.size := by rw [hsize]; omega
    simp only [node, ofInt, hvalue]
    rw [if_pos (by simp [hsign, hbound])]
    exact congrArg Node.integer (by omega)

end NumberText

end VehicleBus.Json

import VehicleBus.Document
import VehicleBus.Json.Reader
import VehicleBus.Proofs.Text.Digits

/-!
# Texts that are quoted and read

A text between quotes is read back character for character, and nothing in it is below
the blank: control characters are written by their number, and such an escape is never
taken for the first half of a pair.
-/

namespace VehicleBus

namespace Document

/-! ## Escapes -/

/-- **How a character is written**: behind a backslash by a letter, or by its number, or
as it is. -/
theorem escape_cases (c : Char) :
    (∃ letter, letter ≠ 'u' ∧ 32 ≤ letter.toNat ∧ Json.unescape? letter = some c ∧
        escape c = ['\\', letter]) ∨
      (c.toNat < 32 ∧ escape c =
        ['\\', 'u', '0', '0', Nat.digitChar (c.toNat / 16), Nat.digitChar (c.toNat % 16)]) ∨
      (32 ≤ c.toNat ∧ c ≠ '"' ∧ c ≠ '\\' ∧ escape c = [c]) := by
  by_cases hquote : c = '"'
  · exact .inl ⟨'"', by decide, by decide, by rw [hquote]; rfl, by simp [escape, hquote]⟩
  by_cases hslash : c = '\\'
  · exact .inl ⟨'\\', by decide, by decide, by rw [hslash]; rfl, by simp [escape, hslash]⟩
  by_cases hline : c = '\n'
  · exact .inl ⟨'n', by decide, by decide, by rw [hline]; rfl, by simp [escape, hline]⟩
  by_cases hreturn : c = '\r'
  · exact .inl ⟨'r', by decide, by decide, by rw [hreturn]; rfl, by simp [escape, hreturn]⟩
  by_cases htab : c = '\t'
  · exact .inl ⟨'t', by decide, by decide, by rw [htab]; rfl, by simp [escape, htab]⟩
  by_cases hback : c.toNat = 8
  · refine .inl ⟨'b', by decide, by decide, ?_,
      by simp [escape, hquote, hslash, hline, hreturn, htab, hback]⟩
    rw [← Char.ofNat_toNat c, hback]
    rfl
  by_cases hfeed : c.toNat = 12
  · refine .inl ⟨'f', by decide, by decide, ?_,
      by simp [escape, hquote, hslash, hline, hreturn, htab, hfeed]⟩
    rw [← Char.ofNat_toNat c, hfeed]
    rfl
  have hescape : escape c = if c.toNat < 32 then
      ['\\', 'u', '0', '0', Nat.digitChar (c.toNat / 16), Nat.digitChar (c.toNat % 16)] else [c] := by
    simp [escape, hquote, hslash, hline, hreturn, htab, hback, hfeed]
  by_cases hcontrol : c.toNat < 32
  · exact .inr (.inl ⟨hcontrol, by rw [hescape, if_pos hcontrol]⟩)
  · exact .inr (.inr ⟨Nat.not_lt.mp hcontrol, hquote, hslash, by rw [hescape, if_neg hcontrol]⟩)

/-- Digits are printing characters. -/
theorem toNat_digitChar_ge {n : Nat} (h : n < 16) : 32 ≤ n.digitChar.toNat := by
  have hall : ∀ n < 16, 32 ≤ n.digitChar.toNat := by decide
  exact hall n h

/-- No character is written with one below the blank. -/
theorem toNat_ge_of_mem_escape {c d : Char} (h : d ∈ escape c) : 32 ≤ d.toNat := by
  rcases escape_cases c with ⟨letter, -, hlow, -, hwritten⟩ | ⟨hcontrol, hwritten⟩ |
    ⟨hlow, -, -, hwritten⟩
  · rw [hwritten] at h
    simp only [List.mem_cons, List.not_mem_nil, or_false] at h
    rcases h with rfl | rfl
    · decide
    · exact hlow
  · rw [hwritten] at h
    simp only [List.mem_cons, List.not_mem_nil, or_false] at h
    rcases h with rfl | rfl | rfl | rfl | rfl | rfl
    · decide
    · decide
    · decide
    · decide
    · exact toNat_digitChar_ge (by omega)
    · exact toNat_digitChar_ge (by omega)
  · rw [hwritten, List.mem_singleton] at h
    exact h ▸ hlow

/-- A quoted text has no control character. -/
theorem toNat_ge_of_mem_quote {text : String} {c : Char} (h : c ∈ quote text) : 32 ≤ c.toNat := by
  simp only [quote, List.mem_append, List.mem_cons, List.not_mem_nil, or_false] at h
  rcases h with (rfl | h) | rfl
  · decide
  · obtain ⟨d, -, hd⟩ := List.mem_flatMap.mp h
    exact toNat_ge_of_mem_escape hd
  · decide

end Document

namespace Json

/-! ## Reading -/

/-- A byte that is written as an escape is read back from its two digits. -/
theorem hexUnit?_digitChar {n : Nat} (h : n < 256) :
    hexUnit? '0' '0' (Nat.digitChar (n / 16)) (Nat.digitChar (n % 16)) = some n := by
  have hhigh : n / 16 < 16 := by omega
  have hlow : n % 16 < 16 := by omega
  have hzero : Text.isHexDigit '0' = true := rfl
  have hvalue :
      Text.valueOfDigits 16 ['0', '0', Nat.digitChar (n / 16), Nat.digitChar (n % 16)] = n := by
    simp [Text.valueOfDigits, Text.appendDigits, Text.hexDigit?_digitChar hhigh,
      Text.hexDigit?_digitChar hlow, show Text.hexDigit? '0' = some 0 from rfl]
    omega
  rw [hexUnit?, hzero, Text.isHexDigit_digitChar hhigh, Text.isHexDigit_digitChar hlow, hvalue]
  rfl

/-- A unit that is no surrogate is read on its own, also before another unit. -/
theorem readText_unit {a b c d : Char} {unit : Nat} (hunit : hexUnit? a b c d = some unit)
    (hlow : unit < 0xD800) (rest : List Char) :
    readText ('\\' :: 'u' :: a :: b :: c :: d :: rest) =
      prepend (some (Char.ofNat unit)) (readText rest) := by
  have hpair : ∀ low : Option Nat, low.bind (surrogatePair? unit) = none := by
    intro low
    rw [Option.bind_eq_none_iff]
    exact fun _ _ => if_neg (by omega)
  have hchar : unitChar? unit = some (Char.ofNat unit) := if_neg (by omega)
  rw [readText.eq_def]
  split
  · rename_i heq
    cases heq
  · rename_i heq
    cases heq
  · rename_i heq
    cases heq
    rw [hunit]
    dsimp only
    rw [hpair, hchar]
  · rename_i heq
    cases heq
    rw [hunit]
    dsimp only
    rw [hchar]
  · rename_i hlong heq
    cases heq
    exact (hlong a b c d rest rfl rfl).elim
  · rename_i hescape heq
    cases heq
    exact (hescape 'u' (a :: b :: c :: d :: rest) rfl rfl).elim

/-- **An escaped character is read as itself.** -/
theorem readText_escape (c : Char) (rest : List Char) :
    readText (Document.escape c ++ rest) = prepend (some c) (readText rest) := by
  rcases Document.escape_cases c with
    ⟨letter, hunit, -, hread, hwritten⟩ | ⟨hcontrol, hwritten⟩ | ⟨hlow, hquote, hslash, hwritten⟩
  · rw [hwritten]
    simp [readText, hunit, hread]
  · rw [hwritten]
    show readText ('\\' :: 'u' :: '0' :: '0' :: _ :: _ :: rest) = _
    rw [readText_unit (hexUnit?_digitChar (by omega)) (by omega), Char.ofNat_toNat]
  · rw [hwritten]
    have hprintable : ¬ c.toNat < 32 := Nat.not_lt.mpr hlow
    simp [readText, hslash, hprintable]

/-- **A quoted text is read back.** -/
theorem readText_quote (text : List Char) (rest : List Char) :
    readText (text.flatMap Document.escape ++ '"' :: rest) = some (some text, rest) := by
  induction text with
  | nil => simp [readText]
  | cons c text ih =>
      rw [List.flatMap_cons, List.append_assoc, readText_escape, ih]
      rfl

end Json

end VehicleBus

import Mathlib.Data.List.Basic

/-!
# Bytes of texts

The bytes of a text are those of its characters, and a byte below 128 is a character of
its own: it is never a part of another character.
-/

namespace VehicleBus.Text

/-- The bytes of a text are those of its characters, in order. -/
theorem utf8_ofList (characters : List Char) :
    (String.ofList characters).toUTF8.data.toList = characters.flatMap String.utf8EncodeChar :=
  List.toList_data_toByteArray

/-- **A byte is a character below 128, or a part of one that is not.** -/
theorem mem_utf8EncodeChar {b : UInt8} {c : Char} (h : b ∈ String.utf8EncodeChar c) :
    (c.toNat < 128 ∧ b.toNat = c.toNat) ∨ (128 ≤ c.toNat ∧ 128 ≤ b.toNat) := by
  have hcode : c.val.toNat = c.toNat := rfl
  simp only [String.utf8EncodeChar, hcode] at h
  split at h
  · rw [List.mem_singleton] at h
    rw [h, UInt8.toNat_ofNat']
    omega
  right
  have hpart : ∃ n, b = UInt8.ofNat n ∧ 128 ≤ n ∧ n < 256 := by
    split at h
    · simp only [List.mem_cons, List.not_mem_nil, or_false] at h
      rcases h with rfl | rfl <;> exact ⟨_, rfl, by omega⟩
    split at h
    · simp only [List.mem_cons, List.not_mem_nil, or_false] at h
      rcases h with rfl | rfl | rfl <;> exact ⟨_, rfl, by omega⟩
    · simp only [List.mem_cons, List.not_mem_nil, or_false] at h
      rcases h with rfl | rfl | rfl | rfl <;> exact ⟨_, rfl, by omega⟩
  obtain ⟨n, rfl, hlow, hhigh⟩ := hpart
  rw [UInt8.toNat_ofNat']
  omega

end VehicleBus.Text

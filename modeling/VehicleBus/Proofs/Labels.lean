import Mathlib.Data.List.Induction
import Mathlib.Data.List.Nodup

/-!
# Rows without repeated labels

Buses go by their address, channels by their name, definitions by their key.  The
same facts are needed of all these labels: in a row without repetition an element's
label does not stand before it and finds the element, and in any other row there is
a first element whose label does stand before it.
-/

namespace VehicleBus

variable {α β : Type}

/-- If labels occur once, that of an element is none of those before it. -/
theorem label_notMem_of_nodup {label : α → β} {front back : List α} {x : α}
    (h : ((front ++ x :: back).map label).Nodup) : label x ∉ front.map label := by
  intro hmember
  rw [List.map_append, List.nodup_append] at h
  exact h.2.2 _ hmember _ (by simp) rfl

/-- If labels occur once, an element is found by its label. -/
theorem find?_label_of_nodup [BEq β] [LawfulBEq β] {label : α → β} {xs : List α} {x : α}
    (h : (xs.map label).Nodup) (hmember : x ∈ xs) : xs.find? (label · == label x) = some x := by
  have hsome : (xs.find? (label · == label x)).isSome := by
    rw [List.find?_isSome]
    exact ⟨x, hmember, beq_self_eq_true (label x)⟩
  obtain ⟨found, hfound⟩ := Option.isSome_iff_exists.mp hsome
  have hmatches := List.find?_some hfound
  have hlabel : label found = label x := eq_of_beq hmatches
  rw [hfound, List.inj_on_of_nodup_map h (List.mem_of_find?_eq_some hfound) hmember hlabel]

/-- Labels that are not all different have a first one that stands before it. -/
theorem exists_first_repeated (label : α → β) {xs : List α} (h : ¬ (xs.map label).Nodup) :
    ∃ front x back, xs = front ++ x :: back ∧ (front.map label).Nodup ∧
      label x ∈ front.map label := by
  induction xs using List.reverseRecOn with
  | nil => exact absurd List.nodup_nil h
  | append_singleton xs x ih =>
      by_cases hxs : (xs.map label).Nodup
      · refine ⟨xs, x, [], rfl, hxs, ?_⟩
        by_contra hnew
        apply h
        rw [List.map_append, List.nodup_append]
        refine ⟨hxs, by simp, ?_⟩
        intro a ha b hb hab
        rw [List.map_singleton, List.mem_singleton] at hb
        exact hnew (hb ▸ hab ▸ ha)
      · obtain ⟨front, y, back, hsplit, hfront, hrepeated⟩ := ih hxs
        exact ⟨front, y, back ++ [x], by simp [hsplit], hfront, hrepeated⟩

end VehicleBus

import Mathlib.Data.List.DropRight
import VehicleBus.Text.Blank

/-!
# Words of a text

A text is blank, or it is blanks, a word, and a rest that does not go on with the word
(`exists_first_word`).  So its words can be told one after the other
(`words_eq_nil_iff`, `words_eq_cons_iff`), and a text that is trimmed has the same words.
-/

namespace VehicleBus.Text

/-- Blanks alone, perhaps none. -/
def AllBlank (text : List Char) : Prop := ∀ c ∈ text, isBlank c = true

/-- What can be a word: some characters, no blank among them. -/
def IsWord (word : List Char) : Prop := word ≠ [] ∧ ∀ c ∈ word, isBlank c = false

/-- A text that does not go on with a word in front of it. -/
def EndsWord (rest : List Char) : Prop := ∀ c ∈ rest.head?, isBlank c = true

theorem endsWord_nil : EndsWord [] := by simp [EndsWord]

/-- Blanks end a word. -/
theorem AllBlank.endsWord_append {blanks : List Char} (h : AllBlank blanks) (hne : blanks ≠ [])
    (rest : List Char) : EndsWord (blanks ++ rest) := by
  obtain ⟨c, more, rfl⟩ := List.exists_cons_of_ne_nil hne
  intro d hd
  obtain rfl : c = d := by simpa using hd
  exact h c List.mem_cons_self

theorem AllBlank.endsWord {blanks : List Char} (h : AllBlank blanks) : EndsWord blanks :=
  fun c hc => h c (List.mem_of_mem_head? hc)

/-! ## Reading words -/

/-- A blank in front of a text belongs to no word. -/
theorem words_cons_of_blank {c : Char} (h : isBlank c = true) (rest : List Char) :
    words (c :: rest) = words rest := by
  rw [words.eq_def]
  dsimp only
  rw [if_pos h]

/-- A character that is not blank starts a word. -/
theorem words_cons_ne_nil {c : Char} (h : isBlank c = false) (rest : List Char) :
    words (c :: rest) ≠ [] := by
  rw [words.eq_def]
  dsimp only
  rw [if_neg (by simp [h])]
  split
  · split <;> exact List.cons_ne_nil _ _
  · exact List.cons_ne_nil _ _

/-- A character in front of another one ends its word or goes on with the next. -/
theorem words_cons_cons {c d : Char} (h : isBlank c = false) (rest : List Char) :
    words (c :: d :: rest) =
      if isBlank d then [c] :: words (d :: rest) else (words (d :: rest)).modifyHead (c :: ·) := by
  rw [words.eq_def]
  dsimp only
  rw [if_neg (by simp [h])]
  cases hwords : words (d :: rest) with
  | nil =>
      cases hd : isBlank d with
      | true => simp
      | false => exact absurd hwords (words_cons_ne_nil hd rest)
  | cons word others => simp

/-- Any number of blanks in front of a text belongs to no word. -/
theorem words_append_of_blank {blanks : List Char} (h : AllBlank blanks) (rest : List Char) :
    words (blanks ++ rest) = words rest := by
  induction blanks with
  | nil => rfl
  | cons c blanks ih =>
      rw [List.cons_append, words_cons_of_blank (h c List.mem_cons_self)]
      exact ih fun d hd => h d (List.mem_cons_of_mem _ hd)

/-- **A word is split off where it ends.** -/
theorem words_append_of_word {word rest : List Char} (hword : IsWord word)
    (hrest : EndsWord rest) : words (word ++ rest) = word :: words rest := by
  obtain ⟨hne, hletters⟩ := hword
  induction word with
  | nil => exact absurd rfl hne
  | cons c word ih =>
      have hc : isBlank c = false := hletters c List.mem_cons_self
      cases word with
      | nil =>
          cases rest with
          | nil => simp [words, hc]
          | cons d rest =>
              have hd : isBlank d = true := hrest d rfl
              rw [List.singleton_append, words_cons_cons hc, if_pos hd]
      | cons d word =>
          have hd : isBlank d = false := hletters d (by simp)
          have hmore := ih (List.cons_ne_nil _ _) fun e he => hletters e (List.mem_cons_of_mem _ he)
          rw [List.cons_append] at hmore
          rw [List.cons_append, List.cons_append, words_cons_cons hc, if_neg (by simp [hd]), hmore,
            List.modifyHead_cons]

/-- A text is blank, or it has a first word. -/
theorem exists_first_word (text : List Char) :
    AllBlank text ∨ ∃ blanks word rest, text = blanks ++ word ++ rest ∧ AllBlank blanks ∧
      IsWord word ∧ EndsWord rest := by
  have hsplit := List.takeWhile_append_dropWhile (p := isBlank) (l := text)
  have hstart := List.head?_dropWhile_not isBlank text
  have hblanks : AllBlank (text.takeWhile isBlank) := fun c hc => List.mem_takeWhile_imp hc
  cases htail : text.dropWhile isBlank with
  | nil =>
      left
      exact List.dropWhile_eq_nil_iff.mp htail
  | cons c tail =>
      right
      rw [htail] at hstart
      have hc : isBlank c = false := hstart
      have hrest := List.head?_dropWhile_not (fun d => !isBlank d) (c :: tail)
      refine ⟨text.takeWhile isBlank, (c :: tail).takeWhile fun d => !isBlank d,
        (c :: tail).dropWhile fun d => !isBlank d, ?_, hblanks, ⟨?_, ?_⟩, ?_⟩
      · rw [List.append_assoc, List.takeWhile_append_dropWhile, ← htail, hsplit]
      · simp [hc]
      · intro d hd
        simpa using List.mem_takeWhile_imp hd
      · intro d hd
        rw [hd] at hrest
        simpa using hrest

/-- Only blanks have no words. -/
theorem words_eq_nil_iff {text : List Char} : words text = [] ↔ AllBlank text := by
  constructor
  · intro hnil
    rcases exists_first_word text with hblank | ⟨blanks, word, rest, rfl, hblanks, hword, hrest⟩
    · exact hblank
    · rw [List.append_assoc, words_append_of_blank hblanks, words_append_of_word hword hrest] at hnil
      cases hnil
  · intro hblank
    have hwords := words_append_of_blank hblank []
    rwa [List.append_nil] at hwords

/-- **The first word of a text and the words behind it.** -/
theorem words_eq_cons_iff {text word : List Char} {others : List (List Char)} :
    words text = word :: others ↔ ∃ blanks rest, text = blanks ++ word ++ rest ∧
      AllBlank blanks ∧ IsWord word ∧ EndsWord rest ∧ words rest = others := by
  constructor
  · intro hwords
    rcases exists_first_word text with hblank | ⟨blanks, first, rest, rfl, hblanks, hfirst, hrest⟩
    · rw [words_eq_nil_iff.mpr hblank] at hwords
      cases hwords
    · rw [List.append_assoc, words_append_of_blank hblanks,
        words_append_of_word hfirst hrest] at hwords
      cases hwords
      exact ⟨blanks, rest, rfl, hblanks, hfirst, hrest, rfl⟩
  · rintro ⟨blanks, rest, rfl, hblanks, hword, hrest, rfl⟩
    rw [List.append_assoc, words_append_of_blank hblanks, words_append_of_word hword hrest]

/-- A word that comes after the end of another one has blanks in front of it. -/
theorem EndsWord.blanks_ne_nil {blanks word rest : List Char}
    (h : EndsWord (blanks ++ (word ++ rest))) (hword : IsWord word) : blanks ≠ [] := by
  rintro rfl
  obtain ⟨c, more, rfl⟩ := List.exists_cons_of_ne_nil hword.1
  have hblank : isBlank c = true := h c rfl
  rw [hword.2 c List.mem_cons_self] at hblank
  cases hblank

/-- A text of two words. -/
theorem words_eq_pair {text first second : List Char} (h : words text = [first, second]) :
    ∃ before between after, text = before ++ (first ++ (between ++ (second ++ after))) ∧
      AllBlank before ∧ IsWord first ∧ AllBlank between ∧ between ≠ [] ∧ IsWord second ∧
      AllBlank after := by
  obtain ⟨before, rest, rfl, hbefore, hfirst, hends, hrest⟩ := words_eq_cons_iff.mp h
  obtain ⟨between, after, rfl, hbetween, hsecond, -, hafter⟩ := words_eq_cons_iff.mp hrest
  rw [List.append_assoc] at hends
  refine ⟨before, between, after, by simp only [List.append_assoc], hbefore, hfirst, hbetween,
    hends.blanks_ne_nil hsecond, hsecond, words_eq_nil_iff.mp hafter⟩

/-! ## Trimming -/

/-- Blanks at the end of a text belong to no word. -/
theorem words_append_blanks (text : List Char) {blanks : List Char} (h : AllBlank blanks) :
    words (text ++ blanks) = words text := by
  induction text with
  | nil => rw [List.nil_append, words_eq_nil_iff.mpr h, words]
  | cons c text ih =>
      cases hc : isBlank c with
      | true => rw [List.cons_append, words_cons_of_blank hc, words_cons_of_blank hc, ih]
      | false =>
          cases text with
          | nil =>
              have hword : IsWord [c] := ⟨List.cons_ne_nil _ _, by simp [hc]⟩
              have halone := words_append_of_word hword endsWord_nil
              rw [List.append_nil] at halone
              rw [words_append_of_word hword h.endsWord, halone, words_eq_nil_iff.mpr h, words]
          | cons d text =>
              rw [List.cons_append] at ih
              rw [List.cons_append, List.cons_append, words_cons_cons hc, words_cons_cons hc, ih]

theorem trim_eq (text : List Char) : trim text = (text.dropWhile isBlank).rdropWhile isBlank := rfl

/-- Only blanks are trimmed, so the words stay. -/
theorem words_trim (text : List Char) : words (trim text) = words text := by
  have hfront := List.takeWhile_append_dropWhile (p := isBlank) (l := text)
  have hback := List.rdropWhile_append_rtakeWhile (p := isBlank) (l := text.dropWhile isBlank)
  have hbefore : AllBlank (text.takeWhile isBlank) := fun c hc => List.mem_takeWhile_imp hc
  have hafter : AllBlank ((text.dropWhile isBlank).rtakeWhile isBlank) :=
    fun c hc => List.mem_rtakeWhile_imp hc
  calc words (trim text)
      = words (trim text ++ (text.dropWhile isBlank).rtakeWhile isBlank) :=
        (words_append_blanks _ hafter).symm
    _ = words (text.dropWhile isBlank) := by rw [trim_eq, hback]
    _ = words (text.takeWhile isBlank ++ text.dropWhile isBlank) :=
        (words_append_of_blank hbefore _).symm
    _ = words text := by rw [hfront]

/-- A trimmed text starts with its first word. -/
theorem head?_trim {text word : List Char} {others : List (List Char)}
    (h : words text = word :: others) : (trim text).head? = word.head? := by
  rw [← words_trim] at h
  obtain ⟨blanks, rest, htrim, hblanks, hword, -, -⟩ := words_eq_cons_iff.mp h
  -- The text does not start with a blank any more.
  have hnone : blanks = [] := by
    by_contra hne
    obtain ⟨c, more, rfl⟩ := List.exists_cons_of_ne_nil hne
    obtain ⟨dropped, hprefix⟩ := List.rdropWhile_prefix isBlank (text.dropWhile isBlank)
    have hstart := List.head?_dropWhile_not isBlank text
    rw [← hprefix, ← trim_eq, htrim] at hstart
    have hc : isBlank c = false := hstart
    rw [hblanks c List.mem_cons_self] at hc
    cases hc
  obtain ⟨c, more, rfl⟩ := List.exists_cons_of_ne_nil hword.1
  rw [htrim, hnone]
  rfl

end VehicleBus.Text

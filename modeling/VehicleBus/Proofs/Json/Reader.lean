import VehicleBus.Proofs.Decimal.Layout
import VehicleBus.Proofs.Json.Text

/-!
# Documents that are written and read

The reader finds in a written document the tree that was written, with each number as its
text stands for it (`Document.node`).  Nothing that is written is below the blank, so a
document is one line.
-/

namespace VehicleBus

open Json

/-! ## The tree of a document -/

/-- What the text of a number is read as. -/
def Json.numberNode (text : String) : Node :=
  ((readNumber text.toList).map (·.1.node)).getD .unusable

namespace Document

mutual

/-- The tree that a written document is read as. -/
def node : Document → Node
  | null => .null
  | flag value => .flag value
  | integer value => numberNode (toString value)
  | double value => if value.isFinite then numberNode value.documentText else .null
  | single value => if value.isFinite then numberNode value.documentText else .null
  | text value => .text value
  | list items => .list (itemNodes items)
  | object members => .table (memberNodes members)

def itemNodes : List Document → List Node
  | [] => []
  | item :: rest => item.node :: itemNodes rest

def memberNodes : List (String × Document) → List (String × Node)
  | [] => []
  | (key, value) :: rest => (key, value.node) :: memberNodes rest

end

end Document

/-! ## Numbers -/

namespace Json

/-- A text that is a number of the grammar. -/
def IsNumber (text : String) : Prop := ∃ n : NumberText, n.Lawful ∧ n.chars = text.toList

/-- Integers are written as numbers. -/
theorem isNumber_integer (n : Int) : IsNumber (toString n) :=
  ⟨.ofInt n, NumberText.lawful_ofInt n, NumberText.chars_ofInt n⟩

theorem isNumber_double {x : Binary64} (h : x.isFinite) : IsNumber x.documentText :=
  Decimal.Layout.exists_lawful_render _ _ h

theorem isNumber_single {x : Binary32} (h : x.isFinite) : IsNumber x.documentText :=
  Decimal.Layout.exists_lawful_render _ _ h

/-- A number starts with a digit or a minus sign. -/
theorem NumberText.Lawful.exists_cons {n : NumberText} (h : n.Lawful) :
    ∃ c rest, n.chars = c :: rest ∧ (c.isDigit ∨ c = '-') := by
  obtain ⟨⟨hne, hdigits⟩, -⟩ := h
  obtain ⟨d, rest, hwhole⟩ := List.exists_cons_of_ne_nil hne
  rw [chars, hwhole]
  split
  · exact ⟨'-', _, rfl, .inr rfl⟩
  · refine ⟨d, _, rfl, .inl (hdigits d ?_)⟩
    rw [hwhole]
    exact List.mem_cons_self

/-- A number is read up to its end. -/
theorem IsNumber.readNumber {text : String} (h : IsNumber text) {rest : List Char}
    (hrest : EndsNumber rest) :
    ∃ n : NumberText, n.node = numberNode text ∧
      Json.readNumber (text.toList ++ rest) = some (n, rest) := by
  obtain ⟨n, hlawful, hchars⟩ := h
  have halone : Json.readNumber text.toList = some (n, []) := by
    have hread := readNumber_chars hlawful endsNumber_nil
    rwa [List.append_nil, hchars] at hread
  refine ⟨n, ?_, ?_⟩
  · rw [numberNode, halone]
    rfl
  · rw [← hchars]
    exact readNumber_chars hlawful hrest

/-- An integer of at most 64 bits is read as itself. -/
theorem numberNode_integer {n : Int} (hlow : -(2 ^ 63) ≤ n) (hhigh : n < 2 ^ 64) :
    numberNode (toString n) = .integer n := by
  have hread := readNumber_chars (NumberText.lawful_ofInt n) endsNumber_nil
  rw [List.append_nil, NumberText.chars_ofInt] at hread
  rw [numberNode, hread]
  exact NumberText.node_ofInt hlow hhigh

/-- A number is read as a value. -/
theorem IsNumber.readValue {text : String} (h : IsNumber text) {rest : List Char}
    (hrest : EndsNumber rest) (fuel : Nat) :
    Json.readValue (fuel + 1) (text.toList ++ rest) = some (numberNode text, rest) := by
  obtain ⟨n, hnode, hread⟩ := h.readNumber hrest
  obtain ⟨m, hlawful, hchars⟩ := h
  obtain ⟨c, tail, hcons, hfirst⟩ := hlawful.exists_cons
  rw [← hchars, hcons, List.cons_append] at hread
  rw [← hchars, hcons, List.cons_append, Json.readValue.eq_def, ← hnode]
  dsimp only
  -- no other value starts like a number
  split <;> simp_all

/-- What stands behind a value in a list or an object cannot go on with a number. -/
theorem endsNumber_cons {c : Char} (h : c = ',' ∨ c = ']' ∨ c = '}') (rest : List Char) :
    EndsNumber (c :: rest) := by
  intro d hd
  obtain rfl : c = d := by simpa using hd
  rcases h with rfl | rfl | rfl <;> decide

/-- Nothing is skipped in front of a character that is not blank. -/
theorem skipBlanks_cons {c : Char} (h : isBlank c = false) (rest : List Char) :
    skipBlanks (c :: rest) = c :: rest := by
  simp [skipBlanks, h]

/-- Members as they are read, with keys that are texts. -/
def readable (members : List (String × Node)) : List (Option String × Node) :=
  members.map fun member => (some member.1, member.2)

/-- An object of readable members is the table of these members. -/
theorem objectNode_readable (members : List (String × Node)) :
    objectNode (readable members) = .table members := by
  have hkeys : members.mapM (fun member => some (member.1, member.2)) = some members := by
    induction members with
    | nil => rfl
    | cons member rest ih =>
        rw [List.mapM_cons, ih]
        rfl
  simp only [objectNode, readable, List.mapM_map, Function.comp_def, Option.map_some, hkeys]

end Json

/-! ## Trees -/

namespace Document

theorem commaSeparated_cons_cons (item next : List Char) (rest : List (List Char)) :
    commaSeparated (item :: next :: rest) = item ++ ',' :: commaSeparated (next :: rest) := rfl

/-- Where a document starts there is no blank and no end of a list. -/
theorem exists_chars_cons (d : Document) :
    ∃ c rest, d.chars = c :: rest ∧ isBlank c = false ∧ c ≠ ']' := by
  have hnumber : ∀ text, IsNumber text →
      ∃ c rest, text.toList = c :: rest ∧ isBlank c = false ∧ c ≠ ']' := by
    rintro text ⟨n, hlawful, hchars⟩
    obtain ⟨c, rest, hcons, hfirst⟩ := hlawful.exists_cons
    refine ⟨c, rest, hchars ▸ hcons, ?_⟩
    rcases hfirst with hdigit | rfl
    · refine ⟨?_, ?_⟩
      · by_contra hblank
        simp only [isBlank, Bool.not_eq_false, Bool.or_eq_true, beq_iff_eq] at hblank
        rcases hblank with ((rfl | rfl) | rfl) | rfl <;> exact absurd hdigit (by decide)
      · rintro rfl
        exact absurd hdigit (by decide)
    · decide
  cases d with
  | null => exact ⟨_, _, rfl, rfl, by decide⟩
  | flag value => cases value <;> exact ⟨_, _, rfl, rfl, by decide⟩
  | integer value => exact hnumber _ (isNumber_integer value)
  | double value =>
      rw [chars]
      split
      · rename_i h
        exact hnumber _ (isNumber_double h)
      · exact ⟨_, _, rfl, rfl, by decide⟩
  | single value =>
      rw [chars]
      split
      · rename_i h
        exact hnumber _ (isNumber_single h)
      · exact ⟨_, _, rfl, rfl, by decide⟩
  | text value => exact ⟨_, _, rfl, rfl, by decide⟩
  | list items => exact ⟨_, _, by rw [chars]; rfl, rfl, by decide⟩
  | object members => exact ⟨_, _, by rw [chars]; rfl, rfl, by decide⟩

/-- A list that is not empty starts with neither a blank nor its closing bracket. -/
theorem exists_itemChars_cons (item : Document) (items : List Document) :
    ∃ c rest, commaSeparated (itemChars (item :: items)) = c :: rest ∧ isBlank c = false ∧
      c ≠ ']' := by
  obtain ⟨c, rest, hcons, hstart⟩ := item.exists_chars_cons
  cases items with
  | nil => exact ⟨c, rest, hcons, hstart⟩
  | cons next items =>
      refine ⟨c, rest ++ ',' :: commaSeparated (itemChars (next :: items)), ?_, hstart⟩
      rw [itemChars, itemChars, commaSeparated_cons_cons, hcons]
      rfl

/-- An object that is not empty starts with the quoted name of its first member. -/
theorem exists_memberChars_cons (member : String × Document) (members : List (String × Document)) :
    ∃ rest, commaSeparated (memberChars (member :: members)) = '"' :: rest := by
  cases members with
  | nil => exact ⟨_, rfl⟩
  | cons next members => exact ⟨_, rfl⟩

/-- A document has a character, and so it is given fuel. -/
theorem exists_fuel {d : Document} {fuel : Nat} (h : 2 * d.chars.length ≤ fuel) :
    ∃ less, fuel = less + 1 := by
  obtain ⟨c, rest, hchars, -⟩ := d.exists_chars_cons
  rw [hchars, List.length_cons] at h
  exact ⟨fuel - 1, by omega⟩

mutual

/-- **A written document is read back.**  It takes two units of fuel for each character. -/
theorem readValue_chars : ∀ (d : Document) (fuel : Nat) (rest : List Char),
    2 * d.chars.length ≤ fuel → EndsNumber rest →
      readValue fuel (d.chars ++ rest) = some (d.node, rest)
  | .null, fuel, rest, hfuel, _ => by
      obtain ⟨fuel, rfl⟩ := exists_fuel hfuel
      rfl
  | .flag value, fuel, rest, hfuel, _ => by
      obtain ⟨fuel, rfl⟩ := exists_fuel hfuel
      cases value <;> rfl
  | .integer value, fuel, rest, hfuel, hrest => by
      obtain ⟨fuel, rfl⟩ := exists_fuel hfuel
      exact (isNumber_integer value).readValue hrest fuel
  | .double value, fuel, rest, hfuel, hrest => by
      obtain ⟨fuel, rfl⟩ := exists_fuel hfuel
      rw [chars, node]
      split
      · rename_i h
        exact (isNumber_double h).readValue hrest fuel
      · rfl
  | .single value, fuel, rest, hfuel, hrest => by
      obtain ⟨fuel, rfl⟩ := exists_fuel hfuel
      rw [chars, node]
      split
      · rename_i h
        exact (isNumber_single h).readValue hrest fuel
      · rfl
  | .text value, fuel, rest, hfuel, _ => by
      obtain ⟨fuel, rfl⟩ := exists_fuel hfuel
      show readValue (fuel + 1) ('"' :: (value.toList.flatMap escape ++ ['"']) ++ rest) = _
      rw [List.cons_append, List.append_assoc, readValue, List.singleton_append, readText_quote]
      simp [node]
  | .list items, fuel, rest, hfuel, _ => by
      have hitems := readItems_chars items
      obtain ⟨fuel, rfl⟩ := exists_fuel hfuel
      cases items with
      | nil => rfl
      | cons item items =>
          have hsize : 2 * (commaSeparated (itemChars (item :: items))).length + 1 ≤ fuel := by
            simp only [chars, List.length_append, List.length_cons, List.length_nil] at hfuel
            omega
          have hread := hitems fuel rest (List.cons_ne_nil _ _) hsize
          obtain ⟨c, tail, hcons, hblank, hend⟩ := exists_itemChars_cons item items
          rw [chars, node, List.append_assoc, List.cons_append, List.singleton_append, readValue]
          rw [hcons, List.cons_append] at hread ⊢
          rw [skipBlanks_cons hblank]
          split
          · simp_all
          · rw [hread]
            rfl
  | .object members, fuel, rest, hfuel, _ => by
      have hmembers := readMembers_chars members
      obtain ⟨fuel, rfl⟩ := exists_fuel hfuel
      cases members with
      | nil => rfl
      | cons member members =>
          have hsize : 2 * (commaSeparated (memberChars (member :: members))).length + 1 ≤ fuel := by
            simp only [chars, List.length_append, List.length_cons, List.length_nil] at hfuel
            omega
          have hread := hmembers fuel rest (List.cons_ne_nil _ _) hsize
          obtain ⟨tail, hcons⟩ := exists_memberChars_cons member members
          rw [chars, node, List.append_assoc, List.cons_append, List.singleton_append, readValue]
          rw [hcons, List.cons_append] at hread ⊢
          rw [skipBlanks_cons rfl]
          split
          · simp_all
          · rw [hread, ← objectNode_readable]
            rfl

/-- The items of a list are read up to its closing bracket. -/
theorem readItems_chars : ∀ (items : List Document) (fuel : Nat) (rest : List Char), items ≠ [] →
    2 * (commaSeparated (itemChars items)).length + 1 ≤ fuel →
      readItems fuel (commaSeparated (itemChars items) ++ ']' :: rest) =
        some (itemNodes items, rest)
  | [], _, _, hne, _ => absurd rfl hne
  | item :: items, fuel, rest, _, hfuel => by
      have hitem := readValue_chars item
      have hitems := readItems_chars items
      obtain ⟨fuel, rfl⟩ : ∃ less, fuel = less + 1 := ⟨fuel - 1, by omega⟩
      cases items with
      | nil =>
          have hsize : 2 * item.chars.length ≤ fuel := by
            simp only [itemChars, commaSeparated] at hfuel
            omega
          show readItems (fuel + 1) (item.chars ++ ']' :: rest) = _
          rw [readItems, hitem fuel _ hsize (endsNumber_cons (by simp) rest)]
          rfl
      | cons next items =>
          have hsize : 2 * item.chars.length ≤ fuel ∧
              2 * (commaSeparated (itemChars (next :: items))).length + 1 ≤ fuel := by
            simp only [itemChars, commaSeparated_cons_cons, List.length_append,
              List.length_cons] at hfuel ⊢
            omega
          have hread := hitems fuel rest (List.cons_ne_nil _ _) hsize.2
          obtain ⟨c, tail, hcons, hblank, -⟩ := exists_itemChars_cons next items
          show readItems (fuel + 1)
            (item.chars ++ ',' :: commaSeparated (itemChars (next :: items)) ++ ']' :: rest) = _
          rw [List.append_assoc, List.cons_append, readItems,
            hitem fuel _ hsize.1 (endsNumber_cons (by simp) _)]
          simp only [skipBlanks_cons (show isBlank ',' = false from rfl)]
          rw [hcons, List.cons_append] at hread ⊢
          rw [skipBlanks_cons hblank, hread]
          rfl

/-- The members of an object are read up to its closing brace. -/
theorem readMembers_chars : ∀ (members : List (String × Document)) (fuel : Nat) (rest : List Char),
    members ≠ [] → 2 * (commaSeparated (memberChars members)).length + 1 ≤ fuel →
      readMembers fuel (commaSeparated (memberChars members) ++ '}' :: rest) =
        some (readable (memberNodes members), rest)
  | [], _, _, hne, _ => absurd rfl hne
  | (key, value) :: members, fuel, rest, _, hfuel => by
      have hvalue := readValue_chars value
      have hmembers := readMembers_chars members
      obtain ⟨fuel, rfl⟩ : ∃ less, fuel = less + 1 := ⟨fuel - 1, by omega⟩
      obtain ⟨c, tail, hcons, hblank, -⟩ := value.exists_chars_cons
      cases members with
      | nil =>
          have hsize : 2 * value.chars.length ≤ fuel := by
            simp only [memberChars, commaSeparated, List.length_append, List.length_cons] at hfuel
            omega
          have hread := hvalue fuel ('}' :: rest) hsize (endsNumber_cons (by simp) rest)
          have htext : commaSeparated (memberChars [(key, value)]) ++ '}' :: rest =
              '"' :: (key.toList.flatMap escape ++ '"' :: ':' :: (value.chars ++ '}' :: rest)) := by
            simp [memberChars, commaSeparated, quote]
          rw [htext, readMembers, readText_quote]
          rw [hcons, List.cons_append] at hread ⊢
          simp only [skipBlanks_cons (show isBlank ':' = false from rfl), skipBlanks_cons hblank,
            hread, skipBlanks_cons (show isBlank '}' = false from rfl)]
          simp [memberNodes, readable]
      | cons next members =>
          have hsize : 2 * value.chars.length ≤ fuel ∧
              2 * (commaSeparated (memberChars (next :: members))).length + 1 ≤ fuel := by
            simp only [memberChars, commaSeparated_cons_cons, List.length_append,
              List.length_cons] at hfuel ⊢
            omega
          have hread := hvalue fuel
            (',' :: (commaSeparated (memberChars (next :: members)) ++ '}' :: rest))
            hsize.1 (endsNumber_cons (by simp) _)
          have hmore := hmembers fuel rest (List.cons_ne_nil _ _) hsize.2
          obtain ⟨more, hnext⟩ := exists_memberChars_cons next members
          have htext : commaSeparated (memberChars ((key, value) :: next :: members)) ++ '}' :: rest =
              '"' :: (key.toList.flatMap escape ++ '"' :: ':' :: (value.chars ++
                ',' :: (commaSeparated (memberChars (next :: members)) ++ '}' :: rest))) := by
            simp [memberChars, commaSeparated_cons_cons, quote]
          rw [htext, readMembers, readText_quote]
          rw [hnext, List.cons_append] at hread hmore ⊢
          rw [hcons, List.cons_append] at hread ⊢
          simp only [skipBlanks_cons (show isBlank ':' = false from rfl), skipBlanks_cons hblank,
            hread, skipBlanks_cons (show isBlank ',' = false from rfl),
            skipBlanks_cons (show isBlank '"' = false from rfl), hmore]
          simp [memberNodes, readable]

end

/-- **A document is the text of its tree.** -/
theorem ofJson?_render (d : Document) : Node.ofJson? d.render = some d.node := by
  obtain ⟨c, rest, hcons, hblank, -⟩ := d.exists_chars_cons
  have hskip : skipBlanks d.chars = d.chars := by rw [hcons, skipBlanks_cons hblank]
  have hread := readValue_chars d (2 * d.chars.length + 2) [] (by omega) endsNumber_nil
  rw [List.append_nil] at hread
  simp [Node.ofJson?, render, hskip, hread, show skipBlanks [] = [] from rfl]

/-! ## One line -/

theorem toNat_ge_of_isDigit {c : Char} (h : c.isDigit) : 32 ≤ c.toNat := by
  have hlow : 48 ≤ c.toNat := by
    simp only [Char.isDigit, Bool.and_eq_true, decide_eq_true_eq] at h
    exact h.1
  omega

/-- The characters of a number are printing ones. -/
theorem toNat_ge_of_mem_number {text : String} (h : IsNumber text) {c : Char}
    (hc : c ∈ text.toList) : 32 ≤ c.toNat := by
  obtain ⟨n, hlawful, hchars⟩ := h
  rw [← hchars, NumberText.chars, List.mem_append, List.mem_append, List.mem_append] at hc
  rcases hc with ((hsign | hwhole) | hfraction) | hexponent
  · split at hsign
    · rw [List.mem_singleton.mp hsign]
      decide
    · cases hsign
  · exact toNat_ge_of_isDigit (hlawful.whole.2 c hwhole)
  · cases hparts : n.fraction with
    | none => simp [hparts] at hfraction
    | some digits =>
        rw [hparts] at hfraction
        rcases List.mem_cons.mp hfraction with rfl | hdigit
        · decide
        · exact toNat_ge_of_isDigit ((hlawful.fraction digits hparts).2 c hdigit)
  · cases hparts : n.exponent with
    | none => simp [hparts] at hexponent
    | some e =>
        obtain ⟨negative, digits⟩ := e
        rw [hparts] at hexponent
        simp only [Option.map_some, Option.getD_some, NumberText.exponentChars,
          List.mem_cons] at hexponent
        rcases hexponent with rfl | rfl | hdigit
        · decide
        · cases negative <;> decide
        · exact toNat_ge_of_isDigit ((hlawful.exponent _ hparts).2 c hdigit)

/-- Between commas there is nothing but the items. -/
theorem mem_commaSeparated {items : List (List Char)} {c : Char} (h : c ∈ commaSeparated items) :
    c = ',' ∨ ∃ item ∈ items, c ∈ item := by
  induction items with
  | nil => cases h
  | cons item rest ih =>
      cases rest with
      | nil => exact .inr ⟨item, List.mem_singleton_self _, h⟩
      | cons next rest =>
          rw [commaSeparated_cons_cons, List.mem_append, List.mem_cons] at h
          rcases h with hitem | rfl | hrest
          · exact .inr ⟨item, List.mem_cons_self, hitem⟩
          · exact .inl rfl
          · rcases ih hrest with rfl | ⟨other, hother, hc⟩
            · exact .inl rfl
            · exact .inr ⟨other, List.mem_cons_of_mem _ hother, hc⟩

/-- Brackets and commas around written items are above the blank as well. -/
theorem toNat_ge_of_mem_enclosed {items : List (List Char)}
    (h : ∀ item ∈ items, ∀ c ∈ item, 32 ≤ c.toNat) {opening closing : Char}
    (hopening : 32 ≤ opening.toNat) (hclosing : 32 ≤ closing.toNat) :
    ∀ c ∈ opening :: commaSeparated items ++ [closing], 32 ≤ c.toNat := by
  rw [List.cons_append, List.forall_mem_cons, List.forall_mem_append, List.forall_mem_singleton]
  refine ⟨hopening, fun c hc => ?_, hclosing⟩
  rcases mem_commaSeparated hc with rfl | ⟨item, hitem, hmember⟩
  · decide
  · exact h item hitem c hmember

theorem toNat_ge_of_all {text : List Char} (h : text.all (32 ≤ ·.toNat) = true) :
    ∀ c ∈ text, 32 ≤ c.toNat := by
  simpa using h

mutual

/-- Nothing that is written is below the blank. -/
theorem toNat_ge_of_mem_chars : ∀ (d : Document), ∀ c ∈ d.chars, 32 ≤ c.toNat
  | .null => toNat_ge_of_all rfl
  | .flag value => by cases value <;> exact toNat_ge_of_all rfl
  | .integer value => fun _ => toNat_ge_of_mem_number (isNumber_integer value)
  | .double value => by
      rw [chars]
      split
      · rename_i h
        exact fun _ => toNat_ge_of_mem_number (isNumber_double h)
      · exact toNat_ge_of_all rfl
  | .single value => by
      rw [chars]
      split
      · rename_i h
        exact fun _ => toNat_ge_of_mem_number (isNumber_single h)
      · exact toNat_ge_of_all rfl
  | .text value => fun _ => toNat_ge_of_mem_quote
  | .list items => by
      rw [chars]
      exact toNat_ge_of_mem_enclosed (toNat_ge_of_mem_itemChars items) (by decide) (by decide)
  | .object members => by
      rw [chars]
      exact toNat_ge_of_mem_enclosed (toNat_ge_of_mem_memberChars members) (by decide) (by decide)

/-- The items of a list are written without control characters. -/
theorem toNat_ge_of_mem_itemChars : ∀ (items : List Document),
    ∀ item ∈ itemChars items, ∀ c ∈ item, 32 ≤ c.toNat
  | [] => by simp [itemChars]
  | item :: items => by
      have hitem := toNat_ge_of_mem_chars item
      have hitems := toNat_ge_of_mem_itemChars items
      rw [itemChars, List.forall_mem_cons]
      exact ⟨hitem, hitems⟩

theorem toNat_ge_of_mem_memberChars : ∀ (members : List (String × Document)),
    ∀ member ∈ memberChars members, ∀ c ∈ member, 32 ≤ c.toNat
  | [] => by simp [memberChars]
  | (key, value) :: members => by
      have hvalue := toNat_ge_of_mem_chars value
      have hmembers := toNat_ge_of_mem_memberChars members
      rw [memberChars, List.forall_mem_cons, List.forall_mem_append, List.forall_mem_cons]
      exact ⟨⟨fun _ => toNat_ge_of_mem_quote, by decide, hvalue⟩, hmembers⟩

end

end Document

end VehicleBus

import Mathlib.Data.List.Basic
import VehicleBus.Cli.Lines
import VehicleBus.Cli.Session
import VehicleBus.Frame.Line
import VehicleBus.Proofs.Text.Utf8
import VehicleBus.Proofs.Wire.Scalar

/-!
# The frames of a log

A log is a text, and its lines are what stands between its line feeds; the frames of the
log are those of its lines, in order (`Frame.inLog`).  Taking the bytes of a log apart at
line feeds gives the bytes of these lines (`Cli.pieces_utf8`), and a carriage return at the
end of a line is a blank that no frame depends on.
-/

namespace VehicleBus

open Wire (Bytes)

/-! ## Logs -/

namespace Frame

/-- The frame of a line, if it holds a readable one. -/
def ofLine? (line : List Char) : Option Frame := (ofLine (String.ofList line)).toOption.join

/-- The frames of a log, line by line. -/
def inLog (text : List Char) : List Frame := (text.splitOn '\n').filterMap ofLine?

/-- The lines of a log that hold a readable frame; the others are blank, comments or
malformed. -/
def linesIn (text : List Char) : List (List Char) :=
  (text.splitOn '\n').filter fun line => (ofLine? line).isSome

/-- The other lines do not matter to the frames. -/
theorem inLog_congr {text text' : List Char} (h : linesIn text' = linesIn text) :
    inLog text' = inLog text := by
  have hlines : ∀ text, inLog text = (linesIn text).filterMap ofLine? := by
    intro text
    rw [inLog, linesIn, List.filterMap_filter]
    apply List.filterMap_congr
    intro line _
    cases ofLine? line <;> simp
  rw [hlines, hlines, h]

/-- The readable lines of two logs with a line feed between them. -/
theorem linesIn_append (front back : List Char) :
    linesIn (front ++ '\n' :: back) = linesIn front ++ linesIn back := by
  rw [linesIn, List.splitOn_append_cons_self, List.filter_append]
  rfl

variable {line : List Char}

/-- A line without a frame may stand before a log. -/
theorem linesIn_skip (hline : '\n' ∉ line) (hframe : ofLine? line = none) (back : List Char) :
    linesIn (line ++ '\n' :: back) = linesIn back := by
  have hnone : linesIn line = [] := by
    rw [linesIn, List.splitOn_eq_singleton hline]
    simp [hframe]
  rw [linesIn_append, hnone, List.nil_append]

/-- A line without a frame may stand between any two lines. -/
theorem linesIn_insert (hline : '\n' ∉ line) (hframe : ofLine? line = none)
    (front back : List Char) :
    linesIn (front ++ '\n' :: (line ++ '\n' :: back)) = linesIn (front ++ '\n' :: back) := by
  rw [linesIn_append, linesIn_skip hline hframe, ← linesIn_append]

end Frame

/-! ## Carriage returns -/

/-- A blank at the end of a text is trimmed. -/
theorem Text.trim_append_blank {c : Char} (h : isBlank c = true) (text : List Char) :
    trim (text ++ [c]) = trim text := by
  rw [trim, trim, List.dropWhile_append]
  cases hfront : text.dropWhile isBlank with
  | nil => simp [h]
  | cons d rest => simp [h]

namespace Cli

/-- A line without a carriage return at its end. -/
def withoutReturn (line : List Char) : List Char :=
  if line.getLast? = some '\r' then line.dropLast else line

/-- A carriage return at the end of a line makes no difference to its frame. -/
theorem ofLine?_withoutReturn (line : List Char) :
    Frame.ofLine? (withoutReturn line) = Frame.ofLine? line := by
  rw [withoutReturn]
  split
  · rename_i hlast
    have hline : line.dropLast ++ ['\r'] = line := List.dropLast_append_getLast? _ hlast
    have htrim : Text.trim line.dropLast = Text.trim line := by
      rw [← Text.trim_append_blank (show Text.isBlank '\r' = true by decide), hline]
    simp only [Frame.ofLine?, Frame.ofLine, String.toList_ofList, htrim]
  · rfl

theorem ofLine?_nil : Frame.ofLine? [] = none := by decide

/-! ## Bytes of lines -/

/-- The bytes of characters. -/
def utf8 (text : List Char) : Bytes := text.flatMap String.utf8EncodeChar

/-- The bytes of a text are read as this text. -/
theorem text?_utf8 (text : List Char) : text? (utf8 text) = some (String.ofList text) := by
  rw [utf8, ← Text.utf8_ofList]
  exact Wire.Scalar.fromUTF8?_toUTF8 _

theorem isEmpty_utf8 (text : List Char) : (utf8 text).isEmpty = text.isEmpty := by
  cases text with
  | nil => rfl
  | cons c text => simp [utf8, String.utf8EncodeChar_ne_nil]

/-- A byte below 128 is a byte of its character only. -/
theorem notMem_utf8EncodeChar {b : UInt8} {c d : Char} (hd : d.toNat < 128)
    (hb : b.toNat = d.toNat) (hne : c ≠ d) : b ∉ String.utf8EncodeChar c := by
  intro hmember
  rcases Text.mem_utf8EncodeChar hmember with ⟨-, hcode⟩ | ⟨-, hhigh⟩
  · exact hne (Char.toNat_inj.mp (hcode.symm.trans hb))
  · omega

/-- Dropping a carriage return from the bytes of a line drops it from the line. -/
theorem dropReturn_utf8 (line : List Char) :
    dropReturn (utf8 line) = utf8 (withoutReturn line) := by
  rcases List.eq_nil_or_concat' line with rfl | ⟨front, c, rfl⟩
  · rfl
  have hbytes : utf8 (front ++ [c]) = utf8 front ++ String.utf8EncodeChar c := by simp [utf8]
  rw [dropReturn, withoutReturn, hbytes, List.getLast?_concat, List.dropLast_concat,
    List.getLast?_append_of_ne_nil _ (String.utf8EncodeChar_ne_nil)]
  by_cases hreturn : c = '\r'
  · subst hreturn
    have hsingle : String.utf8EncodeChar '\r' = [13] := by decide
    rw [hsingle, List.dropLast_concat]
    rfl
  · have hlast : (String.utf8EncodeChar c).getLast? ≠ some 13 := fun hlast =>
      notMem_utf8EncodeChar (show '\r'.toNat < 128 by decide) rfl hreturn
        (List.mem_of_getLast? hlast)
    rw [if_neg hlast, if_neg (by simpa using hreturn), hbytes]

/-- Bytes are taken apart at each line feed. -/
theorem pieces_eq_splitOn (bytes : Bytes) : pieces bytes = bytes.splitOn 10 := by
  induction bytes with
  | nil => rfl
  | cons byte rest ih =>
      rw [pieces, ih, List.splitOn_cons_eq_if_modifyHead]
      cases hrest : rest.splitOn 10 with
      | nil => exact absurd hrest (List.splitOn_ne_nil _ _)
      | cons first others => simp

/-- What no separator stands in belongs to the first piece. -/
theorem splitOn_append_of_notMem {α : Type} [BEq α] [LawfulBEq α] {separator : α}
    {front : List α} (h : separator ∉ front) (back : List α) :
    (front ++ back).splitOn separator = (back.splitOn separator).modifyHead (front ++ ·) := by
  induction front with
  | nil =>
      rw [List.nil_append]
      cases back.splitOn separator <;> rfl
  | cons a front ih =>
      rw [List.mem_cons, not_or] at h
      rw [List.cons_append, List.splitOn_cons_eq_if_modifyHead, if_neg (by simpa using Ne.symm h.1),
        ih h.2]
      cases back.splitOn separator <;> rfl

/-- **Bytes are split where the text is.** -/
theorem pieces_utf8 (text : List Char) : pieces (utf8 text) = (text.splitOn '\n').map utf8 := by
  rw [pieces_eq_splitOn]
  induction text with
  | nil => rfl
  | cons c text ih =>
      have hbytes : utf8 (c :: text) = String.utf8EncodeChar c ++ utf8 text := rfl
      rw [List.splitOn_cons_eq_if_modifyHead, hbytes]
      by_cases hfeed : c = '\n'
      · subst hfeed
        have hsingle : String.utf8EncodeChar '\n' = [10] := by decide
        rw [hsingle, List.singleton_append, List.splitOn_cons_eq_if_modifyHead, ih]
        rfl
      · have hnone : (10 : UInt8) ∉ String.utf8EncodeChar c :=
          notMem_utf8EncodeChar (show '\n'.toNat < 128 by decide) rfl hfeed
        rw [splitOn_append_of_notMem hnone, ih, if_neg (by simpa using hfeed)]
        cases text.splitOn '\n' <;> rfl

/-- **The lines of a log in bytes have the frames of the log.** -/
theorem exists_linesOf_utf8 (text : List Char) :
    ∃ lines : List (List Char), linesOf (utf8 text) = lines.map utf8 ∧
      lines.filterMap Frame.ofLine? = Frame.inLog text := by
  obtain hnil | ⟨front, last, hsplit⟩ := List.eq_nil_or_concat' (text.splitOn '\n')
  · exact absurd hnil (List.splitOn_ne_nil _ _)
  have hlines : linesOf (utf8 text) =
      (front.map withoutReturn).map utf8 ++ if last.isEmpty then [] else [utf8 last] := by
    rw [linesOf, pieces_utf8, hsplit]
    simp [isEmpty_utf8, dropReturn_utf8, Function.comp_def]
  have hfront : (front.map withoutReturn).filterMap Frame.ofLine? =
      front.filterMap Frame.ofLine? := by
    rw [List.filterMap_map]
    exact List.filterMap_congr fun line _ => ofLine?_withoutReturn line
  rw [hlines, Frame.inLog, hsplit, List.filterMap_append, ← hfront, ← List.filterMap_append]
  cases last with
  | nil => exact ⟨front.map withoutReturn, by simp, by simp [ofLine?_nil]⟩
  | cons c last => exact ⟨front.map withoutReturn ++ [c :: last], by simp, rfl⟩

end Cli

end VehicleBus

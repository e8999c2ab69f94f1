import VehicleBus.Text.Lowercase.Table

/-!
# Lower case

The lower case form of a text.  Most characters are mapped one by one; the
dotted capital I becomes two characters, and a capital sigma has its own form
at the end of a word.
-/

namespace VehicleBus.Text

/-- The lower case form of a character on its own. -/
def lowercaseChar (c : Char) : List Char :=
  if c.toNat = 0x130 then ['i', Char.ofNat 0x307]
  else
    let holds (run : CaseRun) : Bool :=
      decide (run.first ≤ c.toNat ∧ c.toNat ≤ run.last ∧ (c.toNat - run.first) % run.step = 0)
    match lowercaseRuns.find? holds with
    | some run => [Char.ofNat (c.toNat + run.distance).toNat]
    | none => [c]

/-- Does a letter with case come first, apart from characters that words pass
over? -/
def startsCased (text : List Char) : Bool :=
  match text.dropWhile caseIgnorableRanges.contains with
  | c :: _ => casedRanges.contains c
  | [] => false

/-- The lower case form of a text behind characters given in reverse. -/
def lowercaseAfter (before : List Char) : List Char → List Char
  | [] => []
  | c :: rest =>
    let form :=
      if c.toNat = 0x3A3 then
        if startsCased before && !startsCased rest then [Char.ofNat 0x3C2] else [Char.ofNat 0x3C3]
      else lowercaseChar c
    form ++ lowercaseAfter (c :: before) rest

/-- The lower case form of a text. -/
def lowercase (text : String) : String := String.ofList (lowercaseAfter [] text.toList)

end VehicleBus.Text

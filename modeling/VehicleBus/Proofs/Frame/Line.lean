import VehicleBus.Proofs.Frame.Payload
import VehicleBus.Proofs.Text.Words

/-!
# Lines that hold a frame

`FrameLine` are the parts of a line with a frame: a time between parentheses that may be
missing, a word that ends in the number of a bus, and a word of identifier and data.  A
line holds a frame exactly if it is put together of such parts
(`Frame.ofLine_eq_ok_some_iff`).

Numbers are read as unsigned integers, and these may have a plus sign in front of their
digits: so may the identifier, and a plus sign may stand for the first digit of a byte.
The number of the bus has none, as it starts with the first digit of its word.
-/

namespace VehicleBus

open Text

namespace Text

/-- The printing characters of ASCII are not blank. -/
theorem isBlank_eq_false {c : Char} (hlow : 33 ≤ c.toNat) (hhigh : c.toNat < 128) :
    isBlank c = false := by
  simp [isBlank, Ranges.contains, blankRanges]
  omega

/-- Hexadecimal digits are not blank. -/
theorem isBlank_of_isHexDigit {c : Char} (h : isHexDigit c = true) : isBlank c = false := by
  have hrange := toNat_of_isHexDigit h
  exact isBlank_eq_false (by omega) (by omega)

/-- Decimal digits are hexadecimal digits too. -/
theorem isHexDigit_of_isDigit {c : Char} (h : c.isDigit = true) : isHexDigit c = true := by
  obtain ⟨value, -, hvalue⟩ := isSome_digit?_iff.mp (isSome_digit?_ten.mpr h)
  rw [isHexDigit, hvalue]
  rfl

/-- Digits that may have a plus sign in front of them. -/
def IsSignedNumeral (base : Nat) (text : List Char) : Prop :=
  ∃ digits, (text = digits ∨ text = '+' :: digits) ∧ IsNumeral base digits

/-- A text is read as an unsigned integer if it is a numeral of a value below the bound. -/
theorem readUnsigned_eq_ok_iff_isSignedNumeral {base bound n : Nat} {text : List Char}
    (hbase : 0 < base) (hbound : 0 < bound) :
    readUnsigned base bound text = .ok n ↔
      IsSignedNumeral base text ∧ valueOfDigits base text = n ∧ n < bound := by
  rw [readUnsigned_eq_ok_iff hbase hbound]
  constructor
  · rintro ⟨digits, htext, hdigits, hvalue, hn⟩
    refine ⟨⟨digits, htext, hdigits⟩, ?_, hn⟩
    rcases htext with rfl | rfl
    · exact hvalue
    · rw [valueOfDigits_plus, hvalue]
  · rintro ⟨⟨digits, htext, hdigits⟩, hvalue, hn⟩
    refine ⟨digits, htext, hdigits, ?_, hn⟩
    rcases htext with rfl | rfl
    · exact hvalue
    · rw [← valueOfDigits_plus, hvalue]

/-- A hexadecimal numeral consists of digits and perhaps a plus sign. -/
theorem IsSignedNumeral.forall_mem {text : List Char} (h : IsSignedNumeral 16 text) :
    ∀ c ∈ text, isHexDigit c = true ∨ c = '+' := by
  obtain ⟨digits, htext, -, hdigits⟩ := h
  simp only [isSome_digit?_sixteen] at hdigits
  intro c hc
  rcases htext with rfl | rfl
  · exact .inl (hdigits c hc)
  · rcases List.mem_cons.mp hc with rfl | hc
    · exact .inr rfl
    · exact .inl (hdigits c hc)

end Text

/-! ## The parts of a line -/

/-- The parts of a line that holds a frame. -/
structure FrameLine where
  before : List Char := []
  /-- A time, without its parentheses, and the blanks behind it. -/
  time : Option (List Char × List Char) := none
  /-- The name of the bus up to its number. -/
  name : List Char := []
  bus : List Char
  between : List Char := [' ']
  id : List Char
  /-- Two characters for each byte. -/
  data : List (Char × Char) := []
  after : List Char := []

namespace FrameLine

/-- The word of a time. -/
def timeWord (time : List Char) : List Char := '(' :: time ++ [')']

/-- The word of the bus. -/
def busWord (line : FrameLine) : List Char := line.name ++ line.bus

/-- The word of identifier and data. -/
def bodyWord (line : FrameLine) : List Char := line.id ++ '#' :: Frame.pairChars line.data

/-- The characters of a line. -/
def chars (line : FrameLine) : List Char :=
  line.before ++
    ((line.time.map fun time => timeWord time.1 ++ time.2).getD [] ++
      (line.busWord ++ (line.between ++ (line.bodyWord ++ line.after))))

/-- The parts keep to the grammar of lines. -/
structure Lawful (line : FrameLine) : Prop where
  before : AllBlank line.before
  time : ∀ time ∈ line.time, (∀ c ∈ time.1, isBlank c = false) ∧ AllBlank time.2 ∧ time.2 ≠ []
  /-- Without a time, the bus does not start like a time or a comment. -/
  opening : line.time = none → ∀ c ∈ line.name.head?, c ≠ '(' ∧ c ≠ ';'
  name : ∀ c ∈ line.name, isBlank c = false ∧ c.isDigit = false
  bus : line.bus ≠ [] ∧ ∀ c ∈ line.bus, c.isDigit = true
  between : AllBlank line.between ∧ line.between ≠ []
  id : IsSignedNumeral 16 line.id
  data : line.data.length ≤ 8 ∧ ∀ pair ∈ line.data, Frame.IsByte pair
  after : AllBlank line.after

/-- The time of a frame is the one that its line tells; without one there is none. -/
def TellsTime : Option (List Char × List Char) → Option Time → Prop
  | none, timestamp => timestamp = none
  | some time, timestamp => ∃ t, Frame.readTime (timeWord time.1) = .ok t ∧ timestamp = some t

/-- What a line says about its frame: the numbers of bus and identifier, the data from
the front of the payload, and the time if there is one. -/
structure Tells (line : FrameLine) (frame : Frame) : Prop where
  bus : valueOfDigits 10 line.bus = frame.key.bus.toNat
  id : valueOfDigits 16 line.id = frame.key.id.toNat
  idBound : frame.key.id.toNat ≤ 0x1FFFFFFF
  payload : frame.payload.toNat =
    valueOfDigits 16 (Frame.pairChars line.data) * 256 ^ (8 - line.data.length)
  timestamp : TellsTime line.time frame.timestamp

namespace Lawful

variable {line : FrameLine}

/-- The bus of a lawful line is a word. -/
theorem isWord_busWord (h : line.Lawful) : IsWord line.busWord := by
  refine ⟨fun hnil => h.bus.1 (List.append_eq_nil_iff.mp hnil).2, fun c hc => ?_⟩
  rcases List.mem_append.mp hc with hname | hbus
  · exact (h.name c hname).1
  · exact isBlank_of_isHexDigit (isHexDigit_of_isDigit (h.bus.2 c hbus))

/-- The identifier and the data of a lawful line are one word. -/
theorem isWord_bodyWord (h : line.Lawful) : IsWord line.bodyWord := by
  have hdigit : ∀ c, isHexDigit c = true ∨ c = '+' → isBlank c = false := by
    rintro c (hc | rfl)
    · exact isBlank_of_isHexDigit hc
    · decide
  refine ⟨List.append_ne_nil_of_right_ne_nil _ (List.cons_ne_nil _ _), fun c hc => ?_⟩
  rcases List.mem_append.mp hc with hid | hrest
  · exact hdigit c (h.id.forall_mem c hid)
  · rcases List.mem_cons.mp hrest with rfl | hdata
    · decide
    · obtain ⟨pair, hpair, hmember⟩ := List.mem_flatMap.mp hdata
      obtain ⟨hfirst, hsecond⟩ := h.data.2 pair hpair
      simp only [List.mem_cons, List.not_mem_nil, or_false] at hmember
      rcases hmember with rfl | rfl
      · exact hdigit _ hfirst
      · exact hdigit _ (.inl hsecond)

/-- The time of a lawful line is a word. -/
theorem isWord_timeWord (h : line.Lawful) {time : List Char × List Char}
    (htime : time ∈ line.time) : IsWord (timeWord time.1) := by
  refine ⟨List.cons_ne_nil _ _, fun c hc => ?_⟩
  rcases List.mem_cons.mp hc with rfl | hc
  · decide
  · rcases List.mem_append.mp hc with hinner | hend
    · exact (h.time time htime).1 c hinner
    · rw [List.mem_singleton.mp hend]
      decide

/-- The words of a line. -/
theorem words_chars (h : line.Lawful) :
    words line.chars =
      (line.time.map fun time => timeWord time.1).toList ++ [line.busWord, line.bodyWord] := by
  have hbody : words (line.bodyWord ++ line.after) = [line.bodyWord] := by
    rw [words_append_of_word h.isWord_bodyWord h.after.endsWord, words_eq_nil_iff.mpr h.after]
  have hbus : words (line.busWord ++ (line.between ++ (line.bodyWord ++ line.after))) =
      [line.busWord, line.bodyWord] := by
    rw [words_append_of_word h.isWord_busWord (h.between.1.endsWord_append h.between.2 _),
      words_append_of_blank h.between.1, hbody]
  rw [chars, words_append_of_blank h.before]
  cases htime : line.time with
  | none => exact hbus
  | some time =>
      obtain ⟨-, hblank, hne⟩ := h.time time htime
      rw [Option.map_some, Option.getD_some, List.append_assoc,
        words_append_of_word (h.isWord_timeWord htime) (hblank.endsWord_append hne _),
        words_append_of_blank hblank, hbus]
      rfl

end Lawful

end FrameLine

namespace Frame

/-! ## Words that are read -/

/-- The number of a bus is read from its first digit on. -/
theorem readUnsigned_of_readBus {token : List Char} {bus : UInt8} (h : readBus token = .ok bus) :
    readUnsigned 10 UInt8.size (token.dropWhile fun c => !c.isDigit) = .ok bus.toNat := by
  rw [readBus] at h
  split at h
  · rename_i n hn
    cases h
    have hbound := ((readUnsigned_eq_ok_iff (by decide) (by decide)).mp hn).choose_spec.2.2.2
    rw [hn, UInt8.toNat_ofNat_of_lt' hbound]
  · cases h

/-- **What is read as the number of a bus**: the digits that its word ends in. -/
theorem readBus_eq_ok_iff {token : List Char} {bus : UInt8} :
    readBus token = .ok bus ↔ ∃ name digits, token = name ++ digits ∧
      (∀ c ∈ name, c.isDigit = false) ∧ digits ≠ [] ∧ (∀ c ∈ digits, c.isDigit = true) ∧
      valueOfDigits 10 digits = bus.toNat := by
  constructor
  · intro hok
    obtain ⟨digits, htext, ⟨hne, hdigits⟩, hvalue, -⟩ :=
      (readUnsigned_eq_ok_iff (by decide) (by decide)).mp (readUnsigned_of_readBus hok)
    simp only [isSome_digit?_ten] at hdigits
    have hstart := List.head?_dropWhile_not (fun c => !c.isDigit) token
    -- What starts with a digit does not start with a plus sign.
    have hplain : token.dropWhile (fun c => !c.isDigit) = digits := by
      rcases htext with hplain | hplus
      · exact hplain
      · rw [hplus] at hstart
        cases hstart
    refine ⟨token.takeWhile fun c => !c.isDigit, digits, ?_, ?_, hne, hdigits, hvalue⟩
    · rw [← hplain, List.takeWhile_append_dropWhile]
    · intro c hc
      simpa using List.mem_takeWhile_imp hc
  · rintro ⟨name, digits, rfl, hname, hne, hdigits, hvalue⟩
    have hdrop : (name ++ digits).dropWhile (fun c => !c.isDigit) = digits := by
      rw [List.dropWhile_append_of_pos (by simpa using hname)]
      obtain ⟨d, rest, rfl⟩ := List.exists_cons_of_ne_nil hne
      simp [hdigits d List.mem_cons_self]
    have hok : readUnsigned 10 UInt8.size digits = .ok bus.toNat := by
      rw [readUnsigned_eq_ok_iff (by decide) (by decide)]
      refine ⟨digits, .inl rfl, ⟨hne, ?_⟩, hvalue, bus.toNat_lt⟩
      simpa only [isSome_digit?_ten] using hdigits
    rw [readBus, hdrop, hok]
    dsimp only
    rw [UInt8.ofNat_toNat]

/-- No digit of an identifier is taken for the separator behind it. -/
theorem split_separator {id : List Char} (h : IsSignedNumeral 16 id) (rest : List Char) :
    (id ++ '#' :: rest).takeWhile (· != '#') = id ∧
      (id ++ '#' :: rest).dropWhile (· != '#') = '#' :: rest := by
  have hid : ∀ c ∈ id, (c != '#') = true := by
    intro c hc
    rcases h.forall_mem c hc with hdigit | rfl
    · rw [bne_iff_ne]
      rintro rfl
      cases hdigit
    · decide
  rw [List.takeWhile_append_of_pos hid, List.dropWhile_append_of_pos hid]
  simp

/-- **What is read as identifier and data.** -/
theorem readBody_eq_ok_iff {bus : UInt8} {token : List Char} {key : Key} {payload : Payload} :
    readBody bus token = .ok (key, payload) ↔ ∃ id data, token = id ++ '#' :: pairChars data ∧
      IsSignedNumeral 16 id ∧ valueOfDigits 16 id = key.id.toNat ∧
      key.id.toNat ≤ 0x1FFFFFFF ∧ key.bus = bus ∧ data.length ≤ 8 ∧
      (∀ pair ∈ data, IsByte pair) ∧
      payload.toNat = valueOfDigits 16 (pairChars data) * 256 ^ (8 - data.length) := by
  have hidBound : idBound = 0x1FFFFFFF + 1 := rfl
  constructor
  · intro hread
    have hsplit := List.takeWhile_append_dropWhile (p := (· != '#')) (l := token)
    have hstart := List.head?_dropWhile_not (· != '#') token
    rw [readBody] at hread
    split at hread
    · cases hread
    · rename_i separator dataText hdrop
      rw [hdrop] at hsplit hstart
      obtain rfl : separator = '#' := by simpa using hstart
      split at hread
      · cases hread
      · rename_i n hn
        obtain ⟨hnumeral, hvalue, hbound⟩ :=
          (readUnsigned_eq_ok_iff_isSignedNumeral (by decide) (by decide)).mp hn
        split at hread
        · cases hread
        · rename_i hid
          obtain ⟨data, hdata, hresult⟩ := map_eq_ok_iff.mp hread
          obtain ⟨pairs, rfl, hlength, hpairs, rfl⟩ := readPayload_eq_ok_iff.mp hdata
          cases hresult
          have hword : (UInt32.ofNat n).toNat = n := UInt32.toNat_ofNat_of_lt' hbound
          refine ⟨_, pairs, hsplit.symm, hnumeral, hvalue.trans hword.symm, ?_, rfl, hlength, hpairs,
            toNat_payloadOfBytes_map hlength hpairs⟩
          show (UInt32.ofNat n).toNat ≤ _
          omega
  · rintro ⟨id, data, rfl, hnumeral, hvalue, hbound, rfl, hlength, hpairs, hpayload⟩
    obtain ⟨htake, hdrop⟩ := split_separator hnumeral (pairChars data)
    have hread : readUnsigned 16 UInt32.size id = .ok key.id.toNat :=
      (readUnsigned_eq_ok_iff_isSignedNumeral (by decide) (by decide)).mpr
        ⟨hnumeral, hvalue, key.id.toNat_lt⟩
    have hdata : readPayload (pairChars data) = .ok payload := by
      refine readPayload_eq_ok_iff.mpr ⟨data, rfl, hlength, hpairs, ?_⟩
      rw [← UInt64.toNat_inj, hpayload, toNat_payloadOfBytes_map hlength hpairs]
    rw [readBody, hdrop, htake]
    dsimp only
    rw [hread]
    dsimp only
    rw [if_neg (by omega), hdata, UInt32.ofNat_toNat]
    rfl

/-- Two words are read as a frame exactly if one names its bus and the other its
identifier and data. -/
theorem readWords_eq_ok_iff {line : List Char} {timestamp : Option Time}
    {tokens : List (List Char)} {frame : Frame} :
    readWords line timestamp tokens = .ok frame ↔ ∃ busWord bodyWord,
      tokens = [busWord, bodyWord] ∧ readBus busWord = .ok frame.key.bus ∧
      readBody frame.key.bus bodyWord = .ok (frame.key, frame.payload) ∧
      frame.timestamp = timestamp := by
  constructor
  · intro hread
    rw [readWords.eq_def] at hread
    split at hread
    · cases hread
    · cases hread
    · rename_i busWord bodyWord
      cases hbus : readBus busWord with
      | error fault =>
          rw [hbus] at hread
          cases hread
      | ok bus =>
          cases hbody : readBody bus bodyWord with
          | error fault =>
              rw [hbus] at hread
              simp only [bind, Except.bind, hbody] at hread
              cases hread
          | ok body =>
              obtain ⟨key, payload⟩ := body
              rw [hbus] at hread
              simp only [bind, Except.bind, hbody, pure, Except.pure, Except.ok.injEq] at hread
              obtain ⟨-, -, -, -, -, -, rfl, -⟩ := readBody_eq_ok_iff.mp hbody
              subst hread
              exact ⟨busWord, bodyWord, rfl, hbus, hbody, rfl⟩
    · cases hread
  · rintro ⟨busWord, bodyWord, rfl, hbus, hbody, rfl⟩
    simp only [readWords, hbus, hbody, bind, Except.bind, pure, Except.pure]

/-- A time stands in parentheses. -/
theorem readTime_eq_ok {token : List Char} {time : Time} (h : readTime token = .ok time) :
    ∃ inner, token = FrameLine.timeWord inner := by
  rw [readTime.eq_def] at h
  split at h
  · rename_i rest
    split at h
    · rename_i hlast
      exact ⟨rest.dropLast, congrArg ('(' :: ·) (List.dropLast_append_getLast? _ hlast).symm⟩
    · cases h
  · cases h

/-- A line is read word by word; the first word decides whether there is a time. -/
theorem ofLine_eq_ok_some_iff_words {text : String} {frame : Frame} :
    ofLine text = .ok (some frame) ↔ ∃ first others, words text.toList = first :: others ∧
      if first.head? = some '(' then
        ∃ time, readTime first = .ok time ∧
          readWords (trim text.toList) (some time) others = .ok frame
      else first.head? ≠ some ';' ∧
        readWords (trim text.toList) none (first :: others) = .ok frame := by
  rw [ofLine]
  cases hwords : words text.toList with
  | nil =>
      have hempty : trim text.toList = [] := by
        rw [words_eq_nil_iff] at hwords
        rw [trim_eq, List.rdropWhile_eq_nil_iff, List.dropWhile_eq_nil_iff.mpr hwords]
        simp
      simp [hempty]
  | cons first others =>
      obtain ⟨blanks, rest, -, -, ⟨hne, -⟩, -, -⟩ := words_eq_cons_iff.mp hwords
      obtain ⟨c, more, rfl⟩ := List.exists_cons_of_ne_nil hne
      have hhead : (trim text.toList).head? = some c := head?_trim hwords
      have hempty : (trim text.toList).isEmpty = false := by
        cases htrim : trim text.toList with
        | nil =>
            rw [htrim] at hhead
            cases hhead
        | cons d rest => rfl
      rw [hempty, hhead, words_trim, hwords]
      by_cases htime : c = '('
      · subst htime
        cases hread : readTime ('(' :: more) with
        | error fault => simp [hread, bind, Except.bind]
        | ok time =>
            cases hframe : readWords (trim text.toList) (some time) others <;>
              simp [hread, hframe, bind, Except.bind, pure, Except.pure]
      · by_cases hcomment : c = ';'
        · simp [hcomment]
        · simp [htime, hcomment, map_eq_ok_iff]

/-! ## Lines -/

/-- The parts of a line make its frame. -/
theorem ofLine_of_tells {line : FrameLine} {frame : Frame} (h : line.Lawful)
    (htells : line.Tells frame) : ofLine (String.ofList line.chars) = .ok (some frame) := by
  have hbus : readBus line.busWord = .ok frame.key.bus :=
    readBus_eq_ok_iff.mpr ⟨line.name, line.bus, rfl, fun c hc => (h.name c hc).2, h.bus.1, h.bus.2,
      htells.bus⟩
  have hbody : readBody frame.key.bus line.bodyWord = .ok (frame.key, frame.payload) :=
    readBody_eq_ok_iff.mpr ⟨line.id, line.data, rfl, h.id, htells.id, htells.idBound, rfl,
      h.data.1, h.data.2, htells.payload⟩
  have htimestamp := htells.timestamp
  rw [ofLine_eq_ok_some_iff_words, String.toList_ofList, h.words_chars]
  cases htime : line.time with
  | some time =>
      rw [htime] at htimestamp
      obtain ⟨t, hread, hframe⟩ := htimestamp
      refine ⟨FrameLine.timeWord time.1, _, rfl, ?_⟩
      rw [if_pos (by rfl)]
      exact ⟨t, hread, readWords_eq_ok_iff.mpr ⟨_, _, rfl, hbus, hbody, hframe⟩⟩
  | none =>
      rw [htime] at htimestamp
      obtain ⟨d, digits, hdigits⟩ := List.exists_cons_of_ne_nil h.bus.1
      have hfirst : ∀ c ∈ line.busWord.head?, c ≠ '(' ∧ c ≠ ';' := by
        cases hname : line.name with
        | nil =>
            intro c hc
            have hdigit : d.isDigit = true := h.bus.2 d (by rw [hdigits]; exact List.mem_cons_self)
            obtain rfl : d = c := by simpa [FrameLine.busWord, hname, hdigits] using hc
            constructor <;> rintro rfl <;> cases hdigit
        | cons c name =>
            intro e he
            have hopening := h.opening htime
            rw [hname] at hopening
            apply hopening
            simpa [FrameLine.busWord, hname] using he
      have hparen : line.busWord.head? ≠ some '(' := fun hparen => (hfirst _ hparen).1 rfl
      refine ⟨_, _, rfl, ?_⟩
      rw [if_neg hparen]
      refine ⟨fun hcomment => (hfirst _ hcomment).2 rfl, ?_⟩
      exact readWords_eq_ok_iff.mpr ⟨_, _, rfl, hbus, hbody, htimestamp⟩

/-- The words of bus and body are put together of the parts of a line. -/
theorem exists_parts {before busWord between bodyWord after : List Char}
    {frame : Frame} (time : Option (List Char × List Char)) (hbefore : AllBlank before)
    (htime : ∀ t ∈ time, (∀ c ∈ t.1, isBlank c = false) ∧ AllBlank t.2 ∧ t.2 ≠ [])
    (hopening : time = none → ∀ c ∈ busWord.head?, c ≠ '(' ∧ c ≠ ';')
    (hword : IsWord busWord) (hbetween : AllBlank between ∧ between ≠ [])
    (hafter : AllBlank after) (hbus : readBus busWord = .ok frame.key.bus)
    (hbody : readBody frame.key.bus bodyWord = .ok (frame.key, frame.payload))
    (htimestamp : FrameLine.TellsTime time frame.timestamp) :
    ∃ line : FrameLine, line.chars =
        before ++ ((time.map fun t => FrameLine.timeWord t.1 ++ t.2).getD [] ++
          (busWord ++ (between ++ (bodyWord ++ after)))) ∧
      line.Lawful ∧ line.Tells frame := by
  obtain ⟨name, digits, rfl, hname, hne, hdigits, hbusValue⟩ := readBus_eq_ok_iff.mp hbus
  obtain ⟨id, data, rfl, hid, hidValue, hidBound, -, hlength, hpairs, hpayload⟩ :=
    readBody_eq_ok_iff.mp hbody
  refine ⟨⟨before, time, name, digits, between, id, data, after⟩, rfl, ?_,
    ⟨hbusValue, hidValue, hidBound, hpayload, htimestamp⟩⟩
  refine ⟨hbefore, htime, fun hnone c hc => hopening hnone c ?_, ?_, ⟨hne, hdigits⟩, hbetween, hid,
    ⟨hlength, hpairs⟩, hafter⟩
  · obtain ⟨rest, rfl⟩ := List.head?_eq_some_iff.mp hc
    rfl
  · exact fun c hc => ⟨hword.2 c (List.mem_append_left _ hc), hname c hc⟩

/-- **The lines that hold a frame**, and the frame they hold. -/
theorem ofLine_eq_ok_some_iff {text : String} {frame : Frame} :
    ofLine text = .ok (some frame) ↔
      ∃ line : FrameLine, line.chars = text.toList ∧ line.Lawful ∧ line.Tells frame := by
  constructor
  · intro h
    obtain ⟨first, others, hwords, hread⟩ := ofLine_eq_ok_some_iff_words.mp h
    split at hread
    · obtain ⟨time, htime, hframe⟩ := hread
      obtain ⟨busWord, bodyWord, rfl, hbus, hbody, hstamp⟩ := readWords_eq_ok_iff.mp hframe
      obtain ⟨before, rest, htext, hbefore, hfirst, hends, hrest⟩ := words_eq_cons_iff.mp hwords
      obtain ⟨blanks, between, after, rfl, hblanks, hbusWord, hbetween, hne, -, hafter⟩ :=
        words_eq_pair hrest
      obtain ⟨inner, rfl⟩ := readTime_eq_ok htime
      have hinner : ∀ c ∈ inner, isBlank c = false := fun c hc =>
        hfirst.2 c (List.mem_cons_of_mem _ (List.mem_append_left _ hc))
      obtain ⟨line, hchars, hline⟩ := exists_parts (some (inner, blanks)) hbefore
        (by rintro t ⟨⟩; exact ⟨hinner, hblanks, hends.blanks_ne_nil hbusWord⟩) (by simp) hbusWord
        ⟨hbetween, hne⟩ hafter hbus hbody ⟨time, htime, hstamp⟩
      exact ⟨line, by simp [hchars, htext], hline⟩
    · rename_i hparen
      obtain ⟨hcomment, hframe⟩ := hread
      obtain ⟨busWord, bodyWord, hpair, hbus, hbody, hstamp⟩ := readWords_eq_ok_iff.mp hframe
      rw [hpair] at hwords
      obtain ⟨rfl, rfl⟩ : first = busWord ∧ others = [bodyWord] := by simpa using hpair
      obtain ⟨before, between, after, htext, hbefore, hbusWord, hbetween, hne, -, hafter⟩ :=
        words_eq_pair hwords
      have hopening : ∀ c ∈ first.head?, c ≠ '(' ∧ c ≠ ';' := by
        intro c hc
        exact ⟨fun heq => hparen (heq ▸ hc), fun heq => hcomment (heq ▸ hc)⟩
      obtain ⟨line, hchars, hline⟩ := exists_parts none hbefore (by simp)
        (fun _ => hopening) hbusWord ⟨hbetween, hne⟩ hafter hbus hbody hstamp
      exact ⟨line, by simp [hchars, htext], hline⟩
  · rintro ⟨line, hchars, hlawful, htells⟩
    have hline := ofLine_of_tells hlawful htells
    rwa [hchars, String.ofList_toList] at hline

/-- A plus sign goes for the first digit of a byte: here is a frame whose word of data holds
a character that is no digit. -/
theorem ofLine_plus_byte :
    ofLine "can0 1#+1" = .ok (some ⟨⟨0, 1⟩, 0x0100000000000000, none⟩) ∧
      ¬ ∃ id data : List Char, words "can0 1#+1".toList = ["can0".toList, id ++ '#' :: data] ∧
        (∀ c ∈ id, isHexDigit c = true) ∧ ∀ c ∈ data, isHexDigit c = true := by
  constructor
  · decide +kernel
  · rintro ⟨id, data, hwords, hid, hdata⟩
    have hword : ['1', '#', '+', '1'] = id ++ '#' :: data :=
      congrArg (fun words => words.getLast?.getD []) hwords
    have hplus : '+' ∈ id ++ '#' :: data := by simp [← hword]
    rcases List.mem_append.mp hplus with hplus | hplus
    · cases hid _ hplus
    · rcases List.mem_cons.mp hplus with hplus | hplus
      · cases hplus
      · cases hdata _ hplus

end Frame

end VehicleBus

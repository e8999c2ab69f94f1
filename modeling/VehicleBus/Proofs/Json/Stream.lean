import VehicleBus.Config.Reading
import VehicleBus.Proofs.Binary.Value
import VehicleBus.Proofs.Json.Reader
import VehicleBus.Proofs.Pipeline
import VehicleBus.Proofs.Text.Utf8
import VehicleBus.Proofs.Wire.Scalar

/-!
# Streams of JSON documents

Each message is written as one object and an end of line that cannot occur in it, so the
documents of a stream can be split at the ends of lines (`splitLines_outputs`).  What a
document says about a message is read by `Message.ofNode?`: a message whose numbers are
short integers is found again as it was, but for the sign of a zero.
-/

namespace VehicleBus

open Wire (Bytes)
open Config

/-! ## Reading messages -/

/-- A data word written as `0x` and sixteen digits. -/
def readData (node : Node) : Option Payload :=
  (readText node).bind fun text =>
    let digits := text.toList.drop 2
    if text.toList.take 2 = ['0', 'x'] ∧ digits.length = 16 ∧ digits.all Text.isHexDigit then
      some (UInt64.ofNat (Text.valueOfDigits 16 digits))
    else none

/-- An event by the kind of its value. -/
def Event.ofNode? : Node → Option Event
  | .text value => some (.text value)
  | .flag value => some (.flag value)
  | node => (readDouble node).map .number

/-- A named value without an event, by the kind of its value. -/
def Message.named? (name : String) : Node → Option Message
  | .text value => some (.text name value)
  | .flag value => some (.boolean name value)
  | node => (readDouble node).map (.numeric name)

/-- The message that the members of an object tell: a forwarded frame has no name, and
only a qualified value has an event. -/
def Message.ofMembers? (members : Fields) : Option Message :=
  match members.lookup "name", members.lookup "event" with
  | none, _ => do
    return .raw ⟨← required members "bus" readByte, ← required members "id" readWord⟩
      (← required members "data" readData)
  | some name, none => do
    named? (← readText name) (← members.lookup "value")
  | some name, some event => do
    return .evented (← readText name) (← required members "value" readText) (← Event.ofNode? event)

def Message.ofNode? : Node → Option Message
  | .table members => ofMembers? members
  | _ => none

/-- Read the bytes of a JSON text. -/
def Node.ofUtf8? (bytes : Bytes) : Option Node :=
  (String.fromUTF8? ⟨bytes.toArray⟩).bind Node.ofJson?

/-! ## Exact messages -/

namespace Binary64

/-- An integer of a magnitude below `2 ^ 53`. -/
def IsShort (x : Binary64) : Prop := ∃ n : Int, x.toInt? = some n ∧ n.natAbs < 2 ^ 53

/-- The value, with a plus sign if it is zero. -/
def plusZero (x : Binary64) : Binary64 := if x.toInt? = some 0 then zero else x

end Binary64

namespace Message

/-- The number of a message, if it has one, is a short integer. -/
def Exact : Message → Prop
  | numeric _ value => value.IsShort
  | evented _ _ (.number event) => event.IsShort
  | _ => True

/-- The message, with a plus sign if its number is zero. -/
def plusZero : Message → Message
  | numeric name value => numeric name value.plusZero
  | evented name value (.number event) => evented name value (.number event.plusZero)
  | message => message

end Message

/-- A short integer is written as an integer. -/
theorem node_numberDocument {x : Binary64} {n : Int} (hint : x.toInt? = some n)
    (hshort : n.natAbs < 2 ^ 53) : (OutputFormat.numberDocument x).node = .integer n := by
  have hpow : n.natAbs < Nat.pow 2 53 := hshort
  rw [OutputFormat.numberDocument, hint]
  dsimp only
  rw [if_pos hpow, Document.node, Json.numberNode_integer (by omega) (by omega)]

/-- A number with an integer value is that integer, up to the sign of zero. -/
theorem Binary64.ofInt_eq_plusZero {x : Binary64} {n : Int} (h : x.toInt? = some n) :
    ofInt n = x.plusZero := by
  by_cases hzero : n = 0
  · rw [hzero] at h ⊢
    rw [plusZero, if_pos h]
    decide +kernel
  · have hne : x.toInt? ≠ some 0 := by
      rw [h]
      exact fun heq => hzero (Option.some.inj heq)
    rw [plusZero, if_neg hne, ofInt_of_toInt? h hzero]

/-- The sixteen digits of a data word. -/
def dataDigits (data : Payload) : List Char :=
  List.replicate (16 - (Nat.toDigits 16 data.toNat).length) '0' ++ Nat.toDigits 16 data.toNat

/-- The text of a payload is its digits behind a marker. -/
theorem toList_dataText (data : Payload) :
    (OutputFormat.dataText data).toList = '0' :: 'x' :: dataDigits data := by
  simp [OutputFormat.dataText, dataDigits, Text.lowerHex]

/-- The digits of a payload are its sixteen lower-case ones. -/
theorem dataDigits_eq (data : Payload) : dataDigits data = (Text.lowerHex 16 data.toNat).toList :=
  (Text.toList_lowerHex 16 data.toNat).symm

theorem length_dataDigits (data : Payload) : (dataDigits data).length = 16 := by
  rw [dataDigits_eq, Text.length_lowerHex (by decide) data.toNat_lt]

theorem all_dataDigits (data : Payload) : (dataDigits data).all Text.isHexDigit = true := by
  rw [List.all_eq_true, dataDigits_eq]
  exact fun c hc => Text.isHexDigit_of_mem_lowerHex hc

/-- The digits of a payload have its value. -/
theorem valueOfDigits_dataDigits (data : Payload) :
    Text.valueOfDigits 16 (dataDigits data) = data.toNat := by
  rw [dataDigits_eq, Text.valueOfDigits_lowerHex]

/-- Every payload is read back from its text. -/
theorem readData_dataText (data : Payload) :
    readData (.text (OutputFormat.dataText data)) = some data := by
  simp only [readData, readText, toList_dataText, Option.bind_some, List.take_succ_cons,
    List.take_zero, List.drop_succ_cons, List.drop_zero, length_dataDigits, all_dataDigits,
    valueOfDigits_dataDigits, true_and, if_true, UInt64.ofNat_toNat]

/-- Every byte is read back from its integer. -/
theorem readByte_integer (byte : UInt8) : readByte (.integer byte.toNat) = some byte := by
  have hsize : byte.toNat < UInt8.size := byte.toNat_lt
  simp [readByte, readNatural, hsize]

theorem readWord_integer (word : UInt32) : readWord (.integer word.toNat) = some word := by
  have hsize : word.toNat < UInt32.size := word.toNat_lt
  simp [readWord, readNatural, hsize]

/-- The tree of a forwarded frame. -/
theorem node_document_raw (key : Key) (data : Payload) :
    (OutputFormat.document (.raw key data)).node =
      .table [("bus", .integer key.bus.toNat), ("id", .integer key.id.toNat),
        ("data", .text (OutputFormat.dataText data))] := by
  have hbus := key.bus.toNat_lt
  have hid := key.id.toNat_lt
  simp only [OutputFormat.document, Document.node, Document.memberNodes]
  rw [Json.numberNode_integer (by omega) (by omega), Json.numberNode_integer (by omega) (by omega)]

/-- A required field is read from the node that is found under its name. -/
theorem required_of_lookup {α : Type} {fields : Fields} {name : String} {read : Node → Option α}
    {node : Node} {value : α} (hfound : fields.lookup name = some node)
    (hread : read node = some value) : required fields name read = some value := by
  rw [required, hfound, Option.bind_some, hread]

/-- An event is told by the kind of its value. -/
theorem Event.ofNode?_eventDocument {name value : String} {event : Event}
    (h : (Message.evented name value event).Exact) :
    (Event.ofNode? (OutputFormat.eventDocument event).node).map (Message.evented name value) =
      some (Message.evented name value event).plusZero := by
  cases event with
  | number x =>
      obtain ⟨n, hint, hshort⟩ := h
      rw [OutputFormat.eventDocument, node_numberDocument hint hshort]
      simp [ofNode?, readDouble, Message.plusZero, Binary64.ofInt_eq_plusZero hint]
  | flag x => simp [OutputFormat.eventDocument, Document.node, ofNode?, Message.plusZero]
  | text x => simp [OutputFormat.eventDocument, Document.node, ofNode?, Message.plusZero]

/-- **A document tells its message.** -/
theorem Message.ofNode?_document {message : Message} (h : message.Exact) :
    Message.ofNode? (OutputFormat.document message).node = some message.plusZero := by
  cases message with
  | numeric name value =>
      obtain ⟨n, hint, hshort⟩ := h
      simp [OutputFormat.document, Document.node, Document.memberNodes, ofNode?, ofMembers?,
        node_numberDocument hint hshort, List.lookup_cons, readText, named?, readDouble, plusZero,
        Binary64.ofInt_eq_plusZero hint]
  | boolean name value =>
      simp [OutputFormat.document, Document.node, Document.memberNodes, ofNode?, ofMembers?,
        List.lookup_cons, readText, named?, plusZero]
  | text name value =>
      simp [OutputFormat.document, Document.node, Document.memberNodes, ofNode?, ofMembers?,
        List.lookup_cons, readText, named?, plusZero]
  | evented name value event =>
      rw [← Event.ofNode?_eventDocument h, Option.map_eq_bind]
      simp [OutputFormat.document, Document.node, Document.memberNodes, ofNode?, ofMembers?,
        List.lookup_cons, readText, required]
  | raw key data =>
      rw [node_document_raw, ofNode?]
      generalize hmembers : [("bus", Node.integer key.bus.toNat), ("id", Node.integer key.id.toNat),
        ("data", Node.text (OutputFormat.dataText data))] = members
      have hbus : required members "bus" readByte = some key.bus :=
        required_of_lookup (by simp [← hmembers]) (readByte_integer key.bus)
      have hid : required members "id" readWord = some key.id :=
        required_of_lookup (by simp [← hmembers, List.lookup_cons]) (readWord_integer key.id)
      have hdata : required members "data" readData = some data :=
        required_of_lookup (by simp [← hmembers, List.lookup_cons]) (readData_dataText data)
      have hname : members.lookup "name" = none := by simp [← hmembers, List.lookup_cons]
      simp [ofMembers?, hname, hbus, hid, hdata, plusZero]

/-! ## Lines -/

/-- Split bytes at each carriage return and line feed. -/
def splitLines : Bytes → List Bytes
  | [] => [[]]
  | 13 :: 10 :: rest => [] :: splitLines rest
  | byte :: rest => (splitLines rest).modifyHead (byte :: ·)

/-- A byte that is no carriage return belongs to the first line. -/
theorem splitLines_cons {byte : UInt8} (h : byte ≠ 13) (rest : Bytes) :
    splitLines (byte :: rest) = (splitLines rest).modifyHead (byte :: ·) := by
  rw [splitLines]
  rintro _ rfl
  exact absurd rfl h

/-- A line is split off where it ends. -/
theorem splitLines_append {line : Bytes} (h : ∀ byte ∈ line, 32 ≤ byte.toNat) (rest : Bytes) :
    splitLines (line ++ [13, 10] ++ rest) = line :: splitLines rest := by
  induction line with
  | nil => rfl
  | cons byte line ih =>
      rw [List.forall_mem_cons] at h
      have hbyte : byte ≠ 13 := by
        rintro rfl
        exact absurd h.1 (by decide)
      rw [List.cons_append, List.cons_append, splitLines_cons hbyte, ih h.2]
      rfl

namespace OutputFormat

/-- The bytes of the document of a message. -/
def line (message : Message) : Bytes := (document message).render.toUTF8.data.toList

/-- Nothing in a document is below the blank, whatever the texts of the message hold. -/
theorem toNat_ge_of_mem_line {message : Message} {byte : UInt8} (h : byte ∈ line message) :
    32 ≤ byte.toNat := by
  rw [line, Document.render, Text.utf8_ofList, List.mem_flatMap] at h
  obtain ⟨c, hc, hbyte⟩ := h
  have hlow := Document.toNat_ge_of_mem_chars _ c hc
  rcases Text.mem_utf8EncodeChar hbyte with ⟨-, heq⟩ | ⟨-, hhigh⟩ <;> omega

/-- A line is the text of the document's tree. -/
theorem ofUtf8?_line (message : Message) :
    Node.ofUtf8? (line message) = some (document message).node := by
  rw [Node.ofUtf8?, line, Wire.Scalar.fromUTF8?_toUTF8]
  exact Document.ofJson?_render _

/-- The outputs of messages, split at the ends of lines, are their documents. -/
theorem splitLines_outputs (messages : List Message) :
    splitLines (json.outputs messages).flatten =
      (messages.filter Message.isAccepted).map line ++ [[]] := by
  rw [outputs]
  induction messages.filter Message.isAccepted with
  | nil => rfl
  | cons message rest ih =>
      have hlow : ∀ byte ∈ line message, 32 ≤ byte.toNat := fun _ => toNat_ge_of_mem_line
      show splitLines (line message ++ [13, 10] ++ (rest.map json.bytes).flatten) = _
      rw [splitLines_append hlow, ih]
      rfl

/-- A zero is written without its sign. -/
theorem numberDocument_plusZero (x : Binary64) : numberDocument x.plusZero = numberDocument x := by
  by_cases hzero : x.toInt? = some 0
  · have hplus : Binary64.zero.toInt? = some 0 := by decide +kernel
    rw [Binary64.plusZero, if_pos hzero, numberDocument, numberDocument, hzero, hplus]
    rfl
  · rw [Binary64.plusZero, if_neg hzero]

/-- The sign of zero does not show in a document. -/
theorem encode_plusZero (message : Message) :
    json.encode message.plusZero = json.encode message := by
  cases message with
  | numeric name value =>
      show encode json (.numeric name value.plusZero) = _
      simp only [encode, Message.overlong?, write, jsonBytes, document, numberDocument_plusZero]
  | boolean name value => rfl
  | text name value => rfl
  | evented name value event =>
      cases event with
      | number event =>
          show encode json (.evented name value (.number event.plusZero)) = _
          simp only [encode, Message.overlong?, write, jsonBytes, document, eventDocument,
            numberDocument_plusZero]
      | flag event => rfl
      | text event => rfl
  | raw key data => rfl

/-- **The stream can be split and read back.**  An accepted message is written as one
object and an end of line, and nothing in the object is below the blank; so the stream
of any messages is split into their documents at the ends of lines.  If the number of a
message is a short integer or there is none, the document tells the message, and two such
messages have the same encoding exactly if they are the same but for the sign of a zero. -/
theorem json_reads_back :
    (∀ message output, json.encode message = .ok output →
      output = line message ++ [13, 10] ∧
        (∀ byte ∈ line message, 32 ≤ byte.toNat) ∧
        (∃ members, Node.ofUtf8? (line message) = some (.table members)) ∧
        (message.Exact →
          (Node.ofUtf8? (line message)).bind Message.ofNode? = some message.plusZero)) ∧
      (∀ messages : List Message,
        splitLines (messages.filterMap fun message => (json.encode message).toOption).flatten =
          (messages.filter Message.isAccepted).map line ++ [[]]) ∧
      ∀ a b output, a.Exact → b.Exact → json.encode a = .ok output →
        (json.encode b = .ok output ↔ a.plusZero = b.plusZero) := by
  have hreads : ∀ message : Message, message.Exact →
      (Node.ofUtf8? (line message)).bind Message.ofNode? = some message.plusZero := by
    intro message hexact
    rw [ofUtf8?_line, Option.bind_some, Message.ofNode?_document hexact]
  refine ⟨?_, ?_, ?_⟩
  · intro message output hencode
    obtain ⟨-, rfl⟩ := encode_eq_ok_iff.mp hencode
    refine ⟨rfl, fun _ => toNat_ge_of_mem_line, ?_, hreads message⟩
    rw [ofUtf8?_line]
    cases message <;> exact ⟨_, rfl⟩
  · intro messages
    rw [← outputs_eq_filterMap, splitLines_outputs]
  · intro a b output ha hb hencode
    constructor
    · intro hencode'
      obtain ⟨-, rfl⟩ := encode_eq_ok_iff.mp hencode
      obtain ⟨-, hbytes⟩ := encode_eq_ok_iff.mp hencode'
      have hlines : line b = line a := List.append_cancel_right hbytes
      have hread := hreads b hb
      rw [hlines, hreads a ha] at hread
      exact Option.some.inj hread
    · intro hplus
      rw [← encode_plusZero b, ← hplus, encode_plusZero, hencode]

/-- A text with a quote, a control character and one beyond ASCII, qualified by a zero of
either sign. -/
theorem json_reads_back_zeros :
    let a : Message := .evented "horn \"é\"" "\x01\r\n" (.number ⟨0x8000000000000000⟩)
    let b : Message := .evented "horn \"é\"" "\x01\r\n" (.number ⟨0⟩)
    a.Exact ∧ b.Exact ∧ json.encode a = .ok (json.bytes a) ∧
      json.bytes a = line a ++ [13, 10] ∧
      (Node.ofUtf8? (line a)).bind Message.ofNode? = some b ∧
      json.encode b = .ok (json.bytes a) ∧
      splitLines ([a, b].filterMap fun message => (json.encode message).toOption).flatten =
        [line a, line b, []] := by
  intro a b
  have ha : a.Exact := ⟨0, by decide +kernel, by decide⟩
  have hb : b.Exact := ⟨0, by decide +kernel, by decide⟩
  have hplus : a.plusZero = b := by decide +kernel
  have hencode : json.encode a = .ok (json.bytes a) := by decide +kernel
  obtain ⟨hone, hstream, hsame⟩ := json_reads_back
  obtain ⟨hline, -, -, hread⟩ := hone a _ hencode
  have hencode' : json.encode b = .ok (json.bytes a) :=
    (hsame a b _ ha hb hencode).mpr (by decide +kernel)
  refine ⟨ha, hb, hencode, hline, ?_, hencode', ?_⟩
  · rw [hread ha, hplus]
  · have haccepted : [a, b].filter Message.isAccepted = [a, b] := by decide +kernel
    rw [hstream, haccepted]
    rfl

end OutputFormat

end VehicleBus

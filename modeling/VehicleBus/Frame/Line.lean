import VehicleBus.Decimal.Reading
import VehicleBus.Frame
import VehicleBus.Text.Blank
import VehicleBus.Text.Integer
import VehicleBus.Text.Quoted

/-!
# Frames in a log

A log has one frame a line: an optional time in seconds between parentheses, a
bus, and a frame.  The bus is a name that ends in its number, or the number
alone; the frame is an identifier and up to eight data bytes, both in base
sixteen, with a number sign between them:

    (1436509052.249713) can0 044#2A366C2BBA
    1 7E8#0241

Blank lines and lines that start with a semicolon hold no frame.  Data bytes
fill the payload from its most significant byte; missing ones are zero.
-/

namespace VehicleBus

/-- Why a line holds no readable frame. -/
inductive LineFault where
  | malformedTime (token : List Char)
  | unreadableTime (text : List Char) (cause : Decimal.DecimalFault)
  /-- A time that is not finite or before the origin. -/
  | unusableTime (text : List Char)
  | missingBus
  | missingFrame
  | trailingInput (line : List Char)
  | invalidBus (token : List Char) (cause : Text.IntegerFault)
  | noSeparator (token : List Char)
  | invalidId (text : List Char) (cause : Text.IntegerFault)
  | idTooLarge (id : Nat)
  | remoteFrame
  | partialBytes (text : List Char)
  /-- A character that is longer than the byte it would have to stand for. -/
  | notAscii (index : Nat)
  | invalidByte (text : List Char) (cause : Text.IntegerFault)
deriving DecidableEq, Repr

namespace LineFault

def message : LineFault → String
  | malformedTime token => "Malformed timestamp: " ++ Text.quoted token
  | unreadableTime text cause =>
    "Invalid timestamp: " ++ Text.quoted text ++ ": " ++ cause.message
  | unusableTime text => "Invalid timestamp: " ++ Text.quoted text
  | missingBus => "Missing bus"
  | missingFrame => "Missing frame"
  | trailingInput line => "Unexpected trailing input: " ++ Text.quoted line
  | invalidBus token cause => "Invalid bus: " ++ Text.quoted token ++ ": " ++ cause.message
  | noSeparator token => "Frame " ++ Text.quoted token ++ " has no '#' separator"
  | invalidId text cause => "Invalid CAN ID: " ++ Text.quoted text ++ ": " ++ cause.message
  | idTooLarge id => "CAN ID 0x" ++ Text.upperHex id ++ " exceeds 29 bits"
  | remoteFrame => "Remote frames carry no data"
  | partialBytes text => "Data " ++ Text.quoted text ++ " must be 0-8 whole bytes"
  | notAscii index =>
    s!"Data is not ASCII: incomplete utf-8 byte sequence from index {index}"
  | invalidByte text cause =>
    "Invalid data byte: " ++ Text.quoted text ++ ": " ++ cause.message

end LineFault

namespace Frame

/-- Identifiers stay below this bound: they have at most 29 bits. -/
def idBound : Nat := Nat.pow 2 29

/-- Read the time of a frame, parentheses included, in milliseconds. -/
def readTime (token : List Char) : Except LineFault Time :=
  match token with
  | '(' :: rest =>
    if rest.getLast? = some ')' then
      let text := rest.dropLast
      match Binary64.ofText text with
      | .error cause => .error (.unreadableTime text cause)
      | .ok seconds =>
        if !seconds.isFinite || seconds.less Binary64.zero then .error (.unusableTime text)
        else .ok (UInt64.ofNat ((seconds * Binary64.ofNat 1000).roundClamped (UInt64.size - 1)))
    else .error (.malformedTime token)
  | _ => .error (.malformedTime token)

/-- Read the number that a bus name ends in. -/
def readBus (token : List Char) : Except LineFault UInt8 :=
  match Text.readUnsigned 10 UInt8.size (token.dropWhile fun c => !c.isDigit) with
  | .ok bus => .ok (UInt8.ofNat bus)
  | .error cause => .error (.invalidBus token cause)

/-- Read data bytes, two digits each.  A character outside ASCII takes the place
of several digits and is never one. -/
def readBytes : List Char → Except LineFault (List UInt8)
  | c :: d :: rest =>
    if 2 < c.utf8Size then .error (.notAscii 0)
    else if c.utf8Size = 2 then .error (.invalidByte [c] .invalidDigit)
    else if 1 < d.utf8Size then .error (.notAscii 1)
    else
      match Text.readUnsigned 16 UInt8.size [c, d] with
      | .error cause => .error (.invalidByte [c, d] cause)
      | .ok byte => (readBytes rest).map (UInt8.ofNat byte :: ·)
  | [c] =>
    if 2 < c.utf8Size then .error (.notAscii 0) else .error (.invalidByte [c] .invalidDigit)
  | [] => .ok []

/-- The payload of at most eight data bytes. -/
def payloadOfBytes (bytes : List UInt8) : Payload :=
  UInt64.ofNat ((bytes ++ List.replicate (8 - bytes.length) 0).foldl
    (fun value (byte : UInt8) => value * 256 + byte.toNat) 0)

/-- Number of bytes of a text in UTF-8. -/
def encodedLength (text : List Char) : Nat := text.foldr (fun c length => c.utf8Size + length) 0

/-- Read the data of a frame. -/
def readPayload (text : List Char) : Except LineFault Payload :=
  if text.head? = some 'R' then .error .remoteFrame
  else if encodedLength text % 2 ≠ 0 ∨ 16 < encodedLength text then .error (.partialBytes text)
  else (readBytes text).map payloadOfBytes

/-- Read identifier and data of a frame on a bus. -/
def readBody (bus : UInt8) (token : List Char) : Except LineFault (Key × Payload) :=
  let idText := token.takeWhile (· != '#')
  match token.dropWhile (· != '#') with
  | [] => .error (.noSeparator token)
  | _ :: dataText =>
    match Text.readUnsigned 16 UInt32.size idText with
    | .error cause => .error (.invalidId idText cause)
    | .ok id =>
      if idBound ≤ id then .error (.idTooLarge id)
      else (readPayload dataText).map fun data => (⟨bus, UInt32.ofNat id⟩, data)

/-- Read the words of a line behind its time. -/
def readWords (line : List Char) (timestamp : Option Time) :
    List (List Char) → Except LineFault Frame
  | [] => .error .missingBus
  | [_] => .error .missingFrame
  | [busToken, token] => do
    let bus ← readBus busToken
    let (key, payload) ← readBody bus token
    return { key, payload, timestamp }
  | _ => .error (.trailingInput line)

/-- Read one line of a log; blank lines and comments hold no frame. -/
def ofLine (text : String) : Except LineFault (Option Frame) :=
  let line := Text.trim text.toList
  if line.isEmpty || line.head? = some ';' then .ok none
  else
    match Text.words line with
    | ('(' :: rest) :: others => do
      let time ← readTime ('(' :: rest)
      let frame ← readWords line (some time) others
      return some frame
    | tokens => (readWords line none tokens).map some

end Frame

end VehicleBus

import VehicleBus.Proofs.Wire.Envelope

/-!
# What an envelope stands for

`Envelope.only` takes all records out of an envelope but the one that a type selects.
That record alone decides what is read (`Envelope.toMessage_only`), and if a message is
read then the selected part is the envelope of this message: nothing is lost or made up
(`Envelope.only_of_readAs`).  With `Envelope.toMessage_ofMessage` the messages are a
retract of the envelopes.

The seven types share three shapes of records, so reading is looked at once for each
shape: `readNamed`, `readEvented` and `readRaw`.
-/

namespace VehicleBus.Wire

namespace EnvelopeType

/-- Every type is found by its code. -/
theorem ofCode?_code (type : EnvelopeType) : ofCode? type.code = some type := by
  cases type <;> rfl

/-- A type is known by its code. -/
theorem ofCode?_eq_some_iff {code : Int32} {type : EnvelopeType} :
    ofCode? code = some type ↔ code = type.code := by
  constructor
  · intro hfound
    rw [ofCode?] at hfound
    have hcode := List.find?_some hfound
    exact (eq_of_beq hcode).symm
  · rintro rfl
    exact ofCode?_code type

end EnvelopeType

namespace Envelope

/-! ## Parts of envelopes -/

/-- The envelope without the records that a type does not select. -/
def only (envelope : Envelope) (type : EnvelopeType) : Envelope where
  type := envelope.type
  raw := if type = .raw then envelope.raw else none
  text := if type = .text then envelope.text else none
  number := if type = .number then envelope.number else none
  flag := if type = .flag then envelope.flag else none
  eventText := if type = .eventText then envelope.eventText else none
  eventNumber := if type = .eventNumber then envelope.eventNumber else none
  eventFlag := if type = .eventFlag then envelope.eventFlag else none

/-- Is the record of a type there? -/
def has (envelope : Envelope) : EnvelopeType → Bool
  | .raw => envelope.raw.isSome
  | .text => envelope.text.isSome
  | .number => envelope.number.isSome
  | .flag => envelope.flag.isSome
  | .eventText => envelope.eventText.isSome
  | .eventNumber => envelope.eventNumber.isSome
  | .eventFlag => envelope.eventFlag.isSome

/-- The types whose records are there. -/
def present (envelope : Envelope) : List EnvelopeType := EnvelopeType.all.filter envelope.has

/-- The record of a type is there with all its parts, and if it is that of a forwarded
frame then its bus has one of the 256 numbers of buses. -/
def Complete (envelope : Envelope) : EnvelopeType → Prop
  | .raw => ∃ bus id data, envelope.raw = some ⟨some bus, some id, some data⟩ ∧
      0 ≤ bus.toInt ∧ bus.toInt ≤ 255
  | .text => ∃ name value, envelope.text = some ⟨some name, some value⟩
  | .number => ∃ name value, envelope.number = some ⟨some name, some value⟩
  | .flag => ∃ name value, envelope.flag = some ⟨some name, some value⟩
  | .eventText => ∃ name value event, envelope.eventText = some ⟨some name, some value, some event⟩
  | .eventNumber =>
    ∃ name value event, envelope.eventNumber = some ⟨some name, some value, some event⟩
  | .eventFlag => ∃ name value event, envelope.eventFlag = some ⟨some name, some value, some event⟩

/-! ## Three shapes of records -/

/-- Read a named value. -/
def readNamed {α : Type} (part : String) (record : Option (NamedRecord α))
    (build : String → α → Message) : Except EnvelopeFault Message := do
  let record ← need part record
  return build (← need "name" record.name) (← need "value" record.value)

/-- Read a named text with an event. -/
def readEvented {α : Type} (part : String) (record : Option (EventRecord α))
    (build : α → Event) : Except EnvelopeFault Message := do
  let record ← need part record
  return .evented (← need "name" record.name) (← need "value" record.value)
    (build (← need "event" record.event))

/-- Read a forwarded frame. -/
def readRaw (record : Option RawRecord) : Except EnvelopeFault Message := do
  let record ← need "raw_message" record
  let bus ← need "bus" record.bus
  if 0 ≤ bus.toInt ∧ bus.toInt < 256 then
    let id ← need "message_id" record.id
    let data ← need "data" record.data
    return .raw ⟨UInt8.ofNat bus.toInt.toNat, id⟩ data
  else .error (.busOutOfRange bus)

/-- Read the record that a type selects. -/
def readAs (envelope : Envelope) : EnvelopeType → Except EnvelopeFault Message
  | .raw => readRaw envelope.raw
  | .text => readNamed "string_message" envelope.text .text
  | .number => readNamed "numerical_message" envelope.number .numeric
  | .flag => readNamed "boolean_message" envelope.flag .boolean
  | .eventText => readEvented "evented_string_message" envelope.eventText .text
  | .eventNumber => readEvented "evented_numerical_message" envelope.eventNumber .number
  | .eventFlag => readEvented "evented_boolean_message" envelope.eventFlag .flag

/-- What needs a part goes on exactly if the part is there. -/
theorem need_bind_eq_ok_iff {α β : Type} {part : String} {option : Option α}
    {next : α → Except EnvelopeFault β} {result : β} :
    (need part option >>= next) = .ok result ↔
      ∃ value, option = some value ∧ next value = .ok result := by
  cases option <;> simp [need, bind, Except.bind]

section

variable {α : Type} {part : String} {message : Message}

/-- A named record is read exactly if it has its name and its value. -/
theorem readNamed_eq_ok_iff {record : Option (NamedRecord α)} {build : String → α → Message} :
    readNamed part record build = .ok message ↔
      ∃ name value, record = some ⟨some name, some value⟩ ∧ build name value = message := by
  simp only [readNamed, need_bind_eq_ok_iff]
  constructor
  · rintro ⟨⟨_, _⟩, rfl, name, rfl, value, rfl, hbuild⟩
    exact ⟨name, value, rfl, Except.ok.inj hbuild⟩
  · rintro ⟨name, value, rfl, rfl⟩
    exact ⟨_, rfl, name, rfl, value, rfl, rfl⟩

/-- An event record is read exactly if it has its name, its value and its event. -/
theorem readEvented_eq_ok_iff {record : Option (EventRecord α)} {build : α → Event} :
    readEvented part record build = .ok message ↔
      ∃ name value event, record = some ⟨some name, some value, some event⟩ ∧
        .evented name value (build event) = message := by
  simp only [readEvented, need_bind_eq_ok_iff]
  constructor
  · rintro ⟨⟨_, _, _⟩, rfl, name, rfl, value, rfl, event, rfl, hbuild⟩
    exact ⟨name, value, event, rfl, Except.ok.inj hbuild⟩
  · rintro ⟨name, value, event, rfl, rfl⟩
    exact ⟨_, rfl, name, rfl, value, rfl, event, rfl, rfl⟩

/-- A raw record is read exactly if it has all its parts and its bus is a byte. -/
theorem readRaw_eq_ok_iff {record : Option RawRecord} :
    readRaw record = .ok message ↔
      ∃ bus id data, record = some ⟨some bus, some id, some data⟩ ∧
        (0 ≤ bus.toInt ∧ bus.toInt < 256) ∧
        .raw ⟨UInt8.ofNat bus.toInt.toNat, id⟩ data = message := by
  simp only [readRaw, need_bind_eq_ok_iff]
  constructor
  · rintro ⟨⟨_, _, _⟩, rfl, bus, rfl, hread⟩
    split at hread
    · rename_i hrange
      simp only [need_bind_eq_ok_iff] at hread
      obtain ⟨id, rfl, data, rfl, hbuild⟩ := hread
      exact ⟨bus, id, data, rfl, hrange, Except.ok.inj hbuild⟩
    · cases hread
  · rintro ⟨bus, id, data, rfl, hrange, rfl⟩
    refine ⟨_, rfl, bus, rfl, ?_⟩
    rw [if_pos hrange]
    rfl

end

/-! ## Seven types -/

variable {envelope : Envelope} {type : EnvelopeType} {message : Message}

/-- An envelope with a known type is read by this type. -/
theorem toMessage_of_type (h : envelope.type = some type.code) :
    envelope.toMessage = envelope.readAs type := by
  obtain ⟨code, raw, text, number, flag, eventText, eventNumber, eventFlag⟩ := envelope
  cases (show code = some type.code from h)
  cases type <;> rfl

/-- A type that is missing or unknown is the fault, whatever records there are. -/
theorem toMessage_of_unknown (h : ∀ type : EnvelopeType, envelope.type ≠ some type.code) :
    envelope.toMessage =
      .error (match envelope.type with
        | none => .missing "type"
        | some code => .unknownType code) := by
  rw [toMessage]
  cases hcode : envelope.type with
  | none => rfl
  | some code =>
      have hunknown : EnvelopeType.ofCode? code = none := by
        rw [Option.eq_none_iff_forall_ne_some]
        intro type hfound
        exact h type (by rw [hcode, EnvelopeType.ofCode?_eq_some_iff.mp hfound])
      simp only [need, bind, Except.bind, hunknown]

/-- **Only the selected record is looked at.** -/
theorem toMessage_only (h : envelope.type = some type.code) :
    (envelope.only type).toMessage = envelope.toMessage := by
  have honly : (envelope.only type).type = some type.code := h
  rw [toMessage_of_type h, toMessage_of_type honly]
  cases type <;> rfl

/-- A record is read if it is complete. -/
theorem exists_readAs_iff :
    (∃ message, envelope.readAs type = .ok message) ↔ envelope.Complete type := by
  cases type <;> simp only [readAs, readNamed_eq_ok_iff, readEvented_eq_ok_iff, readRaw_eq_ok_iff,
    Complete]
  case raw =>
    constructor
    · rintro ⟨_, bus, id, data, hrecord, hrange, rfl⟩
      exact ⟨bus, id, data, hrecord, hrange.1, Int.le_of_lt_add_one hrange.2⟩
    · rintro ⟨bus, id, data, hrecord, hleast, hgreatest⟩
      exact ⟨_, bus, id, data, hrecord, ⟨hleast, Int.lt_add_one_of_le hgreatest⟩, rfl⟩
  all_goals grind

/-- A number that a bus can have is that of the byte which stands for the bus. -/
theorem bus_of_range {bus : Int32} (h : 0 ≤ bus.toInt ∧ bus.toInt < 256) :
    (UInt8.ofNat bus.toInt.toNat).toUInt32.toInt32 = bus := by
  rw [← Int32.toInt_inj, bus_toInt, UInt8.toNat_ofNat', Nat.mod_eq_of_lt (by omega),
    Int.toNat_of_nonneg h.1]

/-- **Nothing is lost or made up.**  The selected part of an envelope is the envelope of
the message that is read. -/
theorem only_of_readAs (h : envelope.type = some type.code)
    (hread : envelope.readAs type = .ok message) : ofMessage message = envelope.only type := by
  cases type with
  | raw =>
      obtain ⟨bus, id, data, hrecord, hrange, rfl⟩ := readRaw_eq_ok_iff.mp hread
      rw [ofMessage, bus_of_range hrange]
      simp [only, h, hrecord]
  | text =>
      obtain ⟨name, value, hrecord, rfl⟩ := readNamed_eq_ok_iff.mp hread
      simp [ofMessage, only, h, hrecord]
  | number =>
      obtain ⟨name, value, hrecord, rfl⟩ := readNamed_eq_ok_iff.mp hread
      simp [ofMessage, only, h, hrecord]
  | flag =>
      obtain ⟨name, value, hrecord, rfl⟩ := readNamed_eq_ok_iff.mp hread
      simp [ofMessage, only, h, hrecord]
  | eventText =>
      obtain ⟨name, value, event, hrecord, rfl⟩ := readEvented_eq_ok_iff.mp hread
      simp [ofMessage, only, h, hrecord]
  | eventNumber =>
      obtain ⟨name, value, event, hrecord, rfl⟩ := readEvented_eq_ok_iff.mp hread
      simp [ofMessage, only, h, hrecord]
  | eventFlag =>
      obtain ⟨name, value, event, hrecord, rfl⟩ := readEvented_eq_ok_iff.mp hread
      simp [ofMessage, only, h, hrecord]

/-- The envelope of a message has the record of its type and no other. -/
theorem present_ofMessage (message : Message) :
    ∃ type : EnvelopeType, (ofMessage message).type = some type.code ∧
      (ofMessage message).present = [type] := by
  cases message with
  | numeric name value => exact ⟨.number, rfl, rfl⟩
  | boolean name value => exact ⟨.flag, rfl, rfl⟩
  | text name value => exact ⟨.text, rfl, rfl⟩
  | evented name value event =>
      cases event with
      | number event => exact ⟨.eventNumber, rfl, rfl⟩
      | flag event => exact ⟨.eventFlag, rfl, rfl⟩
      | text event => exact ⟨.eventText, rfl, rfl⟩
  | raw key data => exact ⟨.raw, rfl, rfl⟩

/-- **Messages are a retract of envelopes.**  An envelope stands for a message exactly if
its type is one of the seven and the record that the type selects is complete; what it
stands for depends on the type and this record, and the envelope of the message is the
given one without its other records.  Any other envelope is reported as unsupported.  The
other way round, the envelope of a message stands for that message and has one record. -/
theorem toMessage_retraction (envelope : Envelope) :
    ((∃ message, envelope.toMessage = .ok message) ↔
        ∃ type : EnvelopeType, envelope.type = some type.code ∧ envelope.Complete type) ∧
      (∀ (type : EnvelopeType) message, envelope.type = some type.code →
        envelope.toMessage = .ok message → ofMessage message = envelope.only type) ∧
      (∀ other : Envelope, other.type = envelope.type →
        (∀ type : EnvelopeType, envelope.type = some type.code →
          other.only type = envelope.only type) →
        other.toMessage = envelope.toMessage) ∧
      ((¬ ∃ type : EnvelopeType, envelope.type = some type.code ∧ envelope.Complete type) →
        ∃ fault, envelope.toMessage.mapError Fault.unsupported = .error (.unsupported fault)) ∧
      ∀ message, (ofMessage message).toMessage = .ok message ∧
        ∃ type : EnvelopeType, (ofMessage message).type = some type.code ∧
          (ofMessage message).present = [type] := by
  have hcomplete : (∃ message, envelope.toMessage = .ok message) ↔
      ∃ type : EnvelopeType, envelope.type = some type.code ∧ envelope.Complete type := by
    constructor
    · rintro ⟨message, hmessage⟩
      by_cases hknown : ∃ type : EnvelopeType, envelope.type = some type.code
      · obtain ⟨type, htype⟩ := hknown
        rw [toMessage_of_type htype] at hmessage
        exact ⟨type, htype, exists_readAs_iff.mp ⟨message, hmessage⟩⟩
      · rw [toMessage_of_unknown (not_exists.mp hknown)] at hmessage
        cases hmessage
    · rintro ⟨type, htype, hrecord⟩
      rw [toMessage_of_type htype]
      exact exists_readAs_iff.mpr hrecord
  refine ⟨hcomplete, ?_, ?_, ?_, fun message => ⟨toMessage_ofMessage message, present_ofMessage message⟩⟩
  · intro type message htype hmessage
    rw [toMessage_of_type htype] at hmessage
    exact only_of_readAs htype hmessage
  · intro other htypes hsame
    by_cases hknown : ∃ type : EnvelopeType, envelope.type = some type.code
    · obtain ⟨type, htype⟩ := hknown
      rw [← toMessage_only htype, ← toMessage_only (htypes.trans htype), hsame type htype]
    · have hunknown := not_exists.mp hknown
      rw [toMessage_of_unknown hunknown, toMessage_of_unknown (htypes ▸ hunknown), htypes]
  · intro hincomplete
    cases hmessage : envelope.toMessage with
    | ok message => exact absurd (hcomplete.mp ⟨message, hmessage⟩) hincomplete
    | error fault => exact ⟨fault, rfl⟩

end Envelope

end VehicleBus.Wire

import Mathlib.Data.List.Forall2
import VehicleBus.Config.Document
import VehicleBus.Proofs.Json.Stream
import VehicleBus.Proofs.Json.Whole

/-!
# Configurations that are written and read

The document of a configuration may leave out any setting whose value is the usual one, in
each of its records.  What such a document may look like is said once for all records: a
record writes its settings in order and may leave out those that are usual (`Writes`).  A
setting that is left out is found with its usual value, so all of these documents are read
as the same configuration (`Vehicle.ofJson?_abridged`).
-/

namespace VehicleBus.Config

open Binary

/-! ## Settings -/

/-- A setting of a record, as it is written. -/
structure Setting where
  name : String
  /-- The documents that may stand for its value. -/
  forms : Document → Prop
  /-- The value is the usual one, and the setting may be left out. -/
  usual : Prop := False

/-- The members of a record that writes its settings in order and may leave out usual
ones. -/
inductive Writes : List Setting → List (String × Document) → Prop
  | nil : Writes [] []
  | keep {setting : Setting} {settings : List Setting} {document : Document}
      {members : List (String × Document)} (hform : setting.forms document)
      (hrest : Writes settings members) :
      Writes (setting :: settings) ((setting.name, document) :: members)
  | leaveOut {setting : Setting} {settings : List Setting} {members : List (String × Document)}
      (husual : setting.usual) (hrest : Writes settings members) :
      Writes (setting :: settings) members

/-- A document of a record with some settings. -/
def IsRecord (settings : List Setting) (document : Document) : Prop :=
  ∃ members, document = .object members ∧ Writes settings members

/-- A document of a list, each of whose items is a document of one of the values. -/
def IsList {α : Type} (forms : α → Document → Prop) (values : List α) (document : Document) : Prop :=
  ∃ items, document = .list items ∧ List.Forall₂ forms values items

def Bus.settings (bus : Bus) : List Setting :=
  [{ name := "address", forms := (· = .integer bus.address.toNat) },
    { name := "raw_passthrough", forms := (· = .flag bus.rawPassthrough)
      usual := bus.rawPassthrough = false }]

def SignalDef.settings (signal : SignalDef) : List Setting :=
  [{ name := "generic_name", forms := (· = .text signal.name) },
    { name := "bit_position", forms := (· = .integer signal.position.toNat) },
    { name := "bit_size", forms := (· = .integer signal.size.toNat) },
    { name := "factor", forms := (· = .double signal.factor)
      usual := signal.factor = Binary64.one },
    { name := "offset", forms := (· = .double signal.offset)
      usual := signal.offset = Binary64.zero },
    { name := "frequency_hz", forms := (· = .single signal.frequency)
      usual := signal.frequency = Binary32.zero },
    { name := "force_send_changed", forms := (· = .flag signal.forceChanged)
      usual := signal.forceChanged = false },
    { name := "send_same", forms := (· = .flag signal.sendSame), usual := signal.sendSame = true },
    { name := "handler", forms := (· = .text signal.handler.name)
      usual := signal.handler = .passthrough },
    { name := "states", forms := (· = .list (signal.states.map stateDocument))
      usual := signal.states = [] }]

def MessageDef.settings (message : MessageDef) : List Setting :=
  [{ name := "bus", forms := (· = .integer message.key.bus.toNat) },
    { name := "id", forms := (· = .integer message.key.id.toNat) },
    { name := "signals", forms := IsList (fun signal => IsRecord signal.settings) message.signals
      usual := message.signals = [] }]

def RawMessageDef.settings (raw : RawMessageDef) : List Setting :=
  [{ name := "bus", forms := (· = .integer raw.key.bus.toNat) },
    { name := "id", forms := (· = .integer raw.key.id.toNat) },
    { name := "frequency_hz", forms := (· = .single raw.frequency)
      usual := raw.frequency = Binary32.zero },
    { name := "force_send_changed", forms := (· = .flag raw.forceChanged)
      usual := raw.forceChanged = false }]

def Vehicle.settings (vehicle : Vehicle) : List Setting :=
  [{ name := "output_format", forms := (· = .text vehicle.format.name)
     usual := vehicle.format = .json },
    { name := "message_capacity", forms := (· = .integer vehicle.capacity)
      usual := vehicle.capacity = 64 },
    { name := "raw_frequency_hz", forms := (· = .single vehicle.rawFrequency)
      usual := vehicle.rawFrequency = Binary32.zero },
    { name := "buses", forms := IsList (fun bus => IsRecord bus.settings) vehicle.buses
      usual := vehicle.buses = [] },
    { name := "messages", forms := IsList (fun message => IsRecord message.settings) vehicle.messages
      usual := vehicle.messages = [] },
    { name := "raw_messages", forms := IsList (fun raw => IsRecord raw.settings) vehicle.rawMessages
      usual := vehicle.rawMessages = [] }]

/-! ## Members -/

theorem map_fst_memberNodes (members : List (String × Document)) :
    (Document.memberNodes members).map (·.1) = members.map (·.1) := by
  induction members with
  | nil => rfl
  | cons member members ih =>
      rw [Document.memberNodes, List.map_cons, List.map_cons, ih]

/-- What the fields of a record tell about a setting: its value, or that it is usual. -/
def Setting.IsTold (setting : Setting) (fields : Fields) : Prop :=
  (∃ document, setting.forms document ∧ fields.lookup setting.name = some document.node) ∨
    setting.usual ∧ fields.lookup setting.name = none

namespace Setting.IsTold

variable {setting : Setting} {fields : Fields} {α : Type} {read : Node → Option α} {value : α}

/-- A setting that is never left out is read from a document that tells it. -/
theorem required (h : setting.IsTold fields) (hnever : ¬ setting.usual)
    (hread : ∀ document, setting.forms document → read document.node = some value) :
    Config.required fields setting.name read = some value := by
  rcases h with ⟨document, hform, hfound⟩ | ⟨husual, -⟩
  · exact required_of_lookup hfound (hread document hform)
  · exact absurd husual hnever

/-- A setting that may be left out is read too, as its usual value where it is missing. -/
theorem optional (h : setting.IsTold fields) {usual : α} (husual : setting.usual → value = usual)
    (hread : ∀ document, setting.forms document → read document.node = some value) :
    Config.optional fields setting.name usual read = some value := by
  rw [Config.optional]
  rcases h with ⟨document, hform, hfound⟩ | ⟨hleft, hnone⟩
  · rw [hfound]
    exact hread document hform
  · rw [hnone, husual hleft]

end Setting.IsTold

namespace Writes

variable {settings : List Setting} {members : List (String × Document)}

/-- Members have names of settings, in their order. -/
theorem sublist (h : Writes settings members) :
    (members.map (·.1)).Sublist (settings.map (·.name)) := by
  induction h with
  | nil => exact .slnil
  | keep _ _ ih => exact ih.cons_cons _
  | leaveOut _ _ ih => exact ih.cons _

/-- **Every setting is told**, if no two have one name. -/
theorem isTold (h : Writes settings members) (hnodup : (settings.map (·.name)).Nodup) :
    ∀ setting ∈ settings, setting.IsTold (Document.memberNodes members) := by
  induction h with
  | nil => simp
  | @keep first settings document members hform _ ih =>
      rw [List.map_cons, List.nodup_cons] at hnodup
      intro setting hmem
      rcases List.mem_cons.mp hmem with rfl | hmem
      · refine .inl ⟨document, hform, ?_⟩
        rw [Document.memberNodes, List.lookup_cons_self]
      · have hne : (setting.name == first.name) = false := by
          rw [beq_eq_false_iff_ne]
          intro heq
          exact hnodup.1 (heq ▸ List.mem_map_of_mem hmem)
        rw [Setting.IsTold, Document.memberNodes, List.lookup_cons, hne]
        exact ih hnodup.2 setting hmem
  | @leaveOut first settings members husual hrest ih =>
      rw [List.map_cons, List.nodup_cons] at hnodup
      intro setting hmem
      rcases List.mem_cons.mp hmem with rfl | hmem
      · refine .inr ⟨husual, ?_⟩
        rw [List.lookup_eq_none_iff]
        intro field hfield
        rw [bne_iff_ne]
        intro heq
        have hname : setting.name ∈ members.map (·.1) := by
          rw [← map_fst_memberNodes, heq]
          exact List.mem_map_of_mem hfield
        exact hnodup.1 (hrest.sublist.subset hname)
      · exact ih hnodup.2 setting hmem

end Writes

/-- **The fields of a record are found**, and they tell every setting. -/
theorem IsRecord.exists_fields {settings : List Setting} {document : Document}
    (h : IsRecord settings document) (names : List String)
    (hnames : settings.map (·.name) = names) (hnodup : names.Nodup) (dialect : Dialect) :
    ∃ fields, fields? dialect names document.node = some fields ∧
      ∀ setting ∈ settings, setting.IsTold fields := by
  obtain ⟨members, rfl, hwrites⟩ := h
  subst hnames
  refine ⟨Document.memberNodes members, ?_, hwrites.isTold hnodup⟩
  have hknown : (Document.memberNodes members).filter
      (fun member => (settings.map (·.name)).contains member.1) = Document.memberNodes members := by
    rw [List.filter_eq_self]
    intro member hmember
    rw [List.contains_iff_mem]
    apply hwrites.sublist.subset
    rw [← map_fst_memberNodes]
    exact List.mem_map_of_mem hmember
  rw [Document.node, fields?, hknown, map_fst_memberNodes, if_pos (hwrites.sublist.nodup hnodup)]

/-! ## Lists -/

section Lists

variable {α : Type} {forms : α → Document → Prop} {values : List α} {document : Document}

/-- The nodes of a list are those of its items. -/
theorem itemNodes_eq_map (items : List Document) :
    Document.itemNodes items = items.map Document.node := by
  induction items with
  | nil => rfl
  | cons item items ih => rw [Document.itemNodes, List.map_cons, ih]

/-- A list is read if each form of each of its values is. -/
theorem IsList.readList {read : Node → Option α} (h : IsList forms values document)
    (hread : ∀ value ∈ values, ∀ item, forms value item → read item.node = some value) :
    Config.readList read document.node = some values := by
  obtain ⟨items, rfl, hitems⟩ := h
  rw [Document.node, Config.readList, itemNodes_eq_map]
  induction hitems with
  | nil => rfl
  | cons hitem _ ih =>
      have hfirst := hread _ List.mem_cons_self _ hitem
      have hrest := ih fun value hvalue => hread value (List.mem_cons_of_mem _ hvalue)
      simp only [List.map_cons, List.mapM_cons, hfirst, hrest, Option.bind_eq_bind,
        Option.bind_some, Option.pure_def]

/-- Values that are written one by one make up a list of them. -/
theorem isList_map {document : α → Document} (h : ∀ value, forms value (document value))
    (values : List α) : IsList forms values (.list (values.map document)) :=
  ⟨_, rfl, List.forall₂_map_right_iff.mpr (List.forall₂_same.mpr fun value _ => h value)⟩

end Lists

/-! ## Values -/

/-- A number that fits 64 bits is written as an integer. -/
theorem node_integer {n : Int} (hlow : -(2 ^ 63) ≤ n) (hhigh : n < 2 ^ 64) :
    (Document.integer n).node = .integer n := by
  rw [Document.node, Json.numberNode_integer hlow hhigh]

/-- Every byte is read back. -/
theorem readByte_node (byte : UInt8) : readByte (Document.integer byte.toNat).node = some byte := by
  have hbyte := byte.toNat_lt
  rw [node_integer (by omega) (by omega), readByte_integer]

theorem readWord_node (word : UInt32) : readWord (Document.integer word.toNat).node = some word := by
  have hword := word.toNat_lt
  rw [node_integer (by omega) (by omega), readWord_integer]

theorem readCode_node (code : Int32) : readCode (Document.integer code.toInt).node = some code := by
  have hlow := code.le_toInt
  have hhigh := code.toInt_lt
  rw [node_integer (by omega) (by omega), readCode,
    if_pos ⟨code.minValue_le_toInt, code.toInt_le⟩, Int32.ofInt_toInt]

theorem readNatural_node {n : Nat} (h : n < UInt64.size) :
    readNatural UInt64.size (Document.integer n).node = some n := by
  have hsize : UInt64.size = 2 ^ 64 := rfl
  rw [node_integer (by omega) (by omega), readNatural, if_pos (by omega), Int.toNat_natCast]

theorem readFlag_node (value : Bool) : readFlag (Document.flag value).node = some value := rfl

theorem readText_node (value : String) : readText (Document.text value).node = some value := rfl

theorem readChoice_node {α : Type} (dialect : Dialect) {ofName? : String → Option α} {name : String}
    {value : α} (h : ofName? name = some value) :
    readChoice dialect ofName? (Document.text name).node = some value := h

/-- Every kind of handler is found by its name. -/
theorem ofName?_handler (handler : HandlerKind) :
    HandlerKind.ofName? handler.name = some handler := by
  cases handler <;> decide

theorem ofName?_format (format : OutputFormat) :
    OutputFormat.ofName? format.name = some format := by
  cases format <;> decide

/-! ## Records -/

variable (dialect : Dialect)

/-- A setting with one document is told by it. -/
theorem Setting.IsTold.required_eq {name : String} {document : Document} {fields : Fields}
    {α : Type} {read : Node → Option α} {value : α}
    (h : Setting.IsTold { name := name, forms := (· = document) } fields)
    (hread : read document.node = some value) :
    Config.required fields name read = some value :=
  h.required not_false (by rintro _ rfl; exact hread)

/-- A setting with one way to write it is read, or taken to be the usual one. -/
theorem Setting.IsTold.optional_eq {name : String} {document : Document} {fields : Fields}
    {α : Type} {read : Node → Option α} {value usual : α}
    (h : Setting.IsTold
      { name := name, forms := (· = document), usual := value = usual } fields)
    (hread : read document.node = some value) :
    Config.optional fields name usual read = some value :=
  h.optional id (by rintro _ rfl; exact hread)

/-- A bus is read from every document that tells its settings. -/
theorem readBus_of_isRecord {bus : Bus} {document : Document}
    (h : IsRecord bus.settings document) : readBus dialect document.node = some bus := by
  obtain ⟨fields, hfields, htold⟩ :=
    h.exists_fields ["address", "raw_passthrough"] rfl (by decide) dialect
  simp only [Bus.settings, List.forall_mem_cons] at htold
  obtain ⟨haddress, hpassthrough, -⟩ := htold
  have haddress := haddress.required_eq (readByte_node bus.address)
  have hpassthrough := hpassthrough.optional_eq (readFlag_node bus.rawPassthrough)
  simp only [readBus, hfields, haddress, hpassthrough, Option.bind_eq_bind, Option.bind_some,
    Option.pure_def]

/-- The numbers of a signal are short integers. -/
structure SignalDef.Exact (signal : SignalDef) : Prop where
  factor : signal.factor.datum.IsWhole binary64 (2 ^ 32)
  offset : signal.offset.datum.IsWhole binary64 (2 ^ 32)
  frequency : signal.frequency.datum.IsWhole binary32 (2 ^ 24)

/-- Every state of a signal is read back. -/
theorem readState_node (state : SignalState) :
    readState dialect (stateDocument state).node = some state := by
  have hrecord : IsRecord
      [{ name := "value", forms := (· = .integer state.code.toInt) },
        { name := "name", forms := (· = .text state.name) }] (stateDocument state) :=
    ⟨_, rfl, .keep rfl (.keep rfl .nil)⟩
  obtain ⟨fields, hfields, htold⟩ := hrecord.exists_fields ["value", "name"] rfl (by decide) dialect
  simp only [List.forall_mem_cons] at htold
  obtain ⟨hcode, hname, -⟩ := htold
  have hcode := hcode.required_eq (readCode_node state.code)
  have hname := hname.required_eq (readText_node state.name)
  simp only [readState, hfields, hcode, hname, Option.bind_eq_bind, Option.bind_some,
    Option.pure_def]

/-- Every list of states is read back. -/
theorem readStates_node (states : List SignalState) :
    readList (readState dialect) (Document.list (states.map stateDocument)).node = some states := by
  have hlist : IsList (fun state item => stateDocument state = item) states
      (.list (states.map stateDocument)) :=
    isList_map (fun state => Eq.refl (stateDocument state)) states
  refine hlist.readList fun state _ _ hitem => ?_
  rw [← hitem, readState_node]

/-- A signal with exact numbers is read from every document that tells its settings. -/
theorem readSignal_of_isRecord {signal : SignalDef} {document : Document} (hexact : signal.Exact)
    (h : IsRecord signal.settings document) : readSignal dialect document.node = some signal := by
  obtain ⟨fields, hfields, htold⟩ := h.exists_fields signalFields rfl (by decide) dialect
  simp only [SignalDef.settings, List.forall_mem_cons] at htold
  obtain ⟨hname, hposition, hsize, hfactor, hoffset, hfrequency, hforce, hsame, hhandler, hstates, -⟩ :=
    htold
  have hname := hname.required_eq (readText_node signal.name)
  have hposition := hposition.required_eq (readByte_node signal.position)
  have hsize := hsize.required_eq (readByte_node signal.size)
  have hfactor := hfactor.optional_eq (readDouble_node_double hexact.factor)
  have hoffset := hoffset.optional_eq (readDouble_node_double hexact.offset)
  have hfrequency := hfrequency.optional_eq (readSingle_node_single hexact.frequency)
  have hforce := hforce.optional_eq (readFlag_node signal.forceChanged)
  have hsame := hsame.optional_eq (readFlag_node signal.sendSame)
  have hhandler := hhandler.optional_eq (readChoice_node dialect (ofName?_handler signal.handler))
  have hstates := hstates.optional_eq (readStates_node dialect signal.states)
  simp only [readSignal, hfields, hname, hposition, hsize, hfactor, hoffset, hfrequency, hforce,
    hsame, hhandler, hstates, Option.bind_eq_bind, Option.bind_some, Option.pure_def]

/-- A message with exact signals is read from every document that tells its settings. -/
theorem readMessage_of_isRecord {message : MessageDef} {document : Document}
    (hexact : ∀ signal ∈ message.signals, signal.Exact) (h : IsRecord message.settings document) :
    readMessage dialect document.node = some message := by
  obtain ⟨fields, hfields, htold⟩ := h.exists_fields ["bus", "id", "signals"] rfl (by decide) dialect
  simp only [MessageDef.settings, List.forall_mem_cons] at htold
  obtain ⟨hbus, hid, hsignals, -⟩ := htold
  have hbus := hbus.required_eq (readByte_node message.key.bus)
  have hid := hid.required_eq (readWord_node message.key.id)
  have hsignals := hsignals.optional id fun _ hform => hform.readList fun _ hsignal _ hitem =>
    readSignal_of_isRecord dialect (hexact _ hsignal) hitem
  simp only [readMessage, hfields, hbus, hid, hsignals, Option.bind_eq_bind, Option.bind_some,
    Option.pure_def]

/-- A forwarded message with an exact frequency is read from every document that tells its
settings. -/
theorem readRawMessage_of_isRecord {raw : RawMessageDef} {document : Document}
    (hexact : raw.frequency.datum.IsWhole binary32 (2 ^ 24)) (h : IsRecord raw.settings document) :
    readRawMessage dialect document.node = some raw := by
  obtain ⟨fields, hfields, htold⟩ :=
    h.exists_fields ["bus", "id", "frequency_hz", "force_send_changed"] rfl (by decide) dialect
  simp only [RawMessageDef.settings, List.forall_mem_cons] at htold
  obtain ⟨hbus, hid, hfrequency, hforce, -⟩ := htold
  have hbus := hbus.required_eq (readByte_node raw.key.bus)
  have hid := hid.required_eq (readWord_node raw.key.id)
  have hfrequency := hfrequency.optional_eq (readSingle_node_single hexact)
  have hforce := hforce.optional_eq (readFlag_node raw.forceChanged)
  simp only [readRawMessage, hfields, hbus, hid, hfrequency, hforce, Option.bind_eq_bind,
    Option.bind_some, Option.pure_def]

/-! ## Configurations -/

/-- The full document of a bus tells all its settings. -/
theorem Bus.isRecord_document (bus : Bus) : IsRecord bus.settings bus.document :=
  ⟨_, rfl, .keep rfl (.keep rfl .nil)⟩

theorem SignalDef.isRecord_document (signal : SignalDef) :
    IsRecord signal.settings signal.document :=
  ⟨_, rfl, .keep rfl <| .keep rfl <| .keep rfl <| .keep rfl <| .keep rfl <| .keep rfl <|
    .keep rfl <| .keep rfl <| .keep rfl <| .keep rfl .nil⟩

theorem MessageDef.isRecord_document (message : MessageDef) :
    IsRecord message.settings message.document :=
  ⟨_, rfl, .keep rfl <| .keep rfl <|
    .keep (isList_map SignalDef.isRecord_document message.signals) .nil⟩

theorem RawMessageDef.isRecord_document (raw : RawMessageDef) :
    IsRecord raw.settings raw.document :=
  ⟨_, rfl, .keep rfl <| .keep rfl <| .keep rfl <| .keep rfl .nil⟩

namespace Vehicle

/-- The numbers of a configuration are short integers, and its capacity fits a word. -/
structure Exact (vehicle : Vehicle) : Prop where
  capacity : vehicle.capacity < UInt64.size
  rawFrequency : vehicle.rawFrequency.datum.IsWhole binary32 (2 ^ 24)
  signals : ∀ message ∈ vehicle.messages, ∀ signal ∈ message.signals, signal.Exact
  rawMessages : ∀ raw ∈ vehicle.rawMessages, raw.frequency.datum.IsWhole binary32 (2 ^ 24)

variable {vehicle : Vehicle} {document : Document}

/-- An exact configuration is read from every document that tells its settings. -/
theorem ofNode?_of_isRecord (hexact : vehicle.Exact) (h : IsRecord vehicle.settings document) :
    ofNode? dialect document.node = some vehicle := by
  obtain ⟨fields, hfields, htold⟩ := h.exists_fields vehicleFields rfl (by decide) dialect
  simp only [settings, List.forall_mem_cons] at htold
  obtain ⟨hformat, hcapacity, hfrequency, hbuses, hmessages, hraws, -⟩ := htold
  have hformat := hformat.optional_eq (readChoice_node dialect (ofName?_format vehicle.format))
  have hcapacity := hcapacity.optional_eq (readNatural_node hexact.capacity)
  have hfrequency := hfrequency.optional_eq (readSingle_node_single hexact.rawFrequency)
  have hbuses := hbuses.optional id fun _ hform => hform.readList fun _ _ _ hitem =>
    readBus_of_isRecord dialect hitem
  have hmessages := hmessages.optional id fun _ hform => hform.readList fun _ hmessage _ hitem =>
    readMessage_of_isRecord dialect (hexact.signals _ hmessage) hitem
  have hraws := hraws.optional id fun _ hform => hform.readList fun _ hraw _ hitem =>
    readRawMessage_of_isRecord dialect (hexact.rawMessages _ hraw) hitem
  simp only [ofNode?, hfields, hformat, hcapacity, hfrequency, hbuses, hmessages, hraws,
    Option.bind_eq_bind, Option.bind_some, Option.pure_def]

/-- The full document of a configuration leaves nothing out. -/
theorem isRecord_document (vehicle : Vehicle) : IsRecord vehicle.settings vehicle.document :=
  ⟨_, rfl, .keep rfl <| .keep rfl <| .keep rfl <|
    .keep (isList_map Bus.isRecord_document vehicle.buses) <|
    .keep (isList_map MessageDef.isRecord_document vehicle.messages) <|
    .keep (isList_map RawMessageDef.isRecord_document vehicle.rawMessages) .nil⟩

/-- **A configuration is read back from its document**, and also from every document that
leaves out settings with usual values, in any of its records. -/
theorem ofJson?_abridged (h : vehicle.Exact) :
    ofJson? vehicle.document.render = some vehicle ∧
      ∀ document, IsRecord vehicle.settings document → ofJson? document.render = some vehicle := by
  have hread : ∀ document, IsRecord vehicle.settings document →
      ofJson? document.render = some vehicle := by
    intro document hrecord
    rw [ofJson?, Document.ofJson?_render, Option.bind_some, ofNode?_of_isRecord _ h hrecord]
  exact ⟨hread _ vehicle.isRecord_document, hread⟩

/-- A vehicle of which only the capacity and one signal are told, and of the signal only
the key, the name, the bits and the factor: everything else has its default. -/
theorem ofJson?_abridged_one_signal :
    ofJson? (Document.object [("message_capacity", .integer 8),
        ("messages", .list [.object [("bus", .integer 1), ("id", .integer 256),
          ("signals", .list [.object [("generic_name", .text "speed"), ("bit_position", .integer 0),
            ("bit_size", .integer 16), ("factor", .double Binary64.one)]])]])]).render =
      some { capacity := 8, messages := [{ key := ⟨1, 256⟩, signals :=
        [{ name := "speed", position := 0, size := 16, factor := Binary64.one }] }] } := by
  let signal : SignalDef := { name := "speed", position := 0, size := 16 }
  let message : MessageDef := { key := ⟨1, 256⟩, signals := [signal] }
  let vehicle : Vehicle := { capacity := 8, messages := [message] }
  have hzero : Binary32.zero.datum.IsWhole binary32 (2 ^ 24) :=
    ⟨false, 0, by decide, by decide +kernel⟩
  have hsignal : signal.Exact :=
    ⟨⟨false, 1, by decide, by decide +kernel⟩, ⟨false, 0, by decide, by decide +kernel⟩, hzero⟩
  have hvehicle : vehicle.Exact :=
    { capacity := by decide
      rawFrequency := hzero
      signals := by simpa [vehicle, message] using hsignal
      rawMessages := by simp [vehicle] }
  refine (ofJson?_abridged hvehicle).2 _ ⟨_, rfl, ?_⟩
  have hsignals : IsList (fun signal : SignalDef => IsRecord signal.settings) [signal] _ :=
    ⟨_, rfl, .cons ⟨_, rfl, .keep rfl <| .keep rfl <| .keep rfl <| .keep rfl <| .leaveOut rfl <|
      .leaveOut rfl <| .leaveOut rfl <| .leaveOut rfl <| .leaveOut rfl <| .leaveOut rfl .nil⟩ .nil⟩
  have hmessages : IsList (fun message : MessageDef => IsRecord message.settings) [message] _ :=
    ⟨_, rfl, .cons ⟨_, rfl, .keep rfl <| .keep rfl <| .keep hsignals .nil⟩ .nil⟩
  exact .leaveOut rfl <| .keep rfl <| .leaveOut rfl <| .leaveOut rfl <| .keep hmessages <|
    .leaveOut rfl .nil

/-- An empty object leaves everything out. -/
example : ofJson? "\x7b\x7d" = some {} := by decide +kernel

end Vehicle

end VehicleBus.Config

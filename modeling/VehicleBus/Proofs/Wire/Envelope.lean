import VehicleBus.Wire.Envelope
import VehicleBus.Proofs.Wire.Scalar

/-!
# Envelopes read back

`Fills merge before bytes after` says that the bytes are a row of fields that fit
and that merging them takes a record from `before` to `after`.  Each part of a
record fills in its own place, absent parts leave theirs empty, and rows of parts
compose; so a record is read back as soon as its parts are, and an envelope as
soon as its records are.  `Fills.sound` is the only place where the relation meets
the reader.

`toMessage_ofMessage` is the other half: the envelope of a message stands for
that message.
-/

namespace VehicleBus.Wire

/-! ## Filling records -/

section Fills

variable {ρ : Type} {merge : ρ → Field → Option ρ}

/-- The fields in a row of bytes take a record from one content to another. -/
inductive Fills (merge : ρ → Field → Option ρ) : ρ → Bytes → ρ → Prop
  | nil (record : ρ) : Fills merge record [] record
  | cons {field : Field} {before middle after : ρ} {bytes : Bytes}
      (hfits : field.Fits)
      (hmerge : merge before field = some middle)
      (tail : Fills merge middle bytes after) :
      Fills merge before (field.bytes ++ bytes) after

/-- A single field that fits fills in what merging it does. -/
theorem Fills.single {field : Field} {before after : ρ} (hfits : field.Fits)
    (hmerge : merge before field = some after) : Fills merge before field.bytes after := by
  have h := Fills.cons hfits hmerge (Fills.nil after)
  rwa [List.append_nil] at h

/-- Rows of fields compose. -/
theorem Fills.append {before middle after : ρ} {front back : Bytes}
    (hfront : Fills merge before front middle) (hback : Fills merge middle back after) :
    Fills merge before (front ++ back) after := by
  induction hfront with
  | nil => exact hback
  | cons hfits hmerge _ ih =>
      rw [List.append_assoc]
      exact Fills.cons hfits hmerge (ih hback)

/-- The fields of a row, which merge one after the other. -/
theorem Fills.fields {before after : ρ} {bytes : Bytes} (h : Fills merge before bytes after) :
    ∃ fields : List Field, (∀ field ∈ fields, field.Fits) ∧
      fields.flatMap Field.bytes = bytes ∧ mergeAll merge before fields = some after := by
  induction h with
  | nil record => exact ⟨[], by simp, rfl, rfl⟩
  | @cons field before middle after bytes hfits hmerge _ ih =>
      obtain ⟨fields, hall, hbytes, hmerged⟩ := ih
      refine ⟨field :: fields, ?_, ?_, ?_⟩
      · intro other hother
        rcases List.mem_cons.mp hother with rfl | htail
        · exact hfits
        · exact hall other htail
      · rw [List.flatMap_cons, hbytes]
      · simp [mergeAll, hmerge, hmerged]

/-- **Reading follows filling.**  Splitting the bytes and merging the fields ends
where the row ends. -/
theorem Fills.sound {before after : ρ} {bytes : Bytes} (h : Fills merge before bytes after)
    (depth : Nat) : (readFields depth bytes).bind (mergeAll merge before) = some after := by
  obtain ⟨fields, hfits, rfl, hmerged⟩ := h.fields
  rw [readFields_flatMap hfits depth, Option.bind_some, hmerged]

/-- A scalar part fills in its place, and an absent one leaves it empty. -/
theorem Scalar.Lawful.fills {α : Type} {scalar : Scalar α} (hlawful : scalar.Lawful)
    (number : Nat) (hnumber : ValidNumber number) (put : Option α → ρ) (value : Option α)
    (hlength : (scalar.writeOption number value).length < 2 ^ 64)
    (hmerge : ∀ form, merge (put none) ⟨number, form⟩ =
      (scalar.read form).map fun value => put (some value)) :
    Fills merge (put none) (scalar.writeOption number value) (put value) := by
  cases value with
  | none => exact Fills.nil _
  | some value =>
      obtain ⟨form, hfits, hwrite, hread⟩ := hlawful number value hlength
      simp only [Scalar.writeOption, hwrite]
      exact Fills.single ⟨hnumber, hfits⟩ (by rw [hmerge, hread, Option.map_some])

/-- A record part fills in its place as its own bytes fill an empty record. -/
theorem fills_recordField {σ : Type} {inner : σ → Field → Option σ} {empty : σ}
    {write : σ → Bytes} (number : Nat) (hnumber : ValidNumber number) (put : Option σ → ρ)
    (record : Option σ)
    (hinner : ∀ record, (write record).length < 2 ^ 64 → Fills inner empty (write record) record)
    (hlength : (Envelope.recordField number write record).length < 2 ^ 64)
    (hmerge : ∀ value, merge (put none) ⟨number, value⟩ =
      (Envelope.readRecord inner empty value).map fun record => put (some record)) :
    Fills merge (put none) (Envelope.recordField number write record) (put record) := by
  cases record with
  | none => exact Fills.nil _
  | some record =>
      have hbody : (write record).length < 2 ^ 64 := by
        simp only [Envelope.recordField, bytesField, List.length_append] at hlength
        omega
      have hread : Envelope.readRecord inner empty (.bytes (write record)) = some record :=
        (hinner record hbody).sound _
      have hfits : Field.Fits ⟨number, .bytes (write record)⟩ := ⟨hnumber, hbody⟩
      exact Fills.single hfits (by rw [hmerge, hread, Option.map_some])

end Fills

/-! ## Records -/

/-- The fields of a written raw record fill an empty one. -/
theorem RawRecord.fills (record : RawRecord) (h : record.bytes.length < 2 ^ 64) :
    Fills RawRecord.merge {} record.bytes record := by
  obtain ⟨bus, id, data⟩ := record
  simp only [RawRecord.bytes, List.length_append] at h
  have hbus : Fills RawRecord.merge {} (Scalar.int32.writeOption 1 bus) { bus } :=
    Scalar.int32_lawful.fills 1 (by decide) (fun bus => RawRecord.mk bus none none) bus
      (by omega) fun _ => rfl
  have hid : Fills RawRecord.merge { bus } (Scalar.uint32.writeOption 2 id) { bus, id } :=
    Scalar.uint32_lawful.fills 2 (by decide) (fun id => RawRecord.mk bus id none) id
      (by omega) fun _ => rfl
  have hdata : Fills RawRecord.merge { bus, id } (Scalar.uint64.writeOption 3 data)
      { bus, id, data } :=
    Scalar.uint64_lawful.fills 3 (by decide) (RawRecord.mk bus id) data (by omega) fun _ => rfl
  exact (hbus.append hid).append hdata

section

variable {α : Type} {scalar : Scalar α}

/-- The fields of a written named record fill an empty one. -/
theorem NamedRecord.fills (hlawful : scalar.Lawful) (record : NamedRecord α)
    (h : (record.bytes scalar).length < 2 ^ 64) :
    Fills (NamedRecord.merge scalar) {} (record.bytes scalar) record := by
  obtain ⟨name, value⟩ := record
  simp only [NamedRecord.bytes, List.length_append] at h
  have hname : Fills (NamedRecord.merge scalar) {} (Scalar.text.writeOption 1 name) { name } :=
    Scalar.text_lawful.fills 1 (by decide) (fun name => NamedRecord.mk name none) name
      (by omega) fun _ => rfl
  have hvalue : Fills (NamedRecord.merge scalar) { name } (scalar.writeOption 2 value)
      { name, value } :=
    hlawful.fills 2 (by decide) (NamedRecord.mk name) value (by omega) fun _ => rfl
  exact hname.append hvalue

/-- The fields of a written event record fill an empty one. -/
theorem EventRecord.fills (hlawful : scalar.Lawful) (record : EventRecord α)
    (h : (record.bytes scalar).length < 2 ^ 64) :
    Fills (EventRecord.merge scalar) {} (record.bytes scalar) record := by
  obtain ⟨name, value, event⟩ := record
  simp only [EventRecord.bytes, List.length_append] at h
  have hname : Fills (EventRecord.merge scalar) {} (Scalar.text.writeOption 1 name) { name } :=
    Scalar.text_lawful.fills 1 (by decide) (fun name => EventRecord.mk name none none) name
      (by omega) fun _ => rfl
  have hvalue : Fills (EventRecord.merge scalar) { name } (Scalar.text.writeOption 2 value)
      { name, value } :=
    Scalar.text_lawful.fills 2 (by decide) (fun value => EventRecord.mk name value none) value
      (by omega) fun _ => rfl
  have hevent : Fills (EventRecord.merge scalar) { name, value } (scalar.writeOption 3 event)
      { name, value, event } :=
    hlawful.fills 3 (by decide) (EventRecord.mk name value) event (by omega) fun _ => rfl
  exact (hname.append hvalue).append hevent

end

/-! ## Envelopes -/

namespace Envelope

/-- The written form of an envelope fills an empty one with all that it holds. -/
theorem fills (envelope : Envelope) (h : envelope.bytes.length < 2 ^ 64) :
    Fills merge {} envelope.bytes envelope := by
  obtain ⟨type, raw, text, number, flag, eventText, eventNumber, eventFlag⟩ := envelope
  simp only [bytes, List.length_append] at h
  have htype : Fills merge {} (Scalar.int32.writeOption 1 type) { type } :=
    Scalar.int32_lawful.fills 1 (by decide) (fun type => { ({} : Envelope) with type }) type
      (by omega) fun _ => rfl
  have hraw : Fills merge { type } (recordField 2 RawRecord.bytes raw) { type, raw } :=
    fills_recordField 2 (by decide) (fun raw => { ({} : Envelope) with type, raw }) raw
      RawRecord.fills (by omega) fun _ => rfl
  have htext : Fills merge { type, raw } (recordField 3 (NamedRecord.bytes Scalar.text) text)
      { type, raw, text } :=
    fills_recordField 3 (by decide) (fun text => { ({} : Envelope) with type, raw, text }) text
      (NamedRecord.fills Scalar.text_lawful) (by omega) fun _ => rfl
  have hnumber : Fills merge { type, raw, text }
      (recordField 4 (NamedRecord.bytes Scalar.double) number) { type, raw, text, number } :=
    fills_recordField 4 (by decide)
      (fun number => { ({} : Envelope) with type, raw, text, number }) number
      (NamedRecord.fills Scalar.double_lawful) (by omega) fun _ => rfl
  have hflag : Fills merge { type, raw, text, number }
      (recordField 5 (NamedRecord.bytes Scalar.bool) flag) { type, raw, text, number, flag } :=
    fills_recordField 5 (by decide)
      (fun flag => { ({} : Envelope) with type, raw, text, number, flag }) flag
      (NamedRecord.fills Scalar.bool_lawful) (by omega) fun _ => rfl
  have heventText : Fills merge { type, raw, text, number, flag }
      (recordField 6 (EventRecord.bytes Scalar.text) eventText)
      { type, raw, text, number, flag, eventText } :=
    fills_recordField 6 (by decide)
      (fun eventText => { ({} : Envelope) with type, raw, text, number, flag, eventText })
      eventText (EventRecord.fills Scalar.text_lawful) (by omega) fun _ => rfl
  have heventNumber : Fills merge { type, raw, text, number, flag, eventText }
      (recordField 7 (EventRecord.bytes Scalar.double) eventNumber)
      { type, raw, text, number, flag, eventText, eventNumber } :=
    fills_recordField 7 (by decide)
      (fun eventNumber =>
        { ({} : Envelope) with type, raw, text, number, flag, eventText, eventNumber })
      eventNumber (EventRecord.fills Scalar.double_lawful) (by omega) fun _ => rfl
  have heventFlag : Fills merge { type, raw, text, number, flag, eventText, eventNumber }
      (recordField 8 (EventRecord.bytes Scalar.bool) eventFlag)
      { type, raw, text, number, flag, eventText, eventNumber, eventFlag } :=
    fills_recordField 8 (by decide)
      (fun eventFlag => Envelope.mk type raw text number flag eventText eventNumber eventFlag)
      eventFlag (EventRecord.fills Scalar.bool_lawful) (by omega) fun _ => rfl
  exact ((((((htype.append hraw).append htext).append hnumber).append hflag).append
    heventText).append heventNumber).append heventFlag

/-- **Envelopes read back.**  The written form of an envelope is read as that
envelope, whatever parts are absent. -/
theorem ofBytes?_bytes (envelope : Envelope) (h : envelope.bytes.length < 2 ^ 64) :
    ofBytes? envelope.bytes = some envelope :=
  (envelope.fills h).sound groupDepth

/-- A delimited envelope is cut off the front of a stream, and the rest of the
stream is left as it is. -/
theorem readDelimited_append (envelope : Envelope) (h : envelope.bytes.length < 2 ^ 64)
    (rest : Bytes) : readDelimited (envelope.delimited ++ rest) = some (envelope, rest) := by
  have hlength := readVarint_append h (envelope.bytes ++ rest)
  simp only [readDelimited, delimited, List.append_assoc, hlength, Option.bind_eq_bind,
    Option.bind_some, takeBytes_append, ofBytes?_bytes envelope h]
  rfl

/-! ## Messages -/

/-- The number of a bus is a small nonnegative number, so it is found in range. -/
theorem bus_toInt (bus : UInt8) : bus.toUInt32.toInt32.toInt = bus.toNat := by
  have hbits := BitVec.toInt_eq_toNat_cond bus.toUInt32.toInt32.toBitVec
  have hlt := bus.toNat_lt
  rw [Int32.toInt_toBitVec, UInt32.toBitVec_toInt32, UInt32.toNat_toBitVec,
    UInt8.toNat_toUInt32] at hbits
  rw [hbits, if_pos (by omega)]

/-- **The envelope of a message stands for that message.** -/
theorem toMessage_ofMessage (message : Message) : (ofMessage message).toMessage = .ok message := by
  cases message with
  | numeric name value => rfl
  | boolean name value => rfl
  | text name value => rfl
  | evented name value event => cases event <;> rfl
  | raw key data =>
      have hrange : 0 ≤ key.bus.toUInt32.toInt32.toInt ∧ key.bus.toUInt32.toInt32.toInt < 256 := by
        have := key.bus.toNat_lt
        rw [bus_toInt]
        omega
      have hbus : UInt8.ofNat key.bus.toUInt32.toInt32.toInt.toNat = key.bus := by
        simp [bus_toInt]
      show (if 0 ≤ key.bus.toUInt32.toInt32.toInt ∧ key.bus.toUInt32.toInt32.toInt < 256 then
        Except.ok (Message.raw ⟨UInt8.ofNat key.bus.toUInt32.toInt32.toInt.toNat, key.id⟩ data)
        else _) = _
      rw [if_pos hrange, hbus]

end Envelope

end VehicleBus.Wire

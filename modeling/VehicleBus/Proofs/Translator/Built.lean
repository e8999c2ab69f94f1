import VehicleBus.Proofs.Binary.Value
import VehicleBus.Proofs.Translator.Setup

/-!
# What configurations are built into

`Vehicle.Buildable` says in plain terms from which configurations a translator is made:
it is what the check accepts, and besides no two forwarded messages with one key
(`Vehicle.buildable_iff`).

`Translator.ofVehicle_builds` adds what the translator then consists of: the signals and
the buses as they are listed, an index of just the keys that have signals, and a catalog
of the forwarded messages that nothing has been seen of yet.
-/

namespace VehicleBus

open Config (Vehicle)

/-! ## Rates -/

/-- The rates that a definition may ask for are finite and not negative; a zero may have
either sign. -/
theorem Sampling.Clock.validFrequency_iff {frequency : Binary32} :
    validFrequency frequency = true ↔ frequency.isFinite = true ∧ 0 ≤ frequency.toRat := by
  rw [validFrequency, Bool.and_eq_true]
  refine and_congr_right fun hfinite => ?_
  have hzero : Binary32.zero.datum = .finite false 0 := rfl
  rw [hzero, Binary.Datum.atMost_iff rfl hfinite, Binary32.toRat, le_div_iff₀ Binary32.one_pos,
    zero_mul, Int.cast_nonneg_iff]
  rfl

/-! ## Configurations -/

namespace Config.Vehicle

/-- The configurations that a translator can be made of. -/
structure Buildable (vehicle : Vehicle) : Prop where
  rawFrequency : vehicle.rawFrequency.isFinite = true ∧ 0 ≤ vehicle.rawFrequency.toRat
  busAddresses : (vehicle.buses.map (·.address)).Nodup
  /-- If buses are listed at all, those of the messages are among them. -/
  knownBuses : vehicle.buses ≠ [] →
    ∀ message ∈ vehicle.messages, ∃ bus ∈ vehicle.buses, bus.address = message.key.bus
  messageKeys : (vehicle.messages.map (·.key)).Nodup
  signals : ∀ message ∈ vehicle.messages, ∀ definition ∈ message.signals,
    (definition.channel message.key).validate = .ok ()
  /-- Names are unique across all messages. -/
  signalNames : (vehicle.messages.flatMap fun message => message.signals.map (·.name)).Nodup
  room : vehicle.rawMessages.length ≤ vehicle.capacity
  rawFrequencies : ∀ raw ∈ vehicle.rawMessages,
    raw.frequency.isFinite = true ∧ 0 ≤ raw.frequency.toRat
  /-- No message is both decoded and forwarded. -/
  undecoded : ∀ raw ∈ vehicle.rawMessages, ∀ message ∈ vehicle.messages, raw.key ≠ message.key
  rawKeys : (vehicle.rawMessages.map (·.key)).Nodup

/-- The channels of a configuration are those of the signals of its messages. -/
theorem mem_channels_iff {vehicle : Vehicle} {channel : Channel} :
    channel ∈ vehicle.channels ↔ ∃ message ∈ vehicle.messages, ∃ definition ∈ message.signals,
      definition.channel message.key = channel := by
  simp only [channels, List.mem_flatMap, List.mem_map]

/-- The names of the signal table are those of the definitions, in order. -/
theorem map_name_channels (vehicle : Vehicle) :
    vehicle.channels.map (·.signal.name) =
      vehicle.messages.flatMap fun message => message.signals.map (·.name) := by
  simp only [channels, List.map_flatMap, List.map_map]
  rfl

/-- A configuration can be built when it passes the check and its forwarded messages have
keys of their own. -/
theorem buildable_iff {vehicle : Vehicle} :
    vehicle.Buildable ↔ vehicle.Valid ∧ (vehicle.rawMessages.map (·.key)).Nodup := by
  have hbuses : (vehicle.buses ≠ [] → ∀ message ∈ vehicle.messages,
        ∃ bus ∈ vehicle.buses, bus.address = message.key.bus) ↔
      vehicle.buses = [] ∨
        ∀ message ∈ vehicle.messages, message.key.bus ∈ vehicle.buses.map (·.address) := by
    simp only [List.mem_map, or_iff_not_imp_left, ne_eq]
  have hchannels : (∀ message ∈ vehicle.messages, ∀ definition ∈ message.signals,
        (definition.channel message.key).validate = .ok ()) ↔
      ∀ channel ∈ vehicle.channels, channel.faults = [] := by
    simp only [mem_channels_iff, Channel.validate_eq_ok_iff]
    constructor
    · rintro hall _ ⟨message, hmessage, definition, hdefinition, rfl⟩
      exact hall message hmessage definition hdefinition
    · intro hall message hmessage definition hdefinition
      exact hall _ ⟨message, hmessage, definition, hdefinition, rfl⟩
  have hundecoded : (∀ raw ∈ vehicle.rawMessages, ∀ message ∈ vehicle.messages,
        raw.key ≠ message.key) ↔
      ∀ raw ∈ vehicle.rawMessages, raw.key ∉ vehicle.messages.map (·.key) := by
    simp [eq_comm]
  constructor
  · intro h
    refine ⟨⟨?_, h.busAddresses, hbuses.mp h.knownBuses, h.messageKeys, hchannels.mp h.signals, ?_,
      h.room, ?_, hundecoded.mp h.undecoded⟩, h.rawKeys⟩
    · exact Sampling.Clock.validFrequency_iff.mpr h.rawFrequency
    · rw [map_name_channels]
      exact h.signalNames
    · exact fun raw hraw => Sampling.Clock.validFrequency_iff.mpr (h.rawFrequencies raw hraw)
  · rintro ⟨h, hkeys⟩
    refine ⟨?_, h.busAddresses, hbuses.mpr h.knownBuses, h.messageKeys, hchannels.mpr h.channels, ?_,
      h.room, ?_, hundecoded.mpr h.undecoded, hkeys⟩
    · exact Sampling.Clock.validFrequency_iff.mp h.rawFrequency
    · rw [← map_name_channels]
      exact h.signalNames
    · exact fun raw hraw => Sampling.Clock.validFrequency_iff.mp (h.rawFrequencies raw hraw)

end Config.Vehicle

/-! ## Translators -/

/-- The index of a configured router has the keys of the messages with signals. -/
theorem Router.isSome_find?_configured {vehicle : Vehicle} {key : Key} :
    ((configured vehicle).index.find? key).isSome = true ↔
      ∃ message ∈ vehicle.messages, message.key = key ∧ message.signals ≠ [] := by
  rw [← Option.not_isNone, Bool.not_eq_true', ← Bool.not_eq_true, Option.isNone_iff_eq_none,
    (configured_indexed vehicle).find?_eq_none_iff, configured_channels]
  constructor
  · intro hsome
    simp only [Vehicle.mem_channels_iff, not_forall, not_not] at hsome
    obtain ⟨_, ⟨message, hmessage, definition, hdefinition, rfl⟩, hkey⟩ := hsome
    exact ⟨message, hmessage, hkey, List.ne_nil_of_mem hdefinition⟩
  · rintro ⟨message, hmessage, hkey, hsignals⟩ hnone
    obtain ⟨definition, hdefinition⟩ := List.exists_mem_of_ne_nil _ hsignals
    exact hnone _ (Vehicle.mem_channels_iff.mpr
      ⟨message, hmessage, definition, hdefinition, rfl⟩) hkey

/-- A message without signals on the second of two buses. -/
def withSilent : Vehicle :=
  { twoBuses with messages := twoBuses.messages ++ [{ key := ⟨2, 5⟩ }] }

namespace Translator

/-- **What is built, and from what.**  A translator is made exactly of the configurations
that are `Buildable`.  Its table and its buses are those of the configuration in order,
its index has an entry for just the keys of messages with signals, and its catalog holds
the forwarded messages in order, each with the rate and the flag of its own and as if no
frame had ever come. -/
theorem ofVehicle_builds (vehicle : Vehicle) (sink : Sink) :
    ((∃ built, ofVehicle vehicle sink = .ok built) ↔ vehicle.Buildable) ∧
      ∀ translator notices, ofVehicle vehicle sink = .ok (translator, notices) →
        translator.router.channels = vehicle.channels ∧
        (∀ key, (translator.router.index.find? key).isSome = true ↔
          ∃ message ∈ vehicle.messages, message.key = key ∧ message.signals ≠ []) ∧
        translator.router.buses = vehicle.buses ∧
        translator.router.catalog = {
          definitions := vehicle.rawMessages.map fun raw => {
            key := raw.key
            lastPayload := 0
            clock := { frequency := raw.frequency, lastTick := none }
            forceChanged := raw.forceChanged }
          capacity := vehicle.capacity
          defaultFrequency := vehicle.rawFrequency
          refusals := 0 } ∧
        translator.pipeline = { format := vehicle.format, sink } := by
  constructor
  · rw [Vehicle.buildable_iff]
    constructor
    · rintro ⟨⟨translator, notices⟩, hbuilt⟩
      obtain ⟨hvalid, hkeys, -⟩ := ofVehicle_eq_ok hbuilt
      exact ⟨hvalid, hkeys⟩
    · rintro ⟨hvalid, hkeys⟩
      rw [ofVehicle_eq, Router.ofVehicle_of_nodup hvalid hkeys]
      exact ⟨_, rfl⟩
  · intro translator notices hbuilt
    obtain ⟨-, -, hrouter, hpipeline⟩ := ofVehicle_eq_ok hbuilt
    rw [hrouter]
    refine ⟨Router.configured_channels vehicle, fun key => Router.isSome_find?_configured,
      Router.configured_buses vehicle, ?_, hpipeline⟩
    rw [Router.configured_catalog]
    rfl

/-- The index does not list a message without signals. -/
theorem ofVehicle_builds_silent :
    ∃ translator notices, ofVehicle withSilent .emptyBuffer = .ok (translator, notices) ∧
      withSilent.Buildable ∧ ¬ (repeating ⟨2, 0x7E8⟩).Buildable ∧
      translator.router.channels.map (·.signal.name) = ["engine_speed", "reverse"] ∧
      (translator.router.index.find? ⟨1, 0x128⟩).isSome = true ∧
      ¬ (translator.router.index.find? ⟨2, 5⟩).isSome = true ∧
      translator.router.catalog.definitions.map (·.key) = [⟨1, 0x7E8⟩, ⟨2, 0x7E8⟩] := by
  obtain ⟨hbuildable, hparts⟩ := ofVehicle_builds withSilent .emptyBuffer
  obtain ⟨hrepeating, -⟩ := ofVehicle_builds (repeating ⟨2, 0x7E8⟩) .emptyBuffer
  have hbuilt : ofVehicle withSilent .emptyBuffer =
      .ok (⟨Router.configured withSilent, { format := .json, sink := .emptyBuffer }⟩,
        [.ready 2 2 .json]) := rfl
  have hrefused : ofVehicle (repeating ⟨2, 0x7E8⟩) .emptyBuffer =
      .error (.duplicateMessage ⟨2, 0x7E8⟩) := rfl
  obtain ⟨hchannels, hindex, -, hcatalog, -⟩ := hparts _ _ hbuilt
  refine ⟨_, _, hbuilt, hbuildable.mp ⟨_, hbuilt⟩, ?_, ?_, ?_, ?_, ?_⟩
  · rw [← hrepeating, hrefused]
    rintro ⟨_, ⟨⟩⟩
  · rw [hchannels]
    rfl
  · exact (hindex _).mpr ⟨_, List.mem_cons_self, rfl, by decide⟩
  · rw [hindex]
    decide
  · rw [hcatalog]
    rfl

end Translator

end VehicleBus

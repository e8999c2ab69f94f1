import VehicleBus.Proofs.Translator.Accounting

/-!
# Forwarded messages on buses that nobody announced

If a configuration lists buses, the check asks for the bus of every decoded message.  It
does not ask for the bus of a forwarded message, which needs it more: signals are decoded
whatever bus they come from, but a frame is passed on only from a bus that is known.

A definition whose bus is neither listed nor announced later is `Vehicle.stranded`.  Only
frames that are passed on touch the catalog (`Clocked.act_catalog`), so it stays there as
it was loaded (`Clocked.find?_acts_of_unannounced`) and takes the place of another key for
good (`Clocked.room_acts`).
-/

namespace VehicleBus

open Config (Vehicle)

namespace Config.Vehicle

variable {vehicle : Vehicle}

/-- The forwarded messages whose bus is not among some buses. -/
def stranded (vehicle : Vehicle) (buses : List Bus) : List RawMessageDef :=
  vehicle.rawMessages.filter fun raw => decide (raw.key.bus ∉ buses.map (·.address))

/-- The stranded messages are those on a bus that is not listed. -/
theorem mem_stranded_iff {buses : List Bus} {raw : RawMessageDef} :
    raw ∈ vehicle.stranded buses ↔
      raw ∈ vehicle.rawMessages ∧ raw.key.bus ∉ buses.map (·.address) := by
  rw [stranded, List.mem_filter, decide_eq_true_iff]

/-- Where buses are listed, what is decoded comes from one of them. -/
theorem Valid.lists_message (h : vehicle.Valid) (hbuses : vehicle.buses ≠ [])
    {message : MessageDef} (hmember : message ∈ vehicle.messages) :
    message.key.bus ∈ vehicle.buses.map (·.address) :=
  h.knownBuses.resolve_left hbuses message hmember

/-- In a valid configuration that lists buses, every signal is on one of them. -/
theorem Valid.lists_channel (h : vehicle.Valid) (hbuses : vehicle.buses ≠ [])
    {channel : Channel} (hmember : channel ∈ vehicle.channels) :
    channel.signal.key.bus ∈ vehicle.buses.map (·.address) := by
  obtain ⟨message, hmessage, hchannel⟩ := List.mem_flatMap.mp hmember
  obtain ⟨definition, -, rfl⟩ := List.mem_map.mp hchannel
  exact h.lists_message hbuses hmessage

/-- The forwarded messages of a valid configuration can be exchanged for any that are few
enough, have proper rates and are not decoded. -/
theorem Valid.exchange_iff (h : vehicle.Valid) (raws : List RawMessageDef) :
    Valid { vehicle with rawMessages := raws } ↔
      raws.length ≤ vehicle.capacity ∧
        (∀ raw ∈ raws, Sampling.Clock.validFrequency raw.frequency = true) ∧
        ∀ raw ∈ raws, raw.key ∉ vehicle.messages.map (·.key) := by
  constructor
  · intro hexchanged
    exact ⟨hexchanged.room, hexchanged.rawFrequencies, hexchanged.undecoded⟩
  · rintro ⟨hroom, hfrequencies, hundecoded⟩
    exact ⟨h.rawFrequency, h.busAddresses, h.knownBuses, h.messageKeys, h.channels, h.signalNames,
      hroom, hfrequencies, hundecoded⟩

/-- A forwarded message passes the check on a bus that is not listed. -/
theorem validate_unlisted_bus :
    let vehicle : Vehicle := { buses := [{ address := 1 }], rawMessages := [{ key := ⟨2, 1⟩ }] }
    vehicle.buses ≠ [] ∧ vehicle.validate = .ok () ∧
      ¬ ∀ raw ∈ vehicle.rawMessages, raw.key.bus ∈ vehicle.buses.map (·.address) := by
  refine ⟨List.cons_ne_nil _ _, rfl, ?_⟩
  decide

end Config.Vehicle

/-- Of definitions with keys of their own each one is found. -/
theorem Catalog.find?_of_mem {catalog : Catalog} (hkeys : catalog.keys.Nodup)
    {definition : Definition} (hmember : definition ∈ catalog.definitions) :
    catalog.find? definition.key = some definition :=
  find?_label_of_nodup hkeys hmember

/-- Known keys without a property leave less room for those with it. -/
theorem Catalog.countP_keys_add_length_le {catalog : Catalog} {out : List Key} {p : Key → Bool}
    (hout : out.Nodup) (hknown : ∀ key ∈ out, key ∈ catalog.keys)
    (hp : ∀ key ∈ out, p key = false) :
    catalog.keys.countP p + out.length ≤ catalog.keys.length := by
  have hsub : out ⊆ catalog.keys.filter fun key => !p key := by
    intro key hmember
    rw [List.mem_filter, hp key hmember]
    exact ⟨hknown key hmember, rfl⟩
  have hlength : out.length ≤ catalog.keys.countP fun key => !p key := by
    rw [List.countP_eq_length_filter]
    exact (hout.subperm hsub).length_le
  have hsplit : catalog.keys.length = _ := List.length_eq_countP_add_countP p
  simp only [Bool.not_eq_true, Bool.decide_eq_false] at hsplit
  omega

namespace Router

/-- A bus that was never announced is not known. -/
theorem lastBus?_eq_none {address : UInt8} {announced : List Config.Bus}
    (h : address ∉ announced.map (·.address)) : lastBus? address announced = none := by
  rw [lastBus?, List.getLast?_eq_none_iff, List.filter_eq_nil_iff]
  intro bus hmember haddress
  exact h (eq_of_beq haddress ▸ List.mem_map_of_mem hmember)

/-- The catalog of a configuration has the keys of its forwarded messages. -/
theorem keys_configuredCatalog (vehicle : Vehicle) :
    (configuredCatalog vehicle).keys = vehicle.rawMessages.map (·.key) :=
  List.map_map

/-- A configured catalog has the definitions of its forwarded messages. -/
theorem find?_configuredCatalog {vehicle : Vehicle}
    (hkeys : (vehicle.rawMessages.map (·.key)).Nodup) {raw : Config.RawMessageDef}
    (hmember : raw ∈ vehicle.rawMessages) :
    (configuredCatalog vehicle).find? raw.key = some raw.definition := by
  rw [← keys_configuredCatalog] at hkeys
  exact Catalog.find?_of_mem hkeys (List.mem_map_of_mem hmember)

end Router

namespace Clocked

variable {clocked : Clocked}

/-- **What an action can do to the catalog.**  It passes a frame on, or nothing. -/
theorem act_catalog (clocked : Clocked) (action : Action) :
    let router := clocked.translator.router
    (clocked.act action).translator.router.catalog = router.catalog ∨
      ∃ key data, router.forwards key.bus = true ∧
        (clocked.act action).translator.router.catalog =
          (router.catalog.pass key data clocked.now).1 := by
  intro router
  cases hframe : action.isFrame with
  | false => exact .inl (clocked.act_of_not_isFrame hframe).2.1
  | true =>
      obtain ⟨key, data, rfl⟩ := Action.isFrame_iff.mp hframe
      exact (router.catalog_frame key data clocked.now).imp_right fun h => ⟨key, data, h⟩

/-! ## Definitions without frames -/

/-- A definition stays as it is while its bus does not forward. -/
theorem find?_act_of_not_forwards {key : Key}
    (h : clocked.translator.router.forwards key.bus = false) (action : Action) :
    (clocked.act action).translator.router.catalog.find? key =
      clocked.translator.router.catalog.find? key := by
  rcases clocked.act_catalog action with hcatalog | ⟨other, data, hforwards, hcatalog⟩
  · rw [hcatalog]
  · have hne : key ≠ other := by
      rintro rfl
      rw [h] at hforwards
      cases hforwards
    rw [hcatalog, Catalog.find?_pass_of_ne _ hne]

variable {made : Clocked} {announced : List Config.Bus}

/-- A bus that was never announced does not forward. -/
theorem acts_not_forwards (hmade : made.translator.Made announced) {actions : List Action}
    {address : UInt8}
    (h : address ∉ (announced ++ actions.filterMap Action.bus?).map (·.address)) :
    (made.acts actions).translator.router.forwards address = false := by
  have hsound := acts_sound hmade.sound actions
  have hbus : (made.acts actions).translator.router.bus? address = none :=
    (acts_bus? (hmade.bus? address) actions).trans (Router.lastBus?_eq_none h)
  rw [← Bool.not_eq_true, Router.forwards_eq hsound.addresses, hbus]
  rintro ⟨bus, hfound, -⟩
  cases hfound

/-- **A definition stays as it is** until its bus is announced. -/
theorem find?_acts_of_unannounced (hmade : made.translator.Made announced) {key : Key}
    {actions : List Action}
    (h : key.bus ∉ (announced ++ actions.filterMap Action.bus?).map (·.address)) :
    (made.acts actions).translator.router.catalog.find? key =
      made.translator.router.catalog.find? key := by
  -- The last action comes off first: what was not announced by all was not by those before it.
  induction actions using List.reverseRecOn with
  | nil => rfl
  | append_singleton front action ih =>
      have hfront : key.bus ∉ (announced ++ front.filterMap Action.bus?).map (·.address) := by
        rw [List.filterMap_append, ← List.append_assoc, List.map_append, List.mem_append] at h
        exact fun hmember => h (.inl hmember)
      rw [acts_append]
      exact (find?_act_of_not_forwards (acts_not_forwards hmade hfront) action).trans (ih hfront)

/-! ## Room -/

/-- A catalog never holds more than it has room for, and has the same room always. -/
theorem room_acts {capacity : Nat}
    (h : clocked.translator.router.catalog.capacity = capacity ∧
      clocked.translator.router.catalog.keys.length ≤ capacity) (actions : List Action) :
    (clocked.acts actions).translator.router.catalog.capacity = capacity ∧
      (clocked.acts actions).translator.router.catalog.keys.length ≤ capacity := by
  induction actions generalizing clocked with
  | nil => exact h
  | cons action rest ih =>
      apply ih
      rcases clocked.act_catalog action with hcatalog | ⟨key, data, -, hcatalog⟩
      · rw [hcatalog]
        exact h
      · obtain ⟨hcapacity, hlength⟩ := h
        rw [hcatalog, Catalog.keys_pass, hcapacity]
        refine ⟨?_, Catalog.enroll_length_le hlength key⟩
        exact (Catalog.serve_counts _ (.pass key data clocked.now)).1.trans hcapacity

/-- **Which bus references are checked.**  Let a configuration list buses and pass the
check.  Then everything that is decoded comes from a listed bus, but nothing is said of
the buses of forwarded messages: the check would pass any others that are few enough,
have proper rates and are not decoded.  A forwarded message whose bus is neither listed
nor announced by an action is loaded for nothing.  Whatever a program does, its
definition stays as it was loaded, its frames are not passed on, and the keys that can be
forwarded have to do with the room that such messages leave. -/
theorem bus_references {vehicle : Vehicle} (hbuses : vehicle.buses ≠ [])
    (hvalidate : vehicle.validate = .ok ()) :
    ((∀ message ∈ vehicle.messages, message.key.bus ∈ vehicle.buses.map (·.address)) ∧
        ∀ channel ∈ vehicle.channels, channel.signal.key.bus ∈ vehicle.buses.map (·.address)) ∧
      (∀ raws : List Config.RawMessageDef,
        Vehicle.validate { vehicle with rawMessages := raws } = .ok () ↔
          raws.length ≤ vehicle.capacity ∧
            (∀ raw ∈ raws, Sampling.Clock.validFrequency raw.frequency = true) ∧
            ∀ raw ∈ raws, raw.key ∉ vehicle.messages.map (·.key)) ∧
      ∀ sink translator notices, Translator.ofVehicle vehicle sink = .ok (translator, notices) →
        ∀ now actions,
          let router := (acts ⟨translator, now⟩ actions).translator.router
          let stranded := vehicle.stranded (vehicle.buses ++ actions.filterMap Action.bus?)
          (∀ raw ∈ stranded, router.catalog.find? raw.key = some raw.definition ∧
              router.fate raw.key ≠ .passedThrough) ∧
            router.catalog.keys.countP (router.forwards ·.bus) + stranded.length ≤
              vehicle.capacity := by
  have hvalid : vehicle.Valid := Vehicle.validate_eq_ok_iff.mp hvalidate
  refine ⟨⟨fun _ => hvalid.lists_message hbuses, fun _ => hvalid.lists_channel hbuses⟩,
    fun raws => Vehicle.validate_eq_ok_iff.trans (hvalid.exchange_iff raws), ?_⟩
  intro sink translator notices hbuilt now actions router stranded
  let made : Clocked := ⟨translator, now⟩
  have hmade : made.translator.Made vehicle.buses := .configured hbuilt
  obtain ⟨-, hnodup, hrouter, -⟩ := Translator.ofVehicle_eq_ok hbuilt
  have hcatalog : made.translator.router.catalog = Router.configuredCatalog vehicle := by
    rw [hrouter, Router.configured_catalog]
  have hstays : ∀ raw ∈ stranded, router.catalog.find? raw.key = some raw.definition := by
    intro raw hmember
    obtain ⟨hraw, hbus⟩ := Vehicle.mem_stranded_iff.mp hmember
    rw [← Router.find?_configuredCatalog hnodup hraw, ← hcatalog]
    exact find?_acts_of_unannounced hmade hbus
  have hsilent : ∀ raw ∈ stranded, router.forwards raw.key.bus = false := by
    intro raw hmember
    exact acts_not_forwards hmade (Vehicle.mem_stranded_iff.mp hmember).2
  refine ⟨fun raw hmember => ⟨hstays raw hmember, ?_⟩, ?_⟩
  · rw [Router.fate, hsilent raw hmember]
    split <;> decide
  · have hroom : made.translator.router.catalog.capacity = vehicle.capacity ∧
        made.translator.router.catalog.keys.length ≤ vehicle.capacity := by
      rw [hcatalog, Router.keys_configuredCatalog, List.length_map]
      exact ⟨rfl, hvalid.room⟩
    have hkept : router.catalog.keys.length ≤ vehicle.capacity := (room_acts hroom actions).2
    have hout : (stranded.map (·.key)).Nodup := hnodup.sublist (List.filter_sublist.map _)
    have hknown : ∀ key ∈ stranded.map (·.key), key ∈ router.catalog.keys := by
      rw [List.forall_mem_map]
      intro raw hmember
      rw [← Catalog.find?_isSome_iff_mem_keys, hstays raw hmember]
      rfl
    have hshare : router.catalog.keys.countP (router.forwards ·.bus) +
        (stranded.map (·.key)).length ≤ router.catalog.keys.length :=
      Catalog.countP_keys_add_length_le hout hknown (List.forall_mem_map.mpr hsilent)
    rw [List.length_map] at hshare
    exact hshare.trans hkept

/-- Of three forwarded messages one is on a bus that is not listed.  It is not passed on
when it comes, and leaves room for three other keys. -/
theorem bus_references_third_bus :
    let vehicle := repeating ⟨9, 0x7E8⟩
    let translator : Translator :=
      ⟨Router.configured vehicle, { format := .json, sink := .emptyBuffer }⟩
    let actions : List Action := [.operate (.input (.frame ⟨9, 0x7E8⟩ 5)),
      .operate (.addBus { address := 3, rawPassthrough := true }),
      .operate (.input (.frame ⟨3, 0x200⟩ 5)), .operate (.input (.frame ⟨3, 0x201⟩ 5))]
    let router := (acts ⟨translator, 0⟩ actions).translator.router
    vehicle.buses ≠ [] ∧ vehicle.validate = .ok () ∧
      vehicle.stranded (vehicle.buses ++ actions.filterMap Action.bus?) = [{ key := ⟨9, 0x7E8⟩ }] ∧
      (∀ message ∈ vehicle.messages, message.key.bus ∈ vehicle.buses.map (·.address)) ∧
      router.catalog.find? ⟨9, 0x7E8⟩ =
        some (Config.RawMessageDef.definition { key := ⟨9, 0x7E8⟩ }) ∧
      router.fate ⟨9, 0x7E8⟩ ≠ .passedThrough ∧
      router.catalog.keys.countP (router.forwards ·.bus) + 1 ≤ vehicle.capacity ∧
      router.catalog.keys = [⟨1, 0x7E8⟩, ⟨2, 0x7E8⟩, ⟨9, 0x7E8⟩, ⟨3, 0x200⟩] ∧
      router.catalog.refusals = 1 := by
  intro vehicle translator actions router
  have hbuses : vehicle.buses ≠ [] := List.cons_ne_nil _ _
  have hvalidate : (repeating ⟨9, 0x7E8⟩).validate = .ok () := rfl
  have hbuilt : Translator.ofVehicle (repeating ⟨9, 0x7E8⟩) .emptyBuffer =
      .ok (translator, [.ready 2 2 .json]) := rfl
  have hstranded : vehicle.stranded (vehicle.buses ++ actions.filterMap Action.bus?) =
      [{ key := ⟨9, 0x7E8⟩ }] := by
    decide
  have hkeys : router.catalog.keys = [⟨1, 0x7E8⟩, ⟨2, 0x7E8⟩, ⟨9, 0x7E8⟩, ⟨3, 0x200⟩] := by
    decide +kernel
  have hrefusals : router.catalog.refusals = 1 := by decide +kernel
  obtain ⟨⟨hmessages, -⟩, -, hrun⟩ := bus_references hbuses hvalidate
  obtain ⟨hdefinitions, hroom⟩ := hrun _ _ _ hbuilt 0 actions
  rw [hstranded] at hdefinitions hroom
  obtain ⟨hfound, hfate⟩ := hdefinitions _ List.mem_cons_self
  exact ⟨hbuses, hvalidate, hstranded, hmessages, hfound, hfate, hroom, hkeys, hrefusals⟩

end Clocked

end VehicleBus

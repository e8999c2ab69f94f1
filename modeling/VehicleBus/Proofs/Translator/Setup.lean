import VehicleBus.Translator
import VehicleBus.Proofs.Catalog
import VehicleBus.Proofs.Router.Table

/-!
# From configurations to translators

A configuration that passes the check is built into the router that
`Router.configured` names, unless two of its forwarded messages have the same
key.  The check does not compare these with each other; the catalog does, and
refuses the second one.
-/

namespace VehicleBus

open Config (Vehicle)

/-! ## Buses -/

/-- Buses with addresses of their own are kept as they come. -/
theorem Router.foldl_addBus {buses : List Config.Bus} {router : Router}
    (haddresses : ((router.buses ++ buses).map (·.address)).Nodup) :
    buses.foldl addBus router = { router with buses := router.buses ++ buses } := by
  induction buses generalizing router with
  | nil => simp
  | cons bus rest ih =>
      have hnew : ¬ router.buses.any (·.address == bus.address) := by
        intro hany
        obtain ⟨other, hother, haddress⟩ := List.any_eq_true.mp hany
        apply label_notMem_of_nodup haddresses
        rw [← eq_of_beq haddress]
        exact List.mem_map_of_mem hother
      have hstep : router.addBus bus = { router with buses := router.buses ++ [bus] } := by
        simp only [addBus, if_neg hnew]
      have hrest : (((router.addBus bus).buses ++ rest).map (·.address)).Nodup := by
        rw [hstep]
        simpa using haddresses
      rw [List.foldl_cons, ih hrest, hstep]
      simp

/-! ## Routers -/

namespace Router

/-- The catalog of a configuration without any definitions. -/
def emptyCatalog (vehicle : Vehicle) : Catalog where
  capacity := vehicle.capacity
  defaultFrequency := vehicle.rawFrequency

/-- The catalog of a configuration before a frame was seen. -/
def configuredCatalog (vehicle : Vehicle) : Catalog :=
  { emptyCatalog vehicle with definitions := vehicle.rawMessages.map (·.definition) }

/-- The router of a configuration before a frame was seen. -/
def configured (vehicle : Vehicle) : Router :=
  vehicle.channels.foldl withChannel
    { catalog := configuredCatalog vehicle, buses := vehicle.buses }

/-- A configured router has the channels of its configuration. -/
theorem configured_channels (vehicle : Vehicle) :
    (configured vehicle).channels = vehicle.channels := by
  rw [configured, (foldl_withChannel _ _).1]
  rfl

theorem configured_buses (vehicle : Vehicle) : (configured vehicle).buses = vehicle.buses :=
  (foldl_withChannel _ _).2.1

theorem configured_catalog (vehicle : Vehicle) :
    (configured vehicle).catalog = configuredCatalog vehicle :=
  (foldl_withChannel _ _).2.2.1

/-- A configured router is indexed. -/
theorem configured_indexed (vehicle : Vehicle) : (configured vehicle).Indexed :=
  (foldl_withChannel _ _).2.2.2.2 (indexed_of_no_channels rfl rfl)

/-- A valid configuration is built as soon as its forwarded messages are preloaded. -/
theorem ofVehicle_of_valid {vehicle : Vehicle} (hvalid : vehicle.Valid) :
    ofVehicle vehicle =
      ((vehicle.rawMessages.map (·.definition)).foldlM Catalog.preload (emptyCatalog vehicle)).map
        fun catalog => vehicle.channels.foldl withChannel { catalog, buses := vehicle.buses } := by
  have hvalidate : vehicle.validate = .ok () := Vehicle.validate_eq_ok_iff.mpr hvalid
  have hofVehicle : ofVehicle vehicle =
      (vehicle.rawMessages.foldlM (fun catalog raw => Catalog.preload catalog raw.definition)
          (emptyCatalog vehicle)).bind
        fun catalog => vehicle.channels.foldlM addChannel (vehicle.buses.foldl addBus { catalog }) := by
    rw [ofVehicle, hvalidate]
    rfl
  rw [hofVehicle, List.foldlM_map]
  cases vehicle.rawMessages.foldlM (fun catalog raw => Catalog.preload catalog raw.definition)
      (emptyCatalog vehicle) with
  | error fault => rfl
  | ok catalog =>
      have hbuses : vehicle.buses.foldl addBus { catalog } = { catalog, buses := vehicle.buses } :=
        foldl_addBus (by simpa using hvalid.busAddresses)
      show vehicle.channels.foldlM addChannel (vehicle.buses.foldl addBus { catalog }) = _
      rw [hbuses]
      exact foldlM_addChannel hvalid.channels hvalid.signalNames

/-- With keys of their own, all forwarded messages find their place. -/
theorem ofVehicle_of_nodup {vehicle : Vehicle} (hvalid : vehicle.Valid)
    (hkeys : (vehicle.rawMessages.map (·.key)).Nodup) :
    ofVehicle vehicle = .ok (configured vehicle) := by
  have hload : (vehicle.rawMessages.map (·.definition)).foldlM Catalog.preload
      (emptyCatalog vehicle) = .ok (configuredCatalog vehicle) := by
    rw [Catalog.foldlM_preload]
    · rfl
    · simpa [emptyCatalog, Function.comp_def, Config.RawMessageDef.definition] using hkeys
    · simpa [emptyCatalog] using hvalid.room
  rw [ofVehicle_of_valid hvalid, hload]
  rfl

/-- The first forwarded message whose key stands before it is the fault. -/
theorem ofVehicle_of_repeated {vehicle : Vehicle} (hvalid : vehicle.Valid)
    {front back : List Config.RawMessageDef} {raw : Config.RawMessageDef}
    (hsplit : vehicle.rawMessages = front ++ raw :: back) (hfront : (front.map (·.key)).Nodup)
    (hrepeated : raw.key ∈ front.map (·.key)) :
    ofVehicle vehicle = .error (.duplicateMessage raw.key) := by
  have hroom := hvalid.room
  rw [hsplit] at hroom
  simp only [List.length_append, List.length_cons] at hroom
  have hload : (vehicle.rawMessages.map (·.definition)).foldlM Catalog.preload
      (emptyCatalog vehicle) = .error (.duplicateMessage raw.key) := by
    rw [hsplit, List.map_append, List.map_cons]
    apply Catalog.foldlM_preload_repeated
    · simpa [emptyCatalog, Function.comp_def, Config.RawMessageDef.definition] using hfront
    · simp only [emptyCatalog, List.length_nil, List.length_map]
      omega
    · simpa [emptyCatalog, Function.comp_def, Config.RawMessageDef.definition] using hrepeated
  rw [ofVehicle_of_valid hvalid, hload]
  rfl

/-- What is built, and from which configurations. -/
theorem ofVehicle_eq_ok_iff {vehicle : Vehicle} {router : Router} :
    ofVehicle vehicle = .ok router ↔
      vehicle.Valid ∧ (vehicle.rawMessages.map (·.key)).Nodup ∧ router = configured vehicle := by
  constructor
  · intro hbuilt
    have hvalid : vehicle.Valid := by
      rw [← Vehicle.validate_eq_ok_iff]
      cases hvalidate : vehicle.validate with
      | ok => rfl
      | error fault =>
          rw [ofVehicle, hvalidate] at hbuilt
          cases hbuilt
    by_cases hkeys : (vehicle.rawMessages.map (·.key)).Nodup
    · rw [ofVehicle_of_nodup hvalid hkeys] at hbuilt
      cases hbuilt
      exact ⟨hvalid, hkeys, rfl⟩
    · obtain ⟨front, raw, back, hsplit, hfront, hrepeated⟩ := exists_first_repeated _ hkeys
      rw [ofVehicle_of_repeated hvalid hsplit hfront hrepeated] at hbuilt
      cases hbuilt
  · rintro ⟨hvalid, hkeys, rfl⟩
    exact ofVehicle_of_nodup hvalid hkeys

end Router

/-! ## Translators -/

/-- A decoded message, and two forwarded ones with the same identifier on
different buses. -/
def twoBuses : Vehicle where
  capacity := 4
  buses := [{ address := 1, rawPassthrough := true }, { address := 2, rawPassthrough := true }]
  messages := [{
    key := ⟨1, 0x128⟩
    signals := [
      { name := "engine_speed", position := 0, size := 16 },
      { name := "reverse", position := 16, size := 1, handler := .boolean }] }]
  rawMessages := [{ key := ⟨1, 0x7E8⟩ }, { key := ⟨2, 0x7E8⟩ }]

/-- The same with one more forwarded message. -/
def repeating (key : Key) : Vehicle :=
  { twoBuses with rawMessages := twoBuses.rawMessages ++ [{ key }] }

namespace Translator

/-- A translator is a built router in front of a pipeline in the configured format. -/
theorem ofVehicle_eq (vehicle : Vehicle) (sink : Sink) :
    ofVehicle vehicle sink = (Router.ofVehicle vehicle).map fun router =>
      ({ router, pipeline := { format := vehicle.format, sink } },
        [.ready router.channels.length router.buses.length vehicle.format]) := by
  rw [ofVehicle]
  cases Router.ofVehicle vehicle <;> rfl

/-- A translator that was built has the configured router and an unused pipeline. -/
theorem ofVehicle_eq_ok {vehicle : Vehicle} {sink : Sink} {translator : Translator}
    {notices : List Notice} (h : ofVehicle vehicle sink = .ok (translator, notices)) :
    vehicle.Valid ∧ (vehicle.rawMessages.map (·.key)).Nodup ∧
      translator.router = Router.configured vehicle ∧
      translator.pipeline = { format := vehicle.format, sink } := by
  rw [ofVehicle_eq] at h
  cases hrouter : Router.ofVehicle vehicle with
  | error fault =>
      rw [hrouter] at h
      cases h
  | ok router =>
      obtain ⟨hvalid, hkeys, rfl⟩ := Router.ofVehicle_eq_ok_iff.mp hrouter
      rw [hrouter] at h
      cases h
      exact ⟨hvalid, hkeys, rfl, rfl⟩

/-- **What a checked configuration may still fail on.**  It is built exactly if no
two of its forwarded messages have the same key; else the first message whose key
stands before it is reported. -/
theorem ofVehicle_of_validate {vehicle : Vehicle} (hvalidate : vehicle.validate = .ok ())
    (sink : Sink) :
    ((∃ built, ofVehicle vehicle sink = .ok built) ↔ (vehicle.rawMessages.map (·.key)).Nodup) ∧
      ∀ fault, ofVehicle vehicle sink = .error fault ↔
        ∃ front raw back, vehicle.rawMessages = front ++ raw :: back ∧
          (front.map (·.key)).Nodup ∧ raw.key ∈ front.map (·.key) ∧
          fault = .duplicateMessage raw.key := by
  have hvalid : vehicle.Valid := Vehicle.validate_eq_ok_iff.mp hvalidate
  rw [ofVehicle_eq]
  by_cases hkeys : (vehicle.rawMessages.map (·.key)).Nodup
  · rw [Router.ofVehicle_of_nodup hvalid hkeys]
    refine ⟨⟨fun _ => hkeys, fun _ => ⟨_, rfl⟩⟩, fun fault => ⟨?_, ?_⟩⟩
    · intro hfault
      cases hfault
    · rintro ⟨front, raw, back, hsplit, -, hrepeated, -⟩
      rw [hsplit] at hkeys
      exact absurd hrepeated (label_notMem_of_nodup hkeys)
  · obtain ⟨front, raw, back, hsplit, hfront, hrepeated⟩ := exists_first_repeated _ hkeys
    rw [Router.ofVehicle_of_repeated hvalid hsplit hfront hrepeated]
    refine ⟨⟨?_, fun h => absurd h hkeys⟩, fun fault => ⟨?_, ?_⟩⟩
    · rintro ⟨built, hbuilt⟩
      cases hbuilt
    · intro hfault
      cases hfault
      exact ⟨front, raw, back, hsplit, hfront, hrepeated, rfl⟩
    · rintro ⟨front', raw', back', hsplit', hfront', hrepeated', rfl⟩
      rw [← Router.ofVehicle_of_repeated hvalid hsplit hfront hrepeated,
        Router.ofVehicle_of_repeated hvalid hsplit' hfront' hrepeated']
      rfl

/-- Two forwarded messages with one identifier on different buses are built, and
one that comes again behind them is the fault. -/
theorem ofVehicle_of_validate_two_buses :
    twoBuses.validate = .ok () ∧ (∃ built, ofVehicle twoBuses .emptyBuffer = .ok built) ∧
      (repeating ⟨2, 0x7E8⟩).validate = .ok () ∧
      ofVehicle (repeating ⟨2, 0x7E8⟩) .emptyBuffer = .error (.duplicateMessage ⟨2, 0x7E8⟩) := by
  refine ⟨rfl, (ofVehicle_of_validate rfl _).1.mpr (by decide), rfl, ?_⟩
  refine ((ofVehicle_of_validate rfl _).2 _).mpr ?_
  exact ⟨twoBuses.rawMessages, { key := ⟨2, 0x7E8⟩ }, [], rfl, by decide, by decide, rfl⟩

/-- The check does not see a forwarded message that is listed twice. -/
theorem ofVehicle_listed_twice :
    Vehicle.validate { rawMessages := [{ key := ⟨0, 1⟩ }, { key := ⟨0, 1⟩ }] } = .ok () ∧
      ∀ sink, ofVehicle { rawMessages := [{ key := ⟨0, 1⟩ }, { key := ⟨0, 1⟩ }] } sink =
        .error (.duplicateMessage ⟨0, 1⟩) :=
  ⟨rfl, fun _ => rfl⟩

end Translator

end VehicleBus

import VehicleBus.Proofs.Router.Call
import VehicleBus.Proofs.Router.Sound
import VehicleBus.Proofs.Translator.Run
import VehicleBus.Proofs.Translator.Setup

/-!
# What holds of every translator

A translator is made empty or from a configuration, and then a program acts on it:
it operates it, has the sink passed on or takes what waits there.  All that an action
can do to the router is one of five things (`Clocked.act_router`), and each of them
keeps the router sound.  So every translator that a program can come to hold has a
sound router (`Clocked.acts_sound`), and its buses are the ones announced last
(`Clocked.acts_bus?`).

`Clocked.tables_fit` says what that means for the index, the table and the buses.
-/

namespace VehicleBus

/-! ## Making a translator -/

/-- Translators as they are made, with the buses announced so far. -/
inductive Translator.Made : Translator → List Config.Bus → Prop where
  | empty (catalog : Catalog) (pipeline : Pipeline) : Made (ofCatalog catalog pipeline) []
  | configured {vehicle : Config.Vehicle} {sink : Sink} {translator : Translator}
      {notices : List Notice} (hbuilt : ofVehicle vehicle sink = .ok (translator, notices)) :
      Made translator vehicle.buses

/-- A configuration is built into a sound router. -/
theorem Router.configured_sound {vehicle : Config.Vehicle} (hvalid : vehicle.Valid) :
    (configured vehicle).Sound where
  indexed := configured_indexed vehicle
  names := by
    rw [configured_channels]
    exact hvalid.signalNames
  valid := by
    intro channel hmember
    rw [configured_channels] at hmember
    exact Channel.faults_eq_nil_iff.mp (hvalid.channels channel hmember)
  addresses := by
    rw [configured_buses]
    exact hvalid.busAddresses

/-- A translator that was made has a sound router. -/
theorem Translator.Made.sound {translator : Translator} {announced : List Config.Bus}
    (h : translator.Made announced) : translator.router.Sound := by
  cases h with
  | empty catalog pipeline => exact Router.sound_of_empty rfl rfl rfl
  | configured hbuilt =>
      obtain ⟨hvalid, -, hrouter, -⟩ := ofVehicle_eq_ok hbuilt
      rw [hrouter]
      exact Router.configured_sound hvalid

/-- In buses with addresses of their own, each one is the last of its address. -/
theorem Router.lastBus?_eq_find? {buses : List Config.Bus} (h : (buses.map (·.address)).Nodup)
    (address : UInt8) : lastBus? address buses = buses.find? (·.address == address) := by
  induction buses using List.reverseRecOn with
  | nil => rfl
  | append_singleton front bus ih =>
      have hnew : bus.address ∉ front.map (·.address) := label_notMem_of_nodup h
      rw [List.map_append] at h
      rw [lastBus?_append_singleton, ih h.of_append_left, List.find?_append]
      by_cases haddress : bus.address = address
      · have hnone : front.find? (·.address == address) = none := by
          rw [List.find?_eq_none]
          intro other hmember hother
          apply hnew
          rw [haddress, ← eq_of_beq hother]
          exact List.mem_map_of_mem hmember
        simp [haddress, hnone]
      · simp [haddress]

/-- A translator that was made knows each bus as it was announced last. -/
theorem Translator.Made.bus? {translator : Translator} {announced : List Config.Bus}
    (h : translator.Made announced) (address : UInt8) :
    translator.router.bus? address = Router.lastBus? address announced := by
  cases h with
  | empty catalog pipeline => rfl
  | configured hbuilt =>
      obtain ⟨hvalid, -, hrouter, -⟩ := ofVehicle_eq_ok hbuilt
      rw [Router.bus?, hrouter, Router.configured_buses,
        Router.lastBus?_eq_find? hvalid.busAddresses]

/-! ## Actions -/

/-- What a program can do with a translator that it holds. -/
inductive Action where
  | operate (operation : Operation)
  /-- Take the messages that the sink gives away. -/
  | take
  | flush

/-- The bus that an action announces. -/
def Action.bus? : Action → Option Config.Bus
  | operate (.addBus bus) => some bus
  | _ => none

/-- Does an action deliver a frame? -/
def Action.isFrame : Action → Bool
  | operate (.input (.frame _ _)) => true
  | _ => false

/-- The frame actions are those with a key and data. -/
theorem Action.isFrame_iff {action : Action} :
    action.isFrame = true ↔ ∃ key data, action = .operate (.input (.frame key data)) := by
  constructor
  · intro hframe
    unfold isFrame at hframe
    split at hframe
    · exact ⟨_, _, rfl⟩
    · cases hframe
  · rintro ⟨key, data, rfl⟩
    rfl

/-- What an action that neither announces a bus nor delivers a frame can do to a router. -/
inductive Router.Adjusts (router : Router) : Router → Prop where
  | same : Adjusts router router
  | addChannel {channel : Channel} {extended : Router}
      (hadd : router.addChannel channel = .ok extended) : Adjusts router extended
  | setHandler {name : String} {handler : Handler} {changed : Router}
      (hset : router.setHandler name handler = .ok changed) : Adjusts router changed

/-- What an action other than announcing a bus can do to a router. -/
inductive Router.Changes (router : Router) : Router → Prop where
  | same : Changes router router
  | addChannel {channel : Channel} {extended : Router}
      (hadd : router.addChannel channel = .ok extended) : Changes router extended
  | setHandler {name : String} {handler : Handler} {changed : Router}
      (hset : router.setHandler name handler = .ok changed) : Changes router changed
  | frame (key : Key) (data : Payload) (now : Time) : Changes router (router.frame key data now).1

namespace Router.Adjusts

variable {router next : Router}

/-- An adjustment is a change. -/
theorem changes (h : router.Adjusts next) : router.Changes next := by
  cases h with
  | same => exact .same
  | addChannel hadd => exact .addChannel hadd
  | setHandler hset => exact .setHandler hset

/-- Only the signal table is adjusted. -/
theorem counts_catalog (h : router.Adjusts next) :
    next.counts = router.counts ∧ next.catalog = router.catalog := by
  cases h with
  | same => exact ⟨rfl, rfl⟩
  | addChannel hadd =>
      obtain ⟨-, -, rfl⟩ := addChannel_eq_ok_iff.mp hadd
      exact ⟨rfl, rfl⟩
  | setHandler hset =>
      obtain ⟨-, -, -, rfl⟩ := setHandler_eq_ok hset
      exact ⟨rfl, rfl⟩

/-- Adjusting leaves the signals and adds to them. -/
theorem signals_stay (h : router.Adjusts next) : router.signals <+: next.signals := by
  cases h with
  | same => exact List.prefix_rfl
  | addChannel hadd =>
      obtain ⟨-, -, rfl⟩ := addChannel_eq_ok_iff.mp hadd
      exact (List.prefix_append _ _).map _
  | @setHandler name handler _ hset =>
      obtain ⟨-, -, -, rfl⟩ := setHandler_eq_ok hset
      have hsame : ((·.signal) ∘ giveHandler name handler) = Channel.signal :=
        funext (giveHandler_signal name handler)
      rw [signals, signals, List.map_map, hsame]

end Router.Adjusts

namespace Router.Changes

variable {router next : Router}

/-- A change keeps a router sound. -/
theorem sound (h : router.Changes next) (hsound : router.Sound) : next.Sound := by
  cases h with
  | same => exact hsound
  | addChannel hadd => exact hsound.addChannel hadd
  | setHandler hset => exact hsound.setHandler hset
  | frame key data now => exact hsound.frame key data now

/-- A change leaves the buses as they are. -/
theorem buses (h : router.Changes next) : next.buses = router.buses := by
  cases h with
  | same => rfl
  | addChannel hadd =>
      obtain ⟨-, -, rfl⟩ := addChannel_eq_ok_iff.mp hadd
      rfl
  | setHandler hset =>
      obtain ⟨-, -, -, rfl⟩ := setHandler_eq_ok hset
      rfl
  | frame key data now => exact (router.frame_fixed key data now).1

end Router.Changes

namespace Clocked

/-- Do what a program does; what is refused changes nothing. -/
def act (clocked : Clocked) : Action → Clocked
  | .operate operation => clocked.step operation
  | .take => { clocked with translator := clocked.translator.take.1 }
  | .flush =>
    match clocked.translator.flush with
    | .ok translator => { clocked with translator }
    | .error _ => clocked

/-- Act several times, in order. -/
def acts (clocked : Clocked) (actions : List Action) : Clocked := actions.foldl act clocked

/-- A channel is added to the router, or nothing happens at all. -/
theorem step_addChannel (clocked : Clocked) (channel : Channel) :
    (∃ extended, clocked.translator.router.addChannel channel = .ok extended ∧
        (clocked.step (.addChannel channel)).translator.router = extended) ∨
      clocked.step (.addChannel channel) = clocked := by
  cases hadd : clocked.translator.router.addChannel channel with
  | ok extended =>
      refine .inl ⟨extended, rfl, ?_⟩
      simp [step, Translator.addChannel, hadd, bind, Except.bind, pure, Except.pure]
  | error fault =>
      right
      simp [step, Translator.addChannel, hadd, bind, Except.bind]

/-- A handler is set in the router, or nothing happens at all. -/
theorem step_setHandler (clocked : Clocked) (name : String) (handler : Handler) :
    (∃ changed, clocked.translator.router.setHandler name handler = .ok changed ∧
        (clocked.step (.setHandler name handler)).translator.router = changed) ∨
      clocked.step (.setHandler name handler) = clocked := by
  cases hset : clocked.translator.router.setHandler name handler with
  | ok changed =>
      refine .inl ⟨changed, rfl, ?_⟩
      simp [step, Translator.setHandler, hset, bind, Except.bind, pure, Except.pure]
  | error fault =>
      right
      simp [step, Translator.setHandler, hset, bind, Except.bind]

/-- A bus is announced to the router. -/
theorem act_of_bus? (clocked : Clocked) {action : Action} {bus : Config.Bus}
    (h : action.bus? = some bus) :
    (clocked.act action).translator.router = clocked.translator.router.addBus bus := by
  unfold Action.bus? at h
  split at h
  · cases h
    rfl
  · cases h

/-- Any other action that delivers no frame at most adjusts the signal table. -/
theorem act_adjusts (clocked : Clocked) {action : Action} (hbus : action.bus? = none)
    (hframe : action.isFrame = false) :
    clocked.translator.router.Adjusts (clocked.act action).translator.router := by
  cases action with
  | operate operation =>
      cases operation with
      | input input =>
          cases input with
          | clock now => exact .same
          | frame key data => cases hframe
      | addBus bus => cases hbus
      | addChannel channel =>
          rw [act]
          rcases clocked.step_addChannel channel with ⟨extended, hadd, hrouter⟩ | hstep
          · exact hrouter ▸ .addChannel hadd
          · rw [hstep]
            exact .same
      | setHandler name handler =>
          rw [act]
          rcases clocked.step_setHandler name handler with ⟨changed, hset, hrouter⟩ | hstep
          · exact hrouter ▸ .setHandler hset
          · rw [hstep]
            exact .same
      | send message => exact .same
  | take => exact .same
  | flush =>
      have hrouter : (clocked.act .flush).translator.router = clocked.translator.router := by
        cases hflush : clocked.translator.pipeline.flush <;>
          simp [act, Translator.flush, hflush, bind, Except.bind, pure, Except.pure]
      exact hrouter ▸ .same

/-- **What an action can do to the router.** -/
theorem act_router (clocked : Clocked) (action : Action) :
    (∃ bus, action.bus? = some bus ∧
        (clocked.act action).translator.router = clocked.translator.router.addBus bus) ∨
      (action.bus? = none ∧
        clocked.translator.router.Changes (clocked.act action).translator.router) := by
  cases hbus : action.bus? with
  | some bus => exact .inl ⟨bus, rfl, clocked.act_of_bus? hbus⟩
  | none =>
      refine .inr ⟨rfl, ?_⟩
      cases hframe : action.isFrame with
      | false => exact (clocked.act_adjusts hbus hframe).changes
      | true =>
          obtain ⟨key, data, rfl⟩ := Action.isFrame_iff.mp hframe
          exact .frame key data clocked.now

theorem act_sound {clocked : Clocked} (h : clocked.translator.router.Sound) (action : Action) :
    (clocked.act action).translator.router.Sound := by
  rcases clocked.act_router action with ⟨bus, -, hrouter⟩ | ⟨-, hchanges⟩
  · rw [hrouter]
    exact h.addBus bus
  · exact hchanges.sound h

theorem acts_sound {clocked : Clocked} (h : clocked.translator.router.Sound)
    (actions : List Action) : (clocked.acts actions).translator.router.Sound := by
  induction actions generalizing clocked with
  | nil => exact h
  | cons action rest ih => exact ih (act_sound h action)

/-- The bus of an address is the one announced last, by an action or before. -/
theorem acts_bus? {clocked : Clocked} {announced : List Config.Bus} {address : UInt8}
    (h : clocked.translator.router.bus? address = Router.lastBus? address announced)
    (actions : List Action) :
    (clocked.acts actions).translator.router.bus? address =
      Router.lastBus? address (announced ++ actions.filterMap Action.bus?) := by
  induction actions generalizing clocked announced with
  | nil =>
      rw [List.filterMap_nil, List.append_nil]
      exact h
  | cons action rest ih =>
      rcases clocked.act_router action with ⟨bus, hbus, hrouter⟩ | ⟨hbus, hchanges⟩
      · have hnext : (clocked.act action).translator.router.bus? address =
            Router.lastBus? address (announced ++ [bus]) := by
          rw [hrouter, Router.bus?_addBus, Router.lastBus?_append_singleton, h]
        have hrest := ih hnext
        rw [List.append_assoc, List.singleton_append] at hrest
        rw [List.filterMap_cons_some hbus]
        exact hrest
      · have hnext : (clocked.act action).translator.router.bus? address =
            Router.lastBus? address announced := by
          rw [Router.bus?, hchanges.buses]
          exact h
        rw [List.filterMap_cons_none hbus]
        exact ih hnext

end Clocked

end VehicleBus

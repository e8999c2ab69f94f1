import VehicleBus.Proofs.Router.Shift
import VehicleBus.Proofs.Translator.Isolation
import VehicleBus.Proofs.Translator.Reach

/-!
# Only differences of times matter

Start a translator at a later time and set its clock to times that are later by the
same amount: it sends the same messages, and all that is remembered of it is the same
but the times of last ticks, which are later by this amount (`Clocked.run_later`).

One operation at a later time does what it does at its own (`Clocked.step_later`), as
long as no time overflows and no handler looks at last ticks; a run keeps both.
-/

namespace VehicleBus

open Sampling (Clock)

/-- The operation at a later time. -/
def Operation.later (shift : Time) : Operation → Operation
  | input (.clock now) => input (.clock (now + shift))
  | addChannel channel => addChannel (channel.later shift)
  | operation => operation

/-- The time that an operation sets the clock to. -/
def Operation.clock? : Operation → Option Time
  | input (.clock now) => some now
  | _ => none

/-- An operation that does the same at a later time. -/
def Operation.Movable (shift : Time) : Operation → Prop
  | input (.clock now) => Time.Movable shift now
  | addChannel channel => channel.Movable shift
  | setHandler _ handler => handler.IgnoresTicks
  | _ => True

namespace Clocked

/-- The translator as it would be at a later time: its clock and all last ticks are
moved, and nothing else. -/
def later (shift : Time) (clocked : Clocked) : Clocked where
  translator := { clocked.translator with router := clocked.translator.router.later shift }
  now := clocked.now + shift

/-- A translator that does the same at a later time. -/
structure Movable (shift : Time) (clocked : Clocked) : Prop where
  router : clocked.translator.router.Movable shift
  now : Time.Movable shift clocked.now

variable {shift : Time} {clocked : Clocked}

/-! ## One operation -/

/-- A frame at a shifted time does what it did before, shifted. -/
theorem frame_later (h : clocked.Movable shift) (key : Key) (data : Payload) :
    (clocked.later shift).feed (.frame key data) = (clocked.feed (.frame key data)).later shift := by
  have hframe : (clocked.later shift).translator.router.frame key data (clocked.later shift).now = _ :=
    Router.frame_later h.router h.now key data
  rw [feed, Translator.frame, hframe]
  rfl

/-- The messages that an operation asks for do not depend on the time as such. -/
theorem messages_later (h : clocked.Movable shift) (operation : Operation) :
    (clocked.later shift).messages (operation.later shift) = clocked.messages operation := by
  cases operation with
  | input input =>
      cases input with
      | clock now => rfl
      | frame key data =>
          have hframe : (clocked.later shift).translator.router.frame key data
              (clocked.later shift).now = _ := Router.frame_later h.router h.now key data
          show Step.messages _ = _
          rw [hframe]
          rfl
  | addBus bus => rfl
  | addChannel channel => rfl
  | setHandler name handler => rfl
  | send message => rfl

/-- **An operation sees differences of times only.** -/
theorem step_later (h : clocked.Movable shift) (operation : Operation) :
    (clocked.later shift).step (operation.later shift) = (clocked.step operation).later shift := by
  cases operation with
  | input input =>
      cases input with
      | clock now => rfl
      | frame key data => exact frame_later h key data
  | addBus bus => rfl
  | addChannel channel =>
      have hadd := Router.addChannel_later shift clocked.translator.router channel
      rw [Operation.later, step, step, Translator.addChannel, Translator.addChannel, later, hadd]
      cases clocked.translator.router.addChannel channel <;> rfl
  | setHandler name handler =>
      have hset := Router.setHandler_later shift clocked.translator.router name handler
      have hsame : (Operation.setHandler name handler).later shift = .setHandler name handler := rfl
      rw [hsame, step, step, Translator.setHandler, Translator.setHandler, later, hset]
      cases clocked.translator.router.setHandler name handler <;> rfl
  | send message => rfl

/-- Only a clock setting changes the time. -/
theorem now_step (clocked : Clocked) (operation : Operation) :
    (clocked.step operation).now = operation.clock?.getD clocked.now := by
  cases operation with
  | input input => cases input <;> rfl
  | addBus bus => rfl
  | addChannel channel =>
      rw [step]
      split <;> rfl
  | setHandler name handler =>
      rw [step]
      split <;> rfl
  | send message => rfl

/-- A movable operation keeps a translator movable. -/
theorem Movable.step (h : clocked.Movable shift) {operation : Operation}
    (hoperation : operation.Movable shift) : (clocked.step operation).Movable shift := by
  cases operation with
  | input input =>
      cases input with
      | clock now => exact ⟨h.router, hoperation⟩
      | frame key data => exact ⟨h.router.frame h.now key data, h.now⟩
  | addBus bus => exact ⟨⟨h.router.channels, h.router.catalog⟩, h.now⟩
  | addChannel channel =>
      rcases clocked.step_addChannel channel with ⟨extended, hadd, hrouter⟩ | hstep
      · refine ⟨?_, ?_⟩
        · rw [hrouter]
          exact h.router.addChannel hoperation hadd
        · rw [now_step]
          exact h.now
      · rw [hstep]
        exact h
  | setHandler name handler =>
      rcases clocked.step_setHandler name handler with ⟨changed, hset, hrouter⟩ | hstep
      · refine ⟨?_, ?_⟩
        · rw [hrouter]
          exact h.router.setHandler hoperation hset
        · rw [now_step]
          exact h.now
      · rw [hstep]
        exact h
  | send message => exact ⟨h.router, h.now⟩

/-! ## Runs -/

/-- A run sees differences of times only, from any state whose times can be moved. -/
theorem run_later_of_movable (h : clocked.Movable shift) {operations : List Operation}
    (hoperations : ∀ operation ∈ operations, operation.Movable shift) :
    (clocked.later shift).run (operations.map (Operation.later shift)) =
        (clocked.run operations).later shift ∧
      (clocked.later shift).runMessages (operations.map (Operation.later shift)) =
        clocked.runMessages operations := by
  induction operations generalizing clocked with
  | nil => exact ⟨rfl, rfl⟩
  | cons operation rest ih =>
      have hnext := h.step (hoperations operation List.mem_cons_self)
      have hrest : ∀ other ∈ rest, other.Movable shift :=
        fun other hmember => hoperations other (List.mem_cons_of_mem _ hmember)
      obtain ⟨hrun, hmessages⟩ := ih hnext hrest
      rw [← step_later h] at hrun hmessages
      refine ⟨hrun, ?_⟩
      rw [List.map_cons, runMessages, runMessages, messages_later h, hmessages]

/-! ## Translators of configurations -/

/-- A translator that has not handled a frame yet does not know the time. -/
theorem later_of_ofVehicle {vehicle : Config.Vehicle} {sink : Sink} {translator : Translator}
    {notices : List Notice} (hbuilt : Translator.ofVehicle vehicle sink = .ok (translator, notices))
    (shift start : Time) :
    later shift ⟨translator, start⟩ = ⟨translator, start + shift⟩ ∧
      translator.router.Movable shift := by
  obtain ⟨-, -, hrouter, -⟩ := Translator.ofVehicle_eq_ok hbuilt
  have hchannels : ∀ channel ∈ vehicle.channels, channel.signal.clock.lastTick = none := by
    intro channel hmember
    simp only [Config.Vehicle.channels, List.mem_flatMap, List.mem_map] at hmember
    obtain ⟨message, -, signal, -, rfl⟩ := hmember
    rfl
  have hdefinitions : ∀ definition ∈ (Router.configuredCatalog vehicle).definitions,
      definition.clock.lastTick = none := by
    intro definition hmember
    obtain ⟨raw, -, rfl⟩ := List.mem_map.mp hmember
    rfl
  constructor
  · have hsameChannels : vehicle.channels.map (Channel.later shift) = vehicle.channels := by
      rw [List.map_congr_left (g := id), List.map_id]
      intro channel hmember
      rw [Channel.later, Signal.later, Clock.later_of_unticked (hchannels channel hmember), id]
    have hsameCatalog : (Router.configuredCatalog vehicle).later shift =
        Router.configuredCatalog vehicle := by
      rw [Catalog.later, List.map_congr_left (g := id), List.map_id]
      intro definition hmember
      rw [Catalog.Definition.later, Clock.later_of_unticked (hdefinitions definition hmember), id]
    rw [later, Router.later, hrouter, Router.configured_channels, Router.configured_catalog,
      hsameChannels, hsameCatalog, ← Router.configured_channels, ← Router.configured_catalog,
      ← hrouter]
  · refine ⟨?_, ?_⟩
    · intro channel hmember
      rw [hrouter, Router.configured_channels] at hmember
      exact ⟨Clock.movable_of_unticked (hchannels channel hmember),
        (vehicle.channels_builtIn channel hmember).ignoresTicks⟩
    · intro definition hmember
      rw [hrouter, Router.configured_catalog] at hmember
      exact Clock.movable_of_unticked (hdefinitions definition hmember)

/-- **Only differences of times matter.**  Take a translator that was built from a
configuration and a run that brings no handler that looks at last ticks.  If it starts
later and its clock is set to times that are later by the same amount, all within the
range of times, then the run asks for the same messages in the same order, and the
translator ends in the same state, but that all last ticks are later by this amount. -/
theorem run_later {vehicle : Config.Vehicle} {sink : Sink} {translator : Translator}
    {notices : List Notice} (hbuilt : Translator.ofVehicle vehicle sink = .ok (translator, notices))
    {shift start : Time} (hstart : Time.Movable shift start) {operations : List Operation}
    (hoperations : ∀ operation ∈ operations, operation.Movable shift) :
    let moved := operations.map (Operation.later shift)
    run ⟨translator, start + shift⟩ moved = (run ⟨translator, start⟩ operations).later shift ∧
      runMessages ⟨translator, start + shift⟩ moved = runMessages ⟨translator, start⟩ operations := by
  intro moved
  obtain ⟨hlater, hrouter⟩ := later_of_ofVehicle hbuilt shift start
  have hmovable : Movable shift ⟨translator, start⟩ := ⟨hrouter, hstart⟩
  rw [← hlater]
  exact run_later_of_movable hmovable hoperations

/-- A replay that starts at a time of day, with a clock that is set back on the way and
a handler that looks at another signal. -/
theorem run_later_two_buses :
    let translator : Translator :=
      ⟨Router.configured twoBuses, { format := .json, sink := .emptyBuffer }⟩
    let start : Time := 100
    let shift : Time := 1436509052249
    let operations : List Operation := [
      .setHandler "reverse" (.customNumeric fun _ table value send =>
        (value + ((Signal.find? "engine_speed" table).map (·.lastValue)).getD value, send)),
      .addChannel { signal := { name := "load", key := ⟨1, 0x128⟩, position := 24, size := 8 } },
      .input (.frame ⟨1, 0x128⟩ 5), .input (.clock 150), .input (.frame ⟨1, 0x128⟩ 5),
      .input (.clock 20), .input (.frame ⟨2, 0x7E8⟩ 7)]
    let moved := operations.map (Operation.later shift)
    Time.Movable shift start ∧ (∀ operation ∈ operations, operation.Movable shift) ∧
      run ⟨translator, start + shift⟩ moved = (run ⟨translator, start⟩ operations).later shift ∧
      (runMessages ⟨translator, start + shift⟩ moved).length = 7 := by
  intro translator start shift operations moved
  have hbuilt : Translator.ofVehicle twoBuses .emptyBuffer = .ok (translator, [.ready 2 2 .json]) :=
    rfl
  have hstart : Time.Movable shift start := by
    unfold Time.Movable
    decide
  have hmovable : ∀ operation ∈ operations, operation.Movable shift := by
    have hsum : Handler.IgnoresTicks (.customNumeric fun _ table value send =>
        (value + ((Signal.find? "engine_speed" table).map (·.lastValue)).getD value, send)) := by
      intro signal signal' table table' value send _ htable
      rw [Handler.apply, Handler.apply,
        Signal.lastValue_find?_of_unticked htable "engine_speed"]
    have hload : Channel.Movable shift
        { signal := { name := "load", key := ⟨1, 0x128⟩, position := 24, size := 8 } } :=
      ⟨Clock.movable_of_unticked rfl, Handler.IsBuiltIn.ignoresTicks trivial⟩
    simp only [operations, List.forall_mem_cons]
    exact ⟨hsum, hload, trivial, by unfold Operation.Movable Time.Movable; decide, trivial,
      by unfold Operation.Movable Time.Movable; decide, trivial, fun _ h => absurd h List.not_mem_nil⟩
  have hlength : (runMessages ⟨translator, start⟩ operations).length = 7 := by decide +kernel
  obtain ⟨hrun, hmessages⟩ := run_later hbuilt hstart hmovable
  exact ⟨hstart, hmovable, hrun, (congrArg List.length hmessages).trans hlength⟩

end Clocked

end VehicleBus

import VehicleBus.Proofs.Catalog
import VehicleBus.Proofs.Router.Sound

/-!
# Routers at a later time

A router remembers times in one place only, the last ticks of its clocks, and it uses
them in one way only, as the time that has passed since.  So a router whose last ticks
are all later by the same amount does the same with a frame that comes later by this
amount (`Router.frame_later`).

Two things could spoil this: a time that is too late to be moved, and a handler that
looks at the last ticks in the signals that it is shown.  `Router.Movable` excludes
both, and a frame keeps it that way.
-/

namespace VehicleBus

open Sampling (Clock)

/-! ## Times and clocks -/

/-- A time that stays a time when it is moved. -/
def Time.Movable (shift now : Time) : Prop := now.toNat + shift.toNat < UInt64.size

/-- A movable time does not wrap around when it is shifted. -/
theorem Time.toNat_add_of_movable {shift now : Time} (h : Time.Movable shift now) :
    (now + shift).toNat = now.toNat + shift.toNat := by
  rw [UInt64.toNat_add, Nat.mod_eq_of_lt h]

/-- Moving both ends does not change the time between them, also if they are in the
wrong order. -/
theorem Time.since_add {shift now start : Time} (hnow : Time.Movable shift now)
    (hstart : Time.Movable shift start) : (now + shift).since (start + shift) = now.since start := by
  rw [since, since, toNat_add_of_movable hnow, toNat_add_of_movable hstart, Nat.add_sub_add_right]

namespace Sampling.Clock

/-- The clock whose last tick, if there was one, is later by a shift. -/
def later (shift : Time) (clock : Clock) : Clock :=
  { clock with lastTick := clock.lastTick.map (· + shift) }

/-- A clock whose last tick can be moved. -/
def Movable (shift : Time) (clock : Clock) : Prop :=
  ∀ last, clock.lastTick = some last → Time.Movable shift last

variable {shift now : Time} {clock : Clock}

/-- A clock that has not ticked does not know the time. -/
theorem later_of_unticked (h : clock.lastTick = none) : clock.later shift = clock := by
  rw [later, h, Option.map_none, ← h]

/-- A clock that has not ticked can be moved anywhere. -/
theorem movable_of_unticked (h : clock.lastTick = none) : clock.Movable shift := by
  intro last hlast
  rw [h] at hlast
  cases hlast

/-- A clock and a time that are shifted together are due together. -/
theorem due_later (hclock : clock.Movable shift) (hnow : Time.Movable shift now) :
    (clock.later shift).due (now + shift) = clock.due now := by
  cases hlast : clock.lastTick with
  | none =>
      rw [later_of_unticked hlast, due, due, hlast]
      cases clock.period <;> rfl
  | some last =>
      have hsince : (now + shift).since (last + shift) = now.since last :=
        Time.since_add hnow (hclock last hlast)
      have hperiod : (clock.later shift).period = clock.period := rfl
      have htick : (clock.later shift).lastTick = some (last + shift) := by
        rw [later, hlast, Option.map_some]
      rw [due, due, hperiod, htick, hlast]
      cases clock.period with
      | none => rfl
      | some period => exact congrArg (fun elapsed => period.atMost (Binary64.ofNat elapsed)) hsince

/-- **A poll sees differences of times only.** -/
theorem poll_later (hclock : clock.Movable shift) (hnow : Time.Movable shift now) :
    (clock.later shift).poll (now + shift) =
      ((clock.poll now).1.later shift, (clock.poll now).2) := by
  rw [poll, poll, due_later hclock hnow]
  split <;> rfl

theorem Movable.poll (hclock : clock.Movable shift) (hnow : Time.Movable shift now) :
    (clock.poll now).1.Movable shift := by
  by_cases hdue : clock.due now = true
  · rw [poll_of_due hdue]
    intro last hlast
    cases hlast
    exact hnow
  · rw [poll_of_not_due hdue]
    exact hclock

end Sampling.Clock

/-! ## Signals and handlers -/

/-- The signal as it would be at a later time. -/
def Signal.later (shift : Time) (signal : Signal) : Signal :=
  { signal with clock := signal.clock.later shift }

/-- The signal without the time of its last tick. -/
def Signal.unticked (signal : Signal) : Signal :=
  { signal with clock := .ofFrequency signal.clock.frequency }

/-- Sampling at a shifted time is sampling, shifted. -/
theorem Signal.sample_later {shift now : Time} {signal : Signal}
    (hclock : signal.clock.Movable shift) (hnow : Time.Movable shift now) (data : Payload) :
    (signal.later shift).sample data (now + shift) =
      ((signal.sample data now).1.later shift, (signal.sample data now).2) := by
  have hpoll : (signal.later shift).clock.poll (now + shift) = _ := Clock.poll_later hclock hnow
  rw [sample, hpoll]
  rfl

/-- A handler that does not look at last ticks, neither of its signal nor in the table. -/
def Handler.IgnoresTicks (handler : Handler) : Prop :=
  ∀ signal signal' table table' value send, signal.unticked = signal'.unticked →
    table.map Signal.unticked = table'.map Signal.unticked →
    handler.apply signal table value send = handler.apply signal' table' value send

/-- Looking up the last value of a signal is not looking at its last tick. -/
theorem Signal.lastValue_find?_of_unticked {table table' : List Signal}
    (h : table.map unticked = table'.map unticked) (name : String) :
    (find? name table).map (·.lastValue) = (find? name table').map (·.lastValue) := by
  have hfind : ∀ signals : List Signal,
      (find? name (signals.map unticked)).map (·.lastValue) =
        (find? name signals).map (·.lastValue) := by
    intro signals
    have hmap : find? name (signals.map unticked) = (find? name signals).map unticked :=
      List.find?_map
    rw [hmap, Option.map_map]
    rfl
  rw [← hfind table, ← hfind table', h]

/-- No built-in handler looks at a tick. -/
theorem Handler.IsBuiltIn.ignoresTicks {handler : Handler} (h : handler.IsBuiltIn) :
    handler.IgnoresTicks := by
  intro signal signal' table table' value send hsignal _
  have hstates : signal.states = signal'.states := congrArg (·.states) hsignal
  rw [h.apply_eq signal table table']
  cases handler with
  | passthrough => rfl
  | boolean => rfl
  | ignore => rfl
  | state => simp only [apply, Signal.stateWithCode?, hstates]
  | customNumeric strategy => exact h.elim
  | customBoolean strategy => exact h.elim
  | customText strategy => exact h.elim

/-- What is shown later is shown alike. -/
theorem Handler.IgnoresTicks.apply_later {handler : Handler} (h : handler.IgnoresTicks)
    (shift : Time) (signal : Signal) (table : List Signal) (value : Binary64) (send : Bool) :
    handler.apply (signal.later shift) (table.map (Signal.later shift)) value send =
      handler.apply signal table value send := by
  refine h _ _ _ _ value send rfl ?_
  rw [List.map_map]
  rfl

/-! ## Channels -/

namespace Channel

/-- The channel as it would be at a later time. -/
def later (shift : Time) (channel : Channel) : Channel :=
  { channel with signal := channel.signal.later shift }

/-- A channel that does the same at a later time. -/
structure Movable (shift : Time) (channel : Channel) : Prop where
  clock : channel.signal.clock.Movable shift
  handler : channel.handler.IgnoresTicks

theorem Movable.settle {shift now : Time} {channel : Channel} (h : channel.Movable shift)
    (hnow : Time.Movable shift now) (data : Payload) : (channel.settle data now).Movable shift :=
  ⟨h.clock.poll hnow, h.handler⟩

end Channel

namespace Router

variable {shift now : Time}

theorem map_signal_later (shift : Time) (channels : List Channel) :
    (channels.map (Channel.later shift)).map (·.signal) =
      (channels.map (·.signal)).map (Signal.later shift) := by
  rw [List.map_map, List.map_map]
  rfl

/-- A cycle at a later time takes the same steps. -/
theorem translateAt_later {channels : List Channel}
    (hchannels : ∀ channel ∈ channels, channel.Movable shift) (hnow : Time.Movable shift now)
    (place : Nat) (data : Payload) :
    translateAt (channels.map (Channel.later shift)) place data (now + shift) =
      ((translateAt channels place data now).1.map (Channel.later shift),
        (translateAt channels place data now).2) := by
  rw [translateAt, translateAt, List.getElem?_map]
  cases hplace : channels[place]? with
  | none => rfl
  | some channel =>
      have hmovable := hchannels channel (List.mem_of_getElem? hplace)
      have hsample : (channel.later shift).signal.sample data (now + shift) = _ :=
        Signal.sample_later hmovable.clock hnow data
      have htable := map_signal_later shift channels
      simp only [Option.map_some, hsample, htable, ← List.map_set]
      have hanswer := hmovable.handler.apply_later shift (channel.signal.sample data now).1
        ((channels.map (·.signal)).set place (channel.signal.sample data now).1)
        (channel.signal.sample data now).2.value (channel.signal.sample data now).2.send
      have hhandler : (channel.later shift).handler = channel.handler := rfl
      rw [hhandler, hanswer, List.map_set]
      rfl

/-- Translating at one place keeps all channels movable. -/
theorem movable_translateAt {channels : List Channel}
    (hchannels : ∀ channel ∈ channels, channel.Movable shift) (hnow : Time.Movable shift now)
    (place : Nat) (data : Payload) :
    ∀ channel ∈ (translateAt channels place data now).1, channel.Movable shift := by
  cases hplace : channels[place]? with
  | none =>
      rw [translateAt_of_none hplace]
      exact hchannels
  | some found =>
      rw [translateAt_of_some hplace]
      intro channel hmember
      rcases List.mem_or_eq_of_mem_set hmember with hold | rfl
      · exact hchannels channel hold
      · exact (hchannels found (List.mem_of_getElem? hplace)).settle hnow data

/-- So do the cycles of a whole frame. -/
theorem translateAll_later {channels : List Channel}
    (hchannels : ∀ channel ∈ channels, channel.Movable shift) (hnow : Time.Movable shift now)
    (data : Payload) (listed : List Nat) :
    translateAll data (now + shift) (channels.map (Channel.later shift)) listed =
        ((translateAll data now channels listed).1.map (Channel.later shift),
          (translateAll data now channels listed).2) ∧
      ∀ channel ∈ (translateAll data now channels listed).1, channel.Movable shift := by
  induction listed generalizing channels with
  | nil => exact ⟨rfl, hchannels⟩
  | cons place rest ih =>
      obtain ⟨hrest, hmovable⟩ := ih (movable_translateAt hchannels hnow place data)
      refine ⟨?_, hmovable⟩
      rw [translateAll, translateAt_later hchannels hnow]
      simp only [hrest, translateAll]

end Router

/-! ## The catalog -/

namespace Catalog

/-- The definition as it would be at a later time. -/
def Definition.later (shift : Time) (definition : Definition) : Definition :=
  { definition with clock := definition.clock.later shift }

/-- The catalog as it would be at a later time. -/
def later (shift : Time) (catalog : Catalog) : Catalog :=
  { catalog with definitions := catalog.definitions.map (Definition.later shift) }

/-- A catalog that does the same at a later time. -/
def Movable (shift : Time) (catalog : Catalog) : Prop :=
  ∀ definition ∈ catalog.definitions, definition.clock.Movable shift

variable {shift now : Time} {catalog : Catalog} {key : Key}

theorem find?_later (shift : Time) (catalog : Catalog) (key : Key) :
    (catalog.later shift).find? key = (catalog.find? key).map (Definition.later shift) :=
  List.find?_map

/-- A shift makes no room in a catalog. -/
theorem isFull_later (shift : Time) (catalog : Catalog) :
    (catalog.later shift).isFull = catalog.isFull := by
  simp [isFull, later]

/-- An update that is the same at a later time. -/
theorem update_later {change changed : Definition → Definition}
    (h : ∀ definition, changed (definition.later shift) = (change definition).later shift) :
    (catalog.later shift).update key changed = (catalog.update key change).later shift := by
  simp only [update, later, List.map_map]
  congr 1
  apply List.map_congr_left
  intro definition _
  show (if definition.key == key then changed (definition.later shift) else definition.later shift) =
    (if definition.key == key then change definition else definition).later shift
  rw [h]
  split <;> rfl

/-- A definition that has not ticked is the same in a shifted catalog. -/
theorem append_later {definition : Definition} (h : definition.clock.lastTick = none) :
    (catalog.later shift).append definition = (catalog.append definition).later shift := by
  have hlast : definition.later shift = definition := by
    rw [Definition.later, Clock.later_of_unticked h]
  simp [append, later, hlast]

/-- Registering a key does not depend on the time. -/
theorem register_later (shift : Time) (catalog : Catalog) (key : Key) :
    (catalog.later shift).register key =
      ((catalog.register key).1.later shift, (catalog.register key).2) := by
  have hknown : ((catalog.later shift).find? key).isSome = (catalog.find? key).isSome := by
    rw [find?_later, Option.isSome_map]
  rw [register, register, hknown, isFull_later]
  split
  · rfl
  · split
    · rfl
    · rw [append_later rfl]
      rfl

/-- A frame that is passed on at a later time takes the same steps. -/
theorem pass_later (hcatalog : catalog.Movable shift) (hnow : Time.Movable shift now) (key : Key)
    (data : Payload) :
    (catalog.later shift).pass key data (now + shift) =
      ((catalog.pass key data now).1.later shift, (catalog.pass key data now).2) := by
  rw [pass, pass, find?_later]
  cases hfound : catalog.find? key with
  | none =>
      have hupdate : ((catalog.register key).1.later shift).update key
            (fun d => { d with lastPayload := data }) =
          ((catalog.register key).1.update key fun d => { d with lastPayload := data }).later shift :=
        update_later fun _ => rfl
      simp only [Option.map_none, register_later, hupdate]
  | some definition =>
      have hclock := hcatalog definition (List.mem_of_find?_eq_some hfound)
      have hpoll : (definition.later shift).clock.poll (now + shift) = _ :=
        Clock.poll_later hclock hnow
      have hupdate : (catalog.later shift).update key (fun d =>
            { d with clock := (definition.clock.poll now).1.later shift, lastPayload := data }) =
          (catalog.update key fun d =>
            { d with clock := (definition.clock.poll now).1, lastPayload := data }).later shift :=
        update_later fun _ => rfl
      simp only [Option.map_some, hpoll, hupdate]
      rfl

/-- A change that keeps clocks movable keeps a catalog movable. -/
theorem Movable.update (hcatalog : catalog.Movable shift) {change : Definition → Definition}
    (hchange : ∀ definition, definition.clock.Movable shift → (change definition).clock.Movable shift)
    (key : Key) : (catalog.update key change).Movable shift := by
  intro definition hmember
  obtain ⟨old, hold, rfl⟩ := List.mem_map.mp hmember
  split
  · exact hchange old (hcatalog old hold)
  · exact hcatalog old hold

theorem Movable.register (hcatalog : catalog.Movable shift) (key : Key) :
    (catalog.register key).1.Movable shift := by
  unfold Catalog.register
  split
  · exact hcatalog
  · split
    · exact hcatalog
    · intro definition hmember
      rcases List.mem_append.mp hmember with hold | hnew
      · exact hcatalog definition hold
      · rw [List.mem_singleton.mp hnew]
        exact Clock.movable_of_unticked rfl

theorem Movable.pass (hcatalog : catalog.Movable shift) (hnow : Time.Movable shift now) (key : Key)
    (data : Payload) : (catalog.pass key data now).1.Movable shift := by
  unfold Catalog.pass
  split
  · have hkept : ∀ definition : Definition, definition.clock.Movable shift →
        ({ definition with lastPayload := data } : Definition).clock.Movable shift := fun _ h => h
    exact (hcatalog.register key).update hkept key
  · rename_i definition hfound
    have hclock := hcatalog definition (List.mem_of_find?_eq_some hfound)
    exact hcatalog.update (fun _ _ => hclock.poll hnow) key

end Catalog

/-! ## The router -/

namespace Router

/-- The router as it would be at a later time. -/
def later (shift : Time) (router : Router) : Router :=
  { router with
    channels := router.channels.map (Channel.later shift)
    catalog := router.catalog.later shift }

/-- A router that does the same at a later time. -/
structure Movable (shift : Time) (router : Router) : Prop where
  channels : ∀ channel ∈ router.channels, channel.Movable shift
  catalog : router.catalog.Movable shift

variable {shift now : Time} {router : Router}

/-- **A frame sees differences of times only.**  Later by the same amount as all that
is remembered, it takes the same steps. -/
theorem frame_later (h : router.Movable shift) (hnow : Time.Movable shift now) (key : Key)
    (data : Payload) :
    (router.later shift).frame key data (now + shift) =
      ((router.frame key data now).1.later shift, (router.frame key data now).2) := by
  have hindex : (router.later shift).index = router.index := rfl
  have hforwards : (router.later shift).forwards key.bus = router.forwards key.bus := rfl
  rw [frame, frame, hindex, hforwards]
  cases router.index.find? key with
  | some listed =>
      have hcycles : translateAll data (now + shift) (router.later shift).channels listed = _ :=
        (translateAll_later h.channels hnow data listed).1
      simp only [hcycles]
      rfl
  | none =>
      have hpass : (router.later shift).catalog.pass key data (now + shift) = _ :=
        Catalog.pass_later h.catalog hnow key data
      simp only [hpass]
      split <;> rfl

/-- A frame keeps a router movable. -/
theorem Movable.frame (h : router.Movable shift) (hnow : Time.Movable shift now) (key : Key)
    (data : Payload) : (router.frame key data now).1.Movable shift := by
  unfold Router.frame
  split
  · rename_i listed _
    exact ⟨(translateAll_later h.channels hnow data listed).2, h.catalog⟩
  · split
    · exact ⟨h.channels, h.catalog.pass hnow key data⟩
    · exact ⟨h.channels, h.catalog⟩

/-! ## Changes of the table -/

theorem channel?_later (shift : Time) (router : Router) (name : String) :
    (router.later shift).channel? name = (router.channel? name).map (Channel.later shift) :=
  List.find?_map

/-- What a channel is checked for does not depend on times. -/
theorem addChannel_later (shift : Time) (router : Router) (channel : Channel) :
    (router.later shift).addChannel (channel.later shift) =
      (router.addChannel channel).map (later shift) := by
  have hvalidate : (channel.later shift).validate = channel.validate := rfl
  have hname : (channel.later shift).signal.name = channel.signal.name := rfl
  have htaken : ((router.later shift).channel? channel.signal.name).isSome =
      (router.channel? channel.signal.name).isSome := by
    rw [channel?_later, Option.isSome_map]
  have hlength : (router.later shift).channels.length = router.channels.length := List.length_map ..
  rw [addChannel, addChannel, hvalidate, hname, htaken, hlength]
  cases channel.validate with
  | error fault => rfl
  | ok =>
      by_cases hfree : (router.channel? channel.signal.name).isSome = true
      · simp only [if_pos hfree]
        rfl
      · simp only [if_neg hfree]
        simp [later, bind, Except.bind, pure, Except.pure, Except.map, Channel.later, Signal.later]

/-- Setting a handler does not depend on the time. -/
theorem setHandler_later (shift : Time) (router : Router) (name : String) (handler : Handler) :
    (router.later shift).setHandler name handler =
      (router.setHandler name handler).map (later shift) := by
  rw [setHandler, setHandler, channel?_later]
  cases router.channel? name with
  | none => rfl
  | some channel =>
      have hstates : (channel.later shift).signal.states = channel.signal.states := rfl
      have hchannels : ((router.later shift).channels.map (giveHandler name handler)) =
          (router.channels.map (giveHandler name handler)).map (Channel.later shift) := by
        simp only [later, List.map_map]
        apply List.map_congr_left
        intro other _
        show giveHandler name handler (other.later shift) = (giveHandler name handler other).later shift
        have hname : (other.later shift).signal.name = other.signal.name := rfl
        rw [giveHandler, giveHandler, hname]
        split <;> rfl
      simp only [Option.map_some, hstates]
      split
      · rfl
      · show Except.ok { router.later shift with
            channels := (router.later shift).channels.map (giveHandler name handler) } = _
        rw [hchannels]
        rfl

/-- Adding a movable channel keeps a router movable. -/
theorem Movable.addChannel (h : router.Movable shift) {channel : Channel}
    (hchannel : channel.Movable shift) {extended : Router}
    (hadd : router.addChannel channel = .ok extended) : extended.Movable shift := by
  obtain ⟨-, -, rfl⟩ := addChannel_eq_ok_iff.mp hadd
  refine ⟨?_, h.catalog⟩
  intro other hmember
  rcases List.mem_append.mp hmember with hold | hnew
  · exact h.channels other hold
  · exact List.mem_singleton.mp hnew ▸ hchannel

/-- Setting a handler that ignores ticks keeps a router movable. -/
theorem Movable.setHandler (h : router.Movable shift) {name : String} {handler : Handler}
    (hhandler : handler.IgnoresTicks) {changed : Router}
    (hset : router.setHandler name handler = .ok changed) : changed.Movable shift := by
  obtain ⟨-, -, -, rfl⟩ := setHandler_eq_ok hset
  refine ⟨?_, h.catalog⟩
  intro channel hmember
  obtain ⟨old, hold, rfl⟩ := List.mem_map.mp hmember
  have hold' := h.channels old hold
  unfold giveHandler
  split
  · exact ⟨hold'.clock, hhandler⟩
  · exact hold'

end Router

end VehicleBus

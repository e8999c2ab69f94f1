import VehicleBus.Proofs.Router.Isolation
import VehicleBus.Proofs.Translator.Run
import VehicleBus.Proofs.Translator.Setup

/-!
# Keys do not interfere

Take a run of a translator and delete every frame whose key is not a given one,
but keep the clock.  What the frames of this key put out, and what is remembered
of it afterwards, is the same (`Clocked.frames_of_key_alone`).

The proof walks through both runs at once.  A kept input is taken by both sides
and does the same on both, a deleted frame is taken by one side only and does not
show.
-/

namespace VehicleBus

open Wire (Bytes)

/-- Does an input bear on a key?  The clock does, and so do the frames of the key. -/
def Input.concerns (key : Key) : Input → Bool
  | .clock _ => true
  | .frame other _ => other == key

namespace Clocked

/-! ## Output of single inputs -/

/-- The messages that an input puts out, each with its bytes.  It is these bytes that
the sink is handed (`feed_sink`). -/
def emitted (clocked : Clocked) (input : Input) : List (Message × Bytes) :=
  (clocked.asked input).filterMap fun message =>
    (clocked.translator.pipeline.format.encode message).toOption.map fun bytes => (message, bytes)

/-- What an input puts out are the encodings of the messages that it asks for. -/
theorem map_snd_emitted (clocked : Clocked) (input : Input) :
    (clocked.emitted input).map (·.2) =
      clocked.translator.pipeline.format.outputs (clocked.asked input) := by
  rw [emitted, OutputFormat.outputs_eq_filterMap, List.map_filterMap]
  congr 1
  funext message
  rw [Option.map_map]
  exact Option.map_id'

/-- The sink is handed what an input puts out, and nothing else. -/
theorem feed_sink (clocked : Clocked) (input : Input) :
    (clocked.feed input).translator.pipeline.sink =
      clocked.translator.pipeline.sink.acceptAll ((clocked.emitted input).map (·.2)) := by
  have hpipeline := clocked.step_pipeline (.input input)
  rw [map_snd_emitted]
  show (clocked.step (.input input)).translator.pipeline.sink = _
  rw [hpipeline, Pipeline.sendAll_eq]
  rfl

/-- What the frames of a key put out in the course of a run, one entry for each of
these frames: an entry is what this frame hands to the sink (`feed_sink`). -/
def emissions (key : Key) : Clocked → List Input → List (List (Message × Bytes))
  | _, [] => []
  | clocked, .clock now :: rest => emissions key (clocked.feed (.clock now)) rest
  | clocked, .frame other data :: rest =>
    if other = key then
      clocked.emitted (.frame other data) :: emissions key (clocked.feed (.frame other data)) rest
    else emissions key (clocked.feed (.frame other data)) rest

/-! ## Two runs at once -/

/-- Two translators in states that agree on a key, at the same time. -/
structure Alike (key : Key) (a b : Clocked) : Prop where
  router : Router.Alike key a.translator.router b.translator.router
  format : a.translator.pipeline.format = b.translator.pipeline.format
  now : a.now = b.now

variable {key other : Key} {a b clocked : Clocked}

theorem Alike.refl (key : Key) (clocked : Clocked) : Alike key clocked clocked :=
  ⟨Router.Alike.refl key _, rfl, rfl⟩

/-- An input does not change the format. -/
theorem feed_format (clocked : Clocked) (input : Input) :
    (clocked.feed input).translator.pipeline.format = clocked.translator.pipeline.format := by
  have hpipeline := clocked.step_pipeline (.input input)
  show (clocked.step (.input input)).translator.pipeline.format = _
  rw [hpipeline, Pipeline.sendAll_format]

theorem feed_serves (h : clocked.translator.router.Serves key) (input : Input) :
    (clocked.feed input).translator.router.Serves key := by
  cases input with
  | clock now => exact h
  | frame other data => exact h.frame other data clocked.now

/-- A deleted frame does not show. -/
theorem feed_of_ne (h : Alike key a b) (ha : a.translator.router.Serves key) (hne : key ≠ other)
    (data : Payload) : Alike key (a.feed (.frame other data)) b := by
  have hframe := Router.frame_of_ne ha.indexed hne data a.now
  refine ⟨⟨?_, ?_, ?_⟩, ?_, h.now⟩
  · exact hframe.channels.trans h.router.channels
  · exact hframe.definition.trans h.router.definition
  · exact hframe.buses.trans h.router.buses
  · rw [feed_format]
    exact h.format

/-- A frame of the key puts out the same on both sides. -/
theorem feed_alike (h : Alike key a b) (ha : a.translator.router.Serves key)
    (hb : b.translator.router.Serves key) (data : Payload) :
    a.emitted (.frame key data) = b.emitted (.frame key data) ∧
      Alike key (a.feed (.frame key data)) (b.feed (.frame key data)) := by
  obtain ⟨hsteps, hrouter⟩ := Router.frame_alike h.router ha hb data a.now
  have hasked : a.asked (.frame key data) = b.asked (.frame key data) := by
    rw [asked, asked, hsteps, h.now]
  refine ⟨?_, ⟨?_, ?_, h.now⟩⟩
  · rw [emitted, emitted, hasked, h.format]
  · rw [h.now] at hrouter
    show Router.Alike key (a.translator.router.frame key data a.now).1 _
    rw [h.now]
    exact hrouter
  · rw [feed_format, feed_format]
    exact h.format

/-- A whole run and the one that is left of it go side by side. -/
theorem feedAll_filter_concerns (h : Alike key a b) (ha : a.translator.router.Serves key)
    (hb : b.translator.router.Serves key) (inputs : List Input) :
    a.emissions key inputs = b.emissions key (inputs.filter (·.concerns key)) ∧
      Alike key (a.feedAll inputs) (b.feedAll (inputs.filter (·.concerns key))) := by
  induction inputs generalizing a b with
  | nil => exact ⟨rfl, h⟩
  | cons input rest ih =>
      cases input with
      | clock now =>
          have hclock : Alike key (a.feed (.clock now)) (b.feed (.clock now)) :=
            ⟨h.router, h.format, rfl⟩
          exact ih hclock (feed_serves ha (.clock now)) (feed_serves hb (.clock now))
      | frame other data =>
          by_cases hkey : other = key
          · subst hkey
            have hkeep : (Input.frame other data).concerns other := by simp [Input.concerns]
            obtain ⟨hemitted, hframe⟩ := feed_alike h ha hb data
            obtain ⟨hrest, hend⟩ := ih hframe (feed_serves ha _) (feed_serves hb _)
            rw [List.filter_cons, if_pos hkeep]
            refine ⟨?_, hend⟩
            rw [emissions, emissions, if_pos rfl, if_pos rfl, hemitted, hrest]
          · have hdelete : ¬ (Input.frame other data).concerns key := by
              simpa [Input.concerns] using hkey
            have hframe := feed_of_ne h ha (fun heq => hkey heq.symm) data
            obtain ⟨hrest, hend⟩ := ih hframe (feed_serves ha _) hb
            rw [List.filter_cons, if_neg hdelete]
            refine ⟨?_, hend⟩
            rw [emissions, if_neg hkey, hrest]

end Clocked

/-! ## Translators of configurations -/

/-- All channels of a configuration have built-in handlers. -/
theorem Config.Vehicle.channels_builtIn (vehicle : Config.Vehicle) :
    ∀ channel ∈ vehicle.channels, channel.handler.IsBuiltIn := by
  intro channel hmember
  simp only [channels, List.mem_flatMap, List.mem_map] at hmember
  obtain ⟨message, -, signal, -, rfl⟩ := hmember
  exact HandlerKind.handler_isBuiltIn signal.handler

/-- A configuration serves the keys of its signals and of its forwarded messages. -/
theorem Router.configured_serves {vehicle : Config.Vehicle} {key : Key}
    (hkey : (∃ channel ∈ vehicle.channels, channel.signal.key = key) ∨
      ∃ raw ∈ vehicle.rawMessages, raw.key = key) : (configured vehicle).Serves key := by
  refine ⟨configured_indexed vehicle, ?_, ?_⟩
  · rw [configured_channels]
    exact vehicle.channels_builtIn
  · rcases hkey with ⟨channel, hmember, hchannel⟩ | ⟨raw, hmember, hraw⟩
    · left
      intro hnil
      rw [channelsOf_eq_nil_iff, configured_channels] at hnil
      exact hnil channel hmember hchannel
    · right
      rw [configured_catalog, Catalog.find?_isSome_iff]
      simp only [configuredCatalog, List.map_map, List.mem_map]
      exact ⟨raw, hmember, hraw⟩

/-- **The frames of a key might as well be alone.**  For a translator that was
built from a configuration, a key that has signals or is forwarded by a definition
of its own, and any run: without the frames of all other keys, the frames of this
key put out the same messages, its signals end in the same state, and so does its
definition.  By `feed_sink` the sink is handed the bytes of these messages and no
others while the frames of the key are handled. -/
theorem Clocked.frames_of_key_alone {vehicle : Config.Vehicle} {sink : Sink} {clocked : Clocked}
    {notices : List Notice}
    (hbuilt : Translator.ofVehicle vehicle sink = .ok (clocked.translator, notices)) {key : Key}
    (hkey : (∃ channel ∈ vehicle.channels, channel.signal.key = key) ∨
      ∃ raw ∈ vehicle.rawMessages, raw.key = key) (inputs : List Input) :
    let alone := inputs.filter (·.concerns key)
    clocked.emissions key inputs = clocked.emissions key alone ∧
      (clocked.feedAll inputs).translator.router.channelsOf key =
        (clocked.feedAll alone).translator.router.channelsOf key ∧
      (clocked.feedAll inputs).translator.router.catalog.find? key =
        (clocked.feedAll alone).translator.router.catalog.find? key := by
  intro alone
  obtain ⟨-, -, hrouter, -⟩ := Translator.ofVehicle_eq_ok hbuilt
  have hserves : clocked.translator.router.Serves key := by
    rw [hrouter]
    exact Router.configured_serves hkey
  obtain ⟨hemissions, hend⟩ :=
    feedAll_filter_concerns (Alike.refl key clocked) hserves hserves inputs
  exact ⟨hemissions, hend.router.channels, hend.router.definition⟩

/-- Other frames on two buses, one of them with the same identifier and one that
finds no room: the forwarded message does not notice. -/
theorem Clocked.frames_of_key_alone_two_buses :
    let clocked : Clocked :=
      ⟨⟨Router.configured twoBuses, { format := .json, sink := .emptyBuffer }⟩, 0⟩
    let inputs : List Input := [.frame ⟨1, 0x128⟩ 5, .frame ⟨1, 1⟩ 1, .frame ⟨2, 2⟩ 1,
      .frame ⟨1, 3⟩ 1, .frame ⟨2, 0x7E8⟩ 9, .clock 7, .frame ⟨1, 0x7E8⟩ 8, .frame ⟨2, 0x7E8⟩ 9]
    let alone : List Input := [.frame ⟨2, 0x7E8⟩ 9, .clock 7, .frame ⟨2, 0x7E8⟩ 9]
    Translator.ofVehicle twoBuses .emptyBuffer = .ok (clocked.translator, [.ready 2 2 .json]) ∧
      clocked.emissions ⟨2, 0x7E8⟩ inputs = clocked.emissions ⟨2, 0x7E8⟩ alone ∧
      (clocked.feedAll inputs).translator.router.catalog.find? ⟨2, 0x7E8⟩ =
        (clocked.feedAll alone).translator.router.catalog.find? ⟨2, 0x7E8⟩ := by
  intro clocked inputs alone
  have hbuilt : Translator.ofVehicle twoBuses .emptyBuffer =
      .ok (clocked.translator, [.ready 2 2 .json]) := rfl
  have hraw : ∃ raw ∈ twoBuses.rawMessages, raw.key = ⟨2, 0x7E8⟩ :=
    ⟨{ key := ⟨2, 0x7E8⟩ }, by decide, rfl⟩
  have halone : inputs.filter (·.concerns ⟨2, 0x7E8⟩) = alone := by decide
  have h := frames_of_key_alone hbuilt (.inr hraw) inputs
  rw [halone] at h
  exact ⟨hbuilt, h.1, h.2.2⟩

end VehicleBus

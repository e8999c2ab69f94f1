import VehicleBus.Proofs.Catalog
import VehicleBus.Proofs.Router.Cycle

/-!
# Keys do not interfere at the router

What a frame of one key does depends on the channels of that key, on its
definition in the catalog and on the buses (`Router.frame_alike`), and a frame of
another key changes none of these (`Router.frame_of_ne`).

The exception is a key that nobody announced: its first frame competes for room
in the catalog.  Hence the facts about its own frames are about keys that have
signals or a definition (`Router.Serves`).
-/

namespace VehicleBus.Router

variable {router a b : Router} {key other : Key}

/-- The channels of a key, in the order of the table. -/
def channelsOf (router : Router) (key : Key) : List Channel :=
  router.channels.filter (·.signal.key == key)

/-- A key has no channels exactly if no channel has it. -/
theorem channelsOf_eq_nil_iff :
    router.channelsOf key = [] ↔ ∀ channel ∈ router.channels, channel.signal.key ≠ key := by
  simp [channelsOf, List.filter_eq_nil_iff]

/-! ## What a frame does -/

/-- A frame whose key has signals settles them. -/
theorem frame_decoded (hindexed : router.Indexed) (hsignals : router.channelsOf key ≠ [])
    (data : Payload) (now : Time) :
    router.frame key data now =
      ({ router with
          channels := router.channels.map (Channel.settleFor key data now)
          counts := { router.counts with
            processed := router.counts.processed + 1
            translated := router.counts.translated + 1 } },
        .note (.translating key) ::
          (translateAll data now router.channels (places router.channels key)).2) := by
  have hfound : router.index.find? key = some (places router.channels key) := by
    have hplaces : places router.channels key ≠ [] := by
      rw [Ne, places_eq_nil_iff, ← channelsOf_eq_nil_iff]
      exact hsignals
    rw [hindexed key, if_neg hplaces]
  simp only [frame, hfound, ← translateAll_channels]

/-- A frame whose key has none is passed on or ignored. -/
theorem frame_undecoded (hindexed : router.Indexed) (hsignals : router.channelsOf key = [])
    (data : Payload) (now : Time) :
    router.frame key data now =
      if router.forwards key.bus then
        ({ router with
            catalog := (router.catalog.pass key data now).1
            counts := { router.counts with
              processed := router.counts.processed + 1
              passedThrough := router.counts.passedThrough + 1 } },
          (router.catalog.pass key data now).2)
      else
        ({ router with
            counts := { router.counts with
              processed := router.counts.processed + 1
              ignored := router.counts.ignored + 1 } },
          [.note (.ignored key)]) := by
  have hnone : router.index.find? key = none :=
    hindexed.find?_eq_none_iff.mpr (channelsOf_eq_nil_iff.mp hsignals)
  simp only [frame, hnone]

/-- The table after any frame: the channels of its key are settled. -/
theorem frame_channels (hindexed : router.Indexed) (key : Key) (data : Payload) (now : Time) :
    (router.frame key data now).1.channels =
      router.channels.map (Channel.settleFor key data now) := by
  by_cases hsignals : router.channelsOf key = []
  · rw [frame_undecoded hindexed hsignals,
      Channel.map_settleFor_of_ne (channelsOf_eq_nil_iff.mp hsignals)]
    split <;> rfl
  · rw [frame_decoded hindexed hsignals]

/-- A frame changes neither the buses nor the index. -/
theorem frame_fixed (router : Router) (key : Key) (data : Payload) (now : Time) :
    (router.frame key data now).1.buses = router.buses ∧
      (router.frame key data now).1.index = router.index := by
  unfold frame
  split
  · exact ⟨rfl, rfl⟩
  · split <;> exact ⟨rfl, rfl⟩

/-- A frame settles the channels of its key and leaves those of other keys as they are. -/
theorem channelsOf_frame (hindexed : router.Indexed) (key other : Key) (data : Payload)
    (now : Time) :
    (router.frame other data now).1.channelsOf key =
      (router.channelsOf key).map (Channel.settleFor other data now) := by
  have hkeys : ((·.signal.key == key) ∘ Channel.settleFor other data now) =
      fun channel : Channel => channel.signal.key == key := by
    funext channel
    simp
  rw [channelsOf, frame_channels hindexed, List.filter_map, hkeys, channelsOf]

/-- The index fits the table after a frame as well. -/
theorem Indexed.frame (hindexed : router.Indexed) (key : Key) (data : Payload) (now : Time) :
    (router.frame key data now).1.Indexed := by
  intro other
  have hplaces : places (router.frame key data now).1.channels other =
      places router.channels other := by
    rw [frame_channels hindexed]
    simp [places, List.findIdxs_map, Function.comp_def]
  rw [(router.frame_fixed key data now).2, hplaces]
  exact hindexed other

/-- A frame leaves the catalog alone, or its bus forwards and it is passed on. -/
theorem catalog_frame (router : Router) (key : Key) (data : Payload) (now : Time) :
    (router.frame key data now).1.catalog = router.catalog ∨
      (router.forwards key.bus = true ∧
        (router.frame key data now).1.catalog = (router.catalog.pass key data now).1) := by
  unfold frame
  split
  · exact .inl rfl
  · split
    · rename_i hforwards
      exact .inr ⟨hforwards, rfl⟩
    · exact .inl rfl

/-- A frame does not show in the definitions of other keys. -/
theorem find?_catalog_frame_of_ne (router : Router) (hne : key ≠ other) (data : Payload)
    (now : Time) :
    (router.frame other data now).1.catalog.find? key = router.catalog.find? key := by
  rcases router.catalog_frame other data now with hcatalog | ⟨-, hcatalog⟩
  · rw [hcatalog]
  · rw [hcatalog, Catalog.find?_pass_of_ne _ hne]

/-- The steps of a decoded frame come from the channels of its key alone. -/
theorem frame_steps_of_builtIn (hindexed : router.Indexed)
    (hbuiltIn : ∀ channel ∈ router.channels, channel.handler.IsBuiltIn)
    (hsignals : router.channelsOf key ≠ []) (data : Payload) (now : Time) :
    (router.frame key data now).2 =
      .note (.translating key) ::
        (router.channelsOf key).flatMap fun channel => channel.steps [] data now := by
  rw [frame_decoded hindexed hsignals, translateAll_steps hbuiltIn]
  rfl

/-- A frame of a key with a definition and no signals: what becomes of the
definition, and the steps. -/
theorem frame_of_definition (hindexed : router.Indexed) (hsignals : router.channelsOf key = [])
    {definition : Catalog.Definition} (hfound : router.catalog.find? key = some definition)
    (data : Payload) (now : Time) :
    (router.frame key data now).1.catalog.find? key =
        some (if router.forwards key.bus then
          { definition with clock := (definition.clock.poll now).1, lastPayload := data }
        else definition) ∧
      (router.frame key data now).2 =
        if router.forwards key.bus then
          [Catalog.forward key data ((definition.clock.poll now).2 ||
            (data != definition.lastPayload && definition.forceChanged))]
        else [.note (.ignored key)] := by
  rw [frame_undecoded hindexed hsignals]
  by_cases hforwards : router.forwards key.bus
  · simp only [if_pos hforwards]
    exact Catalog.pass_of_find? hfound data now
  · simp only [if_neg hforwards]
    exact ⟨hfound, trivial⟩

/-! ## Keys that are served -/

/-- A router with built-in handlers that knows a key, by signals or by a definition. -/
structure Serves (router : Router) (key : Key) : Prop where
  indexed : router.Indexed
  builtIn : ∀ channel ∈ router.channels, channel.handler.IsBuiltIn
  known : router.channelsOf key ≠ [] ∨ (router.catalog.find? key).isSome

/-- Two routers that do not differ in anything that bears on a key. -/
structure Alike (key : Key) (a b : Router) : Prop where
  channels : a.channelsOf key = b.channelsOf key
  definition : a.catalog.find? key = b.catalog.find? key
  buses : a.buses = b.buses

theorem Alike.refl (key : Key) (router : Router) : Alike key router router := ⟨rfl, rfl, rfl⟩

/-- The definition of a served key, if it has no signals. -/
theorem Serves.definition (h : router.Serves key) (hsignals : router.channelsOf key = []) :
    ∃ definition, router.catalog.find? key = some definition := by
  rcases h.known with hchannels | hdefinition
  · exact absurd hsignals hchannels
  · exact Option.isSome_iff_exists.mp hdefinition

/-- A key that is served stays served, whatever frame comes. -/
theorem Serves.frame (h : router.Serves key) (other : Key) (data : Payload) (now : Time) :
    (router.frame other data now).1.Serves key := by
  refine ⟨h.indexed.frame other data now, ?_, ?_⟩
  · intro channel hmember
    rw [frame_channels h.indexed] at hmember
    obtain ⟨old, hold, rfl⟩ := List.mem_map.mp hmember
    rw [Channel.settleFor_handler]
    exact h.builtIn old hold
  · by_cases hsignals : router.channelsOf key = []
    · right
      obtain ⟨definition, hfound⟩ := h.definition hsignals
      by_cases hkey : key = other
      · subst hkey
        rw [(frame_of_definition h.indexed hsignals hfound data now).1]
        rfl
      · rw [router.find?_catalog_frame_of_ne hkey, hfound]
        rfl
    · left
      rw [channelsOf_frame h.indexed]
      simpa using hsignals

/-- **A frame of another key does not show.** -/
theorem frame_of_ne (hindexed : router.Indexed) (hne : key ≠ other) (data : Payload) (now : Time) :
    Alike key (router.frame other data now).1 router := by
  refine ⟨?_, router.find?_catalog_frame_of_ne hne data now, (router.frame_fixed other data now).1⟩
  rw [channelsOf_frame hindexed]
  apply Channel.map_settleFor_of_ne
  intro channel hmember
  have hkey : channel.signal.key = key := by simpa using (List.mem_filter.mp hmember).2
  rw [hkey]
  exact hne

/-- **A frame does what its key tells.**  Routers alike under a served key take the
same steps for a frame of it, and stay alike. -/
theorem frame_alike (h : Alike key a b) (ha : a.Serves key) (hb : b.Serves key) (data : Payload)
    (now : Time) :
    (a.frame key data now).2 = (b.frame key data now).2 ∧
      Alike key (a.frame key data now).1 (b.frame key data now).1 := by
  have hchannels : (a.frame key data now).1.channelsOf key =
      (b.frame key data now).1.channelsOf key := by
    rw [channelsOf_frame ha.indexed, channelsOf_frame hb.indexed, h.channels]
  have hbuses : (a.frame key data now).1.buses = (b.frame key data now).1.buses := by
    rw [(a.frame_fixed key data now).1, (b.frame_fixed key data now).1, h.buses]
  by_cases hsignals : a.channelsOf key = []
  · -- Without signals the definition decides, and it is there in both.
    have hsignals' : b.channelsOf key = [] := h.channels ▸ hsignals
    obtain ⟨definition, hfound⟩ := ha.definition hsignals
    have hfound' : b.catalog.find? key = some definition := h.definition ▸ hfound
    have hforwards : a.forwards key.bus = b.forwards key.bus := by
      rw [forwards, forwards, h.buses]
    obtain ⟨hdefinition, hsteps⟩ := frame_of_definition ha.indexed hsignals hfound data now
    obtain ⟨hdefinition', hsteps'⟩ := frame_of_definition hb.indexed hsignals' hfound' data now
    rw [hforwards] at hdefinition hsteps
    exact ⟨hsteps.trans hsteps'.symm, hchannels, hdefinition.trans hdefinition'.symm, hbuses⟩
  · have hsignals' : b.channelsOf key ≠ [] := h.channels ▸ hsignals
    refine ⟨?_, hchannels, ?_, hbuses⟩
    · rw [frame_steps_of_builtIn ha.indexed ha.builtIn hsignals,
        frame_steps_of_builtIn hb.indexed hb.builtIn hsignals', h.channels]
    · rw [frame_decoded ha.indexed hsignals, frame_decoded hb.indexed hsignals']
      exact h.definition

end VehicleBus.Router

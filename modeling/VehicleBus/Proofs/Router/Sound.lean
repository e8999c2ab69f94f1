import Mathlib.Data.List.Nodup
import VehicleBus.Proofs.Router.Isolation
import VehicleBus.Proofs.Sampling.Clock
import VehicleBus.Proofs.Signal.Channel

/-!
# Sound routers

A router keeps four structures that have to fit each other: the signal table, the
index of its keys, the handlers in the table and the buses.  `Router.Sound` says how
they fit.  A router without signals and buses is sound, and nothing that can be done
to a router changes that (`Sound.addBus`, `Sound.addChannel`, `Sound.setHandler`,
`Sound.frame`).

A frame touches a channel only by settling it, and settling changes nothing that the
four structures depend on.
-/

namespace VehicleBus

/-! ## Channels -/

namespace Channel

@[simp] theorem settleFor_name (key : Key) (data : Payload) (now : Time) (channel : Channel) :
    (channel.settleFor key data now).signal.name = channel.signal.name := by
  unfold settleFor
  split <;> rfl

/-- Settling keeps a channel valid. -/
theorem Valid.settle {channel : Channel} (h : channel.Valid) (data : Payload) (now : Time) :
    (channel.settle data now).Valid where
  name := h.name
  named := h.named
  size := h.size
  inPayload := h.inPayload
  factor := h.factor
  offset := h.offset
  frequency := by
    show Sampling.Clock.validFrequency (channel.signal.clock.poll now).1.frequency = true
    rw [Sampling.Clock.poll_frequency]
    exact h.frequency
  states := h.states
  stateNames := h.stateNames

theorem Valid.settleFor {channel : Channel} (h : channel.Valid) (key : Key) (data : Payload)
    (now : Time) : (channel.settleFor key data now).Valid := by
  unfold Channel.settleFor
  split
  · exact h.settle data now
  · exact h

end Channel

/-! ## The index -/

/-- The places of a key are those of its channels. -/
theorem mem_places_iff {channels : List Channel} {key : Key} {place : Nat} :
    place ∈ places channels key ↔
      ∃ channel, channels[place]? = some channel ∧ channel.signal.key = key := by
  rw [places, List.mem_findIdxs_iff_exists_getElem_pos]
  constructor
  · rintro ⟨hplace, hkey⟩
    exact ⟨channels[place], List.getElem?_eq_getElem hplace, eq_of_beq hkey⟩
  · rintro ⟨channel, hchannel, rfl⟩
    obtain ⟨hplace, rfl⟩ := List.getElem?_eq_some_iff.mp hchannel
    exact ⟨hplace, beq_self_eq_true _⟩

/-- The places of a key are listed once, in increasing order. -/
theorem places_pairwise (channels : List Channel) (key : Key) :
    (places channels key).Pairwise (· < ·) := List.pairwise_findIdxs

namespace Router

/-- What the index of a router lists for a key are the places of its channels. -/
theorem Indexed.find?_eq_some {router : Router} (h : router.Indexed) {key : Key}
    {listed : List Nat} (hfound : router.index.find? key = some listed) :
    listed = places router.channels key := by
  rw [h key] at hfound
  split at hfound
  · cases hfound
  · exact (Option.some.inj hfound).symm

/-! ## Buses -/

/-- The bus that was announced last under an address. -/
def lastBus? (address : UInt8) (announced : List Config.Bus) : Option Config.Bus :=
  (announced.filter (·.address == address)).getLast?

/-- The latest announcement of a bus counts. -/
theorem lastBus?_append_singleton (address : UInt8) (announced : List Config.Bus)
    (bus : Config.Bus) :
    lastBus? address (announced ++ [bus]) =
      if bus.address = address then some bus else lastBus? address announced := by
  by_cases h : bus.address = address
  · simp [lastBus?, h]
  · simp [lastBus?, h]

/-- The bus with an address. -/
def bus? (router : Router) (address : UInt8) : Option Config.Bus :=
  router.buses.find? (·.address == address)

/-- A bus that is found has the address that was looked for. -/
theorem bus?_address {router : Router} {address : UInt8} {bus : Config.Bus}
    (h : router.bus? address = some bus) : bus.address = address := by
  have hfound := List.find?_some h
  exact eq_of_beq hfound

/-- An added bus stands under its address, and the others stay. -/
theorem bus?_addBus (router : Router) (bus : Config.Bus) (address : UInt8) :
    (router.addBus bus).bus? address =
      if bus.address = address then some bus else router.bus? address := by
  have hfixed : ((·.address == address) ∘ fun other : Config.Bus =>
      if other.address == bus.address then bus else other) = (·.address == address) := by
    funext other
    by_cases h : other.address = bus.address <;> simp [h]
  unfold addBus bus?
  by_cases hany : router.buses.any (·.address == bus.address)
  · simp only [if_pos hany, List.find?_map, hfixed]
    cases hfound : router.buses.find? (·.address == address) with
    | none =>
        have hne : ¬ bus.address = address := by
          rintro rfl
          obtain ⟨other, hmember, haddress⟩ := List.any_eq_true.mp hany
          exact List.find?_eq_none.mp hfound other hmember haddress
        rw [if_neg hne]
        rfl
    | some other =>
        have haddress : other.address = address := by simpa using List.find?_some hfound
        by_cases h : bus.address = address
        · simp [haddress, h]
        · have hother : ¬ address = bus.address := fun heq => h heq.symm
          simp [haddress, h, hother]
  · simp only [if_neg hany, List.find?_append]
    by_cases h : bus.address = address
    · have hnone : router.buses.find? (·.address == address) = none := by
        rw [List.find?_eq_none]
        intro other hmember haddress
        exact hany (List.any_eq_true.mpr ⟨other, hmember, h ▸ haddress⟩)
      simp [hnone, h]
    · simp [h]

/-- Buses that have addresses of their own forward what the bus of the address
forwards. -/
theorem forwards_eq {router : Router} (haddresses : (router.buses.map (·.address)).Nodup)
    (address : UInt8) :
    router.forwards address = true ↔
      ∃ bus, router.bus? address = some bus ∧ bus.rawPassthrough = true := by
  rw [forwards, List.any_eq_true]
  constructor
  · rintro ⟨bus, hmember, hbus⟩
    rw [Bool.and_eq_true, beq_iff_eq] at hbus
    obtain ⟨rfl, hraw⟩ := hbus
    exact ⟨bus, find?_label_of_nodup haddresses hmember, hraw⟩
  · rintro ⟨bus, hfound, hraw⟩
    refine ⟨bus, List.mem_of_find?_eq_some hfound, ?_⟩
    rw [Bool.and_eq_true, beq_iff_eq]
    exact ⟨bus?_address hfound, hraw⟩

/-! ## Single changes -/

/-- A channel is added if it is valid and its name is new. -/
theorem addChannel_eq_ok_iff {router extended : Router} {channel : Channel} :
    router.addChannel channel = .ok extended ↔
      channel.Valid ∧ channel.signal.name ∉ router.channels.map (·.signal.name) ∧
        extended = router.withChannel channel := by
  constructor
  · intro hadd
    have hvalid : channel.validate = .ok () := by
      cases hvalidate : channel.validate with
      | ok => rfl
      | error fault =>
          rw [addChannel, hvalidate] at hadd
          cases hadd
    have hname : channel.signal.name ∉ router.channels.map (·.signal.name) := by
      intro htaken
      have hfound : (router.channel? channel.signal.name).isSome := by
        simpa [channel?] using htaken
      have hfault : router.addChannel channel =
          .error (.signal (.nameUsedTwice channel.signal.name)) := by
        rw [addChannel, hvalid]
        exact if_pos hfound
      rw [hfault] at hadd
      cases hadd
    rw [addChannel_of_valid (Channel.validate_eq_ok_iff.mp hvalid) hname] at hadd
    cases hadd
    exact ⟨Channel.validate_eq_ok_iff_valid.mp hvalid, hname, rfl⟩
  · rintro ⟨hvalid, hname, rfl⟩
    exact addChannel_of_valid (Channel.faults_eq_nil_iff.mpr hvalid) hname

/-- Give a channel another handler if it has a given name. -/
def giveHandler (name : String) (handler : Handler) (channel : Channel) : Channel :=
  if channel.signal.name == name then { channel with handler } else channel

@[simp] theorem giveHandler_signal (name : String) (handler : Handler) (channel : Channel) :
    (giveHandler name handler channel).signal = channel.signal := by
  unfold giveHandler
  split <;> rfl

/-- A channel that is found has the name that was looked for. -/
theorem channel?_name {router : Router} {name : String} {channel : Channel}
    (h : router.channel? name = some channel) : channel.signal.name = name := by
  have hfound := List.find?_some h
  exact eq_of_beq hfound

/-- A handler is given to a channel that is there and has what the handler needs. -/
theorem setHandler_eq_ok {router changed : Router} {name : String} {handler : Handler}
    (hset : router.setHandler name handler = .ok changed) :
    ∃ channel, router.channel? name = some channel ∧
      (handler.isState = true → channel.signal.states ≠ []) ∧
      changed = { router with channels := router.channels.map (giveHandler name handler) } := by
  unfold setHandler at hset
  cases hfound : router.channel? name with
  | none =>
      rw [hfound] at hset
      cases hset
  | some channel =>
      rw [hfound] at hset
      by_cases hstates : handler.isState && channel.signal.states.isEmpty
      · simp only [if_pos hstates] at hset
        cases hset
      · simp only [if_neg hstates] at hset
        cases hset
        refine ⟨channel, rfl, ?_, rfl⟩
        intro hstate
        simpa [hstate] using hstates

/-! ## Sound routers -/

/-- The parts of a router fit each other. -/
structure Sound (router : Router) : Prop where
  /-- The index lists the places of each key. -/
  indexed : router.Indexed
  names : (router.channels.map (·.signal.name)).Nodup
  valid : ∀ channel ∈ router.channels, channel.Valid
  addresses : (router.buses.map (·.address)).Nodup

variable {router : Router}

/-- Changing rows of the table keeps the router sound, as long as keys and names stay
and the rows stay valid. -/
theorem Sound.mapChannels (h : router.Sound) {change : Channel → Channel}
    (hkey : ∀ channel, (change channel).signal.key = channel.signal.key)
    (hname : ∀ channel, (change channel).signal.name = channel.signal.name)
    (hvalid : ∀ channel ∈ router.channels, (change channel).Valid) :
    Sound { router with channels := router.channels.map change } where
  indexed := by
    intro key
    have hplaces : places (router.channels.map change) key = places router.channels key := by
      simp [places, List.findIdxs_map, Function.comp_def, hkey]
    rw [hplaces]
    exact h.indexed key
  names := by
    have hsame : ((·.signal.name) ∘ change) = fun channel : Channel => channel.signal.name :=
      funext hname
    rw [List.map_map, hsame]
    exact h.names
  valid := by
    intro channel hmember
    obtain ⟨old, hold, rfl⟩ := List.mem_map.mp hmember
    exact hvalid old hold
  addresses := h.addresses

/-- Without channels and buses, a router is sound. -/
theorem sound_of_empty (hchannels : router.channels = []) (hindex : router.index = [])
    (hbuses : router.buses = []) : router.Sound where
  indexed := indexed_of_no_channels hchannels hindex
  names := by simp [hchannels]
  valid := by simp [hchannels]
  addresses := by simp [hbuses]

theorem Sound.addBus (h : router.Sound) (bus : Config.Bus) : (router.addBus bus).Sound where
  indexed := h.indexed
  names := h.names
  valid := h.valid
  addresses := by
    unfold Router.addBus
    by_cases hany : router.buses.any (·.address == bus.address)
    · have hsame : ((·.address) ∘ fun other : Config.Bus =>
          if other.address == bus.address then bus else other) = (·.address) := by
        funext other
        by_cases haddress : other.address = bus.address <;> simp [haddress]
      simp only [if_pos hany, List.map_map, hsame]
      exact h.addresses
    · have hnew : bus.address ∉ router.buses.map (·.address) := by
        intro htaken
        obtain ⟨other, hmember, haddress⟩ := List.mem_map.mp htaken
        exact hany (List.any_eq_true.mpr ⟨other, hmember, beq_iff_eq.mpr haddress⟩)
      simp only [if_neg hany, List.map_append, List.map_singleton]
      rw [← List.concat_eq_append]
      exact h.addresses.concat hnew

theorem Sound.addChannel (h : router.Sound) {channel : Channel} {extended : Router}
    (hadd : router.addChannel channel = .ok extended) : extended.Sound := by
  obtain ⟨hvalid, hname, rfl⟩ := addChannel_eq_ok_iff.mp hadd
  refine ⟨h.indexed.withChannel channel, ?_, ?_, h.addresses⟩
  · show ((router.channels ++ [channel]).map (·.signal.name)).Nodup
    rw [List.map_append, List.map_singleton, ← List.concat_eq_append]
    exact h.names.concat hname
  · intro other hmember
    rcases List.mem_append.mp hmember with hold | hnew
    · exact h.valid other hold
    · exact List.mem_singleton.mp hnew ▸ hvalid

theorem Sound.setHandler (h : router.Sound) {name : String} {handler : Handler} {changed : Router}
    (hset : router.setHandler name handler = .ok changed) : changed.Sound := by
  obtain ⟨found, hfound, hstates, rfl⟩ := setHandler_eq_ok hset
  refine h.mapChannels (by simp) (by simp) ?_
  intro channel hmember
  unfold giveHandler
  split
  · rename_i hname
    -- Names are unique, so this is the channel whose states were looked at.
    have hsame : channel = found :=
      List.inj_on_of_nodup_map h.names hmember (List.mem_of_find?_eq_some hfound)
        ((eq_of_beq hname).trans (channel?_name hfound).symm)
    exact (h.valid channel hmember).withHandler (hsame ▸ hstates)
  · exact h.valid channel hmember

/-- A frame keeps a router sound. -/
theorem Sound.frame (h : router.Sound) (key : Key) (data : Payload) (now : Time) :
    (router.frame key data now).1.Sound := by
  have hvalid : ∀ channel ∈ router.channels, (Channel.settleFor key data now channel).Valid :=
    fun channel hmember => (h.valid channel hmember).settleFor key data now
  have hsettled := h.mapChannels (by simp) (by simp) hvalid
  have hchannels := frame_channels h.indexed key data now
  obtain ⟨hbuses, -⟩ := router.frame_fixed key data now
  refine ⟨h.indexed.frame key data now, ?_, ?_, ?_⟩
  · rw [hchannels]
    exact hsettled.names
  · rw [hchannels]
    exact hsettled.valid
  · rw [hbuses]
    exact h.addresses

end Router

end VehicleBus

import Mathlib.Data.List.Basic
import VehicleBus.Router
import VehicleBus.Proofs.Config.Check
import VehicleBus.Proofs.Labels

/-!
# The signal table and its index

The index of a router lists, for each key, exactly the places of its signals in
increasing order (`Router.Indexed`).  Adding a channel keeps it that way, and a
row of channels that are valid and have names of their own is added as a whole
(`Router.foldlM_addChannel`).
-/

namespace VehicleBus

/-! ## The index -/

namespace SignalIndex

/-- An added place stands behind the others of its key; other keys do not see it. -/
theorem find?_insert (index : SignalIndex) (key other : Key) (place : Nat) :
    (index.insert key place).find? other =
      if other = key then some ((index.find? key).getD [] ++ [place]) else index.find? other := by
  simp only [find?]
  induction index with
  | nil =>
      by_cases h : other = key
      · simp [insert, h]
      · have hother : (other == key) = false := by simpa using h
        simp [insert, List.lookup_cons, h, hother]
  | cons entry rest ih =>
      obtain ⟨listed, places⟩ := entry
      by_cases hlisted : listed = key
      · by_cases h : other = key
        · simp [insert, hlisted, h]
        · have hother : (other == key) = false := by simpa using h
          simp [insert, List.lookup_cons, hlisted, h, hother]
      · have hkey : (key == listed) = false := by simpa using fun h => hlisted h.symm
        by_cases h : other = listed
        · simp [insert, hlisted, h]
        · have hother : (other == listed) = false := by simpa using h
          simp only [insert, if_neg hlisted, List.lookup_cons, hother, hkey]
          exact ih

end SignalIndex

/-- The places of the channels of a key, in increasing order. -/
def places (channels : List Channel) (key : Key) : List Nat :=
  channels.findIdxs (·.signal.key == key)

/-- One channel more takes the last place, which belongs to its key. -/
theorem places_append_singleton (channels : List Channel) (channel : Channel) (key : Key) :
    places (channels ++ [channel]) key =
      if key = channel.signal.key then places channels key ++ [channels.length]
      else places channels key := by
  by_cases h : key = channel.signal.key
  · simp [places, List.findIdxs_append, h]
  · have hne : (channel.signal.key == key) = false := by simpa using fun heq => h heq.symm
    simp [places, List.findIdxs_append, h, hne]

/-- A key has places when some channel has that key. -/
theorem places_eq_nil_iff {channels : List Channel} {key : Key} :
    places channels key = [] ↔ ∀ channel ∈ channels, channel.signal.key ≠ key := by
  simp [places, List.findIdxs_eq_nil_iff]

namespace Router

/-- The index lists the places of every key that has signals. -/
def Indexed (router : Router) : Prop :=
  ∀ key, router.index.find? key =
    if places router.channels key = [] then none else some (places router.channels key)

/-- The index has no entry for a key exactly if no channel has this key. -/
theorem Indexed.find?_eq_none_iff {router : Router} (h : router.Indexed) {key : Key} :
    router.index.find? key = none ↔ ∀ channel ∈ router.channels, channel.signal.key ≠ key := by
  rw [h key, ← places_eq_nil_iff]
  by_cases hnil : places router.channels key = [] <;> simp [hnil]

/-- A router without channels is indexed by an empty index. -/
theorem indexed_of_no_channels {router : Router} (hchannels : router.channels = [])
    (hindex : router.index = []) : router.Indexed := by
  intro key
  rw [hchannels, hindex]
  rfl

/-! ## Adding channels -/

/-- The router with a channel at the end of its table. -/
def withChannel (router : Router) (channel : Channel) : Router :=
  { router with
    channels := router.channels ++ [channel]
    index := router.index.insert channel.signal.key router.channels.length }

/-- A new channel is put into the index. -/
theorem Indexed.withChannel {router : Router} (h : router.Indexed) (channel : Channel) :
    (router.withChannel channel).Indexed := by
  intro key
  show (router.index.insert channel.signal.key router.channels.length).find? key =
    if places (router.channels ++ [channel]) key = [] then none
    else some (places (router.channels ++ [channel]) key)
  rw [SignalIndex.find?_insert, places_append_singleton]
  by_cases hkey : key = channel.signal.key
  · rw [if_pos hkey, if_pos hkey, if_neg (by simp), ← hkey, h key]
    by_cases hnil : places router.channels key = [] <;> simp [hnil]
  · rw [if_neg hkey, if_neg hkey, h key]

/-- A valid channel whose name is new is added. -/
theorem addChannel_of_valid {router : Router} {channel : Channel} (hvalid : channel.faults = [])
    (hname : channel.signal.name ∉ router.channels.map (·.signal.name)) :
    router.addChannel channel = .ok (router.withChannel channel) := by
  have hfree : ¬ (router.channel? channel.signal.name).isSome := by
    simpa [channel?] using hname
  rw [addChannel, Channel.validate_eq_ok_iff.mpr hvalid]
  show (if _ then _ else _) = _
  rw [if_neg hfree]
  rfl

/-- **A table is built as a whole.**  Valid channels with names of their own are
all added, in order. -/
theorem foldlM_addChannel {channels : List Channel} {router : Router}
    (hvalid : ∀ channel ∈ channels, channel.faults = [])
    (hnames : ((router.channels ++ channels).map (·.signal.name)).Nodup) :
    channels.foldlM addChannel router = .ok (channels.foldl withChannel router) := by
  induction channels generalizing router with
  | nil => rfl
  | cons channel rest ih =>
      have hname : channel.signal.name ∉ router.channels.map (·.signal.name) :=
        label_notMem_of_nodup hnames
      have hadd := addChannel_of_valid (hvalid channel List.mem_cons_self) hname
      have hrest : (((router.withChannel channel).channels ++ rest).map (·.signal.name)).Nodup := by
        simpa [withChannel] using hnames
      rw [List.foldlM_cons, hadd]
      exact ih (fun other hother => hvalid other (List.mem_cons_of_mem _ hother)) hrest

/-- Adding channels changes the table and its index, and keeps them in step. -/
theorem foldl_withChannel (channels : List Channel) (router : Router) :
    (channels.foldl withChannel router).channels = router.channels ++ channels ∧
      (channels.foldl withChannel router).buses = router.buses ∧
      (channels.foldl withChannel router).catalog = router.catalog ∧
      (channels.foldl withChannel router).counts = router.counts ∧
      (router.Indexed → (channels.foldl withChannel router).Indexed) := by
  induction channels generalizing router with
  | nil => simp
  | cons channel rest ih =>
      obtain ⟨hchannels, hbuses, hcatalog, hcounts, hindexed⟩ := ih (router.withChannel channel)
      refine ⟨?_, hbuses, hcatalog, hcounts, fun h => hindexed (h.withChannel channel)⟩
      show (rest.foldl Router.withChannel (router.withChannel channel)).channels = _
      rw [hchannels]
      simp [withChannel]

end Router

end VehicleBus

import VehicleBus.Config
import VehicleBus.Proofs.Catalog.Admission
import VehicleBus.Proofs.Router.Call
import VehicleBus.Proofs.Sampling.Clock

/-!
# Which frames are forwarded

A frame finds its key known, finds room for it, or is refused.  In the first case it is
forwarded if the clock of its definition is due, or if its payload is a change that is
to be forced; in the second it is forwarded; in the third it is not.

What a definition remembers is a matter of the frames of its key: the payload is that of
the latest one, and a definition that has seen no frame is as it was configured
(`Catalog.Remembers`).  So the rule can be told by the run alone
(`Catalog.ForwardsByRule`).

The clock of a key is polled by every frame of the key but the one that puts the key into
the catalog.  Unless changes are forced, what is forwarded after that frame are the ticks of
the clock (`Catalog.forwarded_of_find?`), and these keep their distance
(`Catalog.KeepsDistance`).
-/

namespace VehicleBus

open Sampling (Clock)

namespace Catalog

/-! ## Frames in a row -/

/-- A frame as the catalog is shown it. -/
structure Sighting where
  key : Key
  data : Payload
  now : Time

/-- The catalog after a frame. -/
def see (catalog : Catalog) (frame : Sighting) : Catalog :=
  (catalog.pass frame.key frame.data frame.now).1

/-- The catalog after a row of frames. -/
def seeAll (catalog : Catalog) (frames : List Sighting) : Catalog := frames.foldl see catalog

/-- The messages that come of a frame. -/
def sends (catalog : Catalog) (frame : Sighting) : List Message :=
  Step.messages (catalog.pass frame.key frame.data frame.now).2

/-- Is a frame forwarded? -/
def forwards (catalog : Catalog) (frame : Sighting) : Bool := !(catalog.sends frame).isEmpty

/-- The payload of the latest frame of a key, zero if there is none. -/
def lastSeen (key : Key) (frames : List Sighting) : Payload :=
  ((frames.filter (·.key == key)).getLast?.map (·.data)).getD 0

/-- The definition of a key, or the one that it would be given. -/
def admitted (catalog : Catalog) (key : Key) : Definition :=
  (catalog.find? key).getD { key, clock := .ofFrequency catalog.defaultFrequency }

/-- A new catalog with the definitions of some messages, as far as it takes them. -/
def stocked (capacity : Nat) (frequency : Binary32) (messages : List Config.RawMessageDef) : Catalog :=
  serveAll { capacity, defaultFrequency := frequency } (messages.map (.preload ·.definition))

theorem seeAll_append (catalog : Catalog) (front back : List Sighting) :
    catalog.seeAll (front ++ back) = (catalog.seeAll front).seeAll back := List.foldl_append

/-! ## One frame -/

variable {catalog : Catalog} {frame : Sighting} {definition : Definition}

/-- A frame is forwarded if the catalog sends a message for it. -/
theorem forwards_of_sends {message : Message} {send : Bool}
    (h : catalog.sends frame = if send then [message] else []) : catalog.forwards frame = send := by
  rw [forwards, h]
  cases send <;> rfl

/-- What comes of a frame of a known key. -/
theorem sends_of_find? (h : catalog.find? frame.key = some definition) :
    catalog.sends frame =
      if definition.clock.due frame.now ||
        (frame.data != definition.lastPayload && definition.forceChanged)
      then [.raw frame.key frame.data] else [] := by
  rw [sends, (pass_of_find? h frame.data frame.now).2, messages_forward, Clock.poll_snd]

/-- What comes of a frame of a new key. -/
theorem sends_of_notMem (h : frame.key ∉ catalog.keys) :
    catalog.sends frame =
      if (catalog.register frame.key).2.1 then [.raw frame.key frame.data] else [] := by
  simp only [sends, pass, find?_eq_none_iff.mpr h, List.cons_append, Step.messages_note_cons,
    Step.messages_append, Step.messages_map_note, List.nil_append, messages_forward]

/-- A frame that is forwarded is forwarded as it is, and once. -/
theorem sends_eq (catalog : Catalog) (frame : Sighting) :
    catalog.sends frame =
      if catalog.forwards frame then [.raw frame.key frame.data] else [] := by
  by_cases hknown : frame.key ∈ catalog.keys
  · obtain ⟨definition, hfound⟩ := exists_find?_of_mem hknown
    have hsends := sends_of_find? hfound
    rw [forwards_of_sends hsends, hsends]
  · have hsends := sends_of_notMem hknown
    rw [forwards_of_sends hsends, hsends]

/-- A frame of a known key goes by the clock and the payload. -/
theorem forwards_of_find? (h : catalog.find? frame.key = some definition) :
    catalog.forwards frame = (definition.clock.due frame.now ||
      (frame.data != definition.lastPayload && definition.forceChanged)) :=
  forwards_of_sends (sends_of_find? h)

/-- A frame of a new key goes by the room that there is. -/
theorem forwards_of_notMem (h : frame.key ∉ catalog.keys) :
    catalog.forwards frame = decide (catalog.keys.length < catalog.capacity) := by
  rw [forwards_of_sends (sends_of_notMem h)]
  rcases Nat.lt_or_ge catalog.keys.length catalog.capacity with hroom | hfull
  · rw [register_of_new h hroom, decide_eq_true hroom]
  · rw [register_of_full h hfull, decide_eq_false (Nat.not_lt.mpr hfull)]

theorem keys_see (catalog : Catalog) (frame : Sighting) :
    (catalog.see frame).keys = enroll catalog.capacity catalog.keys frame.key :=
  catalog.keys_pass frame.key frame.data frame.now

theorem capacity_see (catalog : Catalog) (frame : Sighting) :
    (catalog.see frame).capacity = catalog.capacity :=
  (catalog.serve_counts (.pass frame.key frame.data frame.now)).1

/-- A known key: the clock is polled and the payload kept. -/
theorem find?_see_of_find? (h : catalog.find? frame.key = some definition) :
    (catalog.see frame).find? frame.key = some { definition with
      clock := (definition.clock.poll frame.now).1
      lastPayload := frame.data } :=
  (pass_of_find? h frame.data frame.now).1

theorem find?_see_of_ne {key : Key} (hne : key ≠ frame.key) :
    (catalog.see frame).find? key = catalog.find? key :=
  catalog.find?_pass_of_ne hne frame.data frame.now

/-- A new key that there is room for: its clock has not been polled. -/
theorem see_of_room (hnew : frame.key ∉ catalog.keys)
    (hroom : catalog.keys.length < catalog.capacity) :
    catalog.see frame = catalog.append {
      key := frame.key
      clock := .ofFrequency catalog.defaultFrequency
      lastPayload := frame.data } := by
  rw [see, pass_of_notMem hnew, register_of_new hnew hroom]
  have hothers := update_of_notMem hnew fun d => { d with lastPayload := frame.data }
  rw [update] at hothers
  simp only [update, append, List.map_append, List.map_cons, List.map_nil, beq_self_eq_true, if_true,
    Catalog.mk.injEq, and_self, and_true, List.append_left_inj]
  exact congrArg Catalog.definitions hothers

/-- Its definition is found afterwards. -/
theorem find?_see_of_room (hnew : frame.key ∉ catalog.keys)
    (hroom : catalog.keys.length < catalog.capacity) :
    (catalog.see frame).find? frame.key = some {
      key := frame.key
      clock := .ofFrequency catalog.defaultFrequency
      lastPayload := frame.data } := by
  have hnone : catalog.definitions.find? (·.key == frame.key) = none := find?_eq_none_iff.mpr hnew
  rw [see_of_room hnew hroom, find?, append, List.find?_append, hnone]
  simp

/-- A new key that there is no room for leaves no trace but in the count of refusals. -/
theorem see_of_full (hnew : frame.key ∉ catalog.keys)
    (hfull : catalog.capacity ≤ catalog.keys.length) :
    catalog.see frame = { catalog with refusals := catalog.refusals + 1 } := by
  have hkeys : frame.key ∉ keys { catalog with refusals := catalog.refusals + 1 } := hnew
  rw [see, pass_of_notMem hnew, register_of_full hnew hfull, update_of_notMem hkeys]

/-- After a frame its key has no definition, or one that keeps the payload. -/
theorem lastPayload_of_see (h : (catalog.see frame).find? frame.key = some definition) :
    definition.lastPayload = frame.data := by
  obtain hknown | ⟨hnew, hroom⟩ | ⟨hnew, hfull⟩ := catalog.mem_or_room_or_full frame.key
  · obtain ⟨earlier, hfound⟩ := exists_find?_of_mem hknown
    rw [find?_see_of_find? hfound] at h
    cases h
    rfl
  · rw [find?_see_of_room hnew hroom] at h
    cases h
    rfl
  · have hnone : catalog.find? frame.key = none := find?_eq_none_iff.mpr hnew
    rw [see_of_full hnew hfull] at h
    cases hnone.symm.trans h

theorem defaultFrequency_see (catalog : Catalog) (frame : Sighting) :
    (catalog.see frame).defaultFrequency = catalog.defaultFrequency := by
  obtain hknown | ⟨hnew, hroom⟩ | ⟨hnew, hfull⟩ := catalog.mem_or_room_or_full frame.key
  · obtain ⟨clock, hpass⟩ := pass_of_mem hknown frame.data frame.now
    rw [see, hpass]
    rfl
  · rw [see_of_room hnew hroom]
    rfl
  · rw [see_of_full hnew hfull]

/-- Frames do not touch what the definition of a key is configured to be, or would be. -/
theorem admitted_see (catalog : Catalog) (frame : Sighting) (key : Key) :
    ((catalog.see frame).admitted key).forceChanged = (catalog.admitted key).forceChanged ∧
      ((catalog.see frame).admitted key).clock.frequency =
        (catalog.admitted key).clock.frequency := by
  by_cases hkey : key = frame.key
  · subst hkey
    obtain hknown | ⟨hnew, hroom⟩ | ⟨hnew, hfull⟩ := catalog.mem_or_room_or_full frame.key
    · obtain ⟨definition, hfound⟩ := exists_find?_of_mem hknown
      rw [admitted, find?_see_of_find? hfound, admitted, hfound]
      exact ⟨rfl, Clock.poll_frequency _ _⟩
    · rw [admitted, find?_see_of_room hnew hroom, admitted, find?_eq_none_iff.mpr hnew]
      exact ⟨rfl, rfl⟩
    · rw [see_of_full hnew hfull]
      exact ⟨rfl, rfl⟩
  · rw [admitted, find?_see_of_ne hkey, defaultFrequency_see]
    exact ⟨rfl, rfl⟩

/-- The definitions of other keys stay as they are. -/
theorem filter_update (catalog : Catalog) (key : Key) {change : Definition → Definition}
    (hkey : ∀ definition, (change definition).key = definition.key) :
    (catalog.update key change).definitions.filter (·.key != key) =
      catalog.definitions.filter (·.key != key) := by
  have hsame : ((·.key != key) ∘ fun d => if d.key == key then change d else d) =
      fun d : Definition => d.key != key := by
    funext d
    by_cases h : d.key = key
    · simp [h, hkey]
    · simp [h]
  have hothers : ∀ d ∈ catalog.definitions.filter (·.key != key),
      (if d.key == key then change d else d) = id d := by
    intro d hmember
    have hne : ¬ (d.key == key) = true := by simpa using (List.mem_filter.mp hmember).2
    rw [if_neg hne, id]
  rw [update, List.filter_map, hsame, List.map_congr_left hothers, List.map_id]

/-- The definitions of all other keys stay as they are, in their order. -/
theorem filter_see (catalog : Catalog) (frame : Sighting) :
    (catalog.see frame).definitions.filter (·.key != frame.key) =
      catalog.definitions.filter (·.key != frame.key) := by
  obtain hknown | ⟨hnew, hroom⟩ | ⟨hnew, hfull⟩ := catalog.mem_or_room_or_full frame.key
  · obtain ⟨clock, hpass⟩ := pass_of_mem hknown frame.data frame.now
    rw [see, hpass]
    exact catalog.filter_update frame.key fun _ => rfl
  · rw [see_of_room hnew hroom]
    simp [append]
  · rw [see_of_full hnew hfull]

/-! ## What definitions remember -/

/-- The last payload of a key is that of the latest frame which has the key. -/
theorem lastSeen_concat (key : Key) (frames : List Sighting) (frame : Sighting) :
    lastSeen key (frames ++ [frame]) =
      if frame.key = key then frame.data else lastSeen key frames := by
  by_cases h : frame.key = key
  · simp [lastSeen, List.filter_append, h]
  · simp [lastSeen, List.filter_append, h]

/-- A key that is not enrolled found no room. -/
theorem mem_enroll_or_full (capacity : Nat) (known : List Key) (key : Key) :
    key ∈ enroll capacity known key ∨ capacity ≤ (enroll capacity known key).length := by
  unfold enroll
  split
  · rename_i h
    exact h
  · exact .inl (List.mem_append_right known List.mem_cons_self)

/-- What a catalog that started out in some state has kept of the frames it was shown. -/
structure Remembers (start : Catalog) (frames : List Sighting) (catalog : Catalog) : Prop where
  capacity : catalog.capacity = start.capacity
  settings : ∀ key, (catalog.admitted key).forceChanged = (start.admitted key).forceChanged ∧
    (catalog.admitted key).clock.frequency = (start.admitted key).clock.frequency
  /-- A key that was shown and is not known found no room. -/
  shown : ∀ frame ∈ frames, frame.key ∈ catalog.keys ∨ catalog.capacity ≤ catalog.keys.length
  /-- A definition that was shown no frame is as it was. -/
  unshown : ∀ key, (∀ frame ∈ frames, frame.key ≠ key) → catalog.find? key = start.find? key
  payload : ∀ key definition, catalog.find? key = some definition →
    definition.lastPayload = lastSeen key frames

/-- What a catalog remembers of a row of frames, it remembers of one frame more. -/
theorem Remembers.see {start : Catalog} {frames : List Sighting}
    (h : Remembers start frames catalog) (frame : Sighting) :
    Remembers start (frames ++ [frame]) (catalog.see frame) where
  capacity := (catalog.capacity_see frame).trans h.capacity
  settings key := by
    obtain ⟨hforce, hrate⟩ := catalog.admitted_see frame key
    exact ⟨hforce.trans (h.settings key).1, hrate.trans (h.settings key).2⟩
  shown earlier hmember := by
    rw [capacity_see, keys_see]
    rcases List.mem_append.mp hmember with hearlier | hlast
    · have hgrows := prefix_enroll catalog.capacity catalog.keys frame.key
      exact (h.shown earlier hearlier).imp (hgrows.subset ·) (·.trans hgrows.length_le)
    · rw [List.mem_singleton.mp hlast]
      exact mem_enroll_or_full _ _ _
  unshown key hunshown := by
    have hne : frame.key ≠ key := hunshown frame (List.mem_append_right _ List.mem_cons_self)
    rw [find?_see_of_ne hne.symm]
    exact h.unshown key fun earlier hmember => hunshown earlier (List.mem_append_left _ hmember)
  payload key definition hfound := by
    rw [lastSeen_concat]
    by_cases hkey : frame.key = key
    · subst hkey
      rw [if_pos rfl]
      exact lastPayload_of_see hfound
    · rw [find?_see_of_ne (Ne.symm hkey)] at hfound
      rw [if_neg hkey]
      exact h.payload key definition hfound

/-- A catalog whose definitions have the payload zero remembers every row of frames. -/
theorem remembers_seeAll {start : Catalog}
    (hblank : ∀ key definition, start.find? key = some definition → definition.lastPayload = 0)
    (frames : List Sighting) : Remembers start frames (start.seeAll frames) := by
  induction frames using List.reverseRecOn with
  | nil => exact ⟨rfl, fun _ => ⟨rfl, rfl⟩, nofun, fun _ _ => rfl, hblank⟩
  | append_singleton frames frame ih =>
      rw [seeAll, List.foldl_append]
      exact ih.see frame

/-! ## Keys that found no room -/

/-- A key is still unknown behind its frame exactly if it found no room. -/
theorem notMem_keys_see_iff : frame.key ∉ (catalog.see frame).keys ↔
    frame.key ∉ catalog.keys ∧ catalog.capacity ≤ catalog.keys.length := by
  rw [← register_eq_false_iff, ← Bool.not_eq_true, register_eq_true_iff, keys_see, keys_register]

/-- A full catalog stays as it is: who finds no room will find none later. -/
theorem keys_seeAll_of_full (hfull : catalog.capacity ≤ catalog.keys.length)
    (frames : List Sighting) : (catalog.seeAll frames).keys = catalog.keys := by
  induction frames generalizing catalog with
  | nil => rfl
  | cons frame rest ih =>
      have hkeys : (catalog.see frame).keys = catalog.keys := by
        rw [keys_see, enroll_of_full hfull]
      have hstays : (catalog.see frame).capacity ≤ (catalog.see frame).keys.length := by
        rw [hkeys, capacity_see]
        exact hfull
      exact (ih hstays).trans hkeys

/-! ## Distances -/

/-- The frames of a key that are forwarded. -/
def forwarded (key : Key) : Catalog → List Sighting → List Sighting
  | _, [] => []
  | catalog, frame :: rest =>
    if frame.key = key ∧ catalog.forwards frame = true then
      frame :: forwarded key (catalog.see frame) rest
    else forwarded key (catalog.see frame) rest

/-- The frames of a key that are forwarded when its definition is there already.  The
frame that brought the definition about, if one did, is the first to be forwarded. -/
def limited (key : Key) (catalog : Catalog) (frames : List Sighting) : List Sighting :=
  if key ∈ catalog.keys then forwarded key catalog frames else (forwarded key catalog frames).tail

/-- A frame of another key shows neither in the definition nor among what is forwarded. -/
theorem forwarded_cons_of_ne {key : Key} (hne : frame.key ≠ key) (rest : List Sighting) :
    forwarded key catalog (frame :: rest) = forwarded key (catalog.see frame) rest :=
  if_neg fun h => hne h.1

/-- **What is forwarded are ticks**, of a key that is known and does not force its
changes. -/
theorem forwarded_of_find? {key : Key} (h : catalog.find? key = some definition)
    (hunforced : definition.forceChanged = false) (frames : List Sighting) :
    (forwarded key catalog frames).map (·.now) =
      definition.clock.ticks ((frames.filter (·.key == key)).map (·.now)) := by
  induction frames generalizing catalog definition with
  | nil => rfl
  | cons frame rest ih =>
      by_cases hkey : frame.key = key
      · subst hkey
        have hrest := ih (find?_see_of_find? h) hunforced
        have hforwards : catalog.forwards frame = definition.clock.due frame.now := by
          rw [forwards_of_find? h, hunforced, Bool.and_false, Bool.or_false]
        have hown : (frame :: rest).filter (·.key == frame.key) =
            frame :: rest.filter (·.key == frame.key) :=
          List.filter_cons_of_pos (beq_self_eq_true frame.key)
        rw [hown, List.map_cons, Clock.ticks, forwarded, hforwards]
        by_cases hdue : definition.clock.due frame.now = true
        · rw [if_pos ⟨rfl, hdue⟩, if_pos hdue, List.map_cons, hrest]
        · rw [if_neg fun h => hdue h.2, if_neg hdue, hrest]
      · have hother : (frame :: rest).filter (·.key == key) = rest.filter (·.key == key) :=
          List.filter_cons_of_neg (ne_true_of_eq_false (beq_false_of_ne hkey))
        rw [hother, forwarded_cons_of_ne hkey]
        exact ih ((find?_see_of_ne (Ne.symm hkey)).trans h) hunforced

/-- Forwarded frames of an unforced definition are a period apart. -/
theorem spaced_of_find? {key : Key} (h : catalog.find? key = some definition)
    (hunforced : definition.forceChanged = false) {period : Binary64}
    (hperiod : definition.clock.period = some period) (frames : List Sighting) :
    (forwarded key catalog frames).Pairwise fun earlier later =>
      Clock.Spaced period earlier.now later.now := by
  rw [← List.pairwise_map (f := Sighting.now) (R := Clock.Spaced period),
    forwarded_of_find? h hunforced frames]
  exact (Clock.ticks_spaced hperiod _).1

/-- A new key: whatever is forwarded of it after the first time finds its definition. -/
theorem spaced_of_notMem {key : Key} (h : key ∉ catalog.keys) {period : Binary64}
    (hperiod : (Clock.ofFrequency catalog.defaultFrequency).period = some period)
    (frames : List Sighting) :
    (forwarded key catalog frames).tail.Pairwise fun earlier later =>
      Clock.Spaced period earlier.now later.now := by
  induction frames generalizing catalog with
  | nil => exact .nil
  | cons frame rest ih =>
      have hrate : (Clock.ofFrequency (catalog.see frame).defaultFrequency).period = some period := by
        rw [defaultFrequency_see]
        exact hperiod
      by_cases hkey : frame.key = key
      · subst hkey
        rw [forwarded, forwards_of_notMem h]
        rcases Nat.lt_or_ge catalog.keys.length catalog.capacity with hroom | hfull
        · rw [if_pos ⟨rfl, decide_eq_true hroom⟩, List.tail_cons]
          exact spaced_of_find? (find?_see_of_room h hroom) rfl hperiod rest
        · have hstays : frame.key ∉ (catalog.see frame).keys := by
            rw [keys_see, enroll_of_full hfull]
            exact h
          rw [if_neg fun hsent => Nat.not_lt.mpr hfull (of_decide_eq_true hsent.2)]
          exact ih hstays hrate
      · have hstays : key ∉ (catalog.see frame).keys := by
          rw [← find?_eq_none_iff, find?_see_of_ne (Ne.symm hkey), find?_eq_none_iff]
          exact h
        rw [forwarded_cons_of_ne hkey]
        exact ih hstays hrate

/-- What is forwarded of a key, after the frame that made its definition, keeps the
distance that the clock of the definition asks for. -/
structure KeepsDistance (start : Catalog) (frames : List Sighting) (key : Key)
    (period : Binary64) : Prop where
  /-- At least one period, as the clock measures it. -/
  spaced : (limited key start frames).Pairwise fun earlier later =>
    Clock.Spaced period earlier.now later.now
  /-- For a finite frequency time goes on from one to the next, and at least by the period
  itself unless both are too long to be measured exactly. -/
  apart : (start.admitted key).clock.frequency.isFinite = true →
    (start.admitted key).clock.HasPeriod period ∧
      (limited key start frames).Pairwise fun earlier later => earlier.now < later.now ∧
        (later.now.since earlier.now < 2 ^ 53 ∨ period.toRat ≤ 2 ^ 53 →
          Clock.Apart period earlier.now later.now)

/-- A key that is not forced keeps the distance of its period, whether it is known from
the start or admitted later. -/
theorem keepsDistance {start : Catalog} {key : Key}
    (hunforced : (start.admitted key).forceChanged = false) {period : Binary64}
    (hperiod : (start.admitted key).clock.period = some period) (frames : List Sighting) :
    start.KeepsDistance frames key period := by
  have hspaced : (limited key start frames).Pairwise fun earlier later =>
      Clock.Spaced period earlier.now later.now := by
    by_cases hknown : key ∈ start.keys
    · obtain ⟨definition, hfound⟩ := exists_find?_of_mem hknown
      rw [admitted, hfound] at hunforced hperiod
      rw [limited, if_pos hknown]
      exact spaced_of_find? hfound hunforced hperiod frames
    · rw [admitted, find?_eq_none_iff.mpr hknown] at hperiod
      rw [limited, if_neg hknown]
      exact spaced_of_notMem hknown hperiod frames
  refine ⟨hspaced, ?_⟩
  intro hfinite
  have hpositive : (start.admitted key).clock.frequency.isPositive = true := by
    by_contra hunlimited
    rw [Clock.period, if_neg hunlimited] at hperiod
    cases hperiod
  obtain ⟨exact, hexact⟩ := Clock.exists_hasPeriod hfinite hpositive
  obtain rfl : exact = period := Option.some.inj (hexact.defined.symm.trans hperiod)
  exact ⟨hexact, hspaced.imp fun hpair =>
    ⟨hexact.lt_of_spaced hpair, fun hshort => hexact.apart_of_spaced hshort hpair⟩⟩

/-! ## The rule -/

/-- Behind any row of frames, a frame is forwarded if its key is new and finds room, or if
it is due or forced by a change. -/
theorem Remembers.forwards_iff {start : Catalog} {frames : List Sighting}
    (h : Remembers start frames catalog) (frame : Sighting) :
    catalog.forwards frame = true ↔
      (frame.key ∉ catalog.keys ∧ (∀ earlier ∈ frames, earlier.key ≠ frame.key) ∧
          catalog.keys.length < start.capacity) ∨
        ∃ definition, catalog.find? frame.key = some definition ∧
          (definition.clock.due frame.now = true ∨
            frame.data ≠ lastSeen frame.key frames ∧ definition.forceChanged = true) := by
  by_cases hknown : frame.key ∈ catalog.keys
  · obtain ⟨definition, hfound⟩ := exists_find?_of_mem hknown
    rw [forwards_of_find? hfound, h.payload _ _ hfound, hfound]
    simp [hknown]
  · -- With room left, every key that was shown is known.
    have hunshown : catalog.keys.length < start.capacity →
        ∀ earlier ∈ frames, earlier.key ≠ frame.key := by
      intro hroom earlier hmember hsame
      rw [← h.capacity] at hroom
      rcases h.shown earlier hmember with hshown | hfull
      · exact hknown (hsame ▸ hshown)
      · exact Nat.not_lt.mpr hfull hroom
    rw [forwards_of_notMem hknown, find?_eq_none_iff.mpr hknown, h.capacity, decide_eq_true_iff]
    constructor
    · intro hroom
      exact .inl ⟨hknown, hunshown hroom, hroom⟩
    · rintro (⟨-, -, hroom⟩ | ⟨definition, hfound, -⟩)
      · exact hroom
      · cases hfound

/-- The first frame of a key that is known then, whoever brought it. -/
theorem Remembers.forwards_of_unshown {start : Catalog} {frames : List Sighting}
    (h : Remembers start frames catalog)
    (hunticked : ∀ key definition, start.find? key = some definition →
      definition.clock.lastTick = none)
    (hmember : frame.key ∈ (catalog.see frame).keys)
    (hunshown : ∀ earlier ∈ frames, earlier.key ≠ frame.key) : catalog.forwards frame = true := by
  by_cases hknown : frame.key ∈ catalog.keys
  · obtain ⟨definition, hfound⟩ := exists_find?_of_mem hknown
    have hstart := (h.unshown frame.key hunshown).symm.trans hfound
    rw [forwards_of_find? hfound, Clock.due_of_unticked (hunticked _ _ hstart), Bool.true_or]
  · have hroom : catalog.keys.length < catalog.capacity := by
      by_contra hfull
      exact notMem_keys_see_iff.mpr ⟨hknown, Nat.not_lt.mp hfull⟩ hmember
    rw [forwards_of_notMem hknown, decide_eq_true hroom]

/-- What becomes of a frame, told by the frames before it and by the definition that it
finds. -/
structure ForwardsByRule (start : Catalog) (frames : List Sighting) (frame : Sighting) : Prop where
  /-- A frame is forwarded if it is the first one of a key that there is room for, or if
  the definition of its key has a clock that is due or forces a change of payload. -/
  forwards : (start.seeAll frames).forwards frame = true ↔
    (frame.key ∉ (start.seeAll frames).keys ∧ (∀ earlier ∈ frames, earlier.key ≠ frame.key) ∧
        (start.seeAll frames).keys.length < start.capacity) ∨
      ∃ definition, (start.seeAll frames).find? frame.key = some definition ∧
        (definition.clock.due frame.now = true ∨
          frame.data ≠ lastSeen frame.key frames ∧ definition.forceChanged = true)
  sends : (start.seeAll frames).sends frame =
    if (start.seeAll frames).forwards frame then [.raw frame.key frame.data] else []
  /-- The definition is as it was configured, or as a key that is new is given it. -/
  settings : ∀ definition, (start.seeAll frames).find? frame.key = some definition →
    definition.forceChanged = (start.admitted frame.key).forceChanged ∧
      definition.clock.frequency = (start.admitted frame.key).clock.frequency
  /-- Every frame of a known key polls the clock, also one that is a forced change. -/
  polls : ∀ definition, (start.seeAll frames).find? frame.key = some definition →
    (start.seeAll (frames ++ [frame])).find? frame.key = some { definition with
      clock := (definition.clock.poll frame.now).1
      lastPayload := frame.data }
  /-- The payload is kept, forwarded or not. -/
  keeps : ∀ definition, (start.seeAll (frames ++ [frame])).find? frame.key = some definition →
    definition.lastPayload = frame.data
  others : (start.seeAll (frames ++ [frame])).definitions.filter (·.key != frame.key) =
    (start.seeAll frames).definitions.filter (·.key != frame.key)
  /-- A key that found no room is not forwarded, and will find no room later. -/
  refused : frame.key ∉ (start.seeAll (frames ++ [frame])).keys →
    (start.seeAll frames).forwards frame = false ∧
      ∀ later, frame.key ∉ (start.seeAll (frames ++ [frame] ++ later)).keys
  first : frame.key ∈ (start.seeAll (frames ++ [frame])).keys →
    (∀ earlier ∈ frames, earlier.key ≠ frame.key) → (start.seeAll frames).forwards frame = true

/-- A stocked catalog that nothing has passed yet forwards by the rule. -/
theorem forwardsByRule {start : Catalog} (hstart : ∀ key definition,
      start.find? key = some definition →
        definition.lastPayload = 0 ∧ definition.clock.lastTick = none)
    (frames : List Sighting) (frame : Sighting) : start.ForwardsByRule frames frame := by
  have hremembers := remembers_seeAll (fun key d hfound => (hstart key d hfound).1) frames
  have hafter : start.seeAll (frames ++ [frame]) = (start.seeAll frames).see frame :=
    start.seeAll_append frames [frame]
  constructor
  case forwards => exact hremembers.forwards_iff frame
  case sends => exact sends_eq _ frame
  case settings =>
    intro definition hfound
    have hsettings := hremembers.settings frame.key
    rwa [admitted, hfound] at hsettings
  case polls =>
    rw [hafter]
    exact fun _ hfound => find?_see_of_find? hfound
  case keeps =>
    rw [hafter]
    exact fun _ hfound => lastPayload_of_see hfound
  case others =>
    rw [hafter]
    exact filter_see _ frame
  case refused =>
    intro hrefused
    rw [hafter, notMem_keys_see_iff] at hrefused
    refine ⟨?_, fun later => ?_⟩
    · rw [forwards_of_notMem hrefused.1, decide_eq_false (Nat.not_lt.mpr hrefused.2)]
    · rw [List.append_assoc, seeAll_append, keys_seeAll_of_full hrefused.2]
      exact hrefused.1
  case first =>
    intro hmember hunshown
    rw [hafter] at hmember
    exact hremembers.forwards_of_unshown (fun key d hfound => (hstart key d hfound).2)
      hmember hunshown

/-! ## New catalogs -/

/-- Preloading brings no definition but the one that is preloaded. -/
theorem mem_serve_preload {added : Definition}
    (h : definition ∈ (catalog.serve (.preload added)).definitions) :
    definition ∈ catalog.definitions ∨ definition = added := by
  rw [serve] at h
  obtain hknown | ⟨hnew, hroom⟩ | ⟨hnew, hfull⟩ := catalog.mem_or_room_or_full added.key
  · rw [preload_of_mem hknown] at h
    exact .inl h
  · rw [preload_of_new hnew hroom] at h
    exact (List.mem_append.mp h).imp_right List.mem_singleton.mp
  · rw [preload_of_full hnew hfull] at h
    exact .inl h

/-- The definitions of a new catalog are those of its messages. -/
theorem exists_of_mem_stocked {capacity : Nat} {frequency : Binary32}
    {messages : List Config.RawMessageDef}
    (h : definition ∈ (stocked capacity frequency messages).definitions) :
    ∃ message ∈ messages, message.definition = definition := by
  induction messages using List.reverseRecOn with
  | nil => cases h
  | append_singleton messages message ih =>
      rw [stocked, List.map_append, serveAll, List.foldl_append] at h
      rcases mem_serve_preload h with hearlier | rfl
      · obtain ⟨earlier, hmember, hdefinition⟩ := ih hearlier
        exact ⟨earlier, List.mem_append_left _ hmember, hdefinition⟩
      · exact ⟨message, List.mem_append_right _ List.mem_cons_self, rfl⟩

/-- **The rule of forwarding.**  In a run of frames through a new catalog, whatever its
capacity, its messages and its frequencies, and whatever the keys, payloads and times of
the frames, a frame is forwarded if it is the first of a key that finds room, or if the
clock of its definition is due, or if its payload is not that of the frame of its key
before and changes are forced; otherwise it is not.  The payload is kept in any case, and
no other definition changes.  What is forwarded of a key that does not force its changes is
one period apart, but for the frame that the key was first seen by. -/
theorem forwarding_rule (capacity : Nat) (frequency : Binary32)
    (messages : List Config.RawMessageDef) :
    let start := stocked capacity frequency messages
    (∀ frames frame, start.ForwardsByRule frames frame) ∧
      ∀ key, (start.admitted key).forceChanged = false →
        ∀ period, (start.admitted key).clock.period = some period →
          ∀ frames, start.KeepsDistance frames key period := by
  intro start
  constructor
  · apply forwardsByRule
    intro key definition hfound
    obtain ⟨message, -, rfl⟩ := exists_of_mem_stocked (List.mem_of_find?_eq_some hfound)
    exact ⟨rfl, rfl⟩
  · intro key hunforced period hperiod frames
    exact keepsDistance hunforced hperiod frames

/-- The frame that a key is first seen by does not start the clock, so the next one is
forwarded as well, and the period of one second begins there. -/
theorem forwarding_rule_one_hertz :
    let start := stocked 4 ⟨0x3F800000⟩ []
    let key : Key := ⟨1, 0x100⟩
    let frames : List Sighting := [⟨key, 0xAA, 0⟩, ⟨key, 0xAA, 0⟩, ⟨key, 0xBB, 500⟩, ⟨key, 0xBB, 1000⟩]
    (forwarded key start frames).map (·.now) = [0, 0, 1000] ∧
      (start.admitted key).forceChanged = false ∧
      (start.admitted key).clock.period = some (Binary64.ofNat 1000) ∧
      start.KeepsDistance frames key (Binary64.ofNat 1000) := by
  intro start key frames
  have htimes : (forwarded key start frames).map (·.now) = [0, 0, 1000] := by decide +kernel
  have hunforced : (start.admitted key).forceChanged = false := rfl
  have hperiod : (start.admitted key).clock.period = some (Binary64.ofNat 1000) := by
    decide +kernel
  obtain ⟨-, hdistance⟩ := forwarding_rule 4 ⟨0x3F800000⟩ []
  exact ⟨htimes, hunforced, hperiod, hdistance key hunforced _ hperiod frames⟩

end Catalog

end VehicleBus

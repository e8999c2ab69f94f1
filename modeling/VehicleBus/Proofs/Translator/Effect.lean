import VehicleBus.Proofs.Translator.Isolation
import VehicleBus.Proofs.Translator.Reach

/-!
# What one frame changes

The signals of a frame run their cycles one after the other on one table.  When the
handler of a signal is called, the signals of the frame that stand before it are settled
already, its own is sampled but still holds its last value, and the rest of the table is
as it was before the frame (`Router.exists_call`).

A cycle writes one row of the table and the loop visits each row once
(`Router.getElem?_translateAll`).  What a handler answers, and what becomes of the
answer, does not show in the table.
-/

namespace VehicleBus

/-! ## The loop over the places -/

namespace Router

variable {data : Payload} {now : Time}

/-- A cycle writes the row at its place. -/
theorem getElem?_translateAt (channels : List Channel) (place other : Nat) :
    (translateAt channels place data now).1[other]? =
      channels[other]?.map fun channel =>
        if other = place then channel.settle data now else channel := by
  cases hplace : channels[place]? with
  | none =>
      rw [translateAt_of_none hplace]
      by_cases h : other = place
      · rw [h, hplace]
        rfl
      · simp [h]
  | some channel =>
      rw [translateAt_of_some hplace, List.getElem?_set']
      by_cases h : other = place
      · simp [h, hplace]
      · simp [h, Ne.symm h]

/-- A loop over places of its own writes these rows, each once. -/
theorem getElem?_translateAll {listed : List Nat} (hnodup : listed.Nodup)
    (channels : List Channel) (other : Nat) :
    (translateAll data now channels listed).1[other]? =
      channels[other]?.map fun channel =>
        if other ∈ listed then channel.settle data now else channel := by
  induction listed generalizing channels with
  | nil => simp [translateAll]
  | cons place rest ih =>
      obtain ⟨hplace, hrest⟩ := List.nodup_cons.mp hnodup
      show (translateAll data now (translateAt channels place data now).1 rest).1[other]? = _
      rw [ih hrest, getElem?_translateAt, Option.map_map]
      congr 1
      funext channel
      by_cases h : other = place
      · subst h
        simp [hplace]
      · simp [h]

/-- The loop can be stopped at any place: the calls so far, and those from the table
that they leave. -/
theorem calls_append_places (channels : List Channel) (front back : List Nat) :
    calls data now channels (front ++ back) =
      calls data now channels front ++
        calls data now (translateAll data now channels front).1 back := by
  induction front generalizing channels with
  | nil => rfl
  | cons place rest ih =>
      show calls data now channels (place :: (rest ++ back)) = _ ++
        calls data now (translateAll data now (translateAt channels place data now).1 rest).1 back
      rw [calls, calls]
      cases hplace : channels[place]? with
      | none =>
          rw [translateAt_of_none hplace]
          exact ih channels
      | some channel => rw [translateAt_of_some hplace, List.cons_append, ← ih]

/-- Each place of the table is called. -/
theorem length_calls {channels : List Channel} {listed : List Nat}
    (h : ∀ place ∈ listed, place < channels.length) :
    (calls data now channels listed).length = listed.length := by
  induction listed generalizing channels with
  | nil => rfl
  | cons place rest ih =>
      have hplace : place < channels.length := h place List.mem_cons_self
      have hrest : ∀ other ∈ rest,
          other < (channels.set place (channels[place].settle data now)).length := by
        intro other hmember
        rw [List.length_set]
        exact h other (List.mem_cons_of_mem _ hmember)
      rw [calls, List.getElem?_eq_getElem hplace]
      exact congrArg (· + 1) (ih hrest)

/-- **What a handler is shown.**  When the loop has come to a place, the rows of the
places before it are settled, its own row is sampled, and the others are as they were. -/
theorem exists_call {channels : List Channel} {front back : List Nat} {place : Nat}
    (hnodup : (front ++ place :: back).Nodup)
    (hplaces : ∀ other ∈ front ++ place :: back, other < channels.length) :
    ∃ call, (calls data now channels (front ++ place :: back))[front.length]? = some call ∧
      channels[place]? = some call.channel ∧ call.data = data ∧ call.now = now ∧
      ∀ other, call.table[other]? = channels[other]?.map fun channel =>
        if other ∈ front then (channel.settle data now).signal
        else if other = place then (channel.signal.sample data now).1
        else channel.signal := by
  have hfront : front.Nodup := hnodup.of_append_left
  have hfresh : place ∉ front := by
    intro hmember
    exact List.disjoint_of_nodup_append hnodup hmember List.mem_cons_self
  have hplace : place < channels.length := hplaces place (by simp)
  have hlength : (calls data now channels front).length = front.length :=
    length_calls fun other hmember => hplaces other (List.mem_append_left _ hmember)
  have hrow : (translateAll data now channels front).1[place]? = some channels[place] := by
    rw [getElem?_translateAll hfront, List.getElem?_eq_getElem hplace]
    simp [hfresh]
  let table := ((translateAll data now channels front).1.map (·.signal)).set place
    (channels[place].signal.sample data now).1
  refine ⟨⟨channels[place], table, data, now⟩, ?_, List.getElem?_eq_getElem hplace, rfl, rfl, ?_⟩
  · rw [calls_append_places, ← hlength, List.getElem?_append_right (Nat.le_refl _), Nat.sub_self,
      calls, hrow]
    rfl
  · intro other
    show table[other]? = _
    rw [List.getElem?_set', List.getElem?_map, getElem?_translateAll hfront]
    by_cases h : other = place
    · subst h
      simp [hfresh, List.getElem?_eq_getElem hplace]
    · have hne : place ≠ other := Ne.symm h
      simp only [hne, h, if_false, Option.map_map]
      congr 1
      funext channel
      by_cases hmember : other ∈ front
      · simp [hmember]
      · simp [hmember]

end Router

/-! ## Messages by name -/

/-- What becomes of some members of a list, under labels of their own, is in the order of
the list. -/
theorem map_filterMap_sublist {α β γ : Type} {f : α → Option β} {label : β → γ} {own : α → γ}
    (h : ∀ a b, f a = some b → label b = own a) (members : List α) :
    ((members.filterMap f).map label).Sublist (members.map own) := by
  induction members with
  | nil => exact List.Sublist.refl []
  | cons a rest ih =>
      cases hf : f a with
      | none =>
          rw [List.filterMap_cons_none hf, List.map_cons]
          exact ih.cons (own a)
      | some b =>
          rw [List.filterMap_cons_some hf, List.map_cons, List.map_cons, h a b hf]
          exact ih.cons_cons (own a)

namespace Clocked

/-- A decoded frame puts out at most one message for each signal of its key, named after
it and in the order of the table. -/
theorem emitted_names_sublist {clocked : Clocked} {key : Key} {data : Payload}
    (hasked : clocked.asked (.frame key data) =
      (clocked.translator.router.callsOf key data clocked.now).filterMap Call.report?) :
    ((clocked.emitted (.frame key data)).map (·.1.name?)).Sublist
      ((clocked.translator.router.channelsOf key).map fun channel => some channel.signal.name) := by
  have hencoded : ((clocked.emitted (.frame key data)).map (·.1.name?)).Sublist
      ((clocked.asked (.frame key data)).map (·.name?)) := by
    apply map_filterMap_sublist
    intro message output houtput
    obtain ⟨bytes, -, rfl⟩ := Option.map_eq_some_iff.mp houtput
    rfl
  have hreported : ((clocked.asked (.frame key data)).map (·.name?)).Sublist
      ((clocked.translator.router.callsOf key data clocked.now).map
        fun call => some call.channel.signal.name) := by
    rw [hasked]
    apply map_filterMap_sublist
    intro call message hreport
    exact Call.name?_of_report? hreport
  have hcalls : (clocked.translator.router.callsOf key data clocked.now).map
        (fun call => some call.channel.signal.name) =
      (clocked.translator.router.channelsOf key).map fun channel => some channel.signal.name := by
    rw [← Router.callsOf_channels, List.map_map]
    rfl
  rw [← hcalls]
  exact hencoded.trans hreported

/-- **What handlers see and what one frame changes.**  For every translator that a
program holds and a frame whose key has signals: their handlers are called one after the
other.  Each is shown the table as it was before the frame, but the signals called
before hold what this frame leaves of them, and its own signal has its clock polled and
its value taken note of, and still holds its last value.  After the frame all of them
hold the value that was decoded, whatever became of it, and nothing else has changed in
the table, the index, the buses and the catalog.  The messages put out are reports of
these calls, in their order. -/
theorem frame_effect {made : Clocked} {announced : List Config.Bus}
    (hmade : made.translator.Made announced) (actions : List Action) {key : Key}
    {listed : List Nat}
    (hlisted : (made.acts actions).translator.router.index.find? key = some listed)
    (data : Payload) :
    let clocked := made.acts actions
    let router := clocked.translator.router
    let after := (clocked.feed (.frame key data)).translator.router
    let calls := router.callsOf key data clocked.now
    let sampled : Signal → Signal := fun signal =>
      { signal with
        clock := (signal.clock.poll clocked.now).1
        received := signal.received || (signal.sample data clocked.now).2.send }
    let settled : Signal → Signal := fun signal =>
      { sampled signal with lastValue := signal.decode data }
    listed.Pairwise (· < ·) ∧
      (router.frame key data clocked.now).2 =
        .note (.translating key) :: calls.flatMap Call.steps ∧
      calls.length = listed.length ∧
      (∀ front place back, listed = front ++ place :: back →
        ∃ call, calls[front.length]? = some call ∧
          router.channels[place]? = some call.channel ∧
          call.answer = call.channel.handler.apply (sampled call.channel.signal) call.table
            (call.channel.signal.decode data)
            (call.channel.signal.sample data clocked.now).2.send ∧
          ∀ other, call.table[other]? = router.signals[other]?.map fun signal =>
            if other ∈ front then settled signal
            else if other = place then sampled signal
            else signal) ∧
      (∀ other, after.channels[other]? = router.channels[other]?.map fun channel =>
        if other ∈ listed then { channel with signal := settled channel.signal } else channel) ∧
      after.index = router.index ∧ after.buses = router.buses ∧
      after.catalog = router.catalog ∧
      clocked.asked (.frame key data) = calls.filterMap Call.report? ∧
      ((clocked.emitted (.frame key data)).map (·.1.name?)).Sublist
        ((router.channelsOf key).map fun channel => some channel.signal.name) := by
  intro clocked router after calls sampled settled
  have hsound : router.Sound := acts_sound hmade.sound actions
  have hplaces : listed = places router.channels key := hsound.indexed.find?_eq_some hlisted
  have hincreasing : listed.Pairwise (· < ·) := hplaces ▸ places_pairwise router.channels key
  have hnodup : listed.Nodup := hincreasing.imp Nat.ne_of_lt
  have hinside : ∀ place ∈ listed, place < router.channels.length := by
    intro place hmember
    rw [hplaces] at hmember
    obtain ⟨channel, hchannel, -⟩ := mem_places_iff.mp hmember
    exact (List.getElem?_eq_some_iff.mp hchannel).1
  have hsignals : router.channelsOf key ≠ [] := by
    intro hnone
    have hmissing := hsound.indexed.find?_eq_none_iff.mpr (Router.channelsOf_eq_nil_iff.mp hnone)
    rw [hlisted] at hmissing
    cases hmissing
  have hcalls : calls = Router.calls data clocked.now router.channels listed := by
    rw [hplaces]
    rfl
  have hchannels : after.channels =
      (Router.translateAll data clocked.now router.channels listed).1 := by
    rw [hplaces, Router.translateAll_channels]
    exact Router.frame_channels hsound.indexed key data clocked.now
  have hasked : clocked.asked (.frame key data) = calls.filterMap Call.report? :=
    Router.frame_messages_decoded hsound.indexed hsignals
  refine ⟨hincreasing, Router.frame_steps_eq_calls hsound.indexed hsignals, ?_, ?_, ?_,
    (router.frame_fixed key data clocked.now).2, (router.frame_fixed key data clocked.now).1,
    ?_, hasked, emitted_names_sublist hasked⟩
  · rw [hcalls]
    exact Router.length_calls hinside
  · intro front place back hsplit
    rw [hsplit] at hnodup hinside hcalls
    obtain ⟨call, hcall, hchannel, hdata, hnow, htable⟩ := Router.exists_call hnodup hinside
    refine ⟨call, hcalls ▸ hcall, hchannel, ?_, ?_⟩
    · rw [Call.answer, Call.sampled, hdata, hnow]
      rfl
    · intro other
      rw [htable other, Router.signals, List.getElem?_map, Option.map_map]
      rfl
  · intro other
    rw [hchannels, Router.getElem?_translateAll hnodup]
    rfl
  · show (router.frame key data clocked.now).1.catalog = router.catalog
    rw [Router.frame_decoded hsound.indexed hsignals]

/-- Two signals of one frame both report the last value of the first one: the first still
finds the value before the frame, the second finds the new one. -/
theorem frame_effect_two_buses :
    let made : Clocked :=
      ⟨⟨Router.configured twoBuses, { format := .json, sink := .emptyBuffer }⟩, 0⟩
    let speed : Custom Binary64 := fun _ table _ send =>
      (((Signal.find? "engine_speed" table).map (·.lastValue)).getD Binary64.zero, send)
    let clocked := made.acts [.operate (.setHandler "engine_speed" (.customNumeric speed)),
      .operate (.setHandler "reverse" (.customNumeric speed))]
    let router := clocked.translator.router
    let data : Payload := 0x05DC800000000000
    let calls := router.callsOf ⟨1, 0x128⟩ data clocked.now
    router.index.find? ⟨1, 0x128⟩ = some [0, 1] ∧
      (∃ call, calls[0]? = some call ∧
        call.table[0]?.map (·.lastValue) = some Binary64.zero) ∧
      (∃ call, calls[1]? = some call ∧
        call.table[0]?.map (·.lastValue) = some (Binary64.ofNat 1500)) ∧
      clocked.asked (.frame ⟨1, 0x128⟩ data) = calls.filterMap Call.report? ∧
      calls.filterMap Call.report? = [.numeric "engine_speed" Binary64.zero,
        .numeric "reverse" (Binary64.ofNat 1500)] := by
  intro made speed clocked router data calls
  have hbuilt : Translator.ofVehicle twoBuses .emptyBuffer =
      .ok (made.translator, [.ready 2 2 .json]) := rfl
  have hlisted : router.index.find? ⟨1, 0x128⟩ = some [0, 1] := by decide +kernel
  obtain ⟨-, -, -, hshown, -, -, -, -, hasked, -⟩ :=
    frame_effect (.configured hbuilt) _ hlisted data
  obtain ⟨first, hfirst, -, -, hold⟩ := hshown [] 0 [1] rfl
  obtain ⟨second, hsecond, -, -, hnew⟩ := hshown [0] 1 [] rfl
  have hreports : calls.filterMap Call.report? = [.numeric "engine_speed" Binary64.zero,
      .numeric "reverse" (Binary64.ofNat 1500)] := by
    decide +kernel
  refine ⟨hlisted, ⟨first, hfirst, ?_⟩, ⟨second, hsecond, ?_⟩, hasked, hreports⟩
  · rw [hold 0]
    decide +kernel
  · rw [hnew 0]
    decide +kernel

end Clocked

end VehicleBus

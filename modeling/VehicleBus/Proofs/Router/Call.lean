import VehicleBus.Proofs.Router.Isolation

/-!
# The handler calls of a frame

A frame calls one handler for each signal of its key.  `Call` keeps what such a call
is about: the channel as it stood before its cycle, and the signal table that the
handler is shown.  The calls of a frame are in the order of the table and each
channel of the key is called once (`Router.callsOf_channels`); the steps of the frame
are those of its calls (`Router.frame_steps_eq_calls`).

Unlike the facts about built-in handlers, nothing here depends on what a handler does
with the table.
-/

namespace VehicleBus

/-! ## Messages among steps -/

namespace Step

@[simp] theorem messages_append (front back : List Step) :
    messages (front ++ back) = messages front ++ messages back := List.filterMap_append

@[simp] theorem messages_map_note (notices : List Notice) : messages (notices.map .note) = [] := by
  simp [messages]

@[simp] theorem messages_note_cons (notice : Notice) (rest : List Step) :
    messages (.note notice :: rest) = messages rest := rfl

end Step

/-- Forwarding asks for one raw message, or for none. -/
theorem Catalog.messages_forward (key : Key) (data : Payload) (send : Bool) :
    Step.messages [forward key data send] = if send then [.raw key data] else [] := by
  cases send <;> rfl

/-- A frame that is passed on is sent as it is, or not at all. -/
theorem Catalog.messages_pass_subset (catalog : Catalog) (key : Key) (data : Payload)
    (now : Time) : Step.messages (catalog.pass key data now).2 ⊆ [.raw key data] := by
  have hforward : ∀ send, Step.messages [forward key data send] ⊆ [.raw key data] := by
    intro send
    rw [messages_forward]
    cases send <;> simp
  unfold pass
  split
  · simpa using hforward _
  · exact hforward _

/-! ## Calls -/

/-- A call of a handler in the course of a frame. -/
structure Call where
  /-- The channel before the frame. -/
  channel : Channel
  /-- The signal table that the handler is shown. -/
  table : List Signal
  data : Payload
  now : Time

namespace Call

/-- The signal and its sample, as the handler is given them. -/
def sampled (call : Call) : Signal × Signal.Sample := call.channel.signal.sample call.data call.now

/-- What the handler answers. -/
def answer (call : Call) : Translated × Bool :=
  call.channel.handler.apply call.sampled.1 call.table call.sampled.2.value call.sampled.2.send

/-- The message that comes of a call, if any does. -/
def report? (call : Call) : Option Message :=
  if call.answer.2 then call.answer.1.toMessage? call.channel.signal.name else none

/-- The steps that come of a call. -/
def steps (call : Call) : List Step := call.channel.steps call.table call.data call.now

/-- Of the steps only the report is a message. -/
theorem messages_steps (call : Call) : Step.messages call.steps = call.report?.toList := by
  rw [steps, Channel.steps]
  split
  · rename_i hsend
    have hanswer : call.answer.2 = true := hsend
    rw [report?, if_pos hanswer]
    split
    · rename_i message hmessage
      have hreport : call.answer.1.toMessage? call.channel.signal.name = some message := hmessage
      rw [hreport]
      rfl
    · rename_i hnone
      have hreport : call.answer.1.toMessage? call.channel.signal.name = none := hnone
      rw [hreport]
      rfl
  · rename_i hheld
    have hanswer : ¬ call.answer.2 = true := hheld
    rw [report?, if_neg hanswer]
    rfl

/-- A report carries the name of its signal. -/
theorem name?_of_report? {call : Call} {message : Message} (h : call.report? = some message) :
    message.name? = some call.channel.signal.name := by
  rw [report?] at h
  split at h
  · cases htranslated : call.answer.1 with
    | numeric value =>
        rw [htranslated] at h
        cases h
        rfl
    | boolean value =>
        rw [htranslated] at h
        cases h
        rfl
    | text value =>
        rw [htranslated] at h
        cases value with
        | none => cases h
        | some value =>
            cases h
            rfl
  · cases h

end Call

/-! ## Frames -/

namespace Router

/-- The calls of a frame whose signals stand at some places of a table. -/
def calls (data : Payload) (now : Time) : List Channel → List Nat → List Call
  | _, [] => []
  | channels, place :: rest =>
    match channels[place]? with
    | none => calls data now channels rest
    | some channel =>
      { channel, data, now
        table := (channels.map (·.signal)).set place (channel.signal.sample data now).1 } ::
        calls data now (channels.set place (channel.settle data now)) rest

/-- The calls of a frame. -/
def callsOf (router : Router) (key : Key) (data : Payload) (now : Time) : List Call :=
  calls data now router.channels (places router.channels key)

variable {data : Payload} {now : Time}

/-- A frame does what its calls do. -/
theorem translateAll_steps_eq_calls (channels : List Channel) (listed : List Nat) :
    (translateAll data now channels listed).2 = (calls data now channels listed).flatMap Call.steps := by
  induction listed generalizing channels with
  | nil => rfl
  | cons place rest ih =>
      rw [translateAll, calls]
      cases hplace : channels[place]? with
      | none =>
          rw [translateAt_of_none hplace]
          exact ih channels
      | some channel =>
          rw [translateAt_of_some hplace, List.flatMap_cons, ← ih]
          rfl

/-- The chosen channels of a row behind another one are called, each as it stands. -/
theorem calls_append (chosen : Channel → Bool) (front row : List Channel) :
    (calls data now (front ++ row) (row.findIdxs chosen front.length)).map (·.channel) =
      row.filter chosen := by
  induction row generalizing front with
  | nil => rfl
  | cons channel rest ih =>
      rw [List.findIdxs_cons]
      by_cases hchosen : chosen channel
      · have hplace : (front ++ channel :: rest)[front.length]? = some channel := by simp
        have hset : (front ++ channel :: rest).set front.length (channel.settle data now) =
            front ++ [channel.settle data now] ++ rest := by simp
        have hrest := ih (front ++ [channel.settle data now])
        rw [List.length_append, List.length_singleton] at hrest
        rw [if_pos hchosen, calls, hplace]
        simp only [hset, List.map_cons, hrest, List.filter_cons_of_pos hchosen]
      · have hrest := ih (front ++ [channel])
        rw [List.length_append, List.length_singleton, List.append_assoc,
          List.singleton_append] at hrest
        rw [if_neg hchosen, hrest, List.filter_cons_of_neg hchosen]

/-- **A frame calls the channels of its key**, each once and in the order of the
table. -/
theorem callsOf_channels (router : Router) (key : Key) (data : Payload) (now : Time) :
    (router.callsOf key data now).map (·.channel) = router.channelsOf key :=
  calls_append (·.signal.key == key) [] router.channels

variable {router : Router} {key : Key}

/-- The channel of a call stands in the table and has the key of the frame. -/
theorem channel_mem_of_mem_callsOf {call : Call} (h : call ∈ router.callsOf key data now) :
    call.channel ∈ router.channels ∧ call.channel.signal.key = key := by
  have hmember : call.channel ∈ router.channelsOf key := by
    rw [← router.callsOf_channels key data now]
    exact List.mem_map_of_mem h
  obtain ⟨hchannel, hkey⟩ := List.mem_filter.mp hmember
  exact ⟨hchannel, eq_of_beq hkey⟩

/-- The calls of a frame are made at its time. -/
theorem now_of_mem_calls {channels : List Channel} {listed : List Nat} {call : Call}
    (h : call ∈ calls data now channels listed) : call.now = now := by
  induction listed generalizing channels with
  | nil => cases h
  | cons place rest ih =>
      rw [calls] at h
      split at h
      · exact ih h
      · rcases List.mem_cons.mp h with rfl | hrest
        · rfl
        · exact ih hrest

/-- A frame without signals makes no call. -/
theorem callsOf_eq_nil (hsignals : router.channelsOf key = []) :
    router.callsOf key data now = [] := by
  have hchannels := router.callsOf_channels key data now
  rw [hsignals] at hchannels
  exact List.map_eq_nil_iff.mp hchannels

/-- The steps of a decoded frame are those of its calls. -/
theorem frame_steps_eq_calls (hindexed : router.Indexed) (hsignals : router.channelsOf key ≠ []) :
    (router.frame key data now).2 =
      .note (.translating key) :: (router.callsOf key data now).flatMap Call.steps := by
  rw [frame_decoded hindexed hsignals, translateAll_steps_eq_calls]
  rfl

/-- What a decoded frame sends are the reports of its calls. -/
theorem frame_messages_decoded (hindexed : router.Indexed) (hsignals : router.channelsOf key ≠ []) :
    Step.messages (router.frame key data now).2 =
      (router.callsOf key data now).filterMap Call.report? := by
  rw [frame_steps_eq_calls hindexed hsignals, Step.messages_note_cons]
  induction router.callsOf key data now with
  | nil => rfl
  | cons call rest ih =>
      rw [List.flatMap_cons, Step.messages_append, ih, call.messages_steps, List.filterMap_cons]
      cases call.report? <;> rfl

/-- What any other frame sends is the frame itself. -/
theorem frame_messages_undecoded (hindexed : router.Indexed) (hsignals : router.channelsOf key = []) :
    Step.messages (router.frame key data now).2 ⊆ [.raw key data] := by
  rw [frame_undecoded hindexed hsignals]
  split
  · exact Catalog.messages_pass_subset router.catalog key data now
  · exact List.nil_subset _

/-- So what does not hold of a frame that is passed on is not found there. -/
theorem countP_messages_undecoded (hindexed : router.Indexed) (hsignals : router.channelsOf key = [])
    {p : Message → Bool} (hraw : p (.raw key data) = false) :
    (Step.messages (router.frame key data now).2).countP p = 0 := by
  have hmessages : Step.messages (router.frame key data now).2 ⊆ [.raw key data] :=
    frame_messages_undecoded hindexed hsignals
  rw [List.countP_eq_zero]
  intro message hmember
  rw [List.mem_singleton.mp (hmessages hmember), hraw]
  exact Bool.false_ne_true

end Router

end VehicleBus

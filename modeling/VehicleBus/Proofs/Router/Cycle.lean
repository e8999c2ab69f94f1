import VehicleBus.Proofs.Router.Table

/-!
# One frame at the signal table

A decoded frame runs one cycle for each signal of its key, in the order of the
table.  What a cycle leaves of its own signal does not depend on the handler and
not on the other signals, so the table after a frame is the old one with the
channels of the key settled (`Router.translateAll_channels`).

The built-in handlers look at their own signal only.  With them the steps of a
frame are those of the single channels, one after the other
(`Router.translateAll_steps`).
-/

namespace VehicleBus

/-! ## Built-in handlers -/

namespace Handler

/-- The handlers that a configuration can name. -/
def IsBuiltIn : Handler → Prop
  | passthrough => True
  | boolean => True
  | ignore => True
  | state => True
  | customNumeric _ => False
  | customBoolean _ => False
  | customText _ => False

/-- A built-in handler does not look at the table. -/
theorem IsBuiltIn.apply_eq {handler : Handler} (h : handler.IsBuiltIn) (signal : Signal)
    (table other : List Signal) (value : Binary64) (send : Bool) :
    handler.apply signal table value send = handler.apply signal other value send := by
  cases handler with
  | passthrough => rfl
  | boolean => rfl
  | ignore => rfl
  | state => rfl
  | customNumeric strategy => exact h.elim
  | customBoolean strategy => exact h.elim
  | customText strategy => exact h.elim

end Handler

/-- The handlers that a configuration can name are built in. -/
theorem HandlerKind.handler_isBuiltIn (kind : HandlerKind) : kind.handler.IsBuiltIn := by
  cases kind <;> trivial

/-! ## Cycles -/

namespace Channel

/-- What a cycle leaves of a channel: the clock polled, the value kept. -/
def settle (channel : Channel) (data : Payload) (now : Time) : Channel :=
  let (signal, sample) := channel.signal.sample data now
  { channel with signal := signal.record sample.value }

/-- The steps of a cycle in front of a given signal table. -/
def steps (channel : Channel) (table : List Signal) (data : Payload) (now : Time) : List Step :=
  let cycle := channel.signal.sample data now
  let answer := channel.handler.apply cycle.1 table cycle.2.value cycle.2.send
  if answer.2 then
    match answer.1.toMessage? channel.signal.name with
    | some message => [.send message]
    | none => [.note (.noValue channel.signal.name)]
  else []

@[simp] theorem settle_key (channel : Channel) (data : Payload) (now : Time) :
    (channel.settle data now).signal.key = channel.signal.key := rfl

@[simp] theorem settle_handler (channel : Channel) (data : Payload) (now : Time) :
    (channel.settle data now).handler = channel.handler := rfl

/-- A built-in handler reports the same whatever table it is shown. -/
theorem steps_of_builtIn {channel : Channel} (h : channel.handler.IsBuiltIn)
    (table other : List Signal) (data : Payload) (now : Time) :
    channel.steps table data now = channel.steps other data now := by
  simp only [steps, h.apply_eq _ table other]

/-- What a frame of a key leaves of a channel: only the channels of the key are
concerned. -/
def settleFor (key : Key) (data : Payload) (now : Time) (channel : Channel) : Channel :=
  if channel.signal.key == key then channel.settle data now else channel

@[simp] theorem settleFor_key (key : Key) (data : Payload) (now : Time) (channel : Channel) :
    (channel.settleFor key data now).signal.key = channel.signal.key := by
  unfold settleFor
  split <;> rfl

@[simp] theorem settleFor_handler (key : Key) (data : Payload) (now : Time) (channel : Channel) :
    (channel.settleFor key data now).handler = channel.handler := by
  unfold settleFor
  split <;> rfl

/-- Channels of other keys are left as they are. -/
theorem map_settleFor_of_ne {row : List Channel} {key : Key}
    (h : ∀ channel ∈ row, channel.signal.key ≠ key) (data : Payload) (now : Time) :
    row.map (settleFor key data now) = row := by
  have hsame : ∀ channel ∈ row, settleFor key data now channel = id channel := by
    intro channel hmember
    have hother : ¬ (channel.signal.key == key) := by simpa using h channel hmember
    rw [settleFor, if_neg hother, id]
  rw [List.map_congr_left hsame, List.map_id]

end Channel

namespace Router

variable {data : Payload} {now : Time}

/-- Nothing stands at a place behind the table. -/
theorem translateAt_of_none {channels : List Channel} {place : Nat}
    (h : channels[place]? = none) (data : Payload) (now : Time) :
    translateAt channels place data now = (channels, []) := by
  rw [translateAt, h]

/-- A cycle settles the channel at its place, whose handler is shown the table with the
sampled signal in it. -/
theorem translateAt_of_some {channels : List Channel} {place : Nat} {channel : Channel}
    (h : channels[place]? = some channel) (data : Payload) (now : Time) :
    translateAt channels place data now =
      (channels.set place (channel.settle data now),
        channel.steps ((channels.map (·.signal)).set place (channel.signal.sample data now).1)
          data now) := by
  rw [translateAt, h]
  rfl

/-- A cycle at a place settles the channel there and takes its steps. -/
theorem translateAt_append (front back : List Channel) (channel : Channel) (data : Payload)
    (now : Time) :
    ∃ table, translateAt (front ++ channel :: back) front.length data now =
      (front ++ channel.settle data now :: back, channel.steps table data now) := by
  have hplace : (front ++ channel :: back)[front.length]? = some channel := by simp
  have hset : (front ++ channel :: back).set front.length (channel.settle data now) =
      front ++ channel.settle data now :: back := by simp
  rw [← hset]
  exact ⟨_, translateAt_of_some hplace data now⟩

/-- The chosen channels of a row behind another one are settled, whatever their
handlers; with built-in handlers the steps are those of the single channels. -/
theorem translateAll_append (chosen : Channel → Bool) (front row : List Channel) :
    (translateAll data now (front ++ row) (row.findIdxs chosen front.length)).1 =
        front ++ row.map (fun channel => if chosen channel then channel.settle data now else channel) ∧
      ((∀ channel ∈ row, channel.handler.IsBuiltIn) →
        (translateAll data now (front ++ row) (row.findIdxs chosen front.length)).2 =
          (row.filter chosen).flatMap fun channel => channel.steps [] data now) := by
  induction row generalizing front with
  | nil => simp [translateAll]
  | cons channel rest ih =>
      rw [List.findIdxs_cons]
      by_cases hchosen : chosen channel
      · obtain ⟨table, hcycle⟩ := translateAt_append front rest channel data now
        obtain ⟨hchannels, hsteps⟩ := ih (front ++ [channel.settle data now])
        simp only [List.append_assoc, List.singleton_append, List.length_append,
          List.length_singleton] at hchannels hsteps
        rw [if_pos hchosen, translateAll, hcycle]
        constructor
        · simp [hchannels, hchosen]
        · intro hbuiltIn
          have hown := hbuiltIn channel List.mem_cons_self
          have hothers := hsteps fun other hother => hbuiltIn other (List.mem_cons_of_mem _ hother)
          simp [hothers, hchosen, Channel.steps_of_builtIn hown table []]
      · obtain ⟨hchannels, hsteps⟩ := ih (front ++ [channel])
        simp only [List.append_assoc, List.singleton_append, List.length_append,
          List.length_singleton] at hchannels hsteps
        rw [if_neg hchosen]
        constructor
        · simp [hchannels, hchosen]
        · intro hbuiltIn
          have hothers := hsteps fun other hother => hbuiltIn other (List.mem_cons_of_mem _ hother)
          simp [hothers, hchosen]

/-- **The table after a frame.**  The channels of the key are settled, and nothing
else changes. -/
theorem translateAll_channels (channels : List Channel) (key : Key) :
    (translateAll data now channels (places channels key)).1 =
      channels.map (Channel.settleFor key data now) :=
  (translateAll_append (·.signal.key == key) [] channels).1

/-- The steps of a frame are those of the channels of its key, in order. -/
theorem translateAll_steps {channels : List Channel}
    (hbuiltIn : ∀ channel ∈ channels, channel.handler.IsBuiltIn) (key : Key) :
    (translateAll data now channels (places channels key)).2 =
      (channels.filter (·.signal.key == key)).flatMap fun channel => channel.steps [] data now :=
  (translateAll_append (·.signal.key == key) [] channels).2 hbuiltIn

end Router

end VehicleBus

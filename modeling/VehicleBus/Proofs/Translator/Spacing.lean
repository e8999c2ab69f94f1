import VehicleBus.Proofs.Sampling.Gate
import VehicleBus.Proofs.Translator.Isolation
import VehicleBus.Proofs.Translator.Reach

/-!
# Reports keep their distance

A signal that does not force its changes is reported only when its clock ticks, and
the clock is polled once for each frame of its key.  So the times of its reports are
among the ticks of the clock (`Clocked.reportTimes_sublist`), and these are apart from
each other.

A report may be missing although the clock ticked: the value did not change, the
handler had nothing to report, the message was refused.  That only makes the distances
larger, as does a time source that runs backwards.
-/

namespace VehicleBus

open Sampling (Clock)

/-! ## Handlers -/

/-- A handler that never sends what it is told to hold back. -/
def Handler.Withholds (handler : Handler) : Prop :=
  ∀ signal table value, (handler.apply signal table value false).2 = false

/-- Built-in handlers report nothing that the gate holds back. -/
theorem Handler.IsBuiltIn.withholds {handler : Handler} (h : handler.IsBuiltIn) :
    handler.Withholds := by
  intro signal table value
  cases handler with
  | passthrough => rfl
  | boolean => rfl
  | ignore => rfl
  | state =>
      rw [apply]
      split <;> rfl
  | customNumeric strategy => exact h.elim
  | customBoolean strategy => exact h.elim
  | customText strategy => exact h.elim

/-- A channel that is reported only when its clock ticks. -/
structure Channel.Paced (channel : Channel) : Prop where
  unforced : channel.signal.forceChanged = false
  withholds : channel.handler.Withholds

/-- Settling keeps a channel paced. -/
theorem Channel.Paced.settleFor {channel : Channel} (h : channel.Paced) (key : Key)
    (data : Payload) (now : Time) : (channel.settleFor key data now).Paced := by
  unfold Channel.settleFor
  split
  · exact ⟨h.unforced, h.withholds⟩
  · exact h

/-! ## Frames -/

/-- A paced channel reports nothing between the ticks of its clock. -/
theorem Call.report?_of_not_due {call : Call} (h : call.channel.Paced)
    (hdue : ¬ call.channel.signal.clock.due call.now = true) : call.report? = none := by
  have hheld : call.sampled.2.send = false := by
    rw [sampled, Signal.sample_send, h.unforced, eq_false_of_ne_true hdue, Bool.and_false,
      Bool.or_false, Bool.false_and]
  have hanswer : call.answer.2 = false := by
    rw [answer, hheld]
    exact h.withholds _ _ _
  rw [report?, hanswer]
  rfl

namespace Router.Sound

variable {router : Router} {channel : Channel} {key : Key} {data : Payload} {now : Time}

/-- A frame calls at most one channel of a name. -/
theorem countP_callsOf_le_one (h : router.Sound) (name : String) :
    (router.callsOf key data now).countP (·.channel.signal.name == name) ≤ 1 := by
  have hchannels : ((router.callsOf key data now).map (·.channel)).Sublist router.channels := by
    rw [router.callsOf_channels]
    exact List.filter_sublist
  have hnames : ((router.callsOf key data now).map (·.channel.signal.name)).Nodup := by
    have hsublist := hchannels.map (·.signal.name)
    rw [List.map_map] at hsublist
    exact h.names.sublist hsublist
  have hcount := List.nodup_iff_count_le_one.mp hnames name
  rwa [List.count_eq_countP, List.countP_map] at hcount

/-- A report under the name of a paced channel comes from this channel, at a tick. -/
theorem due_of_report (h : router.Sound) (hchannel : channel ∈ router.channels)
    (hpaced : channel.Paced) {call : Call} (hcall : call ∈ router.callsOf key data now)
    {message : Message} (hreport : call.report? = some message)
    (hname : message.name? = some channel.signal.name) :
    call.channel.signal.name = channel.signal.name ∧
      channel.signal.key = key ∧ channel.signal.clock.due now = true := by
  rw [Call.name?_of_report? hreport, Option.some_inj] at hname
  obtain ⟨hmember, hkey⟩ := channel_mem_of_mem_callsOf hcall
  have hsame : call.channel = channel := List.inj_on_of_nodup_map h.names hmember hchannel hname
  refine ⟨hname, hsame ▸ hkey, ?_⟩
  by_contra hdue
  rw [← hsame] at hpaced hdue
  rw [← now_of_mem_calls hcall] at hdue
  rw [Call.report?_of_not_due hpaced hdue] at hreport
  cases hreport

/-- The messages of a frame that report a signal: at most one, and none unless the
frame has the key of the signal and the clock ticks. -/
theorem countP_name_le (h : router.Sound) (hchannel : channel ∈ router.channels)
    (hpaced : channel.Paced) (key : Key) (data : Payload) (now : Time) :
    (Step.messages (router.frame key data now).2).countP (·.name? == some channel.signal.name) ≤
      if channel.signal.key = key ∧ channel.signal.clock.due now = true then 1 else 0 := by
  by_cases hsignals : router.channelsOf key = []
  · rw [countP_messages_undecoded h.indexed hsignals rfl]
    exact Nat.zero_le _
  · rw [frame_messages_decoded h.indexed hsignals, List.countP_filterMap]
    have hcause : ∀ call ∈ router.callsOf key data now,
        (call.report?.map (·.name? == some channel.signal.name)).getD false = true →
          call.channel.signal.name = channel.signal.name ∧
            channel.signal.key = key ∧ channel.signal.clock.due now = true := by
      intro call hcall hreported
      cases hreport : call.report? with
      | none => simp [hreport] at hreported
      | some message =>
          rw [hreport] at hreported
          exact h.due_of_report hchannel hpaced hcall hreport (eq_of_beq hreported)
    split
    · refine Nat.le_trans (List.countP_mono_left ?_) (h.countP_callsOf_le_one channel.signal.name)
      exact fun call hcall hreported => beq_iff_eq.mpr (hcause call hcall hreported).1
    · rename_i hquiet
      rw [Nat.le_zero, List.countP_eq_zero]
      exact fun call hcall hreported => hquiet (hcause call hcall hreported).2

end Router.Sound

/-! ## Runs -/

/-- The times of the frames of a key among some inputs. -/
def Input.frameTimes (key : Key) : Time → List Input → List Time
  | _, [] => []
  | _, .clock now :: rest => frameTimes key now rest
  | now, .frame other _ :: rest =>
    if other = key then now :: frameTimes key now rest else frameTimes key now rest

/-- They are times of the clock. -/
theorem Input.frameTimes_lt {key : Key} {now : Time} {inputs : List Input} {bound : Nat}
    (hnow : now.toNat < bound) (hclock : ∀ later, .clock later ∈ inputs → later.toNat < bound) :
    ∀ time ∈ frameTimes key now inputs, time.toNat < bound := by
  induction inputs generalizing now with
  | nil => exact fun time hmember => absurd hmember List.not_mem_nil
  | cons input rest ih =>
      have hrest : ∀ later, .clock later ∈ rest → later.toNat < bound :=
        fun later hmember => hclock later (List.mem_cons_of_mem _ hmember)
      cases input with
      | clock later => exact ih (hclock later List.mem_cons_self) hrest
      | frame other data =>
          rw [frameTimes]
          split
          · intro time hmember
            rcases List.mem_cons.mp hmember with rfl | hlater
            · exact hnow
            · exact ih hnow hrest time hlater
          · exact ih hnow hrest

/-- The clock of a channel ticks at a frame, or the frame is not for it. -/
theorem Channel.ticks_frame (channel : Channel) (key : Key) (data : Payload) (now : Time)
    (rest : List Input) :
    channel.signal.clock.ticks (Input.frameTimes channel.signal.key now (.frame key data :: rest)) =
      List.replicate (if channel.signal.key = key ∧ channel.signal.clock.due now = true then 1 else 0)
          now ++
        (channel.settleFor key data now).signal.clock.ticks
          (Input.frameTimes channel.signal.key now rest) := by
  by_cases hkey : channel.signal.key = key
  · have hclock : (channel.settleFor key data now).signal.clock =
        (channel.signal.clock.poll now).1 := by
      rw [settleFor, if_pos (beq_iff_eq.mpr hkey)]
      rfl
    rw [Input.frameTimes, if_pos hkey.symm, Clock.ticks, hclock]
    by_cases hdue : channel.signal.clock.due now = true
    · rw [if_pos hdue, if_pos ⟨hkey, hdue⟩]
      rfl
    · rw [if_neg hdue, if_neg fun h => hdue h.2]
      rfl
  · have hclock : channel.settleFor key data now = channel := by
      rw [settleFor, if_neg (mt eq_of_beq hkey)]
    rw [Input.frameTimes, if_neg (Ne.symm hkey), if_neg fun h => hkey h.1, hclock]
    rfl

namespace Clocked

/-- When a signal was reported in the course of a run: the time of the frame, once for
each message under the name of the signal that was put out. -/
def reportTimes (name : String) : Clocked → List Input → List Time
  | _, [] => []
  | clocked, input :: rest =>
    ((clocked.emitted input).filter (·.1.name? == some name)).map (fun _ => clocked.now) ++
      reportTimes name (clocked.feed input) rest

/-- What is put out was asked for. -/
theorem length_filter_emitted_le (clocked : Clocked) (input : Input) (p : Message → Bool) :
    ((clocked.emitted input).filter (p ·.1)).length ≤ (clocked.asked input).countP p := by
  rw [← List.countP_eq_length_filter, emitted, List.countP_filterMap]
  apply List.countP_mono_left
  intro message _
  cases (clocked.translator.pipeline.format.encode message).toOption <;> simp

/-- **Reports are ticks.** -/
theorem reportTimes_sublist {clocked : Clocked} (hsound : clocked.translator.router.Sound)
    {channel : Channel} (hchannel : channel ∈ clocked.translator.router.channels)
    (hpaced : channel.Paced) (inputs : List Input) :
    (clocked.reportTimes channel.signal.name inputs).Sublist
      (channel.signal.clock.ticks (Input.frameTimes channel.signal.key clocked.now inputs)) := by
  induction inputs generalizing clocked channel with
  | nil => exact List.Sublist.refl _
  | cons input rest ih =>
      cases input with
      | clock now =>
          exact ih (show (clocked.feed (.clock now)).translator.router.Sound from hsound) hchannel hpaced
      | frame key data =>
          have hnext : channel.settleFor key data clocked.now ∈
              (clocked.feed (.frame key data)).translator.router.channels := by
            show _ ∈ (clocked.translator.router.frame key data clocked.now).1.channels
            rw [Router.frame_channels hsound.indexed]
            exact List.mem_map_of_mem hchannel
          have hrest := ih (hsound.frame key data clocked.now) hnext (hpaced.settleFor _ _ _)
          rw [Channel.settleFor_name, Channel.settleFor_key] at hrest
          have hcount := Nat.le_trans
            (clocked.length_filter_emitted_le (.frame key data) (·.name? == some channel.signal.name))
            (hsound.countP_name_le hchannel hpaced key data clocked.now)
          have hhead := (List.replicate_sublist_replicate clocked.now).mpr hcount
          rw [← List.map_const'] at hhead
          rw [channel.ticks_frame]
          exact hhead.append hrest

/-- **Reports of a signal keep their distance.**  For any translator that a program
holds and a signal with a positive frequency that does not force its changes and whose
handler is built in, or never sends what it is told to hold back: over any frames and
clock settings, the later of two reports is at a later time, and at least one period of
the signal after the earlier one. -/
theorem reports_apart {made : Clocked} {announced : List Config.Bus}
    (hmade : made.translator.Made announced) (actions : List Action) {channel : Channel}
    (hchannel : channel ∈ (made.acts actions).translator.router.channels)
    (hfrequency : channel.signal.clock.frequency.isPositive = true)
    (hforce : channel.signal.forceChanged = false)
    (hhandler : channel.handler.IsBuiltIn ∨ channel.handler.Withholds)
    (hnow : (made.acts actions).now.toNat < 2 ^ 53) {inputs : List Input}
    (hclock : ∀ now, .clock now ∈ inputs → now.toNat < 2 ^ 53) :
    ∃ period, channel.signal.clock.HasPeriod period ∧
      ((made.acts actions).reportTimes channel.signal.name inputs).Pairwise (Clock.Apart period) := by
  have hsound := acts_sound hmade.sound actions
  have hpaced : channel.Paced := ⟨hforce, hhandler.elim Handler.IsBuiltIn.withholds id⟩
  have hfinite : channel.signal.clock.frequency.isFinite = true := by
    have hvalid := (hsound.valid channel hchannel).frequency
    rw [Clock.validFrequency, Bool.and_eq_true] at hvalid
    exact hvalid.1
  obtain ⟨period, hperiod⟩ := Clock.exists_hasPeriod hfinite hfrequency
  have hbound : ∀ time ∈ Input.frameTimes channel.signal.key (made.acts actions).now inputs,
      time.toNat < 2 ^ 53 := Input.frameTimes_lt hnow hclock
  have hticks := (hperiod.ticks_apart hbound).1
  exact ⟨period, hperiod, hticks.sublist (reportTimes_sublist hsound hchannel hpaced inputs)⟩

/-- A signal that is reported ten times a second at most. -/
def tenHertz : Channel where
  signal := {
    name := "speed", key := ⟨2, 7⟩, position := 0, size := 8, clock := .ofFrequency ⟨0x41200000⟩ }

/-- Of five frames, one of which comes when the clock was set back, two are reported. -/
theorem reports_apart_ten_hertz :
    let made : Clocked :=
      ⟨⟨Router.configured twoBuses, { format := .json, sink := .emptyBuffer }⟩, 100⟩
    let start := made.acts [.operate (.addChannel tenHertz)]
    let inputs : List Input := [.frame ⟨2, 7⟩ 1, .clock 150, .frame ⟨2, 7⟩ 2, .clock 50,
      .frame ⟨2, 7⟩ 3, .clock 205, .frame ⟨1, 0x128⟩ 4, .frame ⟨2, 7⟩ 5, .clock 300,
      .frame ⟨2, 7⟩ 6]
    tenHertz ∈ start.translator.router.channels ∧ start.reportTimes "speed" inputs = [100, 205] ∧
      ∃ period, tenHertz.signal.clock.HasPeriod period ∧
        (start.reportTimes "speed" inputs).Pairwise (Clock.Apart period) := by
  intro made start inputs
  have hbuilt : Translator.ofVehicle twoBuses .emptyBuffer =
      .ok (made.translator, [.ready 2 2 .json]) := rfl
  have hadded : start.translator.router.channels = twoBuses.channels ++ [tenHertz] := rfl
  have hchannel : tenHertz ∈ start.translator.router.channels := by simp [hadded]
  have htimes : start.reportTimes "speed" inputs = [100, 205] := by decide +kernel
  have hclock : ∀ now, .clock now ∈ inputs → now.toNat < 2 ^ 53 := by simp [inputs]
  exact ⟨hchannel, htimes, reports_apart (.configured hbuilt) _ hchannel rfl rfl (.inl trivial)
    (by decide) hclock⟩

end Clocked

end VehicleBus

import VehicleBus.Proofs.Sampling.History
import VehicleBus.Proofs.Translator.Accounting
import VehicleBus.Proofs.Translator.Spacing

/-!
# Every signal has its own history

The history of a signal are the frames of its key, each with its payload and its time.
Whatever else a program does with a translator, and whatever the handlers are, the signal is
what its history leaves of it (`Clocked.mem_signals_acts`).  So what is known about rows of
cycles is known about every run (`Clocked.state_by_history`).
-/

namespace VehicleBus

open Sampling (Clock)

/-! ## Frames -/

/-- What a frame leaves of a signal. -/
theorem Channel.settleFor_signal (channel : Channel) (key : Key) (data : Payload) (now : Time) :
    (channel.settleFor key data now).signal =
      channel.signal.cycles (if channel.signal.key = key then [(data, now)] else []) := by
  unfold settleFor
  by_cases hkey : channel.signal.key = key
  · rw [if_pos (beq_iff_eq.mpr hkey), if_pos hkey]
    rfl
  · rw [if_neg (mt eq_of_beq hkey), if_neg hkey]
    rfl

namespace Router

variable {router : Router} {signal : Signal}

/-- After a frame, every signal went through one cycle more if the frame has its key, and
through none otherwise. -/
theorem Sound.mem_signals_frame (h : router.Sound) (hsignal : signal ∈ router.signals) (key : Key)
    (data : Payload) (now : Time) :
    signal.cycles (if signal.key = key then [(data, now)] else []) ∈
      (router.frame key data now).1.signals := by
  obtain ⟨channel, hchannel, rfl⟩ := List.mem_map.mp hsignal
  rw [signals, frame_channels h.indexed, ← channel.settleFor_signal]
  exact List.mem_map_of_mem (List.mem_map_of_mem hchannel)

/-- Names tell signals apart. -/
theorem Sound.find?_signal (h : router.Sound) (hsignal : signal ∈ router.signals) :
    Signal.find? signal.name router.signals = some signal := by
  have hnames : (router.signals.map (·.name)).Nodup := by
    rw [signals, List.map_map]
    exact h.names
  exact find?_label_of_nodup hnames hsignal

/-- The frequencies in a table are numbers. -/
theorem Sound.isFinite_frequency (h : router.Sound) (hsignal : signal ∈ router.signals) :
    signal.clock.frequency.isFinite = true := by
  obtain ⟨channel, hchannel, rfl⟩ := List.mem_map.mp hsignal
  have hvalid := (h.valid channel hchannel).frequency
  rw [Clock.validFrequency, Bool.and_eq_true] at hvalid
  exact hvalid.1

/-- A frame calls a handler for every signal of its key. -/
theorem exists_call_of_mem (hsignal : signal ∈ router.signals) (data : Payload) (now : Time) :
    ∃ call ∈ router.callsOf signal.key data now, call.channel.signal = signal := by
  obtain ⟨channel, hchannel, rfl⟩ := List.mem_map.mp hsignal
  have hmember : channel ∈ (router.callsOf channel.signal.key data now).map (·.channel) := by
    rw [router.callsOf_channels]
    exact List.mem_filter.mpr ⟨hchannel, beq_self_eq_true channel.signal.key⟩
  obtain ⟨call, hcall, rfl⟩ := List.mem_map.mp hmember
  exact ⟨call, hcall, rfl⟩

end Router

/-! ## Runs -/

namespace Clocked

/-- The frame of a key that an action delivers, with its time. -/
def framesOf (key : Key) (clocked : Clocked) : Action → List (Payload × Time)
  | .operate (.input (.frame other data)) => if key = other then [(data, clocked.now)] else []
  | _ => []

/-- The frames of a key that a run delivers. -/
def historyOf (key : Key) (clocked : Clocked) (actions : List Action) : List (Payload × Time) :=
  along (framesOf key) clocked actions

variable {clocked : Clocked} {signal : Signal}

/-- One action: frames of its key run a cycle of a signal, and nothing else shows in it. -/
theorem mem_signals_act (hsound : clocked.translator.router.Sound)
    (hsignal : signal ∈ clocked.translator.router.signals) (action : Action) :
    signal.cycles (framesOf signal.key clocked action) ∈
      (clocked.act action).translator.router.signals := by
  unfold framesOf
  split
  · exact hsound.mem_signals_frame hsignal _ _ _
  · rename_i hother
    have hframe : action.isFrame = false := by
      rw [← Bool.not_eq_true, Action.isFrame_iff]
      rintro ⟨key, data, rfl⟩
      exact hother key data rfl
    cases hbus : action.bus? with
    | some bus =>
        rw [clocked.act_of_bus? hbus]
        exact hsignal
    | none => exact (clocked.act_adjusts hbus hframe).signals_stay.subset hsignal

/-- **A signal is what its history leaves of it.** -/
theorem mem_signals_acts (hsound : clocked.translator.router.Sound)
    (hsignal : signal ∈ clocked.translator.router.signals) (actions : List Action) :
    signal.cycles (historyOf signal.key clocked actions) ∈
      (clocked.acts actions).translator.router.signals := by
  induction actions generalizing clocked signal with
  | nil => exact hsignal
  | cons action rest ih =>
      have hrest := ih (act_sound hsound action) (mem_signals_act hsound hsignal action)
      rw [(signal.cycles_fixed _).2.1] at hrest
      rw [historyOf, along, Signal.cycles_append]
      exact hrest

/-- **The state of a signal is a matter of its own history.**  For any translator that a
program holds and a signal in its table that is new, with whatever frequency, flags and
handler: whatever the program does from then on, the signal has been received, and its clock
has ticked, exactly if a frame of its key was handled, and its value is that of the latest
one.  Its first frame opens the gate.  What was received stays received, and if the
frequency is positive the last tick is never set back, even when the time is. -/
theorem state_by_history {made : Clocked} {announced : List Config.Bus}
    (hmade : made.translator.Made announced) (setup : List Action) {signal : Signal}
    (hsignal : signal ∈ (made.acts setup).translator.router.signals) (hfresh : signal.Fresh)
    (hzero : signal.lastValue = Binary64.zero) (actions : List Action) :
    let start := made.acts setup
    let after := start.acts actions
    let history := historyOf signal.key start actions
    ∃ current, Signal.find? signal.name after.translator.router.signals = some current ∧
      signal.Follows history current ∧
      (∀ data, ∃ call ∈ after.translator.router.callsOf signal.key data after.now,
        call.channel.signal = current ∧ (history = [] → call.sampled.2.send = true)) ∧
      ∀ more, ∃ later,
        Signal.find? signal.name (after.acts more).translator.router.signals = some later ∧
        (current.received = true → later.received = true) ∧
        (signal.clock.frequency.isPositive = true → ∀ tick, current.clock.lastTick = some tick →
          ∃ last, later.clock.lastTick = some last ∧ tick ≤ last) := by
  intro start after history
  have hstart : start.translator.router.Sound := acts_sound hmade.sound setup
  have hafter : after.translator.router.Sound := acts_sound hstart actions
  have hcurrent : signal.cycles history ∈ after.translator.router.signals :=
    mem_signals_acts hstart hsignal actions
  obtain ⟨hname, hkey, -, hfrequency⟩ := signal.cycles_fixed history
  refine ⟨signal.cycles history, ?_, hfresh.follows hzero history, ?_, ?_⟩
  · rw [← hname]
    exact hafter.find?_signal hcurrent
  · intro data
    obtain ⟨call, hcall, hsame⟩ := Router.exists_call_of_mem hcurrent data after.now
    rw [hkey] at hcall
    refine ⟨call, hcall, hsame, ?_⟩
    intro hnone
    rw [Call.sampled, hsame, hnone]
    exact hfresh.sample_send call.data call.now
  · intro more
    have hlater := mem_signals_acts hafter hcurrent more
    have hfound := (acts_sound hafter more).find?_signal hlater
    rw [((signal.cycles history).cycles_fixed _).1, hname] at hfound
    refine ⟨_, hfound, ?_, ?_⟩
    · intro hreceived
      have hbegun := hfresh.begun_cycles ((hfresh.received_cycles_iff history).mp hreceived)
      exact (hbegun.cycles _).received
    · intro hpositive tick htick
      obtain ⟨period, hperiod⟩ := Clock.exists_hasPeriod (hafter.isFinite_frequency hcurrent)
        (hfrequency.symm ▸ hpositive)
      exact Signal.lastTick_cycles hperiod htick _

/-- A signal that is read once, and again when the clock was set back: its value is the
second one, its tick still the first. -/
theorem state_by_history_ten_hertz :
    let made : Clocked :=
      ⟨⟨Router.configured twoBuses, { format := .json, sink := .emptyBuffer }⟩, 100⟩
    let start := made.acts [.operate (.addChannel tenHertz)]
    let actions : List Action := [.operate (.input (.frame ⟨2, 7⟩ 0x0100000000000000)),
      .operate (.input (.clock 50)), .operate (.input (.frame ⟨2, 7⟩ 0x0200000000000000))]
    let history : List (Payload × Time) := [(0x0100000000000000, 100), (0x0200000000000000, 50)]
    tenHertz.signal ∈ start.translator.router.signals ∧ tenHertz.signal.Fresh ∧
      tenHertz.signal.lastValue = Binary64.zero ∧ historyOf ⟨2, 7⟩ start actions = history ∧
      ∃ current, Signal.find? "speed" (start.acts actions).translator.router.signals = some current ∧
        tenHertz.signal.Follows history current ∧
        current.lastValue = Binary64.ofNat 2 ∧ current.clock.lastTick = some 100 := by
  intro made start actions history
  have hbuilt : Translator.ofVehicle twoBuses .emptyBuffer =
      .ok (made.translator, [.ready 2 2 .json]) := rfl
  have hadded : start.translator.router.channels = twoBuses.channels ++ [tenHertz] := rfl
  have hsignal : tenHertz.signal ∈ start.translator.router.signals := by
    simp [Router.signals, hadded]
  have hfresh : tenHertz.signal.Fresh := ⟨rfl, rfl⟩
  have hhistory : historyOf ⟨2, 7⟩ start actions = history := rfl
  obtain ⟨current, hfound, hfollows, -, -⟩ :=
    state_by_history (.configured hbuilt) _ hsignal hfresh rfl actions
  refine ⟨hsignal, hfresh, rfl, hhistory, current, hfound, hfollows, ?_, ?_⟩
  · rw [hfollows.state]
    decide +kernel
  · rw [hfollows.state]
    decide +kernel

end Clocked

end VehicleBus

import VehicleBus.Proofs.Message
import VehicleBus.Proofs.Config.Check

/-!
# Valid channels

`Channel.Valid` says in plain terms what `Channel.validate` looks for.  Most of it is
about what a signal is defined to be and not about what is remembered of it, so a
channel stays valid whatever frames come; only the handler can be changed later, and
a handler that names states needs some.
-/

namespace VehicleBus

namespace Channel

/-- The channels that are let into a signal table. -/
structure Valid (channel : Channel) : Prop where
  name : channel.signal.name.utf8ByteSize ≤ nameLimit
  named : channel.signal.name ≠ ""
  size : channel.signal.size ≠ 0
  inPayload : channel.signal.position.toNat + channel.signal.size.toNat ≤ 64
  factor : channel.signal.factor.isFinite = true
  offset : channel.signal.offset.isFinite = true
  frequency : Sampling.Clock.validFrequency channel.signal.clock.frequency = true
  states : channel.handler.isState = true → channel.signal.states ≠ []
  stateNames : ∀ state ∈ channel.signal.states, state.name.utf8ByteSize ≤ nameLimit

/-- Nothing is wrong with a channel exactly if it is valid. -/
theorem faults_eq_nil_iff {channel : Channel} : channel.faults = [] ↔ channel.Valid := by
  have hstates : (channel.signal.states.flatMap fun state =>
        (overlong? .stateName nameLimit state.name).toList) = [] ↔
      ∀ state ∈ channel.signal.states, state.name.utf8ByteSize ≤ nameLimit := by
    simp [List.flatMap_eq_nil_iff, overlong?_eq_none_iff]
  simp only [faults, List.append_eq_nil_iff, faultIf_eq_nil_iff, hstates,
    Option.toList_eq_nil_iff, overlong?_eq_none_iff]
  constructor
  · rintro ⟨⟨⟨⟨⟨⟨hname, hnamed⟩, hsize⟩, hscaling⟩, hfrequency⟩, hhandler⟩, hnames⟩
    simp only [Bool.or_eq_false_iff, beq_eq_false_iff_ne, decide_eq_false_iff_not, Nat.not_lt,
      Bool.not_eq_false'] at hsize hscaling hfrequency
    refine ⟨hname, ?_, hsize.1, hsize.2, hscaling.1, hscaling.2, hfrequency, ?_, hnames⟩
    · simpa using hnamed
    · intro hstate
      simpa [hstate] using hhandler
  · intro h
    refine ⟨⟨⟨⟨⟨⟨h.name, ?_⟩, ?_⟩, ?_⟩, ?_⟩, ?_⟩, h.stateNames⟩
    · simpa using h.named
    · simp [h.size, Nat.not_lt.mpr h.inPayload]
    · simp [h.factor, h.offset]
    · simp [h.frequency]
    · cases hstate : channel.handler.isState with
      | false => rfl
      | true => simpa using h.states hstate

/-- A channel is accepted exactly if it is valid. -/
theorem validate_eq_ok_iff_valid {channel : Channel} :
    channel.validate = .ok () ↔ channel.Valid :=
  validate_eq_ok_iff.trans faults_eq_nil_iff

/-- A valid channel takes any handler, a state handler if there are states. -/
theorem Valid.withHandler {channel : Channel} (h : channel.Valid) {handler : Handler}
    (hstates : handler.isState = true → channel.signal.states ≠ []) :
    Valid { channel with handler } :=
  ⟨h.name, h.named, h.size, h.inPayload, h.factor, h.offset, h.frequency, hstates, h.stateNames⟩

end Channel

end VehicleBus

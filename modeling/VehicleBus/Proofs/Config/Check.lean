import VehicleBus.Config.Check

/-!
# What a check accepts

`Vehicle.Valid` says in plain terms what `Vehicle.validate` looks for, and the two
agree on every configuration (`Vehicle.validate_eq_ok_iff`).

Buses, decoded messages and signals are compared with those before them;
forwarded messages are compared with the decoded ones only.
-/

namespace VehicleBus

@[simp] theorem Channel.faultIf_eq_nil_iff {present : Bool} {fault : Fault} :
    faultIf present fault = [] ↔ present = false := by
  cases present <;> simp [faultIf]

/-- A channel is accepted exactly if nothing is wrong with it. -/
theorem Channel.validate_eq_ok_iff {channel : Channel} :
    channel.validate = .ok () ↔ channel.faults = [] := by
  unfold validate
  cases channel.faults <;> simp

namespace Config

open Channel (faultIf faultIf_eq_nil_iff)

/-- A check of every element against those before it finds nothing when no label
occurs twice and nothing else is wrong. -/
theorem flatMap_withEarlier_eq_nil_iff {α β : Type} [BEq β] [LawfulBEq β]
    (label : α → β) (own : α → List Fault) (again : α → Fault) (earlier xs : List α) :
    ((withEarlier earlier xs).flatMap fun (seen, x) =>
        own x ++ faultIf (seen.any fun y => label y == label x) (again x)) = [] ↔
      (∀ x ∈ xs, own x = []) ∧ (xs.map label).Nodup ∧ ∀ x ∈ xs, ∀ y ∈ earlier, label y ≠ label x := by
  induction xs generalizing earlier with
  | nil => simp [withEarlier]
  | cons x rest ih =>
      have hrest := ih (x :: earlier)
      rw [withEarlier, List.flatMap_cons, List.append_eq_nil_iff, hrest]
      have hfirst : own x ++ faultIf (earlier.any fun y => label y == label x) (again x) = [] ↔
          own x = [] ∧ ∀ y ∈ earlier, label y ≠ label x := by
        simp
      rw [hfirst]
      constructor
      · rintro ⟨⟨hown, hnew⟩, hall, hnodup, hapart⟩
        refine ⟨?_, ?_, ?_⟩
        · rintro y (_ | ⟨_, hy⟩)
          · exact hown
          · exact hall y hy
        · rw [List.map_cons, List.nodup_cons]
          refine ⟨fun hmember => ?_, hnodup⟩
          obtain ⟨y, hy, hlabel⟩ := List.mem_map.mp hmember
          exact hapart y hy x List.mem_cons_self hlabel.symm
        · rintro y (_ | ⟨_, hy⟩) z hz
          · exact hnew z hz
          · exact hapart y hy z (List.mem_cons_of_mem _ hz)
      · rintro ⟨hall, hnodup, hapart⟩
        rw [List.map_cons, List.nodup_cons] at hnodup
        refine ⟨⟨hall x List.mem_cons_self, hapart x List.mem_cons_self⟩,
          fun y hy => hall y (List.mem_cons_of_mem _ hy), hnodup.2, ?_⟩
        rintro y hy z (_ | ⟨_, hz⟩) hlabel
        · exact hnodup.1 (hlabel ▸ List.mem_map_of_mem hy)
        · exact hapart y (List.mem_cons_of_mem _ hy) z hz hlabel

/-- The same from the first element on. -/
theorem flatMap_withEarlier_nil_eq_nil_iff {α β : Type} [BEq β] [LawfulBEq β]
    (label : α → β) (own : α → List Fault) (again : α → Fault) (xs : List α) :
    ((withEarlier [] xs).flatMap fun (seen, x) =>
        own x ++ faultIf (seen.any fun y => label y == label x) (again x)) = [] ↔
      (∀ x ∈ xs, own x = []) ∧ (xs.map label).Nodup := by
  rw [flatMap_withEarlier_eq_nil_iff]
  simp

namespace Vehicle

variable {vehicle : Vehicle}

/-- The configurations that pass the check. -/
structure Valid (vehicle : Vehicle) : Prop where
  rawFrequency : Sampling.Clock.validFrequency vehicle.rawFrequency = true
  busAddresses : (vehicle.buses.map (·.address)).Nodup
  knownBuses : vehicle.buses = [] ∨
    ∀ message ∈ vehicle.messages, message.key.bus ∈ vehicle.buses.map (·.address)
  messageKeys : (vehicle.messages.map (·.key)).Nodup
  channels : ∀ channel ∈ vehicle.channels, channel.faults = []
  signalNames : (vehicle.channels.map (·.signal.name)).Nodup
  room : vehicle.rawMessages.length ≤ vehicle.capacity
  rawFrequencies : ∀ raw ∈ vehicle.rawMessages, Sampling.Clock.validFrequency raw.frequency = true
  undecoded : ∀ raw ∈ vehicle.rawMessages, raw.key ∉ vehicle.messages.map (·.key)

/-- Nothing is wrong with the buses if no address is listed twice. -/
theorem busFaults_eq_nil_iff :
    vehicle.busFaults = [] ↔ (vehicle.buses.map (·.address)).Nodup := by
  have h : vehicle.busFaults = [] ↔ _ :=
    flatMap_withEarlier_nil_eq_nil_iff Bus.address (fun _ => [])
      (fun bus => .config (.busDefinedTwice bus.address)) vehicle.buses
  rw [h]
  simp

/-- Nothing is wrong with the messages if each is on a listed bus, as soon as one is
listed, and no key occurs twice. -/
theorem messageFaults_eq_nil_iff :
    vehicle.messageFaults = [] ↔
      (vehicle.buses = [] ∨
        ∀ message ∈ vehicle.messages, message.key.bus ∈ vehicle.buses.map (·.address)) ∧
      (vehicle.messages.map (·.key)).Nodup := by
  have h : vehicle.messageFaults = [] ↔ _ :=
    flatMap_withEarlier_nil_eq_nil_iff MessageDef.key
      (fun message => faultIf (!vehicle.buses.isEmpty && (vehicle.bus? message.key.bus).isNone)
        (.config (.unknownBus message.key)))
      (fun message => .duplicateMessage message.key) vehicle.messages
  have hknown : (∀ message ∈ vehicle.messages,
        faultIf (!vehicle.buses.isEmpty && (vehicle.bus? message.key.bus).isNone)
          (.config (.unknownBus message.key)) = []) ↔
      vehicle.buses = [] ∨
        ∀ message ∈ vehicle.messages, message.key.bus ∈ vehicle.buses.map (·.address) := by
    by_cases hbuses : vehicle.buses = []
    · simp [hbuses]
    · simp [hbuses, bus?]
  rw [h, hknown]

/-- Nothing is wrong with the signals if each is sound by itself and no name occurs twice.
-/
theorem signalFaults_eq_nil_iff :
    vehicle.signalFaults = [] ↔
      (∀ channel ∈ vehicle.channels, channel.faults = []) ∧
      (vehicle.channels.map (·.signal.name)).Nodup :=
  flatMap_withEarlier_nil_eq_nil_iff (fun channel : Channel => channel.signal.name)
    Channel.faults (fun channel => .signal (.nameUsedTwice channel.signal.name)) vehicle.channels

/-- Nothing is wrong with the forwarded messages if their frequencies are valid and none
of them is decoded as well. -/
theorem rawMessageFaults_eq_nil_iff :
    vehicle.rawMessageFaults = [] ↔
      (∀ raw ∈ vehicle.rawMessages, Sampling.Clock.validFrequency raw.frequency = true) ∧
      ∀ raw ∈ vehicle.rawMessages, raw.key ∉ vehicle.messages.map (·.key) := by
  simp only [rawMessageFaults, List.flatMap_eq_nil_iff, List.append_eq_nil_iff,
    faultIf_eq_nil_iff, ← forall_and]
  simp

/-- **The check in plain terms.** -/
theorem validate_eq_ok_iff : vehicle.validate = .ok () ↔ vehicle.Valid := by
  have hnil : vehicle.validate = .ok () ↔ vehicle.faults = [] := by
    unfold validate
    cases vehicle.faults <;> simp
  rw [hnil]
  simp only [faults, List.append_eq_nil_iff, faultIf_eq_nil_iff, busFaults_eq_nil_iff,
    messageFaults_eq_nil_iff, signalFaults_eq_nil_iff, rawMessageFaults_eq_nil_iff,
    Bool.not_eq_false', decide_eq_false_iff_not, Nat.not_lt]
  constructor
  · rintro ⟨⟨⟨⟨⟨hraw, hbuses⟩, hknown, hkeys⟩, hchannels, hnames⟩, hroom⟩, hrates, hundecoded⟩
    exact ⟨hraw, hbuses, hknown, hkeys, hchannels, hnames, hroom, hrates, hundecoded⟩
  · intro h
    exact ⟨⟨⟨⟨⟨h.rawFrequency, h.busAddresses⟩, h.knownBuses, h.messageKeys⟩, h.channels,
      h.signalNames⟩, h.room⟩, h.rawFrequencies, h.undecoded⟩

end Vehicle

end Config

end VehicleBus

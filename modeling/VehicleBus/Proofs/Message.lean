import VehicleBus.Message

/-!
# Messages within their limits

`Message.Bounded` says of a message that each of its texts keeps its limit.  The
check that is made before a message is encoded reports a fault exactly for the
messages that do not.

Which fault that is depends on the row of the texts alone (`Message.texts`): the first
one that is too long is reported, and those behind it are not looked at
(`Message.overlong?_eq_some_iff`).
-/

namespace VehicleBus

/-- A text has a fault exactly when it is longer than its limit. -/
theorem overlong?_eq_none_iff {kind : LimitedText} {limit : Nat} {text : String} :
    overlong? kind limit text = none ↔ text.utf8ByteSize ≤ limit := by
  unfold overlong?
  split
  · simp; omega
  · simp; omega

/-- A text above its limit is reported with its length. -/
theorem overlong?_of_lt {kind : LimitedText} {limit : Nat} {text : String}
    (h : limit < text.utf8ByteSize) :
    overlong? kind limit text = some (.tooLong kind text.utf8ByteSize limit) := if_pos h

/-- The greatest length of a text in bytes. -/
def LimitedText.limit : LimitedText → Nat
  | name => nameLimit
  | value => valueLimit
  | event => valueLimit
  | stateName => nameLimit

namespace Message

/-- Every text of a message keeps its limit. -/
def Bounded : Message → Prop
  | numeric name _ => name.utf8ByteSize ≤ nameLimit
  | boolean name _ => name.utf8ByteSize ≤ nameLimit
  | text name value => name.utf8ByteSize ≤ nameLimit ∧ value.utf8ByteSize ≤ valueLimit
  | evented name value event =>
      name.utf8ByteSize ≤ nameLimit ∧ value.utf8ByteSize ≤ valueLimit ∧
        ∀ content, event = .text content → content.utf8ByteSize ≤ valueLimit
  | raw _ _ => True

/-- No fault is found exactly in the messages within their limits. -/
theorem overlong?_eq_none_iff_bounded {message : Message} :
    message.overlong? = none ↔ message.Bounded := by
  cases message with
  | numeric name value => exact overlong?_eq_none_iff
  | boolean name value => exact overlong?_eq_none_iff
  | text name value =>
      simp only [overlong?, Bounded, Option.or_eq_none_iff, overlong?_eq_none_iff]
  | evented name value event =>
      cases event with
      | number event =>
          simp [overlong?, Bounded, Option.or_eq_none_iff, overlong?_eq_none_iff]
      | flag event =>
          simp [overlong?, Bounded, Option.or_eq_none_iff, overlong?_eq_none_iff]
      | text event =>
          simp [overlong?, Bounded, Option.or_eq_none_iff, overlong?_eq_none_iff, and_assoc]
  | raw key data => simp [overlong?, Bounded]

/-! ## The texts of a message -/

/-- The texts of a message whose length is limited: name, value, event. -/
def texts : Message → List (LimitedText × String)
  | numeric name _ => [(.name, name)]
  | boolean name _ => [(.name, name)]
  | text name value => [(.name, name), (.value, value)]
  | evented name value (.text event) => [(.name, name), (.value, value), (.event, event)]
  | evented name value _ => [(.name, name), (.value, value)]
  | raw _ _ => []

/-- The check goes through the texts in their order. -/
theorem overlong?_eq_findSome? (message : Message) :
    message.overlong? =
      message.texts.findSome? fun entry => VehicleBus.overlong? entry.1 entry.1.limit entry.2 := by
  have hcons : ∀ (first : LimitedText × String) (rest : List (LimitedText × String)),
      (first :: rest).findSome? (fun entry => VehicleBus.overlong? entry.1 entry.1.limit entry.2) =
        (VehicleBus.overlong? first.1 first.1.limit first.2).or
          (rest.findSome? fun entry => VehicleBus.overlong? entry.1 entry.1.limit entry.2) := by
    intro first rest
    rw [List.findSome?_cons]
    cases VehicleBus.overlong? first.1 first.1.limit first.2 <;> rfl
  cases message with
  | numeric name value =>
      simp only [texts, hcons, List.findSome?_nil, Option.or_none]
      rfl
  | boolean name value =>
      simp only [texts, hcons, List.findSome?_nil, Option.or_none]
      rfl
  | text name value =>
      simp only [texts, hcons, List.findSome?_nil, Option.or_none]
      rfl
  | evented name value event =>
      cases event with
      | number event =>
          simp only [overlong?, texts, hcons, List.findSome?_nil, Option.or_none]
          rfl
      | flag event =>
          simp only [overlong?, texts, hcons, List.findSome?_nil, Option.or_none]
          rfl
      | text event =>
          simp only [overlong?, texts, hcons, List.findSome?_nil, Option.or_none, Option.or_assoc]
          rfl
  | raw key data => rfl

/-- **The first text that is too long is reported**, with its length and its limit. -/
theorem overlong?_eq_some_iff {message : Message} {fault : Fault} :
    message.overlong? = some fault ↔
      ∃ front kind content back, message.texts = front ++ (kind, content) :: back ∧
        (∀ entry ∈ front, entry.2.utf8ByteSize ≤ entry.1.limit) ∧
        kind.limit < content.utf8ByteSize ∧
        fault = .tooLong kind content.utf8ByteSize kind.limit := by
  rw [overlong?_eq_findSome?, List.findSome?_eq_some_iff]
  constructor
  · rintro ⟨front, ⟨kind, content⟩, back, htexts, hfault, hfront⟩
    have hlong : kind.limit < content.utf8ByteSize := by
      apply Nat.lt_of_not_le
      intro hfits
      rw [overlong?_eq_none_iff.mpr hfits] at hfault
      cases hfault
    rw [overlong?_of_lt hlong, Option.some_inj] at hfault
    exact ⟨front, kind, content, back, htexts,
      fun entry hmember => overlong?_eq_none_iff.mp (hfront entry hmember), hlong, hfault.symm⟩
  · rintro ⟨front, kind, content, back, htexts, hfront, hlong, rfl⟩
    exact ⟨front, (kind, content), back, htexts, overlong?_of_lt hlong,
      fun entry hmember => overlong?_eq_none_iff.mpr (hfront entry hmember)⟩

/-- No fault is found exactly if all texts keep their limits. -/
theorem overlong?_eq_none_iff_texts {message : Message} :
    message.overlong? = none ↔
      ∀ entry ∈ message.texts, entry.2.utf8ByteSize ≤ entry.1.limit := by
  rw [overlong?_eq_findSome?, List.findSome?_eq_none_iff]
  simp only [overlong?_eq_none_iff]

end Message

end VehicleBus

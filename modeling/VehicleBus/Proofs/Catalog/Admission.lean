import Mathlib.Data.List.Induction
import Mathlib.Data.List.Nodup
import VehicleBus.Proofs.Catalog

/-!
# First come, first served

A catalog is asked for a place in three ways: a key is registered, a definition is
preloaded, a frame is passed on.  All three treat the keys alike.  A key that is
known stays where it is, a new one is put behind the others as long as there is
room, and that is all (`keys_serve`).

The key fact is `foldl_enroll`: keys that are let in by this rule are the first ones
of the row, each at its first occurrence.
-/

namespace VehicleBus.Catalog

/-! ## Rows of keys -/

/-- Let a key in: a known one is not repeated, and there is room for `capacity`. -/
def enroll (capacity : Nat) (known : List Key) (key : Key) : List Key :=
  if key ∈ known ∨ capacity ≤ known.length then known else known ++ [key]

/-- A known key is not enrolled again. -/
theorem enroll_of_mem {capacity : Nat} {known : List Key} {key : Key} (h : key ∈ known) :
    enroll capacity known key = known := if_pos (.inl h)

/-- A full register takes no key. -/
theorem enroll_of_full {capacity : Nat} {known : List Key} {key : Key}
    (h : capacity ≤ known.length) : enroll capacity known key = known := if_pos (.inr h)

/-- A new key is enrolled behind the others if there is room. -/
theorem enroll_of_new {capacity : Nat} {known : List Key} {key : Key} (hnew : key ∉ known)
    (hroom : known.length < capacity) : enroll capacity known key = known ++ [key] :=
  if_neg fun h => h.elim hnew (Nat.not_le_of_lt hroom)

/-- Enrolling keeps to the capacity. -/
theorem enroll_length_le {capacity : Nat} {known : List Key} (h : known.length ≤ capacity)
    (key : Key) : (enroll capacity known key).length ≤ capacity := by
  unfold enroll
  split
  · exact h
  · rename_i henrolled
    rw [not_or, Nat.not_le] at henrolled
    rw [List.length_append, List.length_singleton]
    exact henrolled.2

/-- No key is enrolled twice. -/
theorem nodup_enroll {capacity : Nat} {known : List Key} (h : known.Nodup) (key : Key) :
    (enroll capacity known key).Nodup := by
  unfold enroll
  split
  · exact h
  · rename_i henrolled
    rw [not_or] at henrolled
    rw [← List.concat_eq_append]
    exact h.concat henrolled.1

/-- Enrolling forgets no key and moves none. -/
theorem prefix_enroll (capacity : Nat) (known : List Key) (key : Key) :
    known <+: enroll capacity known key := by
  unfold enroll
  split
  · exact List.prefix_rfl
  · exact List.prefix_append known [key]

/-- A whole row of keys only adds to those that are known. -/
theorem prefix_foldl_enroll (capacity : Nat) (row known : List Key) :
    known <+: row.foldl (enroll capacity) known := by
  induction row generalizing known with
  | nil => exact List.prefix_rfl
  | cons key rest ih => exact (prefix_enroll capacity known key).trans (ih _)

/-- One more key is one more first occurrence, unless it came before. -/
theorem eraseDups_concat (row : List Key) (key : Key) :
    (row ++ [key]).eraseDups = if key ∈ row then row.eraseDups else row.eraseDups ++ [key] := by
  rw [List.eraseDups_append]
  by_cases h : key ∈ row
  · simp [List.removeAll, h]
  · simp [List.removeAll, h, List.eraseDups_cons]

/-- **The first keys get in.**  Of a row of keys the first `capacity` different ones
are let in, in the order of their first occurrences. -/
theorem foldl_enroll (capacity : Nat) (row : List Key) :
    row.foldl (enroll capacity) [] = row.eraseDups.take capacity := by
  induction row using List.reverseRecOn with
  | nil => simp
  | append_singleton row key ih =>
      rw [List.foldl_append, List.foldl_cons, List.foldl_nil, ih, eraseDups_concat]
      by_cases hroom : row.eraseDups.length < capacity
      · -- There was room for all keys so far.
        have hall : row.eraseDups.take capacity = row.eraseDups :=
          List.take_of_length_le (Nat.le_of_lt hroom)
        by_cases hknown : key ∈ row
        · rw [if_pos hknown, hall, enroll_of_mem (List.mem_eraseDups.mpr hknown)]
        · have hnew : key ∉ row.eraseDups := fun h => hknown (List.mem_eraseDups.mp h)
          have hfits : (row.eraseDups ++ [key]).length ≤ capacity := by
            rw [List.length_append, List.length_singleton]
            exact hroom
          rw [if_neg hknown, hall, enroll_of_new hnew hroom, List.take_of_length_le hfits]
      · -- The catalog was full before, and nothing more shows.
        have hfull : capacity ≤ row.eraseDups.length := Nat.not_lt.mp hroom
        have hlength : capacity ≤ (row.eraseDups.take capacity).length := by
          rw [List.length_take]
          omega
        rw [enroll_of_full hlength]
        by_cases hknown : key ∈ row
        · rw [if_pos hknown]
        · rw [if_neg hknown, List.take_append_of_le_length hfull]

/-! ## Requests -/

/-- The keys of the definitions, in the order of the definitions. -/
def keys (catalog : Catalog) : List Key := catalog.definitions.map (·.key)

/-- What can be asked of a catalog. -/
inductive Request where
  | register (key : Key)
  | preload (definition : Definition)
  | pass (key : Key) (data : Payload) (now : Time)
  /-- Change what is remembered of a key, if it is known; the key itself stays. -/
  | adjust (key : Key) (change : Definition → Definition)
      (keeps_key : ∀ definition, (change definition).key = definition.key)

/-- The key that a request wants a place for. -/
def Request.key? : Request → Option Key
  | register key => some key
  | preload definition => some definition.key
  | pass key _ _ => some key
  | adjust _ _ _ => none

/-- The catalog after a request. -/
def serve (catalog : Catalog) : Request → Catalog
  | .register key => (catalog.register key).1
  | .preload definition =>
    match catalog.preload definition with
    | .ok extended => extended
    | .error _ => catalog
  | .pass key data now => (catalog.pass key data now).1
  | .adjust key change _ => catalog.update key change

/-- The answers to the registrations that a request makes.  A frame that is passed
on is registered if its key is new. -/
def registrations (catalog : Catalog) : Request → List Bool
  | .register key => [(catalog.register key).2.1]
  | .pass key _ _ =>
    if (catalog.find? key).isSome then [] else [(catalog.register key).2.1]
  | .preload _ => []
  | .adjust _ _ _ => []

/-- A request that does not get what it wants. -/
def Refuses (catalog : Catalog) : Request → Prop
  | .preload definition => ∃ fault, catalog.preload definition = .error fault
  | request => false ∈ catalog.registrations request

/-- The catalog after a row of requests. -/
def serveAll (catalog : Catalog) (requests : List Request) : Catalog :=
  requests.foldl serve catalog

/-- The answers to all registrations in a row of requests. -/
def allRegistrations : Catalog → List Request → List Bool
  | _, [] => []
  | catalog, request :: rest =>
    catalog.registrations request ++ allRegistrations (catalog.serve request) rest

variable {catalog : Catalog} {key : Key}

/-! ## Single requests -/

/-- A definition is found for the keys of the catalog. -/
theorem find?_isSome_iff_mem_keys : (catalog.find? key).isSome ↔ key ∈ catalog.keys :=
  find?_isSome_iff

/-- No definition is found for any other key. -/
theorem find?_eq_none_iff : catalog.find? key = none ↔ key ∉ catalog.keys := by
  rw [← Option.not_isSome_iff_eq_none, find?_isSome_iff_mem_keys]

/-- A key that is known has a definition. -/
theorem exists_find?_of_mem (h : key ∈ catalog.keys) :
    ∃ definition, catalog.find? key = some definition :=
  Option.isSome_iff_exists.mp (find?_isSome_iff_mem_keys.mpr h)

/-- A catalog is full when it has as many keys as its capacity allows. -/
theorem isFull_iff : catalog.isFull ↔ catalog.capacity ≤ catalog.keys.length := by
  simp [isFull, keys]

@[simp] theorem keys_append (catalog : Catalog) (definition : Definition) :
    (catalog.append definition).keys = catalog.keys ++ [definition.key] := by
  simp [keys, append]

/-- A change that keeps keys keeps those of the catalog. -/
theorem keys_update (catalog : Catalog) (key : Key) {change : Definition → Definition}
    (hkey : ∀ definition, (change definition).key = definition.key) :
    (catalog.update key change).keys = catalog.keys := by
  have hsame : ∀ d ∈ catalog.definitions, (if d.key == key then change d else d).key = d.key := by
    intro d _
    split
    · exact hkey d
    · rfl
  rw [keys, update, List.map_map]
  exact List.map_congr_left hsame

/-- An update of a key that nobody knows does nothing. -/
theorem update_of_notMem (h : key ∉ catalog.keys) (change : Definition → Definition) :
    catalog.update key change = catalog := by
  have hsame : ∀ d ∈ catalog.definitions, (if d.key == key then change d else d) = id d := by
    intro d hmember
    have hne : ¬ (d.key == key) := by
      intro heq
      exact h (eq_of_beq heq ▸ List.mem_map_of_mem hmember)
    rw [if_neg hne, id]
  rw [update, List.map_congr_left hsame, List.map_id]

/-- A key is known, new with room for it, or new without. -/
theorem mem_or_room_or_full (catalog : Catalog) (key : Key) :
    key ∈ catalog.keys ∨ (key ∉ catalog.keys ∧ catalog.keys.length < catalog.capacity) ∨
      (key ∉ catalog.keys ∧ catalog.capacity ≤ catalog.keys.length) := by
  by_cases hknown : key ∈ catalog.keys
  · exact .inl hknown
  · exact .inr ((Nat.lt_or_ge _ _).imp (.intro hknown) (.intro hknown))

/-- Registering in these three cases. -/
theorem register_of_mem (h : key ∈ catalog.keys) : catalog.register key = (catalog, true, []) :=
  if_pos (find?_isSome_iff_mem_keys.mpr h)

/-- Registering a new key with a full catalog is refused, and the refusal is counted. -/
theorem register_of_full (hnew : key ∉ catalog.keys)
    (hfull : catalog.capacity ≤ catalog.keys.length) :
    catalog.register key = ({ catalog with refusals := catalog.refusals + 1 }, false,
      [.refused (catalog.refusals == 0) key catalog.capacity]) := by
  rw [register, if_neg (find?_isSome_iff_mem_keys.not.mpr hnew), if_pos (isFull_iff.mpr hfull)]

/-- Registering a new key adds a definition with the default frequency if there is room.
-/
theorem register_of_new (hnew : key ∉ catalog.keys)
    (hroom : catalog.keys.length < catalog.capacity) :
    catalog.register key =
      (catalog.append { key, clock := .ofFrequency catalog.defaultFrequency }, true, []) := by
  rw [register, if_neg (find?_isSome_iff_mem_keys.not.mpr hnew),
    if_neg (isFull_iff.not.mpr (Nat.not_le_of_lt hroom))]

/-- Preloading in the same three cases. -/
theorem preload_of_mem {definition : Definition} (h : definition.key ∈ catalog.keys) :
    catalog.preload definition = .error (.duplicateMessage definition.key) :=
  if_pos (find?_isSome_iff_mem_keys.mpr h)

/-- Preloading a new definition into a full catalog fails. -/
theorem preload_of_full {definition : Definition} (hnew : definition.key ∉ catalog.keys)
    (hfull : catalog.capacity ≤ catalog.keys.length) :
    catalog.preload definition = .error (.catalogFull definition.key catalog.capacity) := by
  rw [preload, if_neg (find?_isSome_iff_mem_keys.not.mpr hnew), if_pos (isFull_iff.mpr hfull)]

/-- Preloading a new definition adds it if there is room. -/
theorem preload_of_new {definition : Definition} (hnew : definition.key ∉ catalog.keys)
    (hroom : catalog.keys.length < catalog.capacity) :
    catalog.preload definition = .ok (catalog.append definition) := by
  rw [preload, if_neg (find?_isSome_iff_mem_keys.not.mpr hnew),
    if_neg (isFull_iff.not.mpr (Nat.not_le_of_lt hroom))]

/-- A frame of a new key leaves the catalog that registering leaves, but for the
payload that is remembered. -/
theorem pass_of_notMem (h : key ∉ catalog.keys) (data : Payload) (now : Time) :
    (catalog.pass key data now).1 =
      (catalog.register key).1.update key fun d => { d with lastPayload := data } := by
  simp only [pass, find?_eq_none_iff.mpr h]

/-- A frame of a known key changes the clock and the payload of its definition only. -/
theorem pass_of_mem (h : key ∈ catalog.keys) (data : Payload) (now : Time) :
    ∃ clock, (catalog.pass key data now).1 =
      catalog.update key fun d => { d with clock, lastPayload := data } := by
  obtain ⟨definition, hfound⟩ := exists_find?_of_mem h
  exact ⟨(definition.clock.poll now).1, by simp only [pass, hfound]⟩

/-! ## What a request does to the keys -/

/-- Registering a key enrolls it. -/
theorem keys_register (catalog : Catalog) (key : Key) :
    (catalog.register key).1.keys = enroll catalog.capacity catalog.keys key := by
  obtain hknown | ⟨hnew, hroom⟩ | ⟨hnew, hfull⟩ := catalog.mem_or_room_or_full key
  · rw [register_of_mem hknown, enroll_of_mem hknown]
  · rw [register_of_new hnew hroom, enroll_of_new hnew hroom, keys_append]
  · rw [register_of_full hnew hfull, enroll_of_full hfull]
    rfl

theorem keys_pass (catalog : Catalog) (key : Key) (data : Payload) (now : Time) :
    (catalog.pass key data now).1.keys = enroll catalog.capacity catalog.keys key := by
  by_cases hknown : key ∈ catalog.keys
  · obtain ⟨clock, hpass⟩ := pass_of_mem hknown data now
    rw [hpass, enroll_of_mem hknown]
    exact keys_update _ _ fun _ => rfl
  · rw [pass_of_notMem hknown, ← keys_register]
    exact keys_update _ _ fun _ => rfl

/-- **One rule for all requests.**  The key that a request wants a place for, if there
is one, is let in. -/
theorem keys_serve (catalog : Catalog) (request : Request) :
    (catalog.serve request).keys =
      request.key?.toList.foldl (enroll catalog.capacity) catalog.keys := by
  cases request with
  | register key => exact keys_register catalog key
  | preload definition =>
      show (catalog.serve (.preload definition)).keys =
        enroll catalog.capacity catalog.keys definition.key
      rw [serve]
      obtain hknown | ⟨hnew, hroom⟩ | ⟨hnew, hfull⟩ := catalog.mem_or_room_or_full definition.key
      · rw [preload_of_mem hknown, enroll_of_mem hknown]
      · rw [preload_of_new hnew hroom, enroll_of_new hnew hroom]
        exact keys_append catalog definition
      · rw [preload_of_full hnew hfull, enroll_of_full hfull]
  | pass key data now => exact keys_pass catalog key data now
  | adjust key change hkey => exact keys_update catalog key hkey

/-! ## What a request is answered -/

/-- A key is refused exactly if it is unknown to a full catalog. -/
theorem register_eq_false_iff :
    (catalog.register key).2.1 = false ↔
      key ∉ catalog.keys ∧ catalog.capacity ≤ catalog.keys.length := by
  obtain hknown | ⟨hnew, hroom⟩ | ⟨hnew, hfull⟩ := catalog.mem_or_room_or_full key
  · simp [register_of_mem hknown, hknown]
  · simp [register_of_new hnew hroom, hroom]
  · simp [register_of_full hnew hfull, hnew, hfull]

/-- A registration tells whether the key has a place now. -/
theorem register_eq_true_iff :
    (catalog.register key).2.1 = true ↔ key ∈ (catalog.register key).1.keys := by
  rw [← Bool.not_eq_false, register_eq_false_iff, keys_register]
  obtain hknown | ⟨hnew, hroom⟩ | ⟨hnew, hfull⟩ := catalog.mem_or_room_or_full key
  · simp [enroll_of_mem hknown, hknown]
  · simp [enroll_of_new hnew hroom, hroom]
  · simp [enroll_of_full hfull, hnew, hfull]

/-- Whatever makes the registration, the answer is that for the key asked for. -/
theorem eq_register_of_mem_registrations {request : Request} {answer : Bool}
    (hkey : request.key? = some key) (hanswer : answer ∈ catalog.registrations request) :
    answer = (catalog.register key).2.1 := by
  cases request with
  | register asked =>
      cases hkey
      exact List.mem_singleton.mp hanswer
  | preload definition => simp [registrations] at hanswer
  | pass asked data now =>
      cases hkey
      rw [registrations] at hanswer
      split at hanswer
      · cases hanswer
      · exact List.mem_singleton.mp hanswer
  | adjust asked change hchange => cases hkey

/-- A request leaves the capacity, and each registration that is refused counts. -/
theorem serve_counts (catalog : Catalog) (request : Request) :
    (catalog.serve request).capacity = catalog.capacity ∧
      (catalog.serve request).refusals =
        catalog.refusals + (catalog.registrations request).count false := by
  have hregister : ∀ key, (catalog.register key).1.capacity = catalog.capacity ∧
      (catalog.register key).1.refusals =
        catalog.refusals + [(catalog.register key).2.1].count false := by
    intro key
    obtain hknown | ⟨hnew, hroom⟩ | ⟨hnew, hfull⟩ := catalog.mem_or_room_or_full key
    · simp [register_of_mem hknown]
    · simp [register_of_new hnew hroom, append]
    · simp [register_of_full hnew hfull]
  cases request with
  | register key => exact hregister key
  | preload definition =>
      rw [serve]
      obtain hknown | ⟨hnew, hroom⟩ | ⟨hnew, hfull⟩ := catalog.mem_or_room_or_full definition.key
      · rw [preload_of_mem hknown]
        exact ⟨rfl, rfl⟩
      · rw [preload_of_new hnew hroom]
        exact ⟨rfl, rfl⟩
      · rw [preload_of_full hnew hfull]
        exact ⟨rfl, rfl⟩
  | pass key data now =>
      by_cases hknown : key ∈ catalog.keys
      · obtain ⟨clock, hpass⟩ := pass_of_mem hknown data now
        have hfound := find?_isSome_iff_mem_keys.mpr hknown
        rw [serve, registrations, hpass, if_pos hfound]
        exact ⟨rfl, rfl⟩
      · have hnone := find?_isSome_iff_mem_keys.not.mpr hknown
        rw [serve, registrations, pass_of_notMem hknown, if_neg hnone]
        exact hregister key
  | adjust key change hkey => exact ⟨rfl, rfl⟩

/-- **What is refused leaves no trace** but in the count of refusals. -/
theorem serve_of_refuses {request : Request} (h : catalog.Refuses request) :
    catalog.serve request =
      { catalog with
        refusals := catalog.refusals + (catalog.registrations request).count false } := by
  cases request with
  | register key =>
      have hanswer : (catalog.register key).2.1 = false := (List.mem_singleton.mp h).symm
      obtain ⟨hnew, hfull⟩ := register_eq_false_iff.mp hanswer
      simp [serve, registrations, register_of_full hnew hfull]
  | preload definition =>
      obtain ⟨fault, hfault⟩ := h
      rw [serve, hfault]
      rfl
  | pass key data now =>
      have hanswer := (eq_register_of_mem_registrations rfl h).symm
      obtain ⟨hnew, hfull⟩ := register_eq_false_iff.mp hanswer
      have hnone := find?_isSome_iff_mem_keys.not.mpr hnew
      have hrefused : (catalog.register key).1 =
          { catalog with refusals := catalog.refusals + 1 } := by
        rw [register_of_full hnew hfull]
      have hkeys : key ∉ (catalog.register key).1.keys := by
        rw [hrefused]
        exact hnew
      rw [serve, pass_of_notMem hnew, update_of_notMem hkeys, hrefused, registrations, if_neg hnone,
        hanswer]
      rfl
  | adjust key change hkey => cases h

/-! ## Rows of requests -/

theorem capacity_serveAll (catalog : Catalog) (requests : List Request) :
    (catalog.serveAll requests).capacity = catalog.capacity := by
  induction requests generalizing catalog with
  | nil => rfl
  | cons request rest ih => exact (ih (catalog.serve request)).trans (catalog.serve_counts request).1

/-- The keys after a row of requests, for any catalog. -/
theorem keys_serveAll (catalog : Catalog) (requests : List Request) :
    (catalog.serveAll requests).keys =
      (requests.filterMap Request.key?).foldl (enroll catalog.capacity) catalog.keys := by
  induction requests generalizing catalog with
  | nil => rfl
  | cons request rest ih =>
      show ((catalog.serve request).serveAll rest).keys = _
      rw [ih, (catalog.serve_counts request).1, keys_serve]
      cases hkey : request.key? with
      | none => rw [List.filterMap_cons_none hkey]; rfl
      | some key => rw [List.filterMap_cons_some hkey]; rfl

/-- The refusals are the registrations that were answered with no. -/
theorem refusals_serveAll (catalog : Catalog) (requests : List Request) :
    (catalog.serveAll requests).refusals =
      catalog.refusals + (catalog.allRegistrations requests).count false := by
  induction requests generalizing catalog with
  | nil => rfl
  | cons request rest ih =>
      show ((catalog.serve request).serveAll rest).refusals = _
      rw [ih, (catalog.serve_counts request).2, allRegistrations, List.count_append, Nat.add_assoc]

/-- Keys stay where they are, whatever is asked later. -/
theorem keys_prefix_serveAll (catalog : Catalog) (requests : List Request) :
    catalog.keys <+: (catalog.serveAll requests).keys := by
  rw [keys_serveAll]
  exact prefix_foldl_enroll _ _ _

/-- How a catalog answers, told by the keys that it knows. -/
structure AnswersByKeys (catalog : Catalog) : Prop where
  /-- A registration, direct or of a frame, tells whether its key has a place now. -/
  registered : ∀ request key, request.key? = some key →
    ∀ answer ∈ catalog.registrations request, answer = true ↔ key ∈ (catalog.serve request).keys
  /-- A definition is added if its key is new and there is room. -/
  preloaded : ∀ definition, (∃ extended, catalog.preload definition = .ok extended) ↔
    definition.key ∉ catalog.keys ∧ catalog.keys.length < catalog.capacity
  /-- A key that is known is reported as such, be there room or not. -/
  duplicate : ∀ definition,
    catalog.preload definition = .error (.duplicateMessage definition.key) ↔
      definition.key ∈ catalog.keys
  full : ∀ definition,
    catalog.preload definition = .error (.catalogFull definition.key catalog.capacity) ↔
      definition.key ∉ catalog.keys ∧ catalog.capacity ≤ catalog.keys.length
  refused : ∀ request, catalog.Refuses request → catalog.serve request =
    { catalog with refusals := catalog.refusals + (catalog.registrations request).count false }

/-- Every operation answers by the keys that are known so far. -/
theorem answersByKeys (catalog : Catalog) : catalog.AnswersByKeys where
  registered request key hkey answer hanswer := by
    have hkeys : (catalog.serve request).keys = (catalog.register key).1.keys := by
      rw [keys_serve, hkey, keys_register]
      rfl
    rw [eq_register_of_mem_registrations hkey hanswer, hkeys]
    exact register_eq_true_iff
  preloaded definition := by
    obtain hknown | ⟨hnew, hroom⟩ | ⟨hnew, hfull⟩ := catalog.mem_or_room_or_full definition.key
    · simp [preload_of_mem hknown, hknown]
    · simp [preload_of_new hnew hroom, hnew, hroom]
    · simp [preload_of_full hnew hfull, hfull]
  duplicate definition := by
    obtain hknown | ⟨hnew, hroom⟩ | ⟨hnew, hfull⟩ := catalog.mem_or_room_or_full definition.key
    · simp [preload_of_mem hknown, hknown]
    · simp [preload_of_new hnew hroom, hnew]
    · simp [preload_of_full hnew hfull, hnew]
  full definition := by
    obtain hknown | ⟨hnew, hroom⟩ | ⟨hnew, hfull⟩ := catalog.mem_or_room_or_full definition.key
    · simp [preload_of_mem hknown, hknown]
    · simp [preload_of_new hnew hroom, hroom]
    · simp [preload_of_full hnew hfull, hnew, hfull]
  refused _ := serve_of_refuses

/-- **First come, first served.**  After any row of requests to a new catalog its keys
are the first `capacity` different keys of the row, in the order of their first
occurrences, and they keep their places in all that follows.  The refusals are the
registrations that got no place, and every later request is answered by these keys. -/
theorem first_come_first_served (capacity : Nat) (frequency : Binary32)
    (requests : List Request) :
    let new : Catalog := { capacity, defaultFrequency := frequency }
    let catalog := new.serveAll requests
    catalog.keys = (requests.filterMap Request.key?).eraseDups.take capacity ∧
      catalog.keys.Nodup ∧ catalog.keys.length ≤ capacity ∧
      (∀ later, catalog.keys <+: (catalog.serveAll later).keys) ∧
      catalog.capacity = capacity ∧
      catalog.refusals = (new.allRegistrations requests).count false ∧
      catalog.AnswersByKeys := by
  intro new catalog
  have hfold : catalog.keys = (requests.filterMap Request.key?).foldl (enroll capacity) [] :=
    keys_serveAll new requests
  have hkeys : catalog.keys.Nodup ∧ catalog.keys.length ≤ capacity := by
    rw [hfold]
    induction requests.filterMap Request.key? using List.reverseRecOn with
    | nil => exact ⟨List.nodup_nil, Nat.zero_le capacity⟩
    | append_singleton row key ih =>
        rw [List.foldl_append]
        exact ⟨nodup_enroll ih.1 key, enroll_length_le ih.2 key⟩
  refine ⟨hfold.trans (foldl_enroll capacity _), hkeys.1, hkeys.2, catalog.keys_prefix_serveAll,
    new.capacity_serveAll requests, ?_, catalog.answersByKeys⟩
  exact (new.refusals_serveAll requests).trans (Nat.zero_add _)

end VehicleBus.Catalog

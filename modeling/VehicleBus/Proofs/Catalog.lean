import VehicleBus.Catalog
import VehicleBus.Proofs.Labels

/-!
# The catalog by key

A definition is found by its key, and what is done under one key does not show
under another: `find?_update_of_ne`, and for a whole frame `find?_pass_of_ne`.
What a catalog makes of a frame depends on the definition of its key alone as
soon as there is one (`pass_of_find?`).
-/

namespace VehicleBus.Catalog

/-! ## Finding definitions -/

/-- A definition that is found has the key that was looked for. -/
theorem find?_key {catalog : Catalog} {key : Key} {definition : Definition}
    (h : catalog.find? key = some definition) : definition.key = key := by
  have hfound := List.find?_some h
  exact eq_of_beq hfound

/-- A key is found exactly if a definition has it. -/
theorem find?_isSome_iff {catalog : Catalog} {key : Key} :
    (catalog.find? key).isSome ↔ key ∈ catalog.definitions.map (·.key) := by
  simp [find?]

/-- An update that keeps keys shows under its own key and under no other. -/
theorem find?_update (catalog : Catalog) (key other : Key) {change : Definition → Definition}
    (hkey : ∀ d, (change d).key = d.key) :
    (catalog.update key change).find? other =
      if other = key then (catalog.find? other).map change else catalog.find? other := by
  have hsame : ((·.key == other) ∘ fun d => if d.key == key then change d else d) =
      fun d : Definition => d.key == other := by
    funext d
    by_cases h : d.key = key
    · simp [h, hkey]
    · simp [h]
  have hfind : (catalog.update key change).find? other =
      (catalog.find? other).map fun d => if d.key == key then change d else d := by
    rw [find?, update, List.find?_map, hsame, find?]
  rw [hfind]
  cases hfound : catalog.find? other with
  | none => simp
  | some d =>
      have hd : d.key = other := find?_key hfound
      by_cases h : other = key
      · simp [hd, h]
      · simp [hd, h]

/-- Changing a definition leaves those of other keys alone. -/
theorem find?_update_of_ne (catalog : Catalog) {key other : Key} (hne : other ≠ key)
    {change : Definition → Definition} (hkey : ∀ d, (change d).key = d.key) :
    (catalog.update key change).find? other = catalog.find? other := by
  rw [find?_update _ _ _ hkey, if_neg hne]

/-- A new definition hides none of another key. -/
theorem find?_append_of_ne (catalog : Catalog) {definition : Definition} {other : Key}
    (hne : other ≠ definition.key) :
    (catalog.append definition).find? other = catalog.find? other := by
  have hlast : (definition.key == other) = false := by simpa using hne.symm
  simp [find?, append, List.find?_append, hlast]

/-- Registering a key changes nothing for other keys. -/
theorem find?_register_of_ne (catalog : Catalog) {key other : Key} (hne : other ≠ key) :
    (catalog.register key).1.find? other = catalog.find? other := by
  unfold register
  split
  · rfl
  · split
    · rfl
    · exact catalog.find?_append_of_ne hne

/-! ## Frames -/

/-- A forwarded frame of one key leaves the definitions of all others alone. -/
theorem find?_pass_of_ne (catalog : Catalog) {key other : Key} (hne : other ≠ key)
    (data : Payload) (now : Time) :
    (catalog.pass key data now).1.find? other = catalog.find? other := by
  unfold pass
  split
  · have hupdate : ((catalog.register key).1.update key
          fun d => { d with lastPayload := data }).find? other =
        (catalog.register key).1.find? other :=
      find?_update_of_ne _ hne fun _ => rfl
    exact hupdate.trans (catalog.find?_register_of_ne hne)
  · exact catalog.find?_update_of_ne hne fun _ => rfl

/-- A frame of a known key: the new definition and the step taken are functions of
the old definition, the payload and the time. -/
theorem pass_of_find? {catalog : Catalog} {key : Key} {definition : Definition}
    (h : catalog.find? key = some definition) (data : Payload) (now : Time) :
    (catalog.pass key data now).1.find? key =
        some { definition with clock := (definition.clock.poll now).1, lastPayload := data } ∧
      (catalog.pass key data now).2 =
        [forward key data ((definition.clock.poll now).2 ||
          (data != definition.lastPayload && definition.forceChanged))] := by
  simp only [pass, h]
  constructor
  · rw [find?_update]
    · rw [if_pos rfl, h]
      rfl
    · intro d
      rfl
  · trivial

/-! ## Preloading -/

/-- Definitions with keys of their own are preloaded as far as there is room. -/
theorem foldlM_preload {definitions : List Definition} {catalog : Catalog}
    (hkeys : ((catalog.definitions ++ definitions).map (·.key)).Nodup)
    (hroom : catalog.definitions.length + definitions.length ≤ catalog.capacity) :
    definitions.foldlM preload catalog =
      .ok { catalog with definitions := catalog.definitions ++ definitions } := by
  induction definitions generalizing catalog with
  | nil => simp [pure, Except.pure]
  | cons d rest ih =>
      have hlength : catalog.definitions.length + (rest.length + 1) ≤ catalog.capacity := hroom
      have hnew : ¬ (catalog.find? d.key).isSome := by
        rw [find?_isSome_iff]
        exact label_notMem_of_nodup hkeys
      have hfull : ¬ catalog.isFull := by
        simp only [isFull, decide_eq_true_eq]
        omega
      have hstep : catalog.preload d = .ok (catalog.append d) := by
        rw [preload, if_neg hnew, if_neg hfull]
      have hkeys' : (((catalog.append d).definitions ++ rest).map (·.key)).Nodup := by
        simpa [append] using hkeys
      have hroom' : (catalog.append d).definitions.length + rest.length ≤ catalog.capacity := by
        simp only [append, List.length_append, List.length_singleton]
        omega
      have hrest := ih hkeys' hroom'
      rw [List.foldlM_cons, hstep]
      show rest.foldlM preload (catalog.append d) = _
      rw [hrest]
      simp [append]

/-- The first definition whose key stands before it ends the preloading. -/
theorem foldlM_preload_repeated {front back : List Definition} {d : Definition}
    {catalog : Catalog} (hkeys : ((catalog.definitions ++ front).map (·.key)).Nodup)
    (hroom : catalog.definitions.length + front.length ≤ catalog.capacity)
    (hrepeated : d.key ∈ (catalog.definitions ++ front).map (·.key)) :
    (front ++ d :: back).foldlM preload catalog = .error (.duplicateMessage d.key) := by
  have hknown : (Catalog.find? { catalog with definitions := catalog.definitions ++ front }
      d.key).isSome := find?_isSome_iff.mpr hrepeated
  rw [List.foldlM_append, foldlM_preload hkeys hroom]
  show (d :: back).foldlM preload _ = _
  rw [List.foldlM_cons, preload, if_pos hknown]
  rfl

end VehicleBus.Catalog

import ReefLink.Proofs.Fallback
import ReefLink.Proofs.Endpoints
/-!
# The Trident a status reports

A JSON status reads its Trident from one module of the payload's `modules` list, and derives the
volumes from that module's list of levels; the configuration cache later adds the waste container
size. This file says which module, which levels and which size.

- **The module** (`TridentModule.moduleOf?`) is the first object of the list that has an `extra`
  object and the hardware type `TRI` or `TNP`. Whether it is marked absent plays no part in the
  choice: `tridentAbaddr_readStatus` says that the Trident controls address that module when it
  is present and nothing otherwise, so a Trident marked absent hides a present one listed after it.
- **The levels** are the numeric readings of its `extra.levels` list (`TridentModule.readings`):
  nulls, booleans and entries that read as no number are left out before the volumes are read by
  place. `readStatus_levels` reads the volumes off that list; a list whose entries are all
  numeric keeps its own places (`readings_getElem?`).
- **The waste size** a cache gives a status is that of the first Trident-type entry of the cached
  configuration that has one, whatever its address (`wasteSize_of_first_trident_entry`).
-/

namespace ReefLink

/-- `findSome?` of a function that answers exactly where `p` holds is `find?` of `p`, mapped. -/
theorem List.findSome?_eq_find?_map {α β : Type} {g : α → Option β} {p : α → Bool} {f : α → β}
    (hg : ∀ x, g x = if p x then some (f x) else none) (l : List α) :
    l.findSome? g = (l.find? p).map f := by
  induction l with
  | nil => rfl
  | cons x xs ih =>
    rw [List.findSome?_cons, hg x]
    by_cases hx : p x <;> simp [hx, ih]

namespace TridentModule

/-! ### Which module -/

/-- The `extra` object of a module, when it has one. -/
def extraOf? (m : ModuleFields) : Option ModuleFields := (m.lookup "extra").bind Json.fields?

/-- **Whether the Trident is read from a module**: it has an `extra` object and the hardware type
`TRI` or `TNP`. -/
def IsTrident (m : ModuleFields) : Bool :=
  (extraOf? m).isSome && (moduleHwType m).any (· ∈ tridentHwTypes)

/-- **The module a payload's Trident is read from**: the first object of its `modules` list,
found at the top or in a container, that `IsTrident`. -/
def moduleOf? (p : Json) : Option ModuleFields := (Json.modules p).find? IsTrident

/-- The Trident read from a module that `IsTrident`. -/
def ofTrident (m : ModuleFields) : Trident :=
  ofModule m ((extraOf? m).getD []) ((moduleHwType m).getD "")

/-- The Trident of a payload is read from `moduleOf?`, and is absent without one. -/
theorem ofPayload_eq (p : Json) : ofPayload p = ((moduleOf? p).map ofTrident).getD {} := by
  unfold ofPayload moduleOf? Json.modules Json.findArray
  cases p.find "modules" with
  | none => rfl
  | some v =>
    cases v with
    | arr items =>
      simp only [Option.bind_some, Json.items?, Json.objects]
      rw [List.findSome?_eq_find?_map (p := IsTrident) (f := ofTrident)]
      -- the scan keeps a module exactly when it has an `extra` object and a Trident type
      intro m
      unfold IsTrident ofTrident extraOf?
      cases (m.lookup "extra").bind Json.fields? <;> cases moduleHwType m <;> simp
    | _ => rfl

end TridentModule

/-- **A JSON status reports the Trident of its payload**, its volumes derived. -/
theorem readStatus_trident {src : Source} (hsrc : src ≠ .xml) {body : String} {p : Json}
    (hp : readJsonObject body = .ok p) :
    ∃ s, readStatus src body = .ok s ∧ s.trident = (TridentModule.ofPayload p).finalize := by
  cases src with
  | rest | cgiJson =>
    -- both readers take their Trident from `ofPayload`
    simp only [readStatus, hp, Except.map, bind, Except.bind, pure, Except.pure]
    exact ⟨_, rfl, rfl⟩
  | xml => exact absurd rfl hsrc

namespace TridentModule

/-- **The address the Trident controls use** for a payload: that of its Trident module, when the
module is not marked absent and its address is a signed 64-bit integer. -/
def addressOf (p : Json) : Option Int :=
  (moduleOf? p).bind fun m => if moduleIsPresent m then (m.lookup "abaddr").bind Json.int64? else none

end TridentModule

/-- **The Trident a JSON status addresses** is its payload's first Trident module, when that module
is not marked absent; an absent one is not passed over for a later one. -/
theorem tridentAbaddr_readStatus {src : Source} (hsrc : src ≠ .xml) (body : String) :
    (readStatus src body).map Status.tridentAbaddr = (readJsonObject body).map TridentModule.addressOf := by
  cases hj : readJsonObject body with
  | error e =>
    cases src with
    | rest | cgiJson => simp [readStatus, hj, Except.map, bind, Except.bind]
    | xml => exact absurd rfl hsrc
  | ok p =>
    obtain ⟨s, hs, ht⟩ := readStatus_trident hsrc hj
    rw [hs]
    simp only [Except.map, Except.ok.injEq]
    unfold Status.tridentAbaddr TridentModule.addressOf
    rw [ht, TridentModule.ofPayload_eq]
    cases TridentModule.moduleOf? p with
    | none => rfl
    | some m => rfl

/-- A payload that lists a Trident marked absent, at address 4, before a present one at 5. -/
def hiddenTrident : Json :=
  .obj [("modules", .arr [
    .obj [("abaddr", .num (.int 4)), ("extra", .obj []), ("hwtype", .str "TRI"), ("present", .bool false)],
    .obj [("abaddr", .num (.int 5)), ("extra", .obj []), ("hwtype", .str "TNP")]])]

theorem tridentAbaddr_readStatus_hidden : Source.cgiJson ≠ .xml ∧
    (readStatus .cgiJson (Json.render hiddenTrident)).map Status.tridentAbaddr =
      (readJsonObject (Json.render hiddenTrident)).map TridentModule.addressOf :=
  ⟨by decide, tridentAbaddr_readStatus (by decide) _⟩

/-- **A Trident marked absent hides a present one**: the status of `hiddenTrident` addresses no
Trident, though the module at 5 is a present one. -/
theorem absent_trident_hides_present :
    (readStatus .rest (Json.render hiddenTrident)).toOption.map Status.tridentAbaddr = some none := by
  decide +kernel

/-! ### Which levels -/

namespace Trident

/-- **The volumes a Trident reads from the levels `R`**, with `finalize`: the waste used is the
first level; reagents A, B and C are the fifth, fourth and third of five levels, or the fourth,
third and second of four, and have no volume for another length; a level counts only when it is
finite. A reagent is empty at 20 ml or less, and the waste figures need both the used volume and
a usable container size. -/
structure ReadsLevels (t : Trident) (R : List Float) : Prop where
  wasteUsed : t.wasteUsedMl = levelAt R 0
  reagents : (t.reagentARemainingMl, t.reagentBRemainingMl, t.reagentCRemainingMl) =
    match R.length with
    | 5 => (levelAt R 4, levelAt R 3, levelAt R 2)
    | 4 => (levelAt R 3, levelAt R 2, levelAt R 1)
    | _ => (none, none, none)
  emptyA : t.reagentAEmpty = t.reagentARemainingMl.map fun v => decide (v ≤ reagentEmptyThreshold)
  emptyB : t.reagentBEmpty = t.reagentBRemainingMl.map fun v => decide (v ≤ reagentEmptyThreshold)
  emptyC : t.reagentCEmpty = t.reagentCRemainingMl.map fun v => decide (v ≤ reagentEmptyThreshold)
  waste : (t.wastePercent, t.wasteRemainingMl, t.wasteFull) =
    match t.wasteUsedMl, t.wasteSizeMl with
    | some u, some s => (some (u / s * 100.0), some (wasteRoom s u), some (decide (wasteRoom s u ≤ wasteFullMargin)))
    | _, _ => (none, none, none)

/-- **`finalize` reads its levels by place.** -/
theorem finalize_readsLevels (t : Trident) : t.finalize.ReadsLevels (t.levelsMl.getD []) where
  wasteUsed := rfl
  reagents := by
    simp only [finalize]
    -- the places are known for five and four levels only
    generalize (t.levelsMl.getD []).length = n
    rcases n with _ | _ | _ | _ | _ | _ | n <;> rfl
  emptyA := rfl
  emptyB := rfl
  emptyC := rfl
  waste := by
    cases hu : levelAt (t.levelsMl.getD []) 0 <;> cases hs : usableSize t.wasteSizeMl <;>
      simp [finalize, hu, hs]

end Trident

namespace TridentModule

/-- **A numeric reading** of a `levels` entry: a number, or a string holding a finite decimal;
a boolean, a null or anything else has none. -/
def reading : Json → Option Float
  | .bool _ => none
  | x => x.toNumber?

/-- **The numeric readings** of a `levels` list, in order. -/
def readings (L : List Json) : List Float := L.filterMap reading

/-- The levels of an `extra` object are its numeric readings, when there is one. -/
theorem levels_arr (L : List Json) :
    levels (.arr L) = if (readings L).isEmpty then none else some (readings L) := rfl

/-- **A list of numeric entries keeps its places**: with no entry left out, the `i`-th reading is
that of the `i`-th entry. -/
theorem readings_getElem? {L : List Json} (h : ∀ x ∈ L, (reading x).isSome) (i : Nat) :
    (readings L)[i]? = L[i]?.bind reading := by
  induction L generalizing i with
  | nil => rfl
  | cons x xs ih =>
    obtain ⟨v, hv⟩ := Option.isSome_iff_exists.1 (h x List.mem_cons_self)
    have hxs : ∀ y ∈ xs, (reading y).isSome := fun y hy => h y (List.mem_cons_of_mem x hy)
    cases i with
    | zero => simp [readings, hv]
    | succ i =>
      simp only [readings, List.filterMap_cons, hv, List.getElem?_cons_succ]
      exact ih hxs i

end TridentModule

/-- **A JSON status reads its Trident's volumes by place from the numeric readings** of its Trident
module's `levels` list: nulls, booleans and entries that read as no number are left out first, so
each one moves the readings after it one place down. -/
theorem readStatus_levels {src : Source} (hsrc : src ≠ .xml) {body : String} {p : Json}
    (hp : readJsonObject body = .ok p) {m : ModuleFields} (hm : TridentModule.moduleOf? p = some m)
    {L : List Json} (hL : (TridentModule.extraOf? m).bind (·.lookup "levels") = some (.arr L)) :
    ∃ s, readStatus src body = .ok s ∧
      s.trident.levelsMl =
        (if (TridentModule.readings L).isEmpty then none else some (TridentModule.readings L)) ∧
      s.trident.ReadsLevels (TridentModule.readings L) := by
  obtain ⟨s, hs, ht⟩ := readStatus_trident hsrc hp
  obtain ⟨e, he, hlv⟩ := Option.bind_eq_some_iff.1 hL
  have hlevels : (TridentModule.ofPayload p).levelsMl =
      (if (TridentModule.readings L).isEmpty then none else some (TridentModule.readings L)) := by
    rw [TridentModule.ofPayload_eq, hm]
    simp [TridentModule.ofTrident, TridentModule.ofModule, he, hlv, TridentModule.levels_arr]
  have hgetD : ((TridentModule.ofPayload p).levelsMl.getD []) = TridentModule.readings L := by
    rw [hlevels]
    by_cases hnil : (TridentModule.readings L).isEmpty
    · simp [List.isEmpty_iff.1 hnil]
    · simp [hnil]
  refine ⟨s, hs, ?_, ?_⟩
  · rw [ht]
    exact hlevels
  · rw [ht, ← hgetD]
    exact Trident.finalize_readsLevels _

/-- Levels holding a boolean and a null among numeric strings. -/
def mixedLevels : List Json := [.str "90", .bool true, .null, .str "10", .str "5"]

/-- A Trident module with `mixedLevels`. -/
def mixedModule : ModuleFields := [("extra", .obj [("levels", .arr mixedLevels)]), ("hwtype", .str "TRI")]

/-- A payload whose only module is `mixedModule`. -/
def mixedPayload : Json := .obj [("modules", .arr [.obj mixedModule])]

theorem readStatus_levels_mixed : Source.cgiJson ≠ .xml ∧
    readJsonObject (Json.render mixedPayload) = .ok mixedPayload ∧
    TridentModule.moduleOf? mixedPayload = some mixedModule ∧
    (TridentModule.extraOf? mixedModule).bind (·.lookup "levels") = some (.arr mixedLevels) ∧
    ∃ s, readStatus .cgiJson (Json.render mixedPayload) = .ok s ∧
      s.trident.levelsMl = (if (TridentModule.readings mixedLevels).isEmpty then none
        else some (TridentModule.readings mixedLevels)) ∧
      s.trident.ReadsLevels (TridentModule.readings mixedLevels) := by
  have hp : readJsonObject (Json.render mixedPayload) = .ok mixedPayload := by
    refine readJsonObject_render ?_ rfl
    simp only [mixedPayload, mixedModule, mixedLevels, Json.Writable, Json.ItemsWritable,
      Json.FieldsWritable, List.map_cons, List.map_nil]
    decide
  have hm : TridentModule.moduleOf? mixedPayload = some mixedModule := rfl
  have hL : (TridentModule.extraOf? mixedModule).bind (·.lookup "levels") = some (.arr mixedLevels) := rfl
  exact ⟨by decide, hp, hm, hL, readStatus_levels (by decide) hp hm hL⟩

/-- A Trident whose five levels start with two nulls. -/
def nullFirstLevels : Json :=
  .obj [("modules", .arr [.obj [
    ("extra", .obj [("levels", .arr [.null, .null, .num (.int 30), .num (.int 10), .num (.int 5)])]),
    ("hwtype", .str "TRI")]])]

/-- **Nulls move the readings after them**: five levels with two nulls leave three readings, so
reagent A has no volume, though the fifth level holds 5. -/
theorem null_levels_shift_reagents :
    (readStatus .rest (Json.render nullFirstLevels)).toOption.map
      (·.trident.reagentARemainingMl.isNone) = some true := by
  decide +kernel

/-! ### Which waste size -/

/-- **The first configured size**: `w` is the waste size of a Trident-type entry of `ms`, and no
Trident-type entry before it has one. -/
def FirstTridentSize (ms : List ModuleConfig) (w : Float) : Prop :=
  ∃ pre m post, ms = pre ++ m :: post ∧ m.isTrident = true ∧ m.wasteSize = some w ∧
    ∀ m' ∈ pre, m'.isTrident = true → m'.wasteSize = none

/-- The configured waste size, as one scan of the entries. -/
theorem tridentWasteSize_eq_findSome? (ms : List ModuleConfig) :
    tridentWasteSize ms = ms.findSome? fun m => if m.isTrident then m.wasteSize else none := by
  induction ms with
  | nil => rfl
  | cons m ms ih =>
    unfold tridentWasteSize at ih ⊢
    rw [List.findSome?_cons]
    by_cases h : m.isTrident
    · rw [List.filter_cons_of_pos h, List.findSome?_cons, if_pos h, ih]
    · rw [List.filter_cons_of_neg h, if_neg h, ih]

/-- **The configured waste size is the first Trident-type entry's that has one**, whatever the
entries' addresses. -/
theorem tridentWasteSize_eq_some_iff (ms : List ModuleConfig) (w : Float) :
    tridentWasteSize ms = some w ↔ FirstTridentSize ms w := by
  rw [tridentWasteSize_eq_findSome?, List.findSome?_eq_some_iff]
  constructor
  · rintro ⟨pre, m, post, rfl, hm, hpre⟩
    by_cases ht : m.isTrident
    · refine ⟨pre, m, post, rfl, ht, by simpa [ht] using hm, fun m' hm' ht' => ?_⟩
      simpa [ht'] using hpre m' hm'
    · simp [ht] at hm
  · rintro ⟨pre, m, post, rfl, ht, hw, hpre⟩
    refine ⟨pre, m, post, rfl, by simp [ht, hw], fun m' hm' => ?_⟩
    by_cases ht' : m'.isTrident
    · simp [ht', hpre m' hm' ht']
    · simp [ht']

/-- The cache's waste size is its configuration's. -/
theorem ConfigCache.wasteSize_eq (c : ConfigCache) : c.wasteSize = tridentWasteSize (c.mconf.getD []) := by
  unfold ConfigCache.wasteSize
  cases c.mconf <;> rfl

/-- **The waste size a cache gives a status** is the status's own or, without one, that of the
first Trident-type entry of the cached configuration that has one (`mergeInto`); that entry's,
or without one the status's own (`applyTo`). No address takes part: not the entries', not the
status's Trident's. -/
theorem wasteSize_of_first_trident_entry (c : ConfigCache) (s : Status) (w : Float) :
    ((c.mergeInto s).trident.wasteSizeMl = some w ↔
      s.trident.wasteSizeMl = some w ∨
        s.trident.wasteSizeMl = none ∧ FirstTridentSize (c.mconf.getD []) w) ∧
    ((c.applyTo s).trident.wasteSizeMl = some w ↔
      FirstTridentSize (c.mconf.getD []) w ∨
        (∀ v, ¬ FirstTridentSize (c.mconf.getD []) v) ∧ s.trident.wasteSizeMl = some w) := by
  have hsize : ∀ v, c.wasteSize = some v ↔ FirstTridentSize (c.mconf.getD []) v := fun v => by
    rw [ConfigCache.wasteSize_eq, tridentWasteSize_eq_some_iff]
  have hnone : c.wasteSize = none ↔ ∀ v, ¬ FirstTridentSize (c.mconf.getD []) v := by
    simp only [← hsize, Option.eq_none_iff_forall_ne_some]
  constructor
  · simp only [ConfigCache.mergeInto, Option.orElse_eq_orElse, Option.orElse_eq_or, Option.or_eq_some_iff, hsize]
  · simp only [ConfigCache.applyTo, Option.orElse_eq_orElse, Option.orElse_eq_or, Option.or_eq_some_iff, hsize, hnone]

/-- A status whose Trident is present at address 5, with no waste size yet. -/
def tridentAtFive : Status :=
  { Status.empty .rest with trident := { present := true, abaddr := some 5, hwtype := some "TRI" } }

/-- A configuration listing a `TNP` module at 7, with a waste size, before the Trident at 5, which
has none. -/
def otherTridentFirst : ConfigCache :=
  { mconf := some [{ hwtype := "TNP", abaddr := some 7, extra := some { wasteSize := some 200.0 } },
      { hwtype := "TRI", abaddr := some 5 }] }

/-- **The size of another address**: the entry of the status's Trident has no waste size, yet
both ways of completing the status give it the size configured for the module at 7. -/
theorem wasteSize_from_other_address :
    ((otherTridentFirst.mconf.getD []).find? (·.abaddr == some 5)).bind ModuleConfig.wasteSize = none ∧
      (otherTridentFirst.mergeInto tridentAtFive).trident.wasteSizeMl = some 200.0 ∧
      (otherTridentFirst.applyTo tridentAtFive).trident.wasteSizeMl = some 200.0 :=
  ⟨rfl, rfl, rfl⟩

end ReefLink

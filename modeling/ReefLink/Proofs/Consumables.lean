import ReefLink.Payload.TridentModule
import Mathlib.Tactic.SplitIfs
/-!
# Which leaf fills which consumable slot

A Trident's `extra` object gives the percentages left of reagents A, B and C and the waste
container level. `TridentModule.consumables` takes the `reagents` list for A, B and C, then walks
the flattened leaves once, offering each leaf that reads as a percentage to the slots in the order
A, B, C, waste: the first empty slot whose key tokens it carries takes it.

`bySlots` describes the same outcome slot by slot: A keeps what the list gave, or takes the first
reading for A; B then takes the first reading for B among those A left; then C, then the waste
level, each from what the slots before it left (`fillSlot`, `pick`). Main statement:
`consumables_by_slots`, that the single pass and the slot-by-slot reading agree for every `extra`
object. The pass is the fold of `offer`; `bySlots_offer` is its step, in which a reading offered
to the slots is the reading the first slot it suits picks from the front of the list.
-/

namespace ReefLink.TridentModule

/-- Whether a key, in matching form, names a reagent with one of `tokens`. -/
def reagentKey (tokens : List String) (k : String) : Bool :=
  containsText k "reagent" && tokens.any (containsText k)

/-- Whether a key, in matching form, names the waste container level. -/
def wasteKey (k : String) : Bool := containsText k "waste" && tokensWaste.any (containsText k)

/-- **The readings of an `extra` object**: its leaves in order, nested keys joined by `_`, that
read as a percentage, each with its key in matching form. -/
def percentLeaves (extra : ModuleFields) : List (String × Nat) :=
  (leaves "" extra).filterMap fun l => l.2.toPercent?.map (keyForm l.1, ·)

/-- The slots the `reagents` list fills: A, B and C from its first three entries when it has at
least three. -/
def listed (extra : ModuleFields) : Consumables :=
  match (extra.lookup "reagents").bind Json.items? with
  | some (a :: b :: c :: _) => { reagentA := a.toPercent?, reagentB := b.toPercent?, reagentC := c.toPercent? }
  | _ => {}

/-- One reading offered to the slots: the first empty slot, in the order A, B, C, waste, whose
key it carries takes it. -/
def offer (acc : Consumables) (e : String × Nat) : Consumables :=
  if acc.reagentA.isNone && reagentKey tokensA e.1 then { acc with reagentA := some e.2 }
  else if acc.reagentB.isNone && reagentKey tokensB e.1 then { acc with reagentB := some e.2 }
  else if acc.reagentC.isNone && reagentKey tokensC e.1 then { acc with reagentC := some e.2 }
  else if acc.waste.isNone && wasteKey e.1 then { acc with waste := some e.2 }
  else acc

/-- **The first reading whose key passes `p`**, and the readings without it. -/
def pick (p : String → Bool) : List (String × Nat) → Option Nat × List (String × Nat)
  | [] => (none, [])
  | e :: es => if p e.1 then (some e.2, es) else ((pick p es).1, e :: (pick p es).2)

/-- A slot keeps the value it has; an empty one picks the first reading that passes `p`. -/
def fillSlot (p : String → Bool) (slot : Option Nat) (es : List (String × Nat)) :
    Option Nat × List (String × Nat) :=
  match slot with
  | some v => (some v, es)
  | none => pick p es

/-- **The consumables slot by slot**: A, then B, C and the waste level, each keeping its value or
picking the first reading for it among those the slots before it left. -/
def bySlots (start : Consumables) (es : List (String × Nat)) : Consumables :=
  let a := fillSlot (reagentKey tokensA) start.reagentA es
  let b := fillSlot (reagentKey tokensB) start.reagentB a.2
  let c := fillSlot (reagentKey tokensC) start.reagentC b.2
  { reagentA := a.1, reagentB := b.1, reagentC := c.1, waste := (fillSlot wasteKey start.waste c.2).1 }

/-! ### Picking a reading -/

/-- **What `pick` picks** is the first reading that passes, and it is taken out. -/
theorem pick_eq_some_iff {p : String → Bool} {es rest : List (String × Nat)} {v : Nat} :
    pick p es = (some v, rest) ↔ ∃ pre e post, es = pre ++ e :: post ∧ (∀ x ∈ pre, p x.1 = false) ∧
      p e.1 = true ∧ e.2 = v ∧ rest = pre ++ post := by
  induction es generalizing rest with
  | nil => simp [pick]
  | cons e es ih =>
    by_cases he : p e.1 = true
    · simp only [pick, he, if_true, Prod.mk.injEq, Option.some.injEq]
      constructor
      · rintro ⟨rfl, rfl⟩
        exact ⟨[], e, es, rfl, by simp, he, rfl, rfl⟩
      · rintro ⟨pre, e', post, hes, hpre, he', rfl, rfl⟩
        cases pre with
        | nil =>
          simp only [List.nil_append, List.cons.injEq] at hes
          obtain ⟨rfl, rfl⟩ := hes
          exact ⟨rfl, rfl⟩
        | cons x pre =>
          simp only [List.cons_append, List.cons.injEq] at hes
          obtain ⟨rfl, -⟩ := hes
          simp [hpre e (by simp)] at he
    · have hf : p e.1 = false := by simpa using he
      simp only [pick, hf, Bool.false_eq_true, if_false, Prod.mk.injEq]
      constructor
      · rintro ⟨hv, hrest⟩
        have hpick : pick p es = (some v, (pick p es).2) := Prod.ext hv rfl
        obtain ⟨pre, e', post, hes, hpre, he', hv', hpost⟩ := ih.1 hpick
        refine ⟨e :: pre, e', post, by rw [hes]; rfl, ?_, he', hv', ?_⟩
        · intro x hx
          rcases List.mem_cons.1 hx with rfl | hx
          · exact hf
          · exact hpre x hx
        · rw [← hrest]
          simp only [List.cons_append, List.cons.injEq, true_and]
          exact hpost
      · rintro ⟨pre, e', post, hes, hpre, he', rfl, rfl⟩
        cases pre with
        | nil =>
          simp only [List.nil_append, List.cons.injEq] at hes
          obtain ⟨rfl, -⟩ := hes
          exact absurd he' (by simp [hf])
        | cons x pre =>
          simp only [List.cons_append, List.cons.injEq] at hes
          obtain ⟨rfl, rfl⟩ := hes
          have h := ih.2 ⟨pre, e', post, rfl, fun y hy => hpre y (by simp [hy]), he', rfl, rfl⟩
          exact ⟨congrArg Prod.fst h, by rw [congrArg Prod.snd h]; rfl⟩

/-- `pick` picks nothing exactly when no reading passes, and then takes nothing out. -/
theorem pick_eq_none_iff {p : String → Bool} {es : List (String × Nat)} :
    (pick p es).1 = none ↔ ∀ x ∈ es, p x.1 = false := by
  induction es with
  | nil => simp [pick]
  | cons e es ih => by_cases he : p e.1 = true <;> simp [pick, he, ih]

/-- A slot offered one reading in front of the others: it takes that reading when it is empty
and the reading passes; otherwise the reading stays in front of what is left. -/
theorem fillSlot_cons (p : String → Bool) (slot : Option Nat) (e : String × Nat)
    (es : List (String × Nat)) :
    fillSlot p slot (e :: es) =
      if slot.isNone && p e.1 then (some e.2, es)
      else ((fillSlot p slot es).1, e :: (fillSlot p slot es).2) := by
  cases slot with
  | some v => rfl
  | none => by_cases he : p e.1 = true <;> simp [fillSlot, pick, he]

/-- A slot that has a value keeps it and takes nothing. -/
@[simp] theorem fillSlot_some (p : String → Bool) (v : Nat) (es : List (String × Nat)) :
    fillSlot p (some v) es = (some v, es) := rfl

/-- With no readings left, every slot keeps what it has. -/
@[simp] theorem fillSlot_nil (p : String → Bool) (slot : Option Nat) : fillSlot p slot [] = (slot, []) := by
  cases slot <;> rfl

/-! ### The single pass -/

/-- The pass starts from the slots the `reagents` list fills. -/
theorem consumables_eq (extra : ModuleFields) :
    consumables extra = (leaves "" extra).foldl takeLeaf (listed extra) := rfl

/-- One leaf of the pass: a leaf that reads as a percentage is offered to the slots with its key
in matching form; any other leaf changes nothing. -/
theorem takeLeaf_eq (acc : Consumables) (leaf : String × Json) :
    takeLeaf acc leaf =
      match leaf.2.toPercent?.map (keyForm leaf.1, ·) with
      | some e => offer acc e
      | none => acc := by
  unfold takeLeaf offer reagentKey wasteKey
  cases leaf.2.toPercent? with
  | none => rfl
  | some pct =>
    -- a key with no `reagent` in it passes over the reagent slots to the waste level
    cases hr : containsText (keyForm leaf.1) "reagent" with
    | false => simp [hr, and_assoc]
    | true =>
      simp only [hr, Option.map_some, Bool.true_and, Bool.and_assoc, if_true]
      split_ifs <;> rfl

/-- **The step of the pass, slot by slot**: offering a reading to the slots and then reading the
rest slot by slot is reading the whole list slot by slot. -/
theorem bySlots_offer (acc : Consumables) (e : String × Nat) (es : List (String × Nat)) :
    bySlots (offer acc e) es = bySlots acc (e :: es) := by
  unfold offer
  by_cases ha : acc.reagentA.isNone && reagentKey tokensA e.1
  · simp only [ha, if_true, bySlots, fillSlot_cons, fillSlot_some]
  by_cases hb : acc.reagentB.isNone && reagentKey tokensB e.1
  · simp only [ha, hb, Bool.false_eq_true, if_true, if_false, bySlots, fillSlot_cons,
      fillSlot_some]
  by_cases hc : acc.reagentC.isNone && reagentKey tokensC e.1
  · simp only [ha, hb, hc, Bool.false_eq_true, if_true, if_false, bySlots, fillSlot_cons,
      fillSlot_some]
  by_cases hw : acc.waste.isNone && wasteKey e.1
  · simp only [ha, hb, hc, hw, Bool.false_eq_true, if_true, if_false, bySlots, fillSlot_cons,
      fillSlot_some]
  · simp only [ha, hb, hc, hw, Bool.false_eq_true, if_false, bySlots, fillSlot_cons]

/-- The pass over the readings is the reading slot by slot, from any slots filled before. -/
theorem foldl_offer (acc : Consumables) (es : List (String × Nat)) :
    es.foldl offer acc = bySlots acc es := by
  induction es generalizing acc with
  | nil => simp [bySlots]
  | cons e es ih => rw [List.foldl_cons, ih, bySlots_offer]

/-- **The consumables of an `extra` object, slot by slot.** The `reagents` list fills A, B and C
first and no key overrides what it gave. Each slot it left empty takes the first reading, in the
order of the flattened leaves, whose key carries `reagent` and one of the slot's tokens among those
the slots before it (in the order A, B, C) did not take; the waste level takes the first reading
whose key carries `waste` and `level`, `pct` or `percent` among those no reagent slot took. Each
reading fills at most one slot. -/
theorem consumables_by_slots (extra : ModuleFields) :
    consumables extra = bySlots (listed extra) (percentLeaves extra) := by
  rw [consumables_eq, percentLeaves, ← foldl_offer, List.foldl_filterMap]
  -- the pass over the leaves skips what reads as no percentage and offers the rest
  congr 1
  funext acc leaf
  rw [takeLeaf_eq]
  cases leaf.2.toPercent? <;> rfl

end ReefLink.TridentModule

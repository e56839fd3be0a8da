import ReefLink.Proofs.FloatOrder
import ReefLink.Proofs.Trident
/-!
# Finishing the Trident's readings

A Trident record holds what the analyser reported (`Trident.Report`: presence, address, hardware
and firmware, serial number, status text, test flag, levels and the four reported percentages)
and fields that `finalize` derives from the levels and the waste container size. `finalize`
keeps the report as it is and a size only when it is usable, finite and positive, and derives
the rest from those two alone (`Trident.Finalizes`).

So the waste room it derives lies between zero and the size (`wasteRoom_bounds`, through the order
of doubles off not-a-number), a second `finalize` changes nothing, and derived values handed to it
play no part (`finalize_spec`).
-/

namespace ReefLink.Trident

/-- **What the analyser reports**, as opposed to what `finalize` derives. -/
structure Report where
  present : Bool
  abaddr : Option Int
  hwtype : Option String
  hwrev : Option String
  swrev : Option String
  serial : Option String
  status : Option String
  isTesting : Option Bool
  levelsMl : Option (List Float)
  reagentARemaining : Option Nat
  reagentBRemaining : Option Nat
  reagentCRemaining : Option Nat
  wasteContainerLevel : Option Nat

/-- The reported fields of a Trident record. -/
def report (t : Trident) : Report :=
  ⟨t.present, t.abaddr, t.hwtype, t.hwrev, t.swrev, t.serial, t.status, t.isTesting, t.levelsMl,
    t.reagentARemaining, t.reagentBRemaining, t.reagentCRemaining, t.wasteContainerLevel⟩

/-! ## Finite doubles -/

theorem isNaN_of_finite {f : Float} (h : finite f = true) : f.isNaN = false := by
  simp_all [finite]

theorem isFinite_of_finite {f : Float} (h : finite f = true) : f.toModel.unpack.isFinite = true := by
  have hf : f.toModel.unpack.isNaN = false ∧ f.toModel.unpack.isInf = false := by
    simpa [finite, Float.isNaN, Float.isInf, Float.Model.isNaN, Float.Model.isInf] using h
  cases hu : f.toModel.unpack <;>
    simp_all [Float.Model.UnpackedFloat.isNaN, Float.Model.UnpackedFloat.isInf,
      Float.Model.UnpackedFloat.isFinite]

/-! ## The waste room -/

/-- **The room left lies between zero and the size**: for a finite positive size and a finite used
volume, cutting `size - used` to the interval `[0, size]` lands in it, whatever the used volume
(negative, or above the size). -/
theorem wasteRoom_bounds {s u : Float} (hs : finite s = true) (hpos : 0.0 < s)
    (hu : finite u = true) : 0.0 ≤ wasteRoom s u ∧ wasteRoom s u ≤ s := by
  have hsn : s.isNaN = false := isNaN_of_finite hs
  have hzero : (0.0 : Float).isNaN = false := by decide
  -- the difference of two finite doubles is a number, so it is comparable to 0 and to `s`
  have hdiff : (s - u).isNaN = false :=
    Binary64.isNaN_sub (isFinite_of_finite hs) (isFinite_of_finite hu)
  have hzs : 0.0 ≤ s := Binary64.le_of_lt hpos
  unfold wasteRoom
  by_cases hneg : s - u < 0.0
  · have hns : ¬ s < 0.0 := Binary64.not_lt_of_lt hpos
    simp only [hneg, if_true, gt_iff_lt, hns, if_false]
    exact ⟨Binary64.le_refl_of_isNaN hzero, hzs⟩
  · have h0 : 0.0 ≤ s - u := Binary64.le_of_not_lt hdiff hzero hneg
    simp only [hneg, if_false, gt_iff_lt]
    by_cases hover : s < s - u
    · simp only [hover, if_true]
      exact ⟨hzs, Binary64.le_refl_of_isNaN hsn⟩
    · simp only [hover, if_false]
      exact ⟨h0, Binary64.le_of_not_lt hsn hdiff hover⟩

/-! ## What `finalize` keeps and derives -/

theorem usableSize_eq_filter (s : Option Float) :
    usableSize s = s.filter fun v => finite v && 0.0 < v := by
  cases s <;> rfl

theorem usableSize_usableSize (s : Option Float) : usableSize (usableSize s) = usableSize s := by
  simp only [usableSize_eq_filter, Option.filter_filter, Bool.and_self]

@[simp] theorem report_finalize (t : Trident) : t.finalize.report = t.report := rfl

/-- **`finalize` reads only the report and the usable size.** -/
theorem finalize_congr {t t' : Trident} (hr : t'.report = t.report)
    (hs : usableSize t'.wasteSizeMl = usableSize t.wasteSizeMl) : t'.finalize = t.finalize := by
  cases t
  cases t'
  simp only [report, Report.mk.injEq] at hr
  obtain ⟨rfl, rfl, rfl, rfl, rfl, rfl, rfl, rfl, rfl, rfl, rfl, rfl, rfl⟩ := hr
  simp only [finalize, hs]

/-- A usable size that a finished record holds is finite and positive. -/
theorem finite_of_wasteSizeMl {t : Trident} {s : Float} (h : t.finalize.wasteSizeMl = some s) :
    finite s = true ∧ 0.0 < s := by
  rw [Trident.finalize_wasteSizeMl, usableSize_eq_filter, Option.filter_eq_some_iff] at h
  obtain ⟨-, h⟩ := h
  simpa using h

/-- **What `finalize` makes of a record `t`**: its report unchanged, a waste container size only
when it is finite and positive, every derived field read from the levels and that size
(`ReadsLevels`), and a waste room between zero and the size. -/
structure Finalizes (t f : Trident) : Prop where
  report : f.report = t.report
  wasteSize : f.wasteSizeMl = t.wasteSizeMl.filter fun v => finite v && 0.0 < v
  readsLevels : f.ReadsLevels (t.levelsMl.getD [])
  remaining : ∀ r s, f.wasteRemainingMl = some r → f.wasteSizeMl = some s → 0.0 ≤ r ∧ r ≤ s

/-- The room `finalize` derives lies between zero and the size it keeps. -/
theorem finalize_remaining (t : Trident) {r s : Float} (hr : t.finalize.wasteRemainingMl = some r)
    (hs : t.finalize.wasteSizeMl = some s) : 0.0 ≤ r ∧ r ≤ s := by
  have hw := (finalize_readsLevels t).waste
  obtain ⟨hsf, hpos⟩ := finite_of_wasteSizeMl hs
  rw [hs] at hw
  cases hu : t.finalize.wasteUsedMl with
  | none => simp [hu] at hw; simp [hw.2.1] at hr
  | some u =>
    simp only [hu, Prod.mk.injEq] at hw
    rw [hw.2.1, Option.some.injEq] at hr
    subst hr
    have huf : finite u = true := by
      have h0 := (finalize_readsLevels t).wasteUsed
      rw [hu, levelAt] at h0
      split at h0
      · split at h0
        · cases h0; assumption
        · cases h0
      · cases h0
    exact wasteRoom_bounds hsf hpos huf

/-- **`finalize` keeps the report, keeps a usable size, derives the rest from the levels and that
size, and holds the waste room between zero and the size**; a second `finalize` changes nothing,
and any record with the same report and waste container size finishes the same, whatever derived
values it carried. -/
theorem finalize_spec (t : Trident) :
    Finalizes t t.finalize ∧ t.finalize.finalize = t.finalize ∧
      ∀ t' : Trident, t'.report = t.report → t'.wasteSizeMl = t.wasteSizeMl →
        t'.finalize = t.finalize := by
  refine ⟨⟨rfl, ?_, finalize_readsLevels t, fun r s hr hs => finalize_remaining t hr hs⟩, ?_, ?_⟩
  · rw [Trident.finalize_wasteSizeMl, usableSize_eq_filter]
  · exact finalize_congr (report_finalize t)
      (by rw [Trident.finalize_wasteSizeMl, usableSize_usableSize])
  · intro t' hr hs
    exact finalize_congr hr (by rw [hs])

end ReefLink.Trident

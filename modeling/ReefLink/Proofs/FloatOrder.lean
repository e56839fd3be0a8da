import Mathlib
import ReefLink.Status.Trident
/-!
# The order of doubles off not-a-number

A `Float` has a logical model: a valid bit pattern (`Float.Model`), whose operations unpack
their operands into `UnpackedFloat` (not-a-number, signed infinities and zeros, finite values),
compute there, and pack the result. Two doubles are compared by `UnpackedFloat.compare`, which
gives no answer when either one is not a number.

Off not-a-number that comparison reads the same from both sides (`compare_swap`) and every
double is equal to itself (`compare_self`), so `<` and `≤` on doubles that are numbers behave as
on a linear order (`le_of_not_lt`, `not_lt_of_lt`, `le_refl_of_isNaN`). Subtracting one finite
double from another never gives not-a-number (`isNaN_sub`): rounding gives a zero or a finite
value, which packing may at most overflow to an infinity (`isNaN_unpack_pack`).
-/

namespace ReefLink.Binary64

open Float.Model Float.Model.UnpackedFloat

/-! ## Comparing unpacked doubles -/

theorem compare_sign_swap (s t : Sign) : (compare s t).swap = compare t s := by
  cases s <;> cases t <;> rfl

theorem compare_sign_self (s : Sign) : compare s s = .eq := by
  cases s <;> rfl

/-- **Comparing the other way round swaps the answer**, not-a-number included. -/
theorem compare_swap (a b : UnpackedFloat) : b.compare a = (a.compare b).map Ordering.swap := by
  rcases a with ⟨_ | _⟩ | _ | _ | ⟨_ | _, m, e, hm⟩ <;>
    rcases b with ⟨_ | _⟩ | _ | _ | ⟨_ | _, m', e', hm'⟩ <;>
    simp [UnpackedFloat.compare, Ordering.swap_then, Int.compare_swap, Nat.compare_swap,
      compare_sign_swap]

/-- Every double that is a number is equal to itself. -/
theorem compare_self {a : UnpackedFloat} (ha : a.isNaN = false) : a.compare a = some .eq := by
  rcases a with ⟨_ | _⟩ | _ | _ | ⟨_ | _, m, e, hm⟩ <;>
    simp_all [UnpackedFloat.compare, UnpackedFloat.isNaN, Std.ReflCmp.compare_self,
      compare_sign_self]

/-- Two doubles that are numbers are comparable. -/
theorem isSome_compare {a b : UnpackedFloat} (ha : a.isNaN = false) (hb : b.isNaN = false) :
    (a.compare b).isSome := by
  rcases a with ⟨_ | _⟩ | _ | _ | ⟨_ | _, m, e, hm⟩ <;>
    rcases b with ⟨_ | _⟩ | _ | _ | ⟨_ | _, m', e', hm'⟩ <;>
    simp_all [UnpackedFloat.compare, UnpackedFloat.isNaN]

/-! ## `<` and `≤` on doubles -/

theorem lt_iff (x y : Float) : x < y ↔ x.toModel.unpack.compare y.toModel.unpack = some .lt := by
  simp [LT.lt, Float.lt, Float.Model.lt, UnpackedFloat.lt]

theorem le_iff (x y : Float) :
    x ≤ y ↔ ∃ o, x.toModel.unpack.compare y.toModel.unpack = some o ∧ o.isLE := by
  simp [LE.le, Float.le, Float.Model.le, UnpackedFloat.le, Option.any_eq_true]

variable {x y : Float}

theorem le_of_lt (h : x < y) : x ≤ y :=
  (le_iff x y).2 ⟨.lt, (lt_iff x y).1 h, rfl⟩

/-- `<` is asymmetric. -/
theorem not_lt_of_lt (h : x < y) : ¬ y < x := by
  rw [lt_iff] at h ⊢
  rw [compare_swap, h]
  simp

/-- A double that is a number is at most itself. -/
theorem le_refl_of_isNaN (hx : x.isNaN = false) : x ≤ x :=
  (le_iff x x).2 ⟨.eq, compare_self hx, rfl⟩

/-- **Between numbers, not below is at least.** -/
theorem le_of_not_lt (hx : x.isNaN = false) (hy : y.isNaN = false) (h : ¬ x < y) : y ≤ x := by
  obtain ⟨o, ho⟩ := Option.isSome_iff_exists.1 (isSome_compare hx hy)
  have hlt : o ≠ .lt := fun hlt => h ((lt_iff x y).2 (hlt ▸ ho))
  refine (le_iff y x).2 ⟨o.swap, by rw [compare_swap, ho]; rfl, ?_⟩
  cases o <;> simp_all

/-! ## Subtraction of finite doubles -/

/-- Rounding a finite value gives a zero or a finite value. -/
theorem isNaN_round (spec : Format) (s : Sign) (m : Nat) (e : Int) :
    (UnpackedFloat.round spec s m e).isNaN = false := by
  simp only [UnpackedFloat.round, UnpackedFloat.roundWithAccuracy]
  split <;> rfl

theorem isNaN_normalize (spec : Format) (m e : Int) (s : Sign) :
    (UnpackedFloat.normalize spec m e s).isNaN = false := by
  unfold UnpackedFloat.normalize
  split
  · exact isNaN_round ..
  · rfl
  · exact isNaN_round ..

/-- **The difference of finite values is a number.** -/
theorem isNaN_sub_of_isFinite (spec : Format) {a b : UnpackedFloat} (ha : a.isFinite)
    (hb : b.isFinite) : (UnpackedFloat.sub spec a b).isNaN = false := by
  rcases a with _ | _ | s | ⟨s, m, e, hm⟩ <;> rcases b with _ | _ | t | ⟨t, m', e', hm'⟩ <;>
    simp_all [UnpackedFloat.isFinite]
  case zero.zero => simp only [UnpackedFloat.sub]; split <;> rfl
  case zero.finite => rfl
  case finite.zero => rfl
  case finite.finite => exact isNaN_normalize ..

/-- A bit pattern whose exponent field is not all ones unpacks to a number. -/
theorem isNaN_unpack_of_exponent {b : BitVec Format.binary64.numBits}
    (he : unpackExponent b ≠ -1#_) : (UnpackedFloat.unpack .binary64 b).isNaN = false := by
  unfold UnpackedFloat.unpack
  rw [if_neg he]
  split
  · split <;> rfl
  · rfl

/-- A bit pattern whose mantissa field is zero unpacks to a number: an infinity or a zero. -/
theorem isNaN_unpack_of_mantissa {b : BitVec Format.binary64.numBits}
    (hm : unpackMantissa b = 0#_) : (UnpackedFloat.unpack .binary64 b).isNaN = false := by
  unfold UnpackedFloat.unpack
  simp only [hm]
  split
  · rfl
  · split <;> rfl

/-- **Packing keeps not-a-number apart**: a value that is a number packs to a bit pattern that
unpacks to a number. -/
theorem isNaN_unpack_pack (u : UnpackedFloat) :
    (UnpackedFloat.unpack .binary64 (UnpackedFloat.pack .binary64 u)).isNaN = u.isNaN := by
  fun_cases UnpackedFloat.pack with
  | case1 => decide
  | case2 s => exact isNaN_unpack_of_mantissa unpackMantissa_packComponents
  | case3 s => exact isNaN_unpack_of_mantissa unpackMantissa_packComponents
  | case4 s m e hm biasedExponent h => exact isNaN_unpack_of_mantissa unpackMantissa_packComponents
  | case5 s m e hm mantissaBits biasedExponent h₁ h₂ =>
    -- a normal value: its biased exponent is below the all-ones field
    have hlt : biasedExponent < 2047 := by simpa using h₁
    refine isNaN_unpack_of_exponent ?_
    rw [unpackExponent_packComponents]
    intro heq
    have := congrArg BitVec.toNat heq
    rw [BitVec.toNat_ofNat, Nat.mod_eq_of_lt (by omega)] at this
    simp at this
    omega
  | case6 s m e hm mantissaBits biasedExponent h₁ h₂ =>
    refine isNaN_unpack_of_exponent ?_
    rw [unpackExponent_packComponents]
    decide

/-- **Subtracting one finite double from another never gives not-a-number.** -/
theorem isNaN_sub (hx : x.toModel.unpack.isFinite) (hy : y.toModel.unpack.isFinite) :
    (x - y).isNaN = false := by
  show (UnpackedFloat.unpack .binary64 (UnpackedFloat.pack .binary64
    (UnpackedFloat.sub .binary64 x.toModel.unpack y.toModel.unpack))).isNaN = false
  rw [isNaN_unpack_pack]
  exact isNaN_sub_of_isFinite _ hx hy

end ReefLink.Binary64

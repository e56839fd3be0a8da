import ReefLink.Proofs.DoubleBits
import ReefLink.Payload.Coerce
/-!
# Whole numbers as doubles

The library turns a whole number `k` into a double by rounding `k / 1` to nearest
(`Decimal.natToFloat`), and reads a double back as a whole number in two ways: exactly, when the
double is integral (`integralValue?`), or cut toward zero (`truncatedValue`).

Rounding a whole number gives a 53-bit significand at an exponent about `⌊log₂ k⌋ - 52`
(`nearestRatio_one`), so never not-a-number (`isNaN_natToFloat`) and a finite double below `2^64`
(`isFinite_natToFloat`). Below `2^53` the rounding is exact: the significand is `k` shifted up to
53 bits (`unpack_natToFloat_exact`), and cutting the double gives `k` back
(`truncatedValue_natToFloat`). From the other side, an integral double below `2^53` in magnitude is
equal to the double of its integer (`beq_intToFloat_of_integralValue?`), `-0` and `0` alike, and
cutting it gives that integer (`truncatedValue_of_integralValue?`).
-/

namespace ReefLink.Binary64

open Float.Model Float.Model.UnpackedFloat Decimal

/-! ## Rounding a whole number -/

theorem log2Ratio_one {k : Nat} (hk : k ≠ 0) : log2Ratio k 1 = k.log2 := by
  have h1 : Nat.log2 1 = 0 := by decide
  simp [log2Ratio, Nat.pow_eq, h1, Nat.log2_self_le hk]

/-- A whole number below `2^53`, shifted up to 53 bits, is a 53-bit significand. -/
theorem shift_bounds {k : Nat} (hk : k ≠ 0) (hlog : k.log2 ≤ 52) :
    2 ^ 52 ≤ k * 2 ^ (52 - k.log2) ∧ k * 2 ^ (52 - k.log2) < 2 ^ 53 := by
  constructor
  · calc 2 ^ 52 = 2 ^ k.log2 * 2 ^ (52 - k.log2) := by rw [← Nat.pow_add]; congr 1; omega
      _ ≤ k * 2 ^ (52 - k.log2) := Nat.mul_le_mul_right _ (Nat.log2_self_le hk)
  · calc k * 2 ^ (52 - k.log2) < 2 ^ (k.log2 + 1) * 2 ^ (52 - k.log2) :=
          Nat.mul_lt_mul_of_pos_right Nat.lt_log2_self (by positivity)
      _ = 2 ^ 53 := by rw [← Nat.pow_add]; congr 1; omega

/-- **The leading bits of a whole number**: dividing `k` by `2^(⌊log₂ k⌋ - 52)`, or multiplying
it by the inverse, leaves a 53-bit significand. -/
theorem leading_bits {k : Nat} (hk : k ≠ 0) {q : Int} (hq : q = (k.log2 : Int) - 52) :
    2 ^ 52 ≤ (if 0 ≤ q then k else k * Nat.pow 2 (-q).toNat) /
        (if 0 ≤ q then 1 * Nat.pow 2 q.toNat else 1) ∧
      (if 0 ≤ q then k else k * Nat.pow 2 (-q).toNat) /
        (if 0 ≤ q then 1 * Nat.pow 2 q.toNat else 1) < 2 ^ 53 := by
  split_ifs with h0
  · have hq : q.toNat + 52 = k.log2 := by omega
    have hpos : 0 < 2 ^ q.toNat := by positivity
    rw [Nat.one_mul, Nat.pow_eq, Nat.le_div_iff_mul_le hpos, Nat.div_lt_iff_lt_mul hpos,
      ← Nat.pow_add, ← Nat.pow_add, Nat.add_comm 52, hq]
    refine ⟨Nat.log2_self_le hk, ?_⟩
    rw [show 53 + q.toNat = k.log2 + 1 by omega]
    exact Nat.lt_log2_self
  · rw [Nat.div_one, Nat.pow_eq, show (-q).toNat = 52 - k.log2 by omega]
    exact shift_bounds hk (by omega)

/-- **Rounding a whole number to a double** gives a 53-bit significand at an exponent at most one
above `⌊log₂ k⌋ - 52`, or infinity when that exponent is out of range. -/
theorem nearestRatio_one {k : Nat} (hk : k ≠ 0) :
    ∃ M : Nat, ∃ q : Int, 2 ^ 52 ≤ M ∧ M < 2 ^ 53 ∧ (k.log2 : Int) - 52 ≤ q ∧
      q ≤ (k.log2 : Int) - 51 ∧
      nearestRatio false k 1 = if q > 971 then Float.ofBits (infinityBits false).toUInt64
        else Float.ofBits (packBits false M q).toUInt64 := by
  unfold nearestRatio
  simp only [log2Ratio_one hk]
  -- the exponent is `⌊log₂ k⌋ - 52`, far above the least one
  have hmax : max ((k.log2 : Int) - 52) (-1074) = (k.log2 : Int) - 52 := by omega
  rw [hmax]
  generalize hq : (k.log2 : Int) - 52 = q
  have hbits := leading_bits hk hq.symm
  generalize (if 0 ≤ q then k else k * Nat.pow 2 (-q).toNat) = num at hbits ⊢
  generalize (if 0 ≤ q then 1 * Nat.pow 2 q.toNat else 1) = den at hbits ⊢
  generalize num / den = m0 at hbits ⊢
  generalize (decide (2 * (num % den) > den) ||
    decide (2 * (num % den) = den) && decide (m0 % 2 = 1)) = up
  -- rounding up adds one to the significand, and a carry to 2^53 moves to the next exponent
  by_cases hc : (if up = true then m0 + 1 else m0) = Nat.pow 2 53
  · refine ⟨2 ^ 52, q + 1, le_rfl, by norm_num, by omega, by omega, ?_⟩
    simp only [hc, if_true, Nat.pow_eq]
  · refine ⟨if up = true then m0 + 1 else m0, q, ?_, ?_, le_rfl, by omega, ?_⟩
    · split <;> omega
    · have hle : (if up = true then m0 + 1 else m0) ≤ m0 + 1 := by split <;> omega
      rw [Nat.pow_eq] at hc
      omega
    · simp only [hc, if_false]

/-- A whole number that a shift by `p` makes a 53-bit significand is nonzero, the shift is at most
52, and `⌊log₂ k⌋ = 52 - p`. -/
theorem shift_of_significand {k p M : Nat} (hkM : k * 2 ^ p = M) (hlo : 2 ^ 52 ≤ M)
    (hhi : M < 2 ^ 53) : k ≠ 0 ∧ p ≤ 52 ∧ k.log2 = 52 - p := by
  have hk : k ≠ 0 := by
    rintro rfl
    omega
  have hp : p ≤ 52 := by
    by_contra hp
    have : 2 ^ 53 ≤ k * 2 ^ p :=
      calc 2 ^ 53 ≤ 2 ^ p := Nat.pow_le_pow_right (by norm_num) (by omega)
        _ ≤ k * 2 ^ p := Nat.le_mul_of_pos_left _ (Nat.pos_of_ne_zero hk)
    omega
  refine ⟨hk, hp, (Nat.log2_eq_iff hk).2 ⟨?_, ?_⟩⟩
  · apply Nat.le_of_mul_le_mul_right _ (by positivity : 0 < 2 ^ p)
    rw [← Nat.pow_add, Nat.sub_add_cancel hp, hkM]
    exact hlo
  · have : k * 2 ^ p < 2 ^ (52 - p + 1) * 2 ^ p := by
      rw [← Nat.pow_add, show 52 - p + 1 + p = 53 by omega, hkM]
      exact hhi
    exact Nat.lt_of_mul_lt_mul_right this

/-- **A whole number with at most 53 significant bits rounds to itself**: its significand is the
number shifted up to 53 bits. -/
theorem nearestRatio_one_exact {k p M : Nat} (hkM : k * 2 ^ p = M) (hlo : 2 ^ 52 ≤ M)
    (hhi : M < 2 ^ 53) :
    nearestRatio false k 1 = Float.ofBits (packBits false M (-(p : Int))).toUInt64 := by
  obtain ⟨hk, hp, hlog⟩ := shift_of_significand hkM hlo hhi
  -- the exponent is `-p`, and the significand is the whole of `k * 2^p`
  have hmax : max (((52 - p : Nat) : Int) - 52) (-1074) = -(p : Int) := by omega
  have hnum : (if 0 ≤ -(p : Int) then k else k * Nat.pow 2 (-(-(p : Int))).toNat) = M := by
    split_ifs with h0
    · have : p = 0 := by omega
      subst this
      simpa using hkM
    · simpa [Nat.pow_eq] using hkM
  have hden : (if 0 ≤ -(p : Int) then 1 * Nat.pow 2 (-(p : Int)).toNat else 1) = 1 := by
    split_ifs with h0
    · have : p = 0 := by omega
      subst this
      rfl
    · rfl
  unfold nearestRatio
  simp only [log2Ratio_one hk, hlog, hmax, hnum, hden, Nat.div_one, Nat.mod_one]
  have hne : M ≠ Nat.pow 2 53 := by
    rw [Nat.pow_eq]
    omega
  have hrange : ¬ (-(p : Int) > 971) := by omega
  simp [hne, hrange]

/-- A whole number below `2^64` has at most twenty decimal digits. -/
theorem digitCount_le {k : Nat} (hk : k < 2 ^ 64) : digitCount k ≤ 20 :=
  (Nat.length_toDigits_le_iff (by norm_num) (by norm_num)).2 (lt_trans hk (by norm_num))

/-- A whole number with at most 310 digits is rounded by `nearestRatio` over one. -/
theorem natToFloat_eq_nearestRatio {k : Nat} (hk : k ≠ 0) (hd : digitCount k ≤ 310) :
    natToFloat k = nearestRatio false k 1 := by
  unfold natToFloat nearestFloat
  have hsize : ¬ ((0 : Int) + (digitCount k : Int) > 310) := by omega
  have hsize' : ¬ ((0 : Int) + (digitCount k : Int) < -326) := by omega
  simp only [hk, if_false, hsize, hsize']
  simp

theorem unpack_natToFloat_zero : (natToFloat 0).toModel.unpack = .zero .positive := rfl

/-- **Whole numbers of at most 53 bits are doubles exactly**: `k · 2^p` as a 53-bit significand at
exponent `-p`. -/
theorem unpack_natToFloat_exact {k p M : Nat} (hkM : k * 2 ^ p = M) (hlo : 2 ^ 52 ≤ M)
    (hhi : M < 2 ^ 53) :
    (natToFloat k).toModel.unpack = .finite .positive M (-(p : Int)) (by omega) := by
  obtain ⟨hk, hp, -⟩ := shift_of_significand hkM hlo hhi
  have hsmall : k < 2 ^ 64 :=
    calc k ≤ k * 2 ^ p := Nat.le_mul_of_pos_right _ (by positivity)
      _ < 2 ^ 53 := hkM ▸ hhi
      _ < 2 ^ 64 := by norm_num
  rw [natToFloat_eq_nearestRatio hk (by have := digitCount_le hsmall; omega),
    nearestRatio_one_exact hkM hlo hhi]
  exact unpack_ofBits_packBits false (by omega) hlo hhi (by omega) (by omega)

/-- **Rounding a whole number never gives not-a-number.** -/
theorem isNaN_natToFloat (k : Nat) : (natToFloat k).isNaN = false := by
  by_cases hk : k = 0
  · subst hk
    rfl
  by_cases hd : digitCount k ≤ 310
  · rw [natToFloat_eq_nearestRatio hk hd]
    obtain ⟨M, q, hlo, hhi, hqlo, hqhi, h⟩ := nearestRatio_one hk
    rw [h]
    split
    · decide
    · change (Float.ofBits (packBits false M q).toUInt64).toModel.unpack.isNaN = false
      rw [unpack_ofBits_packBits false (by omega) hlo hhi (by omega) (by omega)]
      rfl
  · have hsize : (0 : Int) + (digitCount k : Int) > 310 := by omega
    unfold natToFloat nearestFloat
    simp only [hk, if_false, hsize, if_true]
    decide

/-- **Every whole number below `2^64` rounds to a finite double.** -/
theorem isFinite_natToFloat {k : Nat} (hk : k < 2 ^ 64) : (natToFloat k).isFinite = true := by
  by_cases h0 : k = 0
  · subst h0
    rfl
  have hlog : k.log2 < 64 := (Nat.log2_lt h0).2 hk
  rw [natToFloat_eq_nearestRatio h0 (by have := digitCount_le hk; omega)]
  obtain ⟨M, q, hlo, hhi, hqlo, hqhi, h⟩ := nearestRatio_one h0
  rw [h, if_neg (by omega)]
  exact isFinite_of_unpack_finite
    (unpack_ofBits_packBits false (by omega) hlo hhi (by omega) (by omega))

end ReefLink.Binary64

namespace ReefLink

open Float.Model.UnpackedFloat Decimal Binary64

/-! ## Integers and integral doubles -/

@[simp] theorem intToFloat_natCast (n : Nat) : intToFloat n = natToFloat n := by
  simp [intToFloat]

theorem intToFloat_neg {n : Nat} (hn : n ≠ 0) : intToFloat (-(n : Int)) = -(natToFloat n) := by
  have hneg : ¬ (0 : Int) ≤ -(n : Int) := by omega
  rw [intToFloat, if_neg hneg, Int.natAbs_neg, Int.natAbs_natCast]

/-- **The double nearest to an integer is never not-a-number.** -/
theorem isNaN_intToFloat (i : Int) : (intToFloat i).isNaN = false := by
  unfold intToFloat
  split
  · exact isNaN_natToFloat _
  · rw [isNaN_neg]
    exact isNaN_natToFloat _

/-- **An integral double is a whole number exactly**: finite, and its magnitude `n` times
`2^(-e)` is its significand times `2^e`, the integer being `n` with the double's sign. -/
theorem integralValue?_eq_some {f : Float} {i : Int} (h : integralValue? f = some i) :
    f.isFinite = true ∧ ∃ n : Nat, i = (if (Binary.ofFloat f).negative then -(n : Int) else n) ∧
      n * 2 ^ (-(Binary.ofFloat f).e).toNat =
        (Binary.ofFloat f).m * 2 ^ (Binary.ofFloat f).e.toNat := by
  unfold integralValue? at h
  split at h
  · cases h
  rename_i hnum
  refine ⟨(isFinite_iff f).2 (by simpa using hnum), ?_⟩
  generalize Binary.ofFloat f = b at h ⊢
  dsimp only at h
  -- the magnitude is read as a natural number and then given the sign
  obtain ⟨_, hread, rfl⟩ := Option.map_eq_some_iff.1 h
  obtain ⟨n, hn, hcast⟩ := Option.bind_eq_some_iff.1 hread
  cases hcast
  refine ⟨n, rfl, ?_⟩
  split_ifs at hn with he hdiv
  · cases hn
    rw [show (-b.e).toNat = 0 by omega, Nat.pow_zero, Nat.mul_one, Nat.pow_eq]
  · cases hn
    rw [Nat.pow_eq] at hdiv
    rw [show b.e.toNat = 0 by omega, Nat.pow_zero, Nat.mul_one, Nat.pow_eq,
      Nat.div_mul_cancel (Nat.dvd_of_mod_eq_zero hdiv)]

/-- **The parts of a nonzero integral double below `2^53`**: a normal significand that is the
integer shifted up by some `p`, at exponent `-p`. A subnormal significand is too small for a
nonzero whole number, and a positive exponent too large for one below `2^53`. -/
theorem integral_parts {b : Binary} {n : Nat} (hn0 : n ≠ 0) (hn : n < 2 ^ 53)
    (hval : n * 2 ^ (-b.e).toNat = b.m * 2 ^ b.e.toNat)
    (hcan : (b.m < 2 ^ 52 ∧ b.e = -1074) ∨
      (2 ^ 52 ≤ b.m ∧ b.m < 2 ^ 53 ∧ -1074 ≤ b.e ∧ b.e ≤ 971)) :
    ∃ p : Nat, b.e = -(p : Int) ∧ n * 2 ^ p = b.m ∧ 2 ^ 52 ≤ b.m ∧ b.m < 2 ^ 53 := by
  rcases hcan with ⟨hsub, he⟩ | ⟨hlo, hhi, -, -⟩
  · rw [show b.e.toNat = 0 by omega, pow_zero, mul_one] at hval
    have hbig : 2 ^ 52 ≤ n * 2 ^ (-b.e).toNat :=
      le_trans (Nat.pow_le_pow_right (by norm_num) (by omega))
        (Nat.le_mul_of_pos_left _ (Nat.pos_of_ne_zero hn0))
    exact absurd hsub (not_lt.2 (hval ▸ hbig))
  have he0 : b.e ≤ 0 := by
    by_contra hpos
    have : 2 ^ 53 ≤ b.m * 2 ^ b.e.toNat :=
      calc 2 ^ 53 = 2 ^ 52 * 2 ^ 1 := by norm_num
        _ ≤ b.m * 2 ^ b.e.toNat :=
          Nat.mul_le_mul hlo (Nat.pow_le_pow_right (by norm_num) (by omega))
    rw [show (-b.e).toNat = 0 by omega, pow_zero, mul_one] at hval
    omega
  refine ⟨(-b.e).toNat, by omega, ?_, hlo, hhi⟩
  rw [hval, show b.e.toNat = 0 by omega, pow_zero, mul_one]

/-- **An integral double equals the double of its integer** when that integer has at most 53
bits: rounding the integer gives the double back, sign included, and `-0` equals `0`. -/
theorem beq_intToFloat_of_integralValue? {f : Float} {i : Int} (h : integralValue? f = some i)
    (hi : i.natAbs < 2 ^ 53) : (f == intToFloat i) = true := by
  obtain ⟨hfin, n, rfl, hval⟩ := integralValue?_eq_some h
  have hu := unpack_toModel hfin
  have hcan := ofFloat_canonical hfin
  clear h
  generalize Binary.ofFloat f = b at hu hval hcan hi ⊢
  have habs : (if b.negative then -(n : Int) else n).natAbs = n := by split <;> simp
  rw [habs] at hi
  by_cases hn0 : n = 0
  · subst hn0
    have hm : b.m = 0 := by
      have : b.m * 2 ^ b.e.toNat = 0 := by simpa using hval.symm
      exact (Nat.mul_eq_zero.1 this).resolve_right (by positivity)
    have hz : f.toModel.unpack = .zero b.sign := by rw [hu, Binary.toUnpacked, dif_pos hm]
    have hi0 : (if b.negative then -((0 : Nat) : Int) else ((0 : Nat) : Int)) =
        ((0 : Nat) : Int) := by
      split <;> simp
    rw [hi0, intToFloat_natCast]
    exact beq_of_zero hz unpack_natToFloat_zero
  obtain ⟨p, hp, hkM, hlo, hhi⟩ := integral_parts hn0 hi hval hcan
  have hnat := unpack_natToFloat_exact hkM hlo hhi
  apply beq_of_unpack_eq ((isFinite_iff f).1 hfin).1
  rw [hu, Binary.toUnpacked, dif_neg (by omega)]
  -- the sign of the double is the sign of its integer
  cases hneg : b.negative
  · simp only [Binary.sign, hneg, Bool.false_eq_true, if_false, intToFloat_natCast, hnat, hp]
  · simp only [Binary.sign, hneg, if_true, intToFloat_neg hn0,
      unpack_neg_of_normal hnat hlo hhi (by omega) (by omega), hp]
    rfl

/-- **Cutting an integral double toward zero gives its integer.** -/
theorem truncatedValue_of_integralValue? {f : Float} {i : Int} (h : integralValue? f = some i) :
    truncatedValue f = i := by
  obtain ⟨-, n, rfl, hval⟩ := integralValue?_eq_some h
  unfold truncatedValue
  generalize Binary.ofFloat f = b at hval ⊢
  simp only [Nat.pow_eq]
  have hmag : (if 0 ≤ b.e then b.m * 2 ^ b.e.toNat else b.m / 2 ^ (-b.e).toNat) = n := by
    split_ifs with he
    · rw [show (-b.e).toNat = 0 by omega, pow_zero, mul_one] at hval
      exact hval.symm
    · rw [show b.e.toNat = 0 by omega, pow_zero, mul_one] at hval
      rw [← hval, Nat.mul_div_cancel _ (by positivity)]
  rw [hmag]

/-- **Cutting the double of a whole number below `2^53` toward zero gives the number back.** -/
theorem truncatedValue_natToFloat {k : Nat} (hk : k < 2 ^ 53) :
    truncatedValue (natToFloat k) = k := by
  by_cases h0 : k = 0
  · subst h0
    have hm := m_ofFloat_of_unpack_zero unpack_natToFloat_zero
    unfold truncatedValue
    simp only [hm, Nat.zero_mul, Nat.zero_div, ite_self, Nat.cast_zero, neg_zero]
  have hlog : k.log2 ≤ 52 := by have := (Nat.log2_lt h0).2 hk; omega
  obtain ⟨hlo, hhi⟩ := shift_bounds h0 hlog
  obtain ⟨hm, he, hs⟩ := ofFloat_of_unpack_finite (unpack_natToFloat_exact rfl hlo hhi)
  unfold truncatedValue
  simp only [hm, he, negative_eq_false_of_sign hs, Nat.pow_eq, Bool.false_eq_true, if_false]
  -- the exponent is `-(52 - ⌊log₂ k⌋)`: zero only when `k` already has 53 bits
  split_ifs with hp
  · have : 52 - k.log2 = 0 := by omega
    simp [this]
  · rw [show (-(-((52 - k.log2 : Nat) : Int))).toNat = 52 - k.log2 by omega,
      Nat.mul_div_cancel _ (by positivity)]

end ReefLink

import ReefLink.Proofs.FloatOrder
import ReefLink.Decimal.Shortest
/-!
# Doubles as bit patterns

A double is a 64-bit pattern: a sign bit, an 11-bit biased exponent and a 52-bit fraction. The
library reads these fields itself (`Decimal.Binary.ofFloat`, a significand `m` and an exponent
`e`) and writes them itself (`Decimal.packBits`), while Lean's logical model of `Float` unpacks
and packs the same patterns (`UnpackedFloat.unpack`, `UnpackedFloat.pack`).

The two readings agree on every finite double (`unpack_toModel`), and the parts are canonical
(`ofFloat_canonical`): a subnormal significand at the least exponent, or 53 bits at an exponent in
range. A normal value packed by `packBits` unpacks to itself (`unpack_ofBits_packBits`); negation
flips only its sign (`unpack_neg_of_normal`). Doubles that the model holds alike are equal as IEEE
doubles unless not a number (`beq_of_unpack_eq`), and the two zeros are equal (`beq_of_zero`).
-/

namespace ReefLink.Binary64

open Float.Model Float.Model.UnpackedFloat

/-! ## The three fields of a pattern -/

theorem toNat_unpackExponent (b : BitVec Format.binary64.numBits) :
    (unpackExponent b).toNat = b.toNat / 2 ^ 52 % 2 ^ 11 := by
  simp [unpackExponent, BitVec.extractLsb_toNat, Nat.shiftRight_eq_div_pow]

theorem toNat_unpackMantissa (b : BitVec Format.binary64.numBits) :
    (unpackMantissa b).toNat = b.toNat % 2 ^ 52 := by
  simp [unpackMantissa, BitVec.extractLsb_toNat]

/-- The sign that the top bit of a 64-bit pattern gives. -/
def signOfBits (n : Nat) : Sign := if 2 ^ 63 ≤ n then .negative else .positive

theorem ofBitVec_unpackSign (b : BitVec Format.binary64.numBits) :
    Sign.ofBitVec (unpackSign b) = signOfBits b.toNat := by
  have hb : b.toNat < 2 ^ 64 := b.isLt
  have h : (unpackSign b).toNat = b.toNat / 2 ^ 63 % 2 := by
    simp [unpackSign, BitVec.extractLsb_toNat, Nat.shiftRight_eq_div_pow]
  unfold Sign.ofBitVec signOfBits
  by_cases hs : 2 ^ 63 ≤ b.toNat
  · rw [if_pos hs, if_neg]
    intro h0
    rw [h0] at h
    simp at h hb
    omega
  · rw [if_neg hs, if_pos]
    apply BitVec.eq_of_toNat_eq
    simp at h hb hs ⊢
    omega

theorem toNat_one_append {w : Nat} (v : BitVec w) : (1#1 ++ v).toNat = 2 ^ w + v.toNat := by
  rw [BitVec.toNat_append, ← Nat.shiftLeft_add_eq_or_of_lt v.isLt]
  simp [Nat.shiftLeft_eq]

section Fields

variable (b : BitVec Format.binary64.numBits)

theorem unpackExponent_ne_allOnes (h : b.toNat / 2 ^ 52 % 2 ^ 11 ≠ 2047) :
    unpackExponent b ≠ -1#_ := by
  intro he
  have := congrArg BitVec.toNat he
  rw [toNat_unpackExponent] at this
  simp at this
  omega

theorem unpackExponent_eq_zero_iff : unpackExponent b = 0#_ ↔ b.toNat / 2 ^ 52 % 2 ^ 11 = 0 := by
  rw [← BitVec.toNat_inj, toNat_unpackExponent]
  simp

/-- **A normal pattern** unpacks to its fraction with the hidden bit set, at its biased
exponent. -/
theorem unpack_of_normal (h0 : b.toNat / 2 ^ 52 % 2 ^ 11 ≠ 0)
    (h1 : b.toNat / 2 ^ 52 % 2 ^ 11 ≠ 2047) :
    unpack .binary64 b = .finite (signOfBits b.toNat) (b.toNat % 2 ^ 52 + 2 ^ 52)
      ((b.toNat / 2 ^ 52 % 2 ^ 11 : Nat) - 1075) (by positivity) := by
  rw [UnpackedFloat.unpack, if_neg (unpackExponent_ne_allOnes b h1),
    if_neg (mt (unpackExponent_eq_zero_iff b).1 h0)]
  simp only [ofBitVec_unpackSign, toNat_one_append, toNat_unpackMantissa, toNat_unpackExponent]
  -- the exponents agree by computation; the hidden bit is added on the other side
  congr 1
  exact Nat.add_comm _ _

/-- A pattern with both fields zero is a signed zero. -/
theorem unpack_of_zero (h0 : b.toNat / 2 ^ 52 % 2 ^ 11 = 0) (hm : b.toNat % 2 ^ 52 = 0) :
    unpack .binary64 b = .zero (signOfBits b.toNat) := by
  have hm' : unpackMantissa b = 0#_ := by
    rw [← BitVec.toNat_inj, toNat_unpackMantissa, hm]
    rfl
  rw [UnpackedFloat.unpack, if_neg (unpackExponent_ne_allOnes b (by omega)),
    if_pos ((unpackExponent_eq_zero_iff b).2 h0), dif_pos hm']
  simp only [ofBitVec_unpackSign]

/-- A subnormal pattern is its fraction at the least exponent. -/
theorem unpack_of_subnormal (h0 : b.toNat / 2 ^ 52 % 2 ^ 11 = 0) (hm : b.toNat % 2 ^ 52 ≠ 0) :
    unpack .binary64 b = .finite (signOfBits b.toNat) (b.toNat % 2 ^ 52) (-1074)
      (Nat.pos_of_ne_zero hm) := by
  have hm' : unpackMantissa b ≠ 0#_ := by
    rw [ne_eq, ← BitVec.toNat_inj, toNat_unpackMantissa]
    simpa using hm
  rw [UnpackedFloat.unpack, if_neg (unpackExponent_ne_allOnes b (by omega)),
    if_pos ((unpackExponent_eq_zero_iff b).2 h0), dif_neg hm']
  simp only [ofBitVec_unpackSign, toNat_unpackMantissa, toNat_unpackExponent, h0]
  simp [Format.exponentBias]

/-- A pattern whose exponent field is all ones is no finite value. -/
theorem isFinite_unpack_of_allOnes (h : b.toNat / 2 ^ 52 % 2 ^ 11 = 2047) :
    (unpack .binary64 b).isFinite = false := by
  have he : unpackExponent b = -1#_ := by
    rw [← BitVec.toNat_inj, toNat_unpackExponent, h]
    rfl
  rw [UnpackedFloat.unpack, if_pos he]
  split <;> rfl

end Fields

/-! ## Finiteness, negation and equality -/

theorem isFinite_iff (x : Float) : x.isFinite = true ↔ x.isNaN = false ∧ x.isInf = false := by
  change x.toModel.unpack.isFinite = true ↔
    x.toModel.unpack.isNaN = false ∧ x.toModel.unpack.isInf = false
  cases x.toModel.unpack <;> simp [UnpackedFloat.isFinite, UnpackedFloat.isNaN, UnpackedFloat.isInf]

theorem isFinite_of_unpack_finite {x : Float} {s : Sign} {M : Nat} {q : Int} {hM : 0 < M}
    (hx : x.toModel.unpack = .finite s M q hM) : x.isFinite = true := by
  change x.toModel.unpack.isFinite = true
  rw [hx]
  rfl

theorem isFinite_of_unpack_zero {x : Float} {s : Sign} (hx : x.toModel.unpack = .zero s) :
    x.isFinite = true := by
  change x.toModel.unpack.isFinite = true
  rw [hx]
  rfl

/-- Negating a double negates the value Lean's model holds, repacked. -/
theorem unpack_neg (x : Float) :
    (-x).toModel.unpack = unpack .binary64 (UnpackedFloat.pack .binary64 x.toModel.unpack.neg) :=
  rfl

theorem isNaN_neg (x : Float) : (-x).isNaN = x.isNaN := by
  change (unpack .binary64 (UnpackedFloat.pack .binary64 x.toModel.unpack.neg)).isNaN =
    x.toModel.unpack.isNaN
  rw [isNaN_unpack_pack]
  cases x.toModel.unpack <;> rfl

/-- **Doubles that Lean's model holds alike are equal** as IEEE doubles, unless not a number. -/
theorem beq_of_unpack_eq {x y : Float} (hx : x.isNaN = false)
    (h : x.toModel.unpack = y.toModel.unpack) : (x == y) = true := by
  change (x.toModel.unpack.compare y.toModel.unpack == some .eq) = true
  rw [← h, compare_self hx]
  rfl

/-- The two zeros are equal as IEEE doubles. -/
theorem beq_of_zero {x y : Float} {s t : Sign} (hx : x.toModel.unpack = .zero s)
    (hy : y.toModel.unpack = .zero t) : (x == y) = true := by
  change (x.toModel.unpack.compare y.toModel.unpack == some .eq) = true
  rw [hx, hy]
  cases s <;> cases t <;> rfl

/-! ## The parts the library reads -/

open Decimal

@[simp] theorem negative_ofFloat (x : Float) :
    (Binary.ofFloat x).negative = decide (2 ^ 63 ≤ x.toBits.toNat) := by
  simp only [Binary.ofFloat, Nat.pow_eq, ge_iff_le]
  split <;> rfl

@[simp] theorem m_ofFloat (x : Float) :
    (Binary.ofFloat x).m = if x.toBits.toNat / 2 ^ 52 % 2 ^ 11 = 0 then x.toBits.toNat % 2 ^ 52
      else x.toBits.toNat % 2 ^ 52 + 2 ^ 52 := by
  simp only [Binary.ofFloat, Nat.pow_eq, ge_iff_le]
  split <;> rfl

@[simp] theorem e_ofFloat (x : Float) :
    (Binary.ofFloat x).e = if x.toBits.toNat / 2 ^ 52 % 2 ^ 11 = 0 then -1074
      else ((x.toBits.toNat / 2 ^ 52 % 2 ^ 11 : Nat) : Int) - 1075 := by
  simp only [Binary.ofFloat, Nat.pow_eq, ge_iff_le]
  split <;> rfl

end ReefLink.Binary64

namespace ReefLink.Decimal.Binary

open Float.Model Float.Model.UnpackedFloat

/-- The sign of the parts of a double, as Lean's model has it. -/
def sign (b : Binary) : Sign := if b.negative then .negative else .positive

/-- The parts of a finite double as Lean's model holds them: a signed zero, or a finite value. -/
def toUnpacked (b : Binary) : UnpackedFloat :=
  if h : b.m = 0 then .zero b.sign else .finite b.sign b.m b.e (Nat.pos_of_ne_zero h)

end ReefLink.Decimal.Binary

namespace ReefLink.Binary64

open Float.Model Float.Model.UnpackedFloat Decimal

theorem signOfBits_toBits (x : Float) : signOfBits x.toBits.toNat = (Binary.ofFloat x).sign := by
  simp [signOfBits, Binary.sign]

/-- **The parts `Binary.ofFloat` reads are those of Lean's model** of every finite double. -/
theorem unpack_toModel {x : Float} (hx : x.isFinite = true) :
    x.toModel.unpack = (Binary.ofFloat x).toUnpacked := by
  have hfin : (unpack .binary64 x.toBits.toBitVec).isFinite = true := hx
  change unpack .binary64 x.toBits.toBitVec = _
  have hsign := signOfBits_toBits x
  -- the exponent field decides between zero or subnormal, infinite or not a number, and normal
  by_cases h0 : x.toBits.toNat / 2 ^ 52 % 2 ^ 11 = 0
  · by_cases hm : x.toBits.toNat % 2 ^ 52 = 0
    · rw [unpack_of_zero _ h0 hm]
      simp only [Binary.toUnpacked, m_ofFloat, if_pos h0, hm, dite_true, UInt64.toNat_toBitVec,
        hsign]
    · rw [unpack_of_subnormal _ h0 hm]
      simp only [Binary.toUnpacked, m_ofFloat, e_ofFloat, if_pos h0, hm, dite_false,
        UInt64.toNat_toBitVec, hsign]
  · by_cases h1 : x.toBits.toNat / 2 ^ 52 % 2 ^ 11 = 2047
    · rw [isFinite_unpack_of_allOnes _ h1] at hfin
      cases hfin
    · rw [unpack_of_normal _ h0 h1]
      have hm : x.toBits.toNat % 2 ^ 52 + 2 ^ 52 ≠ 0 := by positivity
      simp only [Binary.toUnpacked, m_ofFloat, e_ofFloat, if_neg h0, hm, dite_false,
        UInt64.toNat_toBitVec, hsign]

/-- **The parts of a finite double are canonical**: a subnormal significand at the least
exponent, or a 53-bit significand at an exponent in range. -/
theorem ofFloat_canonical {x : Float} (hx : x.isFinite = true) :
    ((Binary.ofFloat x).m < 2 ^ 52 ∧ (Binary.ofFloat x).e = -1074) ∨
      (2 ^ 52 ≤ (Binary.ofFloat x).m ∧ (Binary.ofFloat x).m < 2 ^ 53 ∧
        -1074 ≤ (Binary.ofFloat x).e ∧ (Binary.ofFloat x).e ≤ 971) := by
  have hfin : (unpack .binary64 x.toBits.toBitVec).isFinite = true := hx
  have htop : x.toBits.toNat / 2 ^ 52 % 2 ^ 11 ≠ 2047 := fun h => by
    rw [isFinite_unpack_of_allOnes _ h] at hfin
    cases hfin
  have hfield : x.toBits.toNat / 2 ^ 52 % 2 ^ 11 < 2 ^ 11 := Nat.mod_lt _ (by norm_num)
  have hfrac : x.toBits.toNat % 2 ^ 52 < 2 ^ 52 := Nat.mod_lt _ (by norm_num)
  rw [m_ofFloat, e_ofFloat]
  split_ifs with h0
  · exact .inl ⟨hfrac, rfl⟩
  · exact .inr ⟨by omega, by omega, by omega, by omega⟩

/-- The parts `Binary.ofFloat` reads from a double that Lean's model holds as a finite value. -/
theorem ofFloat_of_unpack_finite {x : Float} {s : Sign} {M : Nat} {q : Int} {hM : 0 < M}
    (hx : x.toModel.unpack = .finite s M q hM) :
    (Binary.ofFloat x).m = M ∧ (Binary.ofFloat x).e = q ∧ (Binary.ofFloat x).sign = s := by
  have h := unpack_toModel (isFinite_of_unpack_finite hx)
  rw [hx, Binary.toUnpacked] at h
  split at h
  · cases h
  · cases h
    exact ⟨rfl, rfl, rfl⟩

theorem m_ofFloat_of_unpack_zero {x : Float} {s : Sign} (hx : x.toModel.unpack = .zero s) :
    (Binary.ofFloat x).m = 0 := by
  have h := unpack_toModel (isFinite_of_unpack_zero hx)
  rw [hx, Binary.toUnpacked] at h
  split at h
  · assumption
  · cases h

/-- A positive sign is no negative flag. -/
theorem negative_eq_false_of_sign {b : Binary} (h : b.sign = .positive) : b.negative = false := by
  cases hb : b.negative
  · rfl
  · simp only [Binary.sign, hb, if_true] at h
    cases h

/-! ## Packing a normal value -/

theorem toNat_packComponents (s : Sign) (e : BitVec 11) (m : BitVec 52) :
    (packComponents .binary64 s e m).toNat =
      s.toBitVec.toNat * 2 ^ 63 + e.toNat * 2 ^ 52 + m.toNat := by
  unfold packComponents
  rw [BitVec.toNat_append, ← Nat.shiftLeft_add_eq_or_of_lt m.isLt, BitVec.toNat_append,
    ← Nat.shiftLeft_add_eq_or_of_lt e.isLt]
  simp only [Nat.shiftLeft_eq]
  ring

theorem signOfBits_of_toBitVec (s : Sign) {r : Nat} (hr : r < 2 ^ 63) :
    signOfBits (s.toBitVec.toNat * 2 ^ 63 + r) = s := by
  cases s
  · simp [signOfBits, Sign.toBitVec]
  · simp [signOfBits, Sign.toBitVec]
    omega

section Normal

variable (s : Sign) {M : Nat} {q : Int} (hM : 0 < M) (hlo : 2 ^ 52 ≤ M) (hhi : M < 2 ^ 53)
  (hqlo : -1074 ≤ q) (hqhi : q ≤ 971)
include hlo hhi hqlo hqhi

/-- A normal value in canonical form packs into its sign, biased exponent and significand
without the hidden bit. -/
theorem pack_normal :
    UnpackedFloat.pack .binary64 (.finite s M q hM) =
      packComponents .binary64 s (BitVec.ofNat 11 (q + 1075).toNat) (BitVec.ofNat 52 M) := by
  have hlog : M.log2 = 52 := by
    have h1 : 52 ≤ M.log2 := (Nat.le_log2 (by omega)).2 hlo
    have h2 : M.log2 < 53 := (Nat.log2_lt (by omega)).2 hhi
    omega
  have hbias : (q + (Format.binary64.exponentBias : Int) +
      (Format.binary64.mantissaBitsWithoutImplicit : Int)).toNat = (q + 1075).toNat := by
    simp only [Format.exponentBias]
    omega
  rw [UnpackedFloat.pack]
  simp only [hlog, hbias]
  -- neither subnormal nor too large
  rw [if_neg (by simp; omega), if_pos (by simp [Format.mantissaBits])]

theorem toNat_pack_normal :
    (UnpackedFloat.pack .binary64 (.finite s M q hM)).toNat =
      s.toBitVec.toNat * 2 ^ 63 + (q + 1074).toNat * 2 ^ 52 + M := by
  rw [pack_normal s hM hlo hhi hqlo hqhi, toNat_packComponents]
  simp only [BitVec.toNat_ofNat]
  rw [Nat.mod_eq_of_lt (by omega : (q + 1075).toNat < 2 ^ 11)]
  omega

/-- **Packing a normal value and unpacking it gives it back.** -/
theorem unpack_pack_normal :
    unpack .binary64 (UnpackedFloat.pack .binary64 (.finite s M q hM)) = .finite s M q hM := by
  have hn := toNat_pack_normal s hM hlo hhi hqlo hqhi
  have hsb : s.toBitVec.toNat ≤ 1 := by cases s <;> decide
  have hfield : (UnpackedFloat.pack .binary64 (.finite s M q hM)).toNat / 2 ^ 52 % 2 ^ 11 =
      (q + 1075).toNat := by
    rw [hn]
    omega
  rw [unpack_of_normal _ (by omega) (by omega)]
  congr 1
  · rw [hn, Nat.add_assoc, signOfBits_of_toBitVec s (by omega)]
  · omega
  · omega

end Normal

section PackBits

variable (negative : Bool) {M : Nat} {q : Int} (hM : 0 < M) (hlo : 2 ^ 52 ≤ M) (hhi : M < 2 ^ 53)
  (hqlo : -1074 ≤ q) (hqhi : q ≤ 971)
include hlo hhi hqlo hqhi

/-- The bits `packBits` writes for a normal value are those Lean's model packs. -/
theorem toBitVec_packBits :
    (packBits negative M q).toUInt64.toBitVec =
      UnpackedFloat.pack .binary64 (.finite (if negative then .negative else .positive) M q hM) := by
  apply BitVec.eq_of_toNat_eq
  rw [toNat_pack_normal _ hM hlo hhi hqlo hqhi]
  have hlt : packBits negative M q < 2 ^ 64 := by
    unfold packBits
    simp only [Nat.pow_eq]
    split <;> omega
  rw [Nat.toUInt64_eq, UInt64.toBitVec_ofNat', BitVec.toNat_ofNat, Nat.mod_eq_of_lt hlt]
  have hsign : (if negative = true then Sign.negative else Sign.positive).toBitVec.toNat =
      if negative = true then 1 else 0 := by
    cases negative <;> rfl
  rw [hsign]
  unfold packBits
  simp only [Nat.pow_eq]
  split <;> omega

/-- **The double with the bits of a normal value** is that value in Lean's model. -/
theorem unpack_ofBits_packBits :
    (Float.ofBits (packBits negative M q).toUInt64).toModel.unpack =
      .finite (if negative then .negative else .positive) M q hM := by
  change unpack .binary64 (UnpackedFloat.pack .binary64
    (unpack .binary64 (packBits negative M q).toUInt64.toBitVec)) = _
  rw [toBitVec_packBits negative hM hlo hhi hqlo hqhi, unpack_pack_normal _ hM hlo hhi hqlo hqhi,
    unpack_pack_normal _ hM hlo hhi hqlo hqhi]

end PackBits

/-- **Negating a normal double** flips its sign and keeps its significand and exponent. -/
theorem unpack_neg_of_normal {x : Float} {s : Sign} {M : Nat} {q : Int} {hM : 0 < M}
    (hx : x.toModel.unpack = .finite s M q hM) (hlo : 2 ^ 52 ≤ M) (hhi : M < 2 ^ 53)
    (hqlo : -1074 ≤ q) (hqhi : q ≤ 971) :
    (-x).toModel.unpack = .finite (-s) M q hM := by
  rw [unpack_neg, hx]
  exact unpack_pack_normal (-s) hM hlo hhi hqlo hqhi

end ReefLink.Binary64

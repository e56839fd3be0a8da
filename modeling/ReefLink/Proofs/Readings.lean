import ReefLink.Proofs.Digits
import ReefLink.Proofs.WholeDoubles
import ReefLink.Payload.Entry
/-!
# The integer reading agrees with the others

A field reads as an integer (`Json.toInt?`) in three ways: a JSON integer in the signed 64-bit
range, an integral double below `9e15` in magnitude, or a trimmed run of digits
(`Json.toInt?_eq_some`). The number reading (`Json.toNumber?`) and the percentage reading
(`Json.toPercent?`) go their own ways for each, through doubles, yet never disagree with it: an
integer's double is itself, an integral double below `2^53` is the double of its integer
(`-0` included), and digits read as a decimal literal round as their value does. Cutting toward
zero gives each integer back from 0 to 100.

`integerReading_agrees` states both agreements, and with them that the intensity of an outlet,
which is read as an integer, is the percentage its field reads as.
-/

namespace ReefLink

open Decimal Binary64

/-- **Trimmed digits are a number reading**: the double nearest to their value, finite when the
value is below `2^64`. -/
theorem readDecimal?_digits {s : String} (h : IsDigits (Text.trim s).toList)
    (hv : digitsValue (Text.trim s).toList < 2 ^ 64) :
    readDecimal? s = some (natToFloat (digitsValue (Text.trim s).toList)) := by
  have hfin := (isFinite_iff _).1 (isFinite_natToFloat hv)
  unfold readDecimal?
  dsimp only
  rw [isEmpty_of_isDigits h, readLiteral?_digits h]
  simp only [Bool.false_eq_true, if_false, hfin.1, hfin.2, Bool.or_false]

namespace Json

/-- **What an integer reading reads**: a JSON integer in range, an integral double below `9e15` in
magnitude, or a string whose trimmed text is digits. -/
theorem toInt?_eq_some {v : Json} {n : Int} (h : v.toInt? = some n) :
    (v = .num (.int n) ∧ n ≤ Number.int64Max) ∨
      (∃ f, v = .num (.float f) ∧ integralValue? f = some n ∧ n.natAbs < 9000000000000000) ∨
      (∃ s, v = .str s ∧ digitsToInt64? (Text.trim s) = some n) := by
  cases v with
  | num m =>
    cases m with
    | int i =>
      simp only [toInt?] at h
      split_ifs at h with hi
      cases h
      exact .inl ⟨rfl, hi⟩
    | float f =>
      simp only [toInt?] at h
      split at h
      · rename_i i hi
        split_ifs at h with hsmall
        cases h
        exact .inr (.inl ⟨f, rfl, hi, hsmall⟩)
      · cases h
  | str s => exact .inr (.inr ⟨s, rfl, h⟩)
  | null | bool _ | arr _ | obj _ => cases h

/-- A finite double whose cut lies from 0 to 100 is that percentage. -/
theorem percentOfFloat_of_truncated {f : Float} (hfin : f.isFinite = true)
    (h0 : 0 ≤ truncatedValue f) (h100 : truncatedValue f ≤ 100) :
    percentOfFloat f = some (truncatedValue f).toNat := by
  have hf := (isFinite_iff f).1 hfin
  unfold percentOfFloat
  simp only [hf.1, hf.2, Bool.or_false, Bool.false_eq_true, if_false, h0, h100, decide_true,
    Bool.and_self, if_true]

theorem percentOfFloat_natToFloat {k : Nat} (hk : k ≤ 100) :
    percentOfFloat (natToFloat k) = some k := by
  have ht := truncatedValue_natToFloat (k := k) (by omega)
  rw [percentOfFloat_of_truncated (isFinite_natToFloat (by omega)) (by omega) (by omega), ht,
    Int.toNat_natCast]

/-- **A value with an integer reading has a number reading**, equal to that integer as a double. -/
theorem toNumber?_of_toInt? {v : Json} {n : Int} (h : v.toInt? = some n) :
    ∃ x, v.toNumber? = some x ∧ (x == intToFloat n) = true := by
  rcases toInt?_eq_some h with ⟨rfl, -⟩ | ⟨f, rfl, hf, hsmall⟩ | ⟨s, rfl, hs⟩
  · exact ⟨intToFloat n, rfl, beq_of_unpack_eq (isNaN_intToFloat n) rfl⟩
  · exact ⟨f, rfl, beq_intToFloat_of_integralValue? hf (lt_trans hsmall (by norm_num))⟩
  · -- digits are read as a decimal literal, which rounds as the integer does
    obtain ⟨hds, hle, rfl⟩ := digitsToInt64?_eq_some hs
    refine ⟨natToFloat (digitsValue (Text.trim s).toList), ?_, ?_⟩
    · unfold toNumber?
      exact readDecimal?_digits hds (lt_of_le_of_lt hle (by norm_num))
    · rw [intToFloat_natCast]
      exact beq_of_unpack_eq (isNaN_natToFloat _) rfl

/-- **A value with an integer reading from 0 to 100 has that percentage reading.** -/
theorem toPercent?_of_toInt? {v : Json} {n : Int} (h : v.toInt? = some n) (h0 : 0 ≤ n)
    (h100 : n ≤ 100) : v.toPercent? = some n.toNat := by
  rcases toInt?_eq_some h with ⟨rfl, -⟩ | ⟨f, rfl, hf, -⟩ | ⟨s, rfl, hs⟩
  · obtain ⟨k, rfl⟩ := Int.eq_ofNat_of_zero_le h0
    show percentOfFloat (intToFloat k) = _
    rw [intToFloat_natCast, percentOfFloat_natToFloat (by omega), Int.toNat_natCast]
  · have ht := truncatedValue_of_integralValue? hf
    show percentOfFloat f = _
    rw [percentOfFloat_of_truncated (integralValue?_eq_some hf).1 (ht ▸ h0) (ht ▸ h100), ht]
  · -- digits carry no percent sign, and are read as the integer is
    have hds := (digitsToInt64?_eq_some hs).1
    unfold toPercent?
    simp only [endsWith_percent_of_digits hds, Bool.false_eq_true, if_false, hs, h100, if_true]

end Json

namespace Entry

/-- **An outlet's intensity** is an integer reading of its field from 0 to 100. -/
theorem intensity_eq_some {item : ModuleFields} {did : String} {keys : ModuleKeys}
    {ids : List String} {p : Nat} (h : (outlet item did keys ids).intensity = some p) :
    ∃ n, (item.lookup "intensity").bind Json.toInt? = some n ∧ 0 ≤ n ∧ n ≤ 100 ∧ p = n.toNat := by
  unfold outlet at h
  dsimp only at h
  split at h
  · rename_i n hn
    split_ifs at h with hr
    cases h
    simp only [Bool.and_eq_true, decide_eq_true_eq] at hr
    exact ⟨n, hn, hr.1, hr.2, rfl⟩
  · cases h

end Entry

/-- **The integer reading agrees with the number and percentage readings**: a value with an
integer reading `n` has a number reading equal to `n` as a double (`-0` matching `0`) and, when `n`
is from 0 to 100, the percentage reading `n`; so an outlet's intensity is the percentage its
field reads as. -/
theorem integerReading_agrees :
    (∀ (v : Json) (n : Int), v.toInt? = some n →
      (∃ x, v.toNumber? = some x ∧ (x == intToFloat n) = true) ∧
        (0 ≤ n → n ≤ 100 → v.toPercent? = some n.toNat)) ∧
    (∀ (item : ModuleFields) (did : String) (keys : Entry.ModuleKeys) (ids : List String)
      (p : Nat), (Entry.outlet item did keys ids).intensity = some p →
        (item.lookup "intensity").bind Json.toPercent? = some p) := by
  refine ⟨fun v n h => ⟨Json.toNumber?_of_toInt? h, Json.toPercent?_of_toInt? h⟩, ?_⟩
  intro item did keys ids p h
  obtain ⟨n, hn, h0, h100, rfl⟩ := Entry.intensity_eq_some h
  obtain ⟨v, hv, hint⟩ := Option.bind_eq_some_iff.1 hn
  rw [hv, Option.bind_some, Json.toPercent?_of_toInt? hint h0 h100]

/-- The padded text ` 40 ` reads as the integer 40, as a number equal to it, and as the
percentage 40. -/
theorem integerReading_padded_forty :
    (Json.str " 40 ").toInt? = some 40 ∧
      (∃ x, (Json.str " 40 ").toNumber? = some x ∧ (x == intToFloat 40) = true) ∧
      (Json.str " 40 ").toPercent? = some 40 :=
  have h : (Json.str " 40 ").toInt? = some 40 := by decide
  ⟨h, (integerReading_agrees.1 _ 40 h).1, (integerReading_agrees.1 _ 40 h).2 (by decide) (by decide)⟩

end ReefLink

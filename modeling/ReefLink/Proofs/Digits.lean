import Mathlib
import ReefLink.Payload.Coerce
/-!
# Runs of decimal digits

Several readers take a text of ASCII digits to a number: the integer reading of a field
(`digitsToInt64?`), the decimal literal grammar (`Decimal.readLiteral?`, through `spanDigits`),
and the `Retry-After` header. Each folds the digits from the left, ten times what came before
plus the next digit; `foldl_digits` identifies that fold with `digitsValue`, the value of the digits
as `Nat.ofDigits` has it.

On a run of digits the readers agree: the integer reading is the value while it fits a signed
64-bit word (`digitsToInt64?_eq_some`), the literal grammar reads the double nearest to the value
(`readLiteral?_digits`), since no name of infinity or of not-a-number starts with a digit
(`sameLetters_digits`), and a run of digits carries no percent sign
(`endsWith_percent_of_digits`).
-/

namespace ReefLink

/-- A run of ASCII digits: at least one, and nothing but `0` to `9`. -/
def IsDigits (ds : List Char) : Prop := ds ≠ [] ∧ ds.all Char.isDigit = true

/-- The value of a run of decimal digits, the most significant first. -/
def digitsValue (ds : List Char) : Nat := Nat.ofDigits 10 (ds.reverse.map fun c => c.toNat - 48)

/-- Reading digits from the left, ten times what came before plus the next digit, gives their
value. -/
theorem foldl_digits (ds : List Char) :
    ds.foldl (fun a c => a * 10 + (c.toNat - 48)) 0 = digitsValue ds := by
  induction ds using List.reverseRecOn with
  | nil => rfl
  | append_singleton ds c ih =>
    rw [List.foldl_append, ih]
    simp only [digitsValue, List.reverse_append, List.reverse_cons, List.reverse_nil,
      List.nil_append, List.map_cons, List.singleton_append, Nat.ofDigits_cons, List.foldl_cons,
      List.foldl_nil]
    ring

theorem IsDigits.head_isDigit {c : Char} {cs : List Char} (h : IsDigits (c :: cs)) :
    c.isDigit = true := by
  simpa using (List.all_eq_true.1 h.2) c (by simp)

/-- A run of digits does not start with a sign. -/
theorem IsDigits.ne_sign {ds : List Char} (h : IsDigits ds) (sign : Char) (hs : sign.isDigit = false)
    (rest : List Char) : ds ≠ sign :: rest := by
  rintro rfl
  rw [h.head_isDigit] at hs
  cases hs

theorem isEmpty_of_isDigits {t : String} (h : IsDigits t.toList) : t.isEmpty = false := by
  cases he : t.isEmpty
  · rfl
  · exact absurd (String.toList_eq_nil_iff.2 (String.isEmpty_iff.1 he)) h.1

/-! ## The integer reading -/

theorem allDigits_iff {t : String} : allDigits t = true ↔ IsDigits t.toList := by
  simp [allDigits, IsDigits, String.toList_eq_nil_iff]

/-- **The integer reading of digits** is their value, which fits a signed 64-bit word. -/
theorem digitsToInt64?_eq_some {t : String} {n : Int} (h : digitsToInt64? t = some n) :
    IsDigits t.toList ∧ digitsValue t.toList ≤ 9223372036854775807 ∧ n = digitsValue t.toList := by
  unfold digitsToInt64? at h
  simp only [show '0'.toNat = 48 from rfl, foldl_digits] at h
  split_ifs at h with hd hle
  cases h
  exact ⟨allDigits_iff.1 hd, hle, rfl⟩

/-- A run of digits does not end with a percent sign. -/
theorem endsWith_percent_of_digits {t : String} (h : IsDigits t.toList) :
    t.endsWith "%" = false := by
  change t.toSlice.endsWith "%" = false
  rw [String.Slice.endsWith_string_eq_false_iff, String.copy_toSlice]
  intro hsuf
  have hmem : '%' ∈ t.toList := hsuf.subset (by simp)
  exact absurd (List.all_eq_true.1 h.2 '%' hmem) (by decide)

/-! ## The decimal literal grammar -/

open Decimal

theorem toLower_of_isDigit {c : Char} (h : c.isDigit = true) : c.toLower = c := by
  unfold Char.toLower
  rw [dif_neg]
  simp only [Char.isDigit, Bool.and_eq_true, decide_eq_true_eq] at h
  -- digits lie below the capital letters
  intro hu
  have h1 := hu.1
  have h2 := h.2
  simp [UInt32.le_iff_toNat_le] at h1 h2
  omega

/-- `spanDigits` takes a whole run of digits, folding it into its accumulator. -/
theorem spanDigits_of_all {ds : List Char} (h : ds.all Char.isDigit = true) (acc n : Nat) :
    spanDigits ds acc n = (ds.foldl (fun a c => a * 10 + (c.toNat - 48)) acc, n + ds.length, []) := by
  induction ds generalizing acc n with
  | nil => rfl
  | cons c cs ih =>
    simp only [List.all_cons, Bool.and_eq_true] at h
    rw [spanDigits, if_pos h.1, ih h.2]
    have h0 : '0'.toNat = 48 := rfl
    rw [h0, List.foldl_cons, List.length_cons, Nat.add_right_comm, Nat.add_assoc]

/-- A word starting with a letter is no run of digits, in any case. -/
theorem sameLetters_digits {c d : Char} {cs ds : List Char} (hc : c.isDigit = true)
    (hd : d.toLower.isDigit = false) : sameLetters (c :: cs) (d :: ds) = false := by
  have hne : c ≠ d.toLower := by
    rintro rfl
    rw [hc] at hd
    cases hd
  unfold sameLetters
  simp [toLower_of_isDigit hc, hne]

/-- **A run of digits is a decimal literal** of the double nearest to its value. -/
theorem readLiteral?_digits {t : String} (h : IsDigits t.toList) :
    readLiteral? t = some (natToFloat (digitsValue t.toList)) := by
  unfold readLiteral?
  generalize t.toList = l at h ⊢
  obtain ⟨c, cs, rfl⟩ := List.exists_cons_of_ne_nil h.1
  have hc := h.head_isDigit
  -- no name of infinity or of not-a-number starts with a digit
  have hinf : sameLetters (c :: cs) "inf".toList = false := sameLetters_digits hc (by decide)
  have hinfinity : sameLetters (c :: cs) "infinity".toList = false :=
    sameLetters_digits hc (by decide)
  have hnan : sameLetters (c :: cs) "nan".toList = false := sameLetters_digits hc (by decide)
  have hspan := spanDigits_of_all h.2 0 0
  dsimp only
  split
  · rename_i heq
    obtain ⟨rfl, -⟩ := List.cons.inj heq
    exact absurd hc (by decide)
  · rename_i heq
    obtain ⟨rfl, -⟩ := List.cons.inj heq
    exact absurd hc (by decide)
  · dsimp only
    simp only [hinf, hinfinity, hnan, Bool.or_false, Bool.false_eq_true, if_false, hspan]
    -- the digits take the whole text: no point, no exponent
    have hexp : readExponent [] = some 0 := rfl
    have hlen : 0 + (c :: cs).length + 0 ≠ 0 := by simp
    rw [if_neg hlen, hexp, foldl_digits]
    rfl

end ReefLink

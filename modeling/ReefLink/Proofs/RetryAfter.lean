import Mathlib
import ReefLink.Protocol.Session
import ReefLink.Proofs.Digits
/-!
# Reading a `Retry-After` delay

A `429` answer may say in its `Retry-After` header how long to wait. The session reads the
trimmed text as a decimal integer literal: digits after an optional `+` are that many seconds, up
to the largest unsigned 64-bit word; digits after a `-` are a negative number of seconds, which
means no delay at all, down to the least signed 64-bit word. Any other text, an HTTP date or a
fraction among them, leaves the five-minute default in place and reports that no delay was given.

`Session.rateLimited_retryAfter` states what a `429` does for each shape of text, the literals
out of range included. A minus sign alone does not make a negative number: `-0` is zero, and falls
back to the default like a text that is no number (`Session.rateLimited_minus_zero`); and a
negative literal below -2^63 is no signed 64-bit word, so it falls back to the default too.
-/

namespace ReefLink

/-- `t` is a literal of the natural number `n`: digits after an optional `+`. -/
def IsUnsignedLiteral (t : List Char) (n : Nat) : Prop :=
  ∃ ds, IsDigits ds ∧ (t = ds ∨ t = '+' :: ds) ∧ digitsValue ds = n

/-- `t` is a literal of `-n`: digits after a `-`. -/
def IsNegativeLiteral (t : List Char) (n : Nat) : Prop :=
  ∃ ds, IsDigits ds ∧ t = '-' :: ds ∧ digitsValue ds = n

/-- **The unsigned reading** accepts exactly the literals of natural numbers. -/
theorem unsignedDigits?_eq_some_iff {cs : List Char} {n : Nat} :
    unsignedDigits? cs = some n ↔ IsUnsignedLiteral cs n := by
  unfold unsignedDigits?
  split
  · rename_i rest
    constructor
    · intro h
      simp only [Bool.and_eq_true, Bool.not_eq_true', List.isEmpty_eq_false_iff] at h
      split_ifs at h with hd
      exact ⟨rest, ⟨hd.1, hd.2⟩, .inr rfl, by rw [← foldl_digits]; exact Option.some.inj h⟩
    · rintro ⟨ds, hds, hcs | hcs, rfl⟩
      · exact absurd hcs.symm (hds.ne_sign '+' (by decide) rest)
      · cases hcs
        simp [hds.1, hds.2, foldl_digits]
  · rename_i hplus
    constructor
    · intro h
      simp only [Bool.and_eq_true, Bool.not_eq_true', List.isEmpty_eq_false_iff] at h
      split_ifs at h with hd
      exact ⟨cs, ⟨hd.1, hd.2⟩, .inl rfl, by rw [← foldl_digits]; exact Option.some.inj h⟩
    · rintro ⟨ds, hds, rfl | rfl, rfl⟩
      · simp [hds.1, hds.2, foldl_digits]
      · exact absurd rfl (hplus ds)

theorem unsignedDigits?_minus (rest : List Char) : unsignedDigits? ('-' :: rest) = none := by
  simp [unsignedDigits?]

/-- **An unsigned literal** is read as that many seconds while it fits an unsigned 64-bit word. -/
theorem retryAfterMs?_unsigned {h : String} {n : Nat}
    (hl : IsUnsignedLiteral (Text.trim h).toList n) :
    retryAfterMs? h = if n < Nat.pow 2 64 then some (n * 1000) else none := by
  unfold retryAfterMs?
  simp only [unsignedDigits?_eq_some_iff.2 hl]

/-- **A negative literal** is read as no delay while it fits a signed 64-bit word. -/
theorem retryAfterMs?_negative {h : String} {n : Nat}
    (hl : IsNegativeLiteral (Text.trim h).toList n) :
    retryAfterMs? h = if 0 < n ∧ n ≤ Nat.pow 2 63 then some 0 else none := by
  obtain ⟨ds, hds, ht, rfl⟩ := hl
  -- the digits after the minus carry no second sign
  have hhead : ds.head? ≠ some '+' := by
    obtain ⟨c, rest, rfl⟩ := List.exists_cons_of_ne_nil hds.1
    simpa using hds.ne_sign '+' (by decide) rest
  have hread : unsignedDigits? ds = some (digitsValue ds) :=
    unsignedDigits?_eq_some_iff.2 ⟨ds, hds, .inl rfl, rfl⟩
  unfold retryAfterMs?
  simp only [ht, unsignedDigits?_minus, hread]
  by_cases hr : 0 < digitsValue ds ∧ digitsValue ds ≤ Nat.pow 2 63
  · simp [hr, hhead]
  · simp only [if_neg hr]
    split_ifs with hc
    · simp only [Bool.and_eq_true, decide_eq_true_eq] at hc
      exact absurd ⟨hc.1.2, hc.2⟩ hr
    · rfl

/-- **Any other text** is no delay read. -/
theorem retryAfterMs?_other {h : String}
    (hu : ∀ n, ¬ IsUnsignedLiteral (Text.trim h).toList n)
    (hn : ∀ n, ¬ IsNegativeLiteral (Text.trim h).toList n) :
    retryAfterMs? h = none := by
  have hnone : unsignedDigits? (Text.trim h).toList = none :=
    Option.eq_none_iff_forall_ne_some.2 fun n hs => hu n (unsignedDigits?_eq_some_iff.1 hs)
  unfold retryAfterMs?
  simp only [hnone]
  split
  · rename_i rest ht
    cases hr : unsignedDigits? rest with
    | none => rfl
    | some m =>
      -- the digits after the minus can only carry a `+` of their own
      obtain ⟨ds, hds, hrest | hrest, rfl⟩ := unsignedDigits?_eq_some_iff.1 hr
      · exact absurd ⟨ds, hds, hrest ▸ ht, rfl⟩ (hn _)
      · simp [hrest]
  · rfl

namespace Session

theorem rateLimited_some (s : Session) (now : Nat) (h : String) :
    s.rateLimited now (some h) =
      (s.disableFor now ((retryAfterMs? h).getD defaultBackoff), .rateLimited (retryAfterMs? h)) := by
  simp only [rateLimited, Option.bind_some]

/-- **The back-off a `429` chooses and reports**, by the shape of its trimmed `Retry-After` text.
An unsigned literal is that many seconds below 2^64, and the five-minute default, reported as no
delay given, from there on. A negative literal from -1 down to -2^63 is no delay; `-0` and the
literals below -2^63 leave the default and report no delay given. Any other text leaves the
default as well. -/
theorem rateLimited_retryAfter (s : Session) (now : Nat) (h : String) :
    (∀ n, IsUnsignedLiteral (Text.trim h).toList n → s.rateLimited now (some h) =
      if n < Nat.pow 2 64 then (s.disableFor now (n * 1000), .rateLimited (some (n * 1000)))
      else (s.disableFor now defaultBackoff, .rateLimited none)) ∧
    (∀ n, IsNegativeLiteral (Text.trim h).toList n → s.rateLimited now (some h) =
      if 0 < n ∧ n ≤ Nat.pow 2 63 then (s.disableFor now 0, .rateLimited (some 0))
      else (s.disableFor now defaultBackoff, .rateLimited none)) ∧
    ((∀ n, ¬ IsUnsignedLiteral (Text.trim h).toList n) →
      (∀ n, ¬ IsNegativeLiteral (Text.trim h).toList n) →
      s.rateLimited now (some h) = (s.disableFor now defaultBackoff, .rateLimited none)) := by
  refine ⟨fun n hl => ?_, fun n hl => ?_, fun hu hn => ?_⟩
  · rw [rateLimited_some, retryAfterMs?_unsigned hl]
    split <;> rfl
  · rw [rateLimited_some, retryAfterMs?_negative hl]
    split <;> rfl
  · rw [rateLimited_some, retryAfterMs?_other hu hn]
    rfl

/-- The least signed 64-bit number of seconds, -2^63, is no delay, reported as a delay of zero;
one second less falls back to the default and reports no delay given. -/
theorem rateLimited_int64Min_edge :
    IsNegativeLiteral (Text.trim "-9223372036854775808").toList 9223372036854775808 ∧
      IsNegativeLiteral (Text.trim "-9223372036854775809").toList 9223372036854775809 ∧
      ({} : Session).rateLimited 0 (some "-9223372036854775808") =
        (({} : Session).disableFor 0 0, .rateLimited (some 0)) ∧
      ({} : Session).rateLimited 0 (some "-9223372036854775809") =
        (({} : Session).disableFor 0 defaultBackoff, .rateLimited none) := by
  have hmin : IsNegativeLiteral (Text.trim "-9223372036854775808").toList 9223372036854775808 :=
    ⟨"9223372036854775808".toList, ⟨by simp, by decide⟩, by decide, by decide⟩
  have hpast : IsNegativeLiteral (Text.trim "-9223372036854775809").toList 9223372036854775809 :=
    ⟨"9223372036854775809".toList, ⟨by simp, by decide⟩, by decide, by decide⟩
  refine ⟨hmin, hpast, ?_, ?_⟩
  · rw [(rateLimited_retryAfter {} 0 _).2.1 _ hmin, if_pos (by decide)]
  · rw [(rateLimited_retryAfter {} 0 _).2.1 _ hpast, if_neg (by decide)]

/-- **`-0` is no negative number**: it is a literal after a minus sign, yet a `429` carrying it
waits the five-minute default and reports no delay given. -/
theorem rateLimited_minus_zero :
    IsNegativeLiteral (Text.trim "-0").toList 0 ∧
      ({} : Session).rateLimited 0 (some "-0") =
        (({} : Session).disableFor 0 defaultBackoff, .rateLimited none) :=
  have hread : retryAfterMs? "-0" = none := by decide
  ⟨⟨['0'], ⟨by simp, rfl⟩, by decide, rfl⟩, by rw [rateLimited_some, hread]; rfl⟩

end Session

end ReefLink

import ReefLink.Decimal.Nearest
/-!
# The shortest decimal that reads back

A finite nonzero double is `m · 2^e`. The reals that round to it form an interval around it, with
its ends included exactly when `m` is even. `shortest` finds the fewest significant digits
`d · 10^k` inside that interval, trying one digit, then two, up to seventeen; on each grid the
two decimals next to the value are the only ones that can be inside, and of two inside the
nearer one wins. An exact tie is settled by a `Tie` rule: the even digit, or the larger one.
Everything is exact natural-number arithmetic on the bits of the double.
-/

namespace ReefLink.Decimal

/-- Which of two equally near decimals to take. -/
inductive Tie where
  /-- The one whose last digit is even. -/
  | toEven
  /-- The one further from zero. -/
  | up

/-- A finite double split into its sign, its significand `m` and its exponent `e`, so that its
magnitude is `m · 2^e`; `lowerGapHalf` says the next double below lies at half the usual
distance (a power of two above the smallest normal exponent). -/
structure Binary where
  negative : Bool
  m : Nat
  e : Int
  lowerGapHalf : Bool

/-- The parts of a double, read off its bits. -/
def Binary.ofFloat (f : Float) : Binary :=
  let bits := f.toBits.toNat
  let field : Nat := (bits / Nat.pow 2 52) % Nat.pow 2 11
  let frac : Nat := bits % Nat.pow 2 52
  if field = 0 then
    { negative := bits ≥ Nat.pow 2 63, m := frac, e := -1074, lowerGapHalf := false }
  else
    { negative := bits ≥ Nat.pow 2 63, m := frac + Nat.pow 2 52, e := (field : Int) - 1075,
      lowerGapHalf := frac = 0 && field > 1 }

/-- `a · 10^k` against `b · 2^q`, exactly. -/
def compareScaled (a : Nat) (k : Int) (b : Nat) (q : Int) : Ordering :=
  compare (a * Nat.pow 10 k.toNat * Nat.pow 2 (-q).toNat)
    (b * Nat.pow 2 q.toNat * Nat.pow 10 (-k).toNat)

/-- Whether `d · 10^k` rounds to the double `b`. -/
def Binary.holds (b : Binary) (d : Nat) (k : Int) : Bool :=
  let q := b.e - 2
  let lo := 4 * b.m - (if b.lowerGapHalf then 1 else 2)
  let hi := 4 * b.m + 2
  let aboveLo := compareScaled d k lo q
  let belowHi := compareScaled d k hi q
  if b.m % 2 = 0 then aboveLo != .lt && belowHi != .gt
  else aboveLo == .gt && belowHi == .lt

/-- `⌊m · 2^e / 10^k⌋` and the pair `(num, den)` whose quotient is `m · 2^e / 10^k`. -/
def Binary.onGrid (b : Binary) (k : Int) : Nat × Nat × Nat :=
  let num := b.m * Nat.pow 2 b.e.toNat * Nat.pow 10 (-k).toNat
  let den := Nat.pow 2 (-b.e).toNat * Nat.pow 10 k.toNat
  (num / den, num, den)

/-- The exponent of the leading decimal digit of a positive double: the largest `t` with
`10^t ≤ m · 2^e`. -/
def Binary.leadExponent (b : Binary) : Int :=
  let est : Int := ((b.m.log2 : Int) + b.e) * 30103 / 100000
  let fits (t : Int) : Bool := compareScaled 1 t b.m b.e != .gt
  if fits (est + 1) then (if fits (est + 2) then est + 2 else est + 1)
  else if fits est then est
  else if fits (est - 1) then est - 1
  else est - 2

/-- Drops the zeros at the end of `d`, raising `k` for each. -/
def stripZeros (d : Nat) (k : Int) : Nat × Int :=
  if h : d ≠ 0 ∧ d % 10 = 0 then stripZeros (d / 10) (k + 1) else (d, k)
termination_by d
decreasing_by omega

/-- The decimal with `p` significant digits nearest the double that still rounds to it, if any;
`tie` picks between two equally near. -/
def Binary.onDigits (b : Binary) (tie : Tie) (lead : Int) (p : Nat) : Option (Nat × Int) :=
  let k := lead + 1 - p
  let (d0, num, den) := b.onGrid k
  let inLo := b.holds d0 k
  let inHi := b.holds (d0 + 1) k
  if inLo && inHi then
    match compare (2 * num) ((2 * d0 + 1) * den) with
    | .lt => some (d0, k)
    | .gt => some (d0 + 1, k)
    | .eq =>
      match tie with
      | .toEven => some (if d0 % 2 = 0 then d0 else d0 + 1, k)
      | .up => some (d0 + 1, k)
  else if inLo then some (d0, k)
  else if inHi then some (d0 + 1, k)
  else none

/-- **Shortest digits** of a nonzero finite double: `(d, k)` with `d · 10^k` the decimal of fewest
digits that reads back as the double, nearest to it among those (`tie` deciding between two
equally near), `d` without trailing zeros. -/
def Binary.shortest (b : Binary) (tie : Tie) : Nat × Int :=
  let lead := b.leadExponent
  let found := (List.range 17).findSome? fun i => b.onDigits tie lead (i + 1)
  match found with
  | some (d, k) => stripZeros d k
  | none => stripZeros (b.onGrid (lead - 16)).1 (lead - 16)

end ReefLink.Decimal

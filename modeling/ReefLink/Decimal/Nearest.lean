/-!
# The binary64 value nearest to a decimal

`nearestFloat` turns `m · 10^e` into the binary64 value that is nearest to it, a tie going to the
even significand, in exact natural-number arithmetic. It is the one way this library turns
decimal text into a float, so readings of payload text and of JSON literals round alike.

`readLiteral?` is the grammar of a plain decimal literal as controllers write numbers in text
fields: an optional sign, digits with an optional point (at least one digit on one side), and an
optional exponent; the names of infinity and of not-a-number are read too.
-/

namespace ReefLink.Decimal

/-- The number of decimal digits of a positive number (and 1 for zero). -/
def digitCount (m : Nat) : Nat := (Nat.toDigits 10 m).length

/-- `⌊log₂ (n / d)⌋` for positive `n` and `d`. -/
def log2Ratio (n d : Nat) : Int :=
  let k : Int := (n.log2 : Int) - (d.log2 : Int)
  let fits := if 0 ≤ k then d * Nat.pow 2 k.toNat ≤ n else d ≤ n * Nat.pow 2 (-k).toNat
  if fits then k else k - 1

/-- The bits of the double `M · 2^q` for a significand `M < 2^53` and `q ≥ -1074`, where
`M ≥ 2^52` unless `q = -1074`: the exponent field and the significand field add up. -/
def packBits (negative : Bool) (M : Nat) (q : Int) : Nat :=
  (if negative then Nat.pow 2 63 else 0) + (q + 1074).toNat * Nat.pow 2 52 + M

/-- Bits of infinity. -/
def infinityBits (negative : Bool) : Nat :=
  (if negative then Nat.pow 2 63 else 0) + 0x7FF * Nat.pow 2 52

/-- The nearest binary64 value to `n / d` (`n, d > 0`), ties to even. -/
def nearestRatio (negative : Bool) (n d : Nat) : Float :=
  let k := log2Ratio n d
  let q : Int := max (k - 52) (-1074)
  let num := if 0 ≤ q then n else n * Nat.pow 2 (-q).toNat
  let den := if 0 ≤ q then d * Nat.pow 2 q.toNat else d
  let m0 := num / den
  let r := num % den
  let up := 2 * r > den || (2 * r = den && m0 % 2 = 1)
  let m1 := if up then m0 + 1 else m0
  let (M, q') := if m1 = Nat.pow 2 53 then (Nat.pow 2 52, q + 1) else (m1, q)
  if q' > 971 then Float.ofBits (infinityBits negative).toUInt64
  else Float.ofBits (packBits negative M q').toUInt64

/-- **The nearest double** to `±m · 10^e`, ties to even; too large is infinity, too small is a
signed zero. -/
def nearestFloat (negative : Bool) (m : Nat) (e : Int) : Float :=
  let zero := Float.ofBits (if negative then (Nat.pow 2 63 : Nat).toUInt64 else 0)
  if m = 0 then zero
  else
    let size : Int := e + digitCount m
    if size > 310 then Float.ofBits (infinityBits negative).toUInt64
    else if size < -326 then zero
    else nearestRatio negative (m * Nat.pow 10 e.toNat) (Nat.pow 10 (-e).toNat)

/-- The double nearest to a natural number. -/
def natToFloat (m : Nat) : Float := nearestFloat false m 0

/-- The double nearest to `10^k`. -/
def tenPow (k : Nat) : Float := nearestFloat false 1 k

/-- The digits at the front of a text, as a number and a count, and the rest. -/
def spanDigits : List Char → Nat → Nat → Nat × Nat × List Char
  | c :: cs, acc, n =>
    if c.isDigit then spanDigits cs (acc * 10 + (c.toNat - '0'.toNat)) (n + 1) else (acc, n, c :: cs)
  | [], acc, n => (acc, n, [])

/-- Case-insensitive equality of ASCII texts. -/
def sameLetters (a b : List Char) : Bool :=
  a.map Char.toLower == b.map Char.toLower

/-- The exponent part `[eE][+-]?digits`, which must end the text. -/
def readExponent : List Char → Option Int
  | [] => some 0
  | c :: cs =>
    if c = 'e' || c = 'E' then
      let (neg, ds) := match cs with
        | '+' :: r => (false, r)
        | '-' :: r => (true, r)
        | r => (false, r)
      let (v, n, rest) := spanDigits ds 0 0
      if n = 0 || !rest.isEmpty then none
      else some (if neg then -(v : Int) else v)
    else none

/-- Reads a whole text as a decimal literal: `[+-]? (digits [. digits?] | . digits) exponent?`,
or a signed name of infinity (`inf`, `infinity`) or of not-a-number (`nan`), in any case. -/
def readLiteral? (s : String) : Option Float :=
  let cs := s.toList
  let (neg, body) := match cs with
    | '+' :: r => (false, r)
    | '-' :: r => (true, r)
    | r => (false, r)
  if sameLetters body "inf".toList || sameLetters body "infinity".toList then
    some (if neg then -(1.0 / 0.0) else 1.0 / 0.0)
  else if sameLetters body "nan".toList then some (0.0 / 0.0)
  else
    let (whole, nWhole, rest) := spanDigits body 0 0
    let (frac, nFrac, rest) := match rest with
      | '.' :: r => spanDigits r whole 0
      | r => (whole, 0, r)
    if nWhole + nFrac = 0 then none
    else
      match readExponent rest with
      | some e => some (nearestFloat neg frac (e - nFrac))
      | none => none

end ReefLink.Decimal

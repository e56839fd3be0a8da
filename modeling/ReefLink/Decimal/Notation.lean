import ReefLink.Decimal.Shortest
/-!
# Writing a double as text

Every double this library writes goes through `Notation.render`: the shortest digits that read
back (`Binary.shortest`), laid out by a `Notation`. Two layouts are used: the one of JSON
numbers in payloads and answers (`Notation.json`), and the plain one of error messages
(`Notation.plain`). They also settle an exact tie between two shortest decimals differently:
JSON takes the even last digit, plain text the one further from zero.
-/

namespace ReefLink.Decimal

/-- How the digits of a double are laid out. -/
structure Notation where
  /-- The range of "digit count plus exponent" written positionally; `none` is always. -/
  positional : Option (Int × Int)
  /-- Whether an integral value is written with `.0`. -/
  pointZero : Bool
  /-- Which of two equally near shortest decimals is written. -/
  tie : Tie

/-- JSON numbers: positional from `1e-5` up to below `1e16`, otherwise `d.ddde±x`; integral values
keep `.0`. -/
def Notation.json : Notation := ⟨some (-4, 16), true, .toEven⟩

/-- Plain text: always positional, integral values without a point, ties away from zero. -/
def Notation.plain : Notation := ⟨none, false, .up⟩

/-- `n` zeros. -/
def zeros (n : Nat) : String := String.ofList (List.replicate n '0')

/-- The layout of digits `ds` (no trailing zeros) times `10^k`, without sign. -/
def Notation.layout (n : Notation) (ds : String) (k : Int) : String :=
  let len : Int := ds.length
  let kk := len + k
  let positional := match n.positional with
    | none => true
    | some (lo, hi) => lo ≤ kk && kk ≤ hi
  if positional then
    if 0 ≤ k then ds ++ zeros k.toNat ++ (if n.pointZero then ".0" else "")
    else if 0 < kk then
      String.ofList (ds.toList.take kk.toNat) ++ "." ++ String.ofList (ds.toList.drop kk.toNat)
    else "0." ++ zeros (-kk).toNat ++ ds
  else
    let cs := ds.toList
    let head := String.ofList (cs.take 1)
    let tail := String.ofList (cs.drop 1)
    let mant := if tail.isEmpty then head else head ++ "." ++ tail
    let x := kk - 1
    mant ++ "e" ++ (if x < 0 then "-" else "+") ++ toString x.natAbs

/-- **The text of a double**: sign, then the shortest digits in this notation; the non-finite
values are `NaN`, `inf` and `-inf`. -/
def Notation.render (n : Notation) (f : Float) : String :=
  if f.isNaN then "NaN"
  else if f.isInf then (if f < 0 then "-inf" else "inf")
  else
    let b := Binary.ofFloat f
    let sign := if b.negative then "-" else ""
    if b.m = 0 then sign ++ (if n.pointZero then "0.0" else "0")
    else
      let (d, k) := b.shortest n.tie
      sign ++ n.layout (toString d) k

end ReefLink.Decimal

import ReefLink.Json.Value
import ReefLink.Json.Writer
import ReefLink.Decimal.Nearest
import ReefLink.Decimal.Shortest
import ReefLink.Text.Blank
/-!
# Reading fields leniently

Controllers write the same field as a number, a numeric string or a boolean, depending on the
firmware. The readings here accept a value only when it is unambiguous, and never fail: a value of
the wrong shape reads as absent.

- an integer is a JSON integer in the signed 64-bit range, an integral float below `9e15` in
  magnitude, or a string of ASCII digits once trimmed;
- a number is any JSON number, or a trimmed decimal literal that is finite;
- a percentage is a whole number from 0 to 100: a number cut toward zero, or a string of digits
  with an optional `%` at the end;
- a flag is a boolean, or an integer reading of 0 or 1;
- a text is a string that is not blank, trimmed; a scalar text is that, or the text of a number.
-/

namespace ReefLink

/-- The double nearest to an integer. -/
def intToFloat (i : Int) : Float :=
  if 0 ≤ i then Decimal.natToFloat i.toNat else -(Decimal.natToFloat i.natAbs)

/-- The value of a number as a double; integers round to the nearest double. -/
def Number.toFloat : Number → Float
  | .int i => intToFloat i
  | .float f => f

/-- The integer a double is equal to, when it is a finite integral value. -/
def integralValue? (f : Float) : Option Int :=
  let b := Decimal.Binary.ofFloat f
  if f.isNaN || f.isInf then none
  else
    let magnitude : Option Nat :=
      if 0 ≤ b.e then some (b.m * Nat.pow 2 b.e.toNat)
      else if b.m % Nat.pow 2 (-b.e).toNat = 0 then some (b.m / Nat.pow 2 (-b.e).toNat)
      else none
    magnitude.map fun n => if b.negative then -(n : Int) else n

/-- The integer a finite double is cut to, toward zero. -/
def truncatedValue (f : Float) : Int :=
  let b := Decimal.Binary.ofFloat f
  let magnitude := if 0 ≤ b.e then b.m * Nat.pow 2 b.e.toNat else b.m / Nat.pow 2 (-b.e).toNat
  if b.negative then -(magnitude : Int) else magnitude

/-- Whether a text is non-empty and made of ASCII digits only. -/
def allDigits (s : String) : Bool := !s.isEmpty && s.toList.all Char.isDigit

/-- The value of a text of ASCII digits, when it fits a signed 64-bit word. -/
def digitsToInt64? (s : String) : Option Int :=
  if allDigits s then
    let n := s.toList.foldl (fun acc c => acc * 10 + (c.toNat - '0'.toNat)) 0
    if n ≤ 9223372036854775807 then some n else none
  else none

/-- A trimmed decimal literal, when it is finite. -/
def readDecimal? (s : String) : Option Float :=
  let t := Text.trim s
  if t.isEmpty then none
  else match Decimal.readLiteral? t with
    | some f => if f.isNaN || f.isInf then none else some f
    | none => none

namespace Json

/-- The value of a JSON number as a double; anything else has none. -/
def float? : Json → Option Float
  | .num n => some n.toFloat
  | _ => none

/-- **An integer reading**: a JSON integer in the signed 64-bit range, an integral float below
`9e15` in magnitude, or a trimmed string of ASCII digits that fits the range. -/
def toInt? : Json → Option Int
  | .num (.int i) => if i ≤ Number.int64Max then some i else none
  | .num (.float f) =>
    match integralValue? f with
    | some i => if i.natAbs < 9000000000000000 then some i else none
    | none => none
  | .str s => digitsToInt64? (Text.trim s)
  | _ => none

/-- **A number reading**: any JSON number, or a string holding a finite decimal literal. -/
def toNumber? : Json → Option Float
  | .num n => some n.toFloat
  | .str s => readDecimal? s
  | _ => none

/-- The whole part of a finite double, cut toward zero, when it lies between 0 and 100. Cutting
to a signed 64-bit word saturates, which only moves values that are out of that range already. -/
def percentOfFloat (f : Float) : Option Nat :=
  if f.isNaN || f.isInf then none
  else
    let t := truncatedValue f
    if 0 ≤ t && t ≤ 100 then some t.toNat else none

/-- **A percentage reading**: a number cut toward zero, or digits with an optional `%`, from 0
to 100. -/
def toPercent? : Json → Option Nat
  | .num n => percentOfFloat n.toFloat
  | .str s =>
    let t := Text.trim s
    let t := if t.endsWith "%" then Text.trim (String.ofList (t.toList.dropLast)) else t
    match digitsToInt64? t with
    | some n => if n ≤ 100 then some n.toNat else none
    | none => none
  | _ => none

/-- **A flag reading**: a boolean, or an integer reading of 0 or 1. -/
def toBool? : Json → Option Bool
  | .bool b => some b
  | v =>
    match v.toInt? with
    | some 0 => some false
    | some 1 => some true
    | _ => none

/-- **A text reading**: a string that is not blank, trimmed. -/
def text? : Json → Option String
  | .str s => Text.trimmed? s
  | _ => none

/-- **A scalar text**: a text reading, or the JSON text of a number. -/
def scalarText? : Json → Option String
  | .str s => Text.trimmed? s
  | .num n => some n.render
  | _ => none

/-- Whether a value says something: not null, not `false`, not a blank string, not an empty
array or object. Zero says something. -/
def isMeaningful : Json → Bool
  | .null => false
  | .bool b => b
  | .str s => !Text.isBlankText s
  | .arr xs => !xs.isEmpty
  | .obj fs => !fs.isEmpty
  | .num _ => true

/-- **The first meaningful field** among alternative spellings of a key, in the order given. -/
def firstPresent (fs : List (String × Json)) (keys : List String) : Option Json :=
  (keys.filterMap fun k => fs.lookup k).find? isMeaningful

/-- The objects among the items of an array; anything else has none. -/
def objects : Json → List (List (String × Json))
  | .arr xs => xs.filterMap fields?
  | _ => []

end Json

end ReefLink

/-!
# JSON values as a controller payload holds them

A controller answers in JSON, and every reading of a payload goes through `Json`. Numbers keep
the distinction the payload reader makes: an integer that fits a signed or an unsigned 64-bit
word stays an integer, everything else is a binary64 float. Objects keep their fields sorted by
key with one field per key, so walking an object visits its keys in byte order.
-/

namespace ReefLink

/-- A number as the payload reader keeps it. -/
inductive Number where
  /-- An integer in the range of a signed or of an unsigned 64-bit word. -/
  | int (i : Int)
  /-- A finite binary64 float. -/
  | float (f : Float)
  deriving Inhabited

/-- A JSON value. Object fields are sorted by key and keys are unique. -/
inductive Json where
  | null
  | bool (b : Bool)
  | num (n : Number)
  | str (s : String)
  | arr (items : List Json)
  | obj (fields : List (String × Json))
  deriving Inhabited

namespace Number

/-- The largest value of a signed 64-bit word. -/
def int64Max : Int := 9223372036854775807

/-- The integer, when it fits a signed 64-bit word; a float never does. -/
def toInt64? : Number → Option Int
  | .int i => if i ≤ int64Max then some i else none
  | .float _ => none

/-- The integer, when it is not negative; a float never is one. -/
def toUInt64? : Number → Option Nat
  | .int i => if 0 ≤ i then some i.toNat else none
  | .float _ => none

end Number

namespace Json

/-- Puts a field into a sorted field list, replacing the value of an equal key. -/
def insertField (k : String) (v : Json) : List (String × Json) → List (String × Json)
  | [] => [(k, v)]
  | (k', v') :: rest =>
    if k < k' then (k, v) :: (k', v') :: rest
    else if k = k' then (k, v) :: rest
    else (k', v') :: insertField k v rest

/-- Builds an object from fields in any order; a later field wins over an earlier one. -/
def ofFields (fs : List (String × Json)) : Json :=
  .obj (fs.foldl (fun acc kv => insertField kv.1 kv.2 acc) [])

/-- The value of a field, when the value is an object that has it. -/
def get? (v : Json) (k : String) : Option Json :=
  match v with
  | .obj fs => fs.lookup k
  | _ => none

/-- The fields, when the value is an object. -/
def fields? : Json → Option (List (String × Json))
  | .obj fs => some fs
  | _ => none

/-- The items, when the value is an array. -/
def items? : Json → Option (List Json)
  | .arr xs => some xs
  | _ => none

/-- The text, when the value is a string. -/
def str? : Json → Option String
  | .str s => some s
  | _ => none

/-- The truth value, when the value is a boolean. -/
def bool? : Json → Option Bool
  | .bool b => some b
  | _ => none

/-- The integer, when the value is a number that fits a signed 64-bit word. -/
def int64? : Json → Option Int
  | .num n => n.toInt64?
  | _ => none

/-- Whether the value is `null`. -/
def isNull : Json → Bool
  | .null => true
  | _ => false

/-- Whether the value is an object. -/
def isObj : Json → Bool
  | .obj _ => true
  | _ => false

/-- Whether the value is an array. -/
def isArr : Json → Bool
  | .arr _ => true
  | _ => false

/-- A float field: finite values are numbers, the others are written as `null`. -/
def ofFloat (f : Float) : Json :=
  if f.isFinite then .num (.float f) else .null

/-- An optional text. -/
def ofStr? : Option String → Json
  | some s => .str s
  | none => .null

/-- An optional integer. -/
def ofInt? : Option Int → Json
  | some i => .num (.int i)
  | none => .null

/-- An optional float. -/
def ofFloat? : Option Float → Json
  | some f => ofFloat f
  | none => .null

/-- An optional truth value. -/
def ofBool? : Option Bool → Json
  | some b => .bool b
  | none => .null

/-- An optional value. -/
def ofOption : Option Json → Json
  | some v => v
  | none => .null

/-- An integer value. -/
def ofInt (i : Int) : Json := .num (.int i)

end Json

end ReefLink

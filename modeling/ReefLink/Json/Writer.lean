import ReefLink.Json.Value
import ReefLink.Decimal.Notation
/-!
# Writing JSON text

`Json.render` writes a value compactly: no blanks, fields in the order the value holds them.
Strings escape only the quote, the backslash and the control characters below U+0020 (five of
them by name, the others as `\u00XX`); every other character is written as it is. Integers are
plain decimals and floats take `Notation.json`, so a float always shows a point or an exponent.
-/

namespace ReefLink

/-- The text of a number. -/
def Number.render : Number → String
  | .int i => toString i
  | .float f => Decimal.Notation.json.render f

namespace Json

/-- The two lowercase hexadecimal digits of a byte. -/
def hexByte (n : Nat) : List Char :=
  let d (k : Nat) : Char := if k < 10 then Char.ofNat (48 + k) else Char.ofNat (87 + k)
  [d (n / 16 % 16), d (n % 16)]

/-- The escaped form of one character inside a JSON string. -/
def escapeChar (c : Char) : List Char :=
  if c = '"' then ['\\', '"']
  else if c = '\\' then ['\\', '\\']
  else if c = '\n' then ['\\', 'n']
  else if c = '\t' then ['\\', 't']
  else if c = '\r' then ['\\', 'r']
  else if c.toNat = 8 then ['\\', 'b']
  else if c.toNat = 12 then ['\\', 'f']
  else if c.toNat < 0x20 then ['\\', 'u', '0', '0'] ++ hexByte c.toNat
  else [c]

/-- A string in quotes, escaped. -/
def quote (s : String) : String :=
  String.ofList ('"' :: (s.toList.flatMap escapeChar ++ ['"']))

mutual

/-- **The text of a value**, compact. -/
def render : Json → String
  | .null => "null"
  | .bool b => if b then "true" else "false"
  | .num n => n.render
  | .str s => quote s
  | .arr xs => "[" ++ renderItems xs ++ "]"
  | .obj fs => "\x7b" ++ renderFields fs ++ "\x7d"

/-- Array items, comma-separated. -/
def renderItems : List Json → String
  | [] => ""
  | [x] => render x
  | x :: xs => render x ++ "," ++ renderItems xs

/-- Object fields, comma-separated. -/
def renderFields : List (String × Json) → String
  | [] => ""
  | [(k, v)] => quote k ++ ":" ++ render v
  | (k, v) :: fs => quote k ++ ":" ++ render v ++ "," ++ renderFields fs

end

end Json

end ReefLink

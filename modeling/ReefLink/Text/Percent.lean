import ReefLink.Json.Writer
/-!
# Percent-encoding

Form fields are sent percent-encoded: the unreserved characters (ASCII letters and digits, `-`,
`_`, `.` and `~`) stand as they are, and every other character is written as `%XX` for each
byte of its UTF-8 form, with upper-case hex digits; a space is `%20`.
-/

namespace ReefLink

namespace Text

/-- Whether a character stands for itself in a percent-encoded text. -/
def isUnreserved (c : Char) : Bool :=
  c.isAlphanum || c = '-' || c = '_' || c = '.' || c = '~'

/-- An upper-case hex digit. -/
def upperHexDigit (n : Nat) : Char :=
  if n < 10 then Char.ofNat (48 + n) else Char.ofNat (55 + n)

/-- A byte as `%XX`. -/
def percentByte (b : UInt8) : String :=
  String.ofList ['%', upperHexDigit (b.toNat / 16), upperHexDigit (b.toNat % 16)]

/-- **Percent-encodes a text.** -/
def percentEncode (s : String) : String :=
  String.join (s.toList.map fun c =>
    if isUnreserved c then c.toString else String.join (c.toString.toUTF8.toList.map percentByte))

end Text

end ReefLink

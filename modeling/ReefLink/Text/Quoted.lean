import ReefLink.Text.Blank
/-!
# Quoted text in messages

A message that shows a text the user gave puts it in double quotes. Inside, a double quote and a
backslash get a backslash, tab, line feed, carriage return and NUL are written `\t`, `\n`, `\r`
and `\0`, and the other control characters and the blank characters other than the space are
written `\u` with the code point in lower-case hex between braces (`\u` then `a0` in braces for
a no-break space). Every other character stands as it is; the texts quoted this way are host
names that turned out blank, so no other character needs an escape.
-/

namespace ReefLink

namespace Text

/-- The code point of a character in lower-case hex, without leading zeros. -/
def lowerHex (n : Nat) : String := String.ofList (Nat.toDigits 16 n)

/-- How one character is written inside quotes. -/
def quotedChar (c : Char) : String :=
  if c.toNat = 0 then "\\0"
  else if c = '\t' then "\\t"
  else if c = '\n' then "\\n"
  else if c = '\r' then "\\r"
  else if c = '"' then "\\\""
  else if c = '\\' then "\\\\"
  else if c.toNat < 0x20 || (0x7F ≤ c.toNat && c.toNat < 0xA0) || (isBlank c && c ≠ ' ') then
    "\\u\x7b" ++ lowerHex c.toNat ++ "\x7d"
  else c.toString

/-- **A text in double quotes**, with escapes. -/
def quoted (s : String) : String := "\"" ++ String.join (s.toList.map quotedChar) ++ "\""

end Text

end ReefLink

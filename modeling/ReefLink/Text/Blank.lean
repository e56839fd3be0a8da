/-!
# Blank characters and trimming

A character is blank when it has the Unicode property White_Space: the ASCII tab, line feed,
vertical tab, form feed, carriage return and space, next line (U+0085), no-break space, the
Ogham space mark, the spaces U+2000 to U+200A, the line and paragraph separators, the narrow
no-break space, the medium mathematical space and the ideographic space. NUL and DEL are not
blank. Trimming removes blank characters from the ends of a text.
-/

namespace ReefLink.Text

/-- **Blank characters**: the Unicode property White_Space. -/
def isBlank (c : Char) : Bool :=
  let n := c.toNat
  (9 ≤ n && n ≤ 13) || n = 0x20 || n = 0x85 || n = 0xA0 || n = 0x1680 ||
    (0x2000 ≤ n && n ≤ 0x200A) || n = 0x2028 || n = 0x2029 || n = 0x202F || n = 0x205F ||
    n = 0x3000

/-- The characters without the blanks in front. -/
def dropBlank (cs : List Char) : List Char := cs.dropWhile isBlank

/-- The characters without the blanks at the end. -/
def dropBlankEnd (cs : List Char) : List Char := (cs.reverse.dropWhile isBlank).reverse

/-- A text without blanks at either end. -/
def trim (s : String) : String := String.ofList (dropBlankEnd (dropBlank s.toList))

/-- A text without blanks in front. -/
def trimStart (s : String) : String := String.ofList (dropBlank s.toList)

/-- A text without blanks at the end. -/
def trimEnd (s : String) : String := String.ofList (dropBlankEnd s.toList)

/-- Whether a text is empty once trimmed. -/
def isBlankText (s : String) : Bool := s.toList.all isBlank

/-- The trimmed text, when something is left. -/
def trimmed? (s : String) : Option String :=
  let t := trim s
  if t.isEmpty then none else some t

end ReefLink.Text

/-!
# Lines of a text

A text splits into lines at each line feed. A carriage return just before a line feed belongs to
the line break; a final line feed ends the last line rather than starting an empty one, so the
empty text has no lines and `"a\n"` has one.
-/

namespace ReefLink

namespace Text

/-- A finished line, from its characters in reverse, without a carriage return at its end. -/
def closeLine (acc : List Char) : List Char :=
  match acc with
  | '\r' :: rest => rest.reverse
  | _ => acc.reverse

/-- The lines of the characters that follow, given the current line's characters so far in
reverse. -/
def linesFrom : List Char → List Char → List (List Char)
  | [], acc => if acc.isEmpty then [] else [acc.reverse]
  | c :: rest, acc =>
    if c = '\n' then closeLine acc :: linesFrom rest [] else linesFrom rest (c :: acc)

/-- **The lines of a text.** -/
def lines (s : String) : List String := (linesFrom s.toList []).map String.ofList

end Text

end ReefLink

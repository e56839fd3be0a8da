import ReefLink.Text.Blank
import ReefLink.Text.WordChar
/-!
# The statement in an alarm message

An alarm message names the program statement that fired after the marker `Statement:`, as in
`Alarm Statement: Tmp > 28`. The marker counts at the start of the message or after a character
that is not a word character. The first marker that counts decides:

- what follows it, less the blanks right after it, must reach the end of the message without a
  line feed; if it does not, the next marker is tried;
- if only blanks follow the marker (at least one, the last not a line feed), the statement is
  absent and no later marker is tried;
- otherwise the statement is that text with the blanks at its end removed.
-/

namespace ReefLink.Statement

/-- The marker in front of a statement. -/
def marker : List Char := "Statement:".toList

/-- What one marker yields: no reading here, an empty statement, or a statement. -/
inductive Reading where
  | noMatch
  | blank
  | found (s : String)

/-- Reads the text after a marker. -/
def readAfter (rest : List Char) : Reading :=
  let body := Text.dropBlank rest
  if body.isEmpty then
    match rest.getLast? with
    | some c => if c = '\n' then .noMatch else .blank
    | none => .noMatch
  else if body.contains '\n' then .noMatch
  else .found (String.ofList (Text.dropBlankEnd body))

/-- Tries each marker from the current place on; `prev` is the character before it. -/
def scan (prev : Option Char) : List Char → Option String
  | [] => none
  | c :: cs =>
    let counts := match prev with
      | none => true
      | some p => !Text.isWordChar p
    if counts && marker.isPrefixOf (c :: cs) then
      match readAfter ((c :: cs).drop marker.length) with
      | .found s => some s
      | .blank => none
      | .noMatch => scan (some c) cs
    else scan (some c) cs

/-- **The statement in a message**, if a marker introduces one. -/
def statementIn (msg : String) : Option String := scan none msg.toList

end ReefLink.Statement

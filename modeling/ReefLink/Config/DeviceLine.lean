import ReefLink.Config.Entry
import ReefLink.Text.Blank
/-!
# Device lines of an MXM module

An MXM module describes each device on its wireless link in one line of its status text:

    Nero 5(1A2B) - Rev 1 Ser #: 1234567 - OK

that is, a name, an id in parentheses, a dash, `Rev` and the revision, `Ser #:` and the serial
number, a dash and the link status. Blanks (any white space) may surround the dashes and must
separate the words; the revision and the serial number are single words. The name is the text
before the first opening parenthesis, trimmed, and must not be blank; the id runs to the first
closing parenthesis after it. The status is the rest of the line after the last dash, trimmed,
on one line; a rest of blanks gives an empty status unless it is only line feeds or nothing.
-/

namespace ReefLink

namespace DeviceLine

/-- The rest after a word, if the characters start with it. -/
def keyword (w : String) (cs : List Char) : Option (List Char) :=
  if w.toList.isPrefixOf cs then some (cs.drop w.length) else none

/-- The rest after a character, if the characters start with it. -/
def expect (c : Char) : List Char → Option (List Char)
  | x :: rest => if x = c then some rest else none
  | [] => none

/-- The rest after one or more blanks. -/
def blanks (cs : List Char) : Option (List Char) :=
  match cs with
  | c :: _ => if Text.isBlank c then some (Text.dropBlank cs) else none
  | [] => none

/-- A word of one or more characters that are not blank, and the rest. -/
def word (cs : List Char) : Option (String × List Char) :=
  let (w, rest) := cs.span (fun c => !Text.isBlank c)
  if w.isEmpty then none else some (String.ofList w, rest)

/-- The status after the last dash: the text between its first and last non-blank character,
which must hold no line feed; a blank rest gives the empty status when it holds a character
other than a line feed. -/
def statusText (cs : List Char) : Option String :=
  if cs.all Text.isBlank then
    if cs.any (· ≠ '\n') then some "" else none
  else
    let body := Text.dropBlankEnd (Text.dropBlank cs)
    if body.contains '\n' then none else some (String.ofList body)

end DeviceLine

open DeviceLine in
/-- **Reads a device line** into the device's name and entry. -/
def MxmDevice.ofLine? (line : String) : Option (String × MxmDevice) := do
  let (name, rest) := line.toList.span (· ≠ '(')
  let rest ← expect '(' rest
  let (_, rest) := rest.span (· ≠ ')')
  let rest ← expect ')' rest
  let rest ← expect '-' (Text.dropBlank rest)
  let rest ← keyword "Rev" (Text.dropBlank rest)
  let (rev, rest) ← word (← blanks rest)
  let rest ← keyword "Ser" (← blanks rest)
  let rest ← keyword "#:" (← blanks rest)
  let (serial, rest) ← word (← blanks rest)
  let rest ← expect '-' (← blanks rest)
  let status ← statusText rest
  let name := Text.trim (String.ofList name)
  if name.isEmpty then none else some (name, { rev, serial, status })

end ReefLink

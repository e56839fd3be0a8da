import ReefLink.Text.Blank
/-!
# When a status was reported

A controller writes its clock as epoch seconds, as an RFC 3339 time, or in one of a few local
layouts. `reportTime` reads the date field into a calendar date and wall-clock time:

- a text of ASCII digits is seconds after 1970-01-01 00:00:00 UTC;
- else an RFC 3339 time (`YYYY-MM-DD`, then `T`, `t` or a space, `hh:mm:ss`, an optional
  fraction, and `Z` or an offset up to 23:59) keeps its own wall-clock time;
- else the layouts month/day/year, then year-month-day with `T` or a space, then year-month-day
  with `T` and a fraction. In a layout a number may follow blanks and has one to two digits (the
  year one to four, or any number after a sign); a space in the layout takes any blanks.

Dates must exist, years run from -262143 to 262142, and a second of 60 is a leap second. A time
is written `YYYY-MM-DD hh:mm:ss`, with the fraction in 3, 6 or 9 digits when it is not zero, the
year with at least four digits and a sign outside 0 to 9999.
-/

namespace ReefLink

/-- A calendar date and wall-clock time; `second` is 60 for a leap second. -/
structure DateTime where
  year : Int
  month : Nat
  day : Nat
  hour : Nat
  minute : Nat
  second : Nat
  nano : Nat := 0
  deriving DecidableEq, Repr

namespace DateTime

/-- The first year that can be written. -/
def minYear : Int := -262143

/-- The last year that can be written. -/
def maxYear : Int := 262142

/-- Whether a year is a leap year of the Gregorian calendar. -/
def isLeapYear (y : Int) : Bool := (y % 4 = 0 && y % 100 ≠ 0) || y % 400 = 0

/-- The number of days of a month. -/
def daysInMonth (y : Int) (m : Nat) : Nat :=
  match m with
  | 1 | 3 | 5 | 7 | 8 | 10 | 12 => 31
  | 4 | 6 | 9 | 11 => 30
  | 2 => if isLeapYear y then 29 else 28
  | _ => 0

/-- A date and time when every field is in range. -/
def make? (y : Int) (mo d h mi s nano : Nat) : Option DateTime :=
  if minYear ≤ y && y ≤ maxYear && 1 ≤ mo && mo ≤ 12 && 1 ≤ d && d ≤ daysInMonth y mo &&
      h ≤ 23 && mi ≤ 59 && s ≤ 60 && nano < 1000000000 then
    some ⟨y, mo, d, h, mi, s, nano⟩
  else none

/-- The civil date of a day count from 1970-01-01. -/
def civilOfDays (z : Int) : Int × Nat × Nat :=
  let z := z + 719468
  let era := (if z ≥ 0 then z else z - 146096) / 146097
  let doe := z - era * 146097
  let yoe := (doe - doe / 1460 + doe / 36524 - doe / 146096) / 365
  let y := yoe + era * 400
  let doy := doe - (365 * yoe + yoe / 4 - yoe / 100)
  let mp := (5 * doy + 2) / 153
  let d := doy - (153 * mp + 2) / 5 + 1
  let m := if mp < 10 then mp + 3 else mp - 9
  ((if m ≤ 2 then y + 1 else y), m.toNat, d.toNat)

/-- **The UTC time of epoch seconds**, when its year can be written. -/
def ofEpochSeconds (secs : Nat) : Option DateTime :=
  let (y, m, d) := civilOfDays (secs / 86400 : Nat)
  let r := secs % 86400
  make? y m d (r / 3600) (r / 60 % 60) (r % 60) 0

/-- Two digits of a number. -/
def two (n : Nat) : String := if n < 10 then "0" ++ toString n else toString n

/-- A number padded with zeros to a width. -/
def padded (n width : Nat) : String :=
  let s := toString n
  String.ofList (List.replicate (width - s.length) '0') ++ s

/-- **The text of a time.** -/
def render (t : DateTime) : String :=
  let year :=
    if 0 ≤ t.year && t.year ≤ 9999 then padded t.year.toNat 4
    else (if t.year < 0 then "-" else "+") ++ padded t.year.natAbs 4
  let frac :=
    if t.nano = 0 then ""
    else if t.nano % 1000000 = 0 then "." ++ padded (t.nano / 1000000) 3
    else if t.nano % 1000 = 0 then "." ++ padded (t.nano / 1000) 6
    else "." ++ padded t.nano 9
  year ++ "-" ++ two t.month ++ "-" ++ two t.day ++ " " ++ two t.hour ++ ":" ++ two t.minute ++
    ":" ++ two t.second ++ frac

end DateTime

namespace ReportTime

/-- Digits at the front, at least `lo` and at most `hi`, with their value. -/
def number (cs : List Char) (lo hi : Nat) : Option (Nat × List Char) :=
  let ds := (cs.take hi).takeWhile Char.isDigit
  if ds.length < lo then none
  else some (ds.foldl (fun a c => a * 10 + (c.toNat - 48)) 0, cs.drop ds.length)

/-- A fraction of a second after its point: one to nine digits as nanoseconds, further digits
dropped. -/
def fraction (cs : List Char) : Option (Nat × List Char) :=
  match number cs 1 9 with
  | some (v, rest) =>
    let used := cs.length - rest.length
    some (v * Nat.pow 10 (9 - used), rest.dropWhile Char.isDigit)
  | none => none

/-- Expects one character. -/
def expect (c : Char) : List Char → Option (List Char)
  | x :: rest => if x = c then some rest else none
  | [] => none

/-- An RFC 3339 offset: `Z`, or a sign (`+`, `-` or the minus sign), two-digit hours, `:` and
two-digit minutes below 60; it must not pass 23:59. -/
def offset (cs : List Char) : Option (List Char) :=
  match cs with
  | 'Z' :: rest | 'z' :: rest => some rest
  | s :: rest =>
    if s = '+' || s = '-' || s.toNat = 0x2212 then
      match rest with
      | h1 :: h2 :: ':' :: m1 :: m2 :: tail =>
        if h1.isDigit && h2.isDigit && '0' ≤ m1 && m1 ≤ '5' && m2.isDigit then
          let hours := (h1.toNat - 48) * 10 + (h2.toNat - 48)
          if hours ≤ 23 then some tail else none
        else none
      | _ => none
    else none
  | [] => none

/-- **An RFC 3339 time**, as its wall-clock time. -/
def rfc3339 (cs : List Char) : Option DateTime := do
  let (y, cs) ← number cs 4 4
  let cs ← expect '-' cs
  let (mo, cs) ← number cs 2 2
  let cs ← expect '-' cs
  let (d, cs) ← number cs 2 2
  let cs ← match cs with
    | c :: rest => if c = 'T' || c = 't' || c = ' ' then some rest else none
    | [] => none
  let (h, cs) ← number cs 2 2
  let cs ← expect ':' cs
  let (mi, cs) ← number cs 2 2
  let cs ← expect ':' cs
  let (s, cs) ← number cs 2 2
  let (nano, cs) ← match cs with
    | '.' :: rest => fraction rest
    | _ => some (0, cs)
  let cs ← offset cs
  if cs.isEmpty then DateTime.make? y mo d h mi s nano else none

/-- A piece of a layout. -/
inductive Piece where
  | year
  | month
  | day
  | hour
  | minute
  | second
  | fraction
  | literal (c : Char)
  | blank

/-- The fields a layout has read. -/
structure Fields where
  year : Option Int := none
  month : Option Nat := none
  day : Option Nat := none
  hour : Option Nat := none
  minute : Option Nat := none
  second : Option Nat := none
  nano : Nat := 0

/-- A number of a layout: after blanks, with an optional sign for the year. -/
def field (cs : List Char) (width : Nat) (signed : Bool) : Option (Int × List Char) :=
  let cs := Text.dropBlank cs
  match cs with
  | '-' :: rest => if signed then (number rest 1 rest.length).map fun (v, r) => (-(v : Int), r) else
      (number cs 1 width).map fun (v, r) => ((v : Int), r)
  | '+' :: rest => if signed then (number rest 1 rest.length).map fun (v, r) => ((v : Int), r) else
      (number cs 1 width).map fun (v, r) => ((v : Int), r)
  | _ => (number cs 1 width).map fun (v, r) => ((v : Int), r)

/-- Reads a text by a layout. -/
def byLayout : List Piece → List Char → Fields → Option Fields
  | [], [], f => some f
  | [], _ :: _, _ => none
  | p :: ps, cs, f =>
    match p with
    | .literal c => (expect c cs).bind fun rest => byLayout ps rest f
    | .blank => byLayout ps (Text.dropBlank cs) f
    | .fraction =>
      match cs with
      | '.' :: rest => (fraction rest).bind fun (n, r) => byLayout ps r { f with nano := n }
      | _ => byLayout ps cs f
    | .year => (field cs 4 true).bind fun (v, r) => byLayout ps r { f with year := some v }
    | .month => (field cs 2 false).bind fun (v, r) => byLayout ps r { f with month := some v.toNat }
    | .day => (field cs 2 false).bind fun (v, r) => byLayout ps r { f with day := some v.toNat }
    | .hour => (field cs 2 false).bind fun (v, r) => byLayout ps r { f with hour := some v.toNat }
    | .minute => (field cs 2 false).bind fun (v, r) => byLayout ps r { f with minute := some v.toNat }
    | .second => (field cs 2 false).bind fun (v, r) => byLayout ps r { f with second := some v.toNat }

/-- The layouts tried after RFC 3339, in order. -/
def layouts : List (List Piece) :=
  [ [.month, .literal '/', .day, .literal '/', .year, .blank, .hour, .literal ':', .minute,
      .literal ':', .second],
    [.year, .literal '-', .month, .literal '-', .day, .literal 'T', .hour, .literal ':', .minute,
      .literal ':', .second],
    [.year, .literal '-', .month, .literal '-', .day, .blank, .hour, .literal ':', .minute,
      .literal ':', .second],
    [.year, .literal '-', .month, .literal '-', .day, .literal 'T', .hour, .literal ':', .minute,
      .literal ':', .second, .fraction] ]

/-- A date and time read by a layout. -/
def ofLayout (layout : List Piece) (cs : List Char) : Option DateTime := do
  let f ← byLayout layout cs {}
  DateTime.make? (← f.year) (← f.month) (← f.day) (← f.hour) (← f.minute) (← f.second) f.nano

/-- The value of digits, when it fits a signed 64-bit word. -/
def digitsValue? (cs : List Char) : Option Nat :=
  let n := cs.foldl (fun a c => a * 10 + (c.toNat - 48)) 0
  if n ≤ 9223372036854775807 then some n else none

end ReportTime

/-- **The report time of a date field.** -/
def reportTime (raw : String) : Option DateTime :=
  let cs := (Text.trim raw).toList
  if cs.isEmpty then none
  else if cs.all Char.isDigit then (ReportTime.digitsValue? cs).bind DateTime.ofEpochSeconds
  else
    match ReportTime.rfc3339 cs with
    | some t => some t
    | none => ReportTime.layouts.findSome? fun l => ReportTime.ofLayout l cs

end ReefLink

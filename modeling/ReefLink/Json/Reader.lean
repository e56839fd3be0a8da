import ReefLink.Json.Value
import ReefLink.Decimal.Nearest
/-!
# Reading JSON text

`Json.read` reads a whole text as one JSON value, or says why it cannot, with the line and the
byte column of the place it stopped. The rules:

- blanks are space, tab, line feed and carriage return; nothing else may surround the value;
- an integer literal that fits an unsigned 64-bit word is that integer, a negative one that fits
  a signed word likewise; `-0` is the float negative zero; anything longer becomes a float;
- a literal with a point or an exponent is a float built from its first nineteen or twenty
  significant digits (`Number` assembly below), and one past the largest double is refused as
  out of range;
- strings take the usual escapes; a high surrogate escape must be followed by a low one;
- an object keeps the last value of a repeated key;
- at most 127 arrays and objects may be open at once.

A column counts bytes of UTF-8 since the last line feed. An error "at" a place reports what has
been read; an error about the next character reports one byte further, where that character
would end if it were one byte long.
-/

namespace ReefLink.Json

/-- What stopped the reading of a JSON text. -/
inductive Issue where
  | eofInList
  | eofInObject
  | eofInString
  | eofInValue
  | expectedColon
  | expectedListCommaOrEnd
  | expectedObjectCommaOrEnd
  | expectedIdent
  | expectedValue
  | invalidEscape
  | invalidNumber
  | numberOutOfRange
  | invalidCodePoint
  | controlInString
  | keyMustBeString
  | loneLeadingSurrogate
  | trailingComma
  | trailingCharacters
  | unexpectedEndOfHexEscape
  | recursionLimit
  deriving DecidableEq, Repr

/-- The wording of each issue. -/
def Issue.text : Issue → String
  | .eofInList => "EOF while parsing a list"
  | .eofInObject => "EOF while parsing an object"
  | .eofInString => "EOF while parsing a string"
  | .eofInValue => "EOF while parsing a value"
  | .expectedColon => "expected \x60:\x60"
  | .expectedListCommaOrEnd => "expected \x60,\x60 or \x60]\x60"
  | .expectedObjectCommaOrEnd => "expected \x60,\x60 or \x60\x7d\x60"
  | .expectedIdent => "expected ident"
  | .expectedValue => "expected value"
  | .invalidEscape => "invalid escape"
  | .invalidNumber => "invalid number"
  | .numberOutOfRange => "number out of range"
  | .invalidCodePoint => "invalid unicode code point"
  | .controlInString => "control character (\\u0000-\\u001F) found while parsing a string"
  | .keyMustBeString => "key must be a string"
  | .loneLeadingSurrogate => "lone leading surrogate in hex escape"
  | .trailingComma => "trailing comma"
  | .trailingCharacters => "trailing characters"
  | .unexpectedEndOfHexEscape => "unexpected end of hex escape"
  | .recursionLimit => "recursion limit exceeded"

/-- A refused JSON text: the issue and where it was found. -/
structure ReadError where
  issue : Issue
  line : Nat
  column : Nat
  deriving DecidableEq, Repr

/-- The message of a refused text. -/
def ReadError.message (e : ReadError) : String :=
  e.issue.text ++ " at line " ++ toString e.line ++ " column " ++ toString e.column

/-- The unread rest of a text and the place reached. -/
structure Cursor where
  rest : List Char
  line : Nat := 1
  column : Nat := 0

namespace Cursor

/-- The place after one more character. -/
def step (c : Cursor) (ch : Char) (tl : List Char) : Cursor :=
  { rest := tl
    line := if ch = '\n' then c.line + 1 else c.line
    column := if ch = '\n' then 0 else c.column + ch.utf8Size }

/-- The place after one more byte of `ch` (a line feed is one byte). -/
def stepByte (c : Cursor) (ch : Char) (tl : List Char) : Cursor :=
  { rest := tl
    line := if ch = '\n' then c.line + 1 else c.line
    column := if ch = '\n' then 0 else c.column + 1 }

/-- An error at the place reached. -/
def fail (c : Cursor) (i : Issue) : ReadError := ⟨i, c.line, c.column⟩

/-- An error about the next character: one byte further, unless the text has ended. -/
def failAhead (c : Cursor) (i : Issue) : ReadError :=
  match c.rest with
  | [] => ⟨i, c.line, c.column⟩
  | ch :: _ => if ch = '\n' then ⟨i, c.line + 1, 0⟩ else ⟨i, c.line, c.column + 1⟩

/-- Skips the blanks of JSON: space, tab, line feed, carriage return. -/
def skipBlank (c : Cursor) : Cursor :=
  match h : c.rest with
  | ch :: tl =>
    if ch = ' ' || ch = '\t' || ch = '\n' || ch = '\r' then (c.step ch tl).skipBlank else c
  | [] => c
termination_by c.rest.length
decreasing_by simp [step, h]

/-- The next character after blanks, if any. -/
def peek (c : Cursor) : Option Char := c.rest.head?

/-- Reads past `n` bytes, the last character possibly only in part. -/
def skipBytes (c : Cursor) (n : Nat) : Cursor :=
  match n, h : c.rest with
  | 0, _ => c
  | _, [] => c
  | n + 1, ch :: tl =>
    if ch.utf8Size ≤ n + 1 then (c.step ch tl).skipBytes (n + 1 - ch.utf8Size)
    else { c.stepByte ch tl with column := c.column + n + 1 }
termination_by c.rest.length
decreasing_by simp_all [step, wfParam]

/-- The number of bytes left. -/
def bytesLeft (c : Cursor) : Nat := c.rest.foldl (fun n ch => n + ch.utf8Size) 0

end Cursor

/-- Expects the letters of a word after its first one. -/
def expectWord (c : Cursor) : List Char → Except ReadError Cursor
  | [] => .ok c
  | w :: ws =>
    match c.rest with
    | [] => .error (c.fail .eofInValue)
    | ch :: tl =>
      if ch = w then expectWord (c.step ch tl) ws else .error ((c.stepByte ch tl).fail .expectedIdent)

/-- The value of a hexadecimal digit. -/
def hexValue (ch : Char) : Option Nat :=
  if '0' ≤ ch && ch ≤ '9' then some (ch.toNat - '0'.toNat)
  else if 'a' ≤ ch && ch ≤ 'f' then some (ch.toNat - 'a'.toNat + 10)
  else if 'A' ≤ ch && ch ≤ 'F' then some (ch.toNat - 'A'.toNat + 10)
  else none

/-- Reads four hexadecimal digits of a `\u` escape. Fewer than four bytes left is the end of the
text; four bytes that are not all hexadecimal digits are an invalid escape after them. -/
def readHex4 (c : Cursor) : Except ReadError (Nat × Cursor) :=
  if c.bytesLeft < 4 then .error ((c.skipBytes c.bytesLeft).fail .eofInString)
  else
    match c.rest with
    | a :: b :: d :: e :: tl =>
      match hexValue a, hexValue b, hexValue d, hexValue e with
      | some va, some vb, some vd, some ve =>
        .ok (((va * 16 + vb) * 16 + vd) * 16 + ve, { rest := tl, line := c.line, column := c.column + 4 })
      | _, _, _, _ => .error ((c.skipBytes 4).fail .invalidEscape)
    | _ => .error ((c.skipBytes 4).fail .invalidEscape)

/-- The character of a `\u` escape, after the `u`, with a surrogate pair joined. -/
def readUnicodeEscape (c : Cursor) : Except ReadError (Char × Cursor) := do
  let (n, c) ← readHex4 c
  if 0xDC00 ≤ n && n ≤ 0xDFFF then throw (c.fail .loneLeadingSurrogate)
  else if 0xD800 ≤ n && n ≤ 0xDBFF then
    match c.rest with
    | [] => throw (c.fail .eofInString)
    | '\\' :: tl =>
      let c := c.step '\\' tl
      match c.rest with
      | [] => throw (c.fail .eofInString)
      | 'u' :: tl =>
        let (n2, c) ← readHex4 (c.step 'u' tl)
        if n2 < 0xDC00 || n2 > 0xDFFF then throw (c.fail .loneLeadingSurrogate)
        else pure (Char.ofNat ((n - 0xD800) * 0x400 + (n2 - 0xDC00) + 0x10000), c)
      | ch :: tl => throw ((c.stepByte ch tl).fail .unexpectedEndOfHexEscape)
    | ch :: tl => throw ((c.stepByte ch tl).fail .unexpectedEndOfHexEscape)
  else pure (Char.ofNat n, c)

/-- Reads the body of a string after its opening quote, through the closing quote. -/
def readString (c : Cursor) (acc : List Char) : Except ReadError (String × Cursor) :=
  match h : c.rest with
  | [] => .error (c.fail .eofInString)
  | ch :: tl =>
    let c' := c.step ch tl
    if ch = '"' then .ok (String.ofList acc.reverse, c')
    else if ch.toNat < 0x20 then .error (c'.fail .controlInString)
    else if ch = '\\' then
      match h2 : tl with
      | [] => .error (c'.fail .eofInString)
      | e :: tl2 =>
        let c'' := c'.step e tl2
        let simple : Option Char :=
          if e = '"' then some '"' else if e = '\\' then some '\\' else if e = '/' then some '/'
          else if e = 'b' then some (Char.ofNat 8) else if e = 'f' then some (Char.ofNat 12)
          else if e = 'n' then some '\n' else if e = 'r' then some '\r'
          else if e = 't' then some '\t' else none
        match simple with
        | some x => readString c'' (x :: acc)
        | none =>
          if e = 'u' then
            match readUnicodeEscape c'' with
            | .error err => .error err
            | .ok (x, c3) =>
              if c3.rest.length < c.rest.length then readString c3 (x :: acc)
              else .error (c3.fail .eofInString)
          else .error ((c'.stepByte e tl2).fail .invalidEscape)
    else readString c' (ch :: acc)
termination_by c.rest.length
decreasing_by
  all_goals (simp_all [Cursor.step]; try omega)

/-- Reading a number needs no more than the significand, the decimal exponent and the sign. -/
structure Parts where
  positive : Bool
  significand : Nat
  exponent : Int

/-- The largest value of an unsigned 64-bit word. -/
def u64Max : Nat := 18446744073709551615

/-- Whether `sig * 10 + d` would pass the largest unsigned 64-bit word. -/
def wouldOverflow (sig d : Nat) : Bool :=
  sig ≥ u64Max / 10 && (sig > u64Max / 10 || d > u64Max % 10)

/-- Keeps a sum in the range of a signed 32-bit word. -/
def clampI32 (x : Int) : Int := max (-2147483648) (min 2147483647 x)

/-- The double of `±sig · 10^exp`: the significand rounded to a double, then multiplied or
divided by the double nearest to the power of ten; exponents below -308 divide by `1e308`
first. A product that overflows is out of range. -/
def assemble (p : Parts) (c : Cursor) : Except ReadError Float :=
  let f0 := Decimal.natToFloat p.significand
  let rec go (f : Float) (exp : Int) : Except ReadError Float :=
    if exp.natAbs ≤ 308 then
      if 0 ≤ exp then
        let g := f * Decimal.tenPow exp.toNat
        if g.isInf then .error (c.fail .numberOutOfRange) else .ok g
      else .ok (f / Decimal.tenPow exp.natAbs)
    else if f == 0 then .ok f
    else if 0 ≤ exp then .error (c.fail .numberOutOfRange)
    else go (f / Decimal.tenPow 308) (exp + 308)
  termination_by exp.natAbs
  decreasing_by omega
  (go f0 p.exponent).map fun f => if p.positive then f else -f

/-- Skips the digits that follow an exponent too large for a 32-bit word: a nonzero value with a
positive exponent is out of range, anything else is a signed zero. -/
def exponentOverflow (p : Parts) (positiveExp : Bool) (c : Cursor) :
    Except ReadError (Float × Cursor) :=
  if p.significand ≠ 0 && positiveExp then .error (c.fail .numberOutOfRange)
  else
    let rest := c.rest.dropWhile Char.isDigit
    let c' := c.skipBytes (c.rest.length - rest.length)
    .ok (if p.positive then 0.0 else -0.0, c')

/-- The number once its exponent digits are read. -/
def withExponent (p : Parts) (positiveExp : Bool) (exp : Nat) (c : Cursor) :
    Except ReadError (Float × Cursor) :=
  let e := clampI32 (if positiveExp then p.exponent + exp else p.exponent - exp)
  (assemble { p with exponent := e } c).map fun f => (f, c)

/-- The exponent digits, accumulated while they fit a signed 32-bit word. -/
def exponentDigits (p : Parts) (positiveExp : Bool) (exp : Nat) (c : Cursor) :
    Except ReadError (Float × Cursor) :=
  match h : c.rest with
  | ch :: tl =>
    if ch.isDigit then
      let d := ch.toNat - '0'.toNat
      if exp ≥ 214748364 && (exp > 214748364 || d > 7) then
        exponentOverflow p positiveExp (c.step ch tl)
      else exponentDigits p positiveExp (exp * 10 + d) (c.step ch tl)
    else withExponent p positiveExp exp c
  | [] => withExponent p positiveExp exp c
termination_by c.rest.length
decreasing_by simp [Cursor.step, h]

/-- An exponent after `e` or `E` (the letter not yet read). -/
def readExponent (p : Parts) (c : Cursor) : Except ReadError (Float × Cursor) :=
  match c.rest with
  | [] => .error (c.fail .eofInValue)
  | ch :: tl =>
    let c := c.step ch tl
    let (positiveExp, c) := match c.rest with
      | '+' :: tl => (true, c.step '+' tl)
      | '-' :: tl => (false, c.step '-' tl)
      | _ => (true, c)
    match c.rest with
    | [] => .error (c.fail .eofInValue)
    | d :: tl =>
      if d.isDigit then exponentDigits p positiveExp (d.toNat - '0'.toNat) (c.step d tl)
      else .error ((c.stepByte d tl).fail .invalidNumber)

/-- Fraction digits that no longer fit are read and dropped. -/
def Cursor.dropDigits (c : Cursor) : Cursor :=
  match h : c.rest with
  | ch :: tl => if ch.isDigit then (c.step ch tl).dropDigits else c
  | [] => c
termination_by c.rest.length
decreasing_by simp [Cursor.step, h]

/-- What may follow the digits of a fraction: an exponent, or the end of the number. -/
def afterFraction (p : Parts) (c : Cursor) : Except ReadError (Float × Cursor) :=
  match c.rest with
  | 'e' :: _ | 'E' :: _ => readExponent p c
  | _ => (assemble p c).map fun f => (f, c)

/-- The end of the fraction digits: at least one is needed. -/
def endFraction (p : Parts) (count : Nat) (c : Cursor) : Except ReadError (Float × Cursor) :=
  if count = 0 then
    .error (c.failAhead (if c.rest.isEmpty then .eofInValue else .invalidNumber))
  else afterFraction { p with exponent := p.exponent - count } c

/-- The digits after a point. -/
def fractionDigits (p : Parts) (count : Nat) (c : Cursor) : Except ReadError (Float × Cursor) :=
  match h : c.rest with
  | ch :: tl =>
    if ch.isDigit then
      let d := ch.toNat - '0'.toNat
      if wouldOverflow p.significand d then
        afterFraction { p with exponent := p.exponent - count } c.dropDigits
      else
        fractionDigits { p with significand := p.significand * 10 + d } (count + 1) (c.step ch tl)
    else endFraction p count c
  | [] => endFraction p count c
termination_by c.rest.length
decreasing_by simp [Cursor.step, h]

/-- After the integer digits: a point, an exponent, or the end of the number. -/
def afterInteger (p : Parts) (c : Cursor) : Except ReadError (Float × Cursor) :=
  match c.rest with
  | '.' :: tl => fractionDigits p 0 (c.step '.' tl)
  | 'e' :: _ | 'E' :: _ => readExponent p c
  | _ => (assemble p c).map fun f => (f, c)

/-- Integer digits past the 64-bit range only raise the exponent. -/
def longInteger (p : Parts) (c : Cursor) : Except ReadError (Float × Cursor) :=
  match h : c.rest with
  | ch :: tl =>
    if ch.isDigit then longInteger { p with exponent := p.exponent + 1 } (c.step ch tl)
    else afterInteger p c
  | [] => afterInteger p c
termination_by c.rest.length
decreasing_by simp [Cursor.step, h]

/-- An integer without point or exponent: an unsigned word, a negative signed word, or a float
for `-0` and for negatives below the signed range. -/
def integerNumber (positive : Bool) (sig : Nat) : Number :=
  if positive then .int sig
  else if sig = 0 then .float (-0.0)
  else if sig ≤ 9223372036854775808 then .int (-(sig : Int))
  else .float (-(Decimal.natToFloat sig))

/-- What follows the integer digits when they fit a word. -/
def afterDigits (positive : Bool) (sig : Nat) (c : Cursor) : Except ReadError (Number × Cursor) :=
  match c.rest with
  | '.' :: _ | 'e' :: _ | 'E' :: _ =>
    (afterInteger ⟨positive, sig, 0⟩ c).map fun (f, c) => (.float f, c)
  | _ => .ok (integerNumber positive sig, c)

/-- Integer digits after the first, kept while they fit an unsigned 64-bit word. -/
def integerDigits (positive : Bool) (sig : Nat) (c : Cursor) : Except ReadError (Number × Cursor) :=
  match h : c.rest with
  | ch :: tl =>
    if ch.isDigit then
      let d := ch.toNat - '0'.toNat
      if wouldOverflow sig d then
        (longInteger ⟨positive, sig, 0⟩ c).map fun (f, c) => (.float f, c)
      else integerDigits positive (sig * 10 + d) (c.step ch tl)
    else afterDigits positive sig c
  | [] => afterDigits positive sig c
termination_by c.rest.length
decreasing_by simp [Cursor.step, h]

/-- A number from its first digit; the minus sign, if any, is already read. A leading zero
stands alone. -/
def readNumber (positive : Bool) (c : Cursor) : Except ReadError (Number × Cursor) :=
  match c.rest with
  | [] => .error (c.fail .eofInValue)
  | ch :: tl =>
    let c' := c.step ch tl
    if ch = '0' then
      match c'.rest with
      | d :: _ => if d.isDigit then .error (c'.failAhead .invalidNumber) else afterDigits positive 0 c'
      | [] => afterDigits positive 0 c'
    else if ch.isDigit then integerDigits positive (ch.toNat - '0'.toNat) c'
    else .error ((c.stepByte ch tl).fail .invalidNumber)

mutual

/-- One value, after optional blanks. `budget` bounds the work and is never the limit for a
text shorter than it; `room` is how many more arrays and objects may open. -/
def readValue : Nat → Nat → Cursor → Except ReadError (Json × Cursor)
  | 0, _, c => .error (c.fail .recursionLimit)
  | budget + 1, room, c0 =>
    let c := c0.skipBlank
    match c.rest with
    | [] => .error (c.failAhead .eofInValue)
    | ch :: tl =>
      if ch = 'n' then (expectWord (c.step ch tl) "ull".toList).map fun c => (.null, c)
      else if ch = 't' then (expectWord (c.step ch tl) "rue".toList).map fun c => (.bool true, c)
      else if ch = 'f' then (expectWord (c.step ch tl) "alse".toList).map fun c => (.bool false, c)
      else if ch = '-' then (readNumber false (c.step ch tl)).map fun (n, c) => (.num n, c)
      else if ch.isDigit then (readNumber true c).map fun (n, c) => (.num n, c)
      else if ch = '"' then (readString (c.step ch tl) []).map fun (s, c) => (.str s, c)
      else if ch = '[' then
        if room ≤ 1 then .error (c.failAhead .recursionLimit)
        else (readItems budget (room - 1) (c.step ch tl) true []).map fun (xs, c) => (.arr xs, c)
      else if ch = '{' then
        if room ≤ 1 then .error (c.failAhead .recursionLimit)
        else (readFields budget (room - 1) (c.step ch tl) true []).map fun (fs, c) => (.obj fs, c)
      else .error (c.failAhead .expectedValue)

/-- The items of an array after its opening bracket, through the closing bracket. -/
def readItems : Nat → Nat → Cursor → Bool → List Json → Except ReadError (List Json × Cursor)
  | 0, _, c, _, _ => .error (c.fail .recursionLimit)
  | budget + 1, room, c0, first, acc =>
    let c := c0.skipBlank
    match c.rest with
    | [] => .error (c.failAhead .eofInList)
    | ch :: tl =>
      if ch = ']' then .ok (acc.reverse, c.step ch tl)
      else
        let next : Except ReadError Cursor :=
          if ch = ',' && !first then .ok (c.step ch tl).skipBlank
          else if first then .ok c
          else .error (c.failAhead .expectedListCommaOrEnd)
        match next with
        | .error e => .error e
        | .ok c =>
          match c.rest with
          | [] => .error (c.failAhead .eofInValue)
          | ']' :: _ => .error (c.failAhead .trailingComma)
          | _ =>
            match readValue budget room c with
            | .error e => .error e
            | .ok (v, c) => readItems budget room c false (v :: acc)

/-- The fields of an object after its opening brace, through the closing brace. -/
def readFields : Nat → Nat → Cursor → Bool → List (String × Json) →
    Except ReadError (List (String × Json) × Cursor)
  | 0, _, c, _, _ => .error (c.fail .recursionLimit)
  | budget + 1, room, c0, first, acc =>
    let c := c0.skipBlank
    match c.rest with
    | [] => .error (c.failAhead .eofInObject)
    | ch :: tl =>
      if ch = '\x7d' then .ok (acc, c.step ch tl)
      else
        let next : Except ReadError Cursor :=
          if ch = ',' && !first then .ok (c.step ch tl).skipBlank
          else if first then .ok c
          else .error (c.failAhead .expectedObjectCommaOrEnd)
        match next with
        | .error e => .error e
        | .ok c =>
          match c.rest with
          | [] => .error (c.failAhead .eofInValue)
          | '"' :: tl =>
            match readString (c.step '"' tl) [] with
            | .error e => .error e
            | .ok (k, c) =>
              let c := c.skipBlank
              match c.rest with
              | [] => .error (c.failAhead .eofInObject)
              | ':' :: tl =>
                match readValue budget room (c.step ':' tl) with
                | .error e => .error e
                | .ok (v, c) => readFields budget room c false (Json.insertField k v acc)
              | _ => .error (c.failAhead .expectedColon)
          | '\x7d' :: _ => .error (c.failAhead .trailingComma)
          | _ => .error (c.failAhead .keyMustBeString)

end

/-- **Reads a whole text** as one JSON value; only blanks may follow it. -/
def read (s : String) : Except ReadError Json :=
  let c : Cursor := { rest := s.toList }
  match readValue (2 * s.length + 2) 128 c with
  | .error e => .error e
  | .ok (v, c) =>
    let c := c.skipBlank
    if c.rest.isEmpty then .ok v else .error (c.failAhead .trailingCharacters)

end ReefLink.Json

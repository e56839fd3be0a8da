import ReefLink.Xml.Error
/-!
# Reading an XML document

`Xml.read` reads a status document into a tree of elements and texts. It follows XML 1.0 with
namespaces, refuses a document type declaration, and reports the first fault it meets in
reading order:

- a byte order mark and an XML declaration may open the document; comments, processing
  instructions and blanks may stand before and after the one root element, nothing else;
- names follow the XML name rules; an attribute needs a blank before it and a quoted value
  without `<`; a start tag cut off by the end of the text makes no element;
- text and attribute values resolve character references and the five predefined entities; any
  other entity is unknown, since no document type may declare one;
- in text, a carriage return before a line feed is dropped and a lone one becomes a line feed;
  in attribute values, tab, line feed and carriage return become spaces; characters from
  character references are kept as they are;
- adjacent text and CDATA sections form one text node; comments and processing instructions are
  kept as nodes without content;
- namespace prefixes must be declared (the `xml` prefix only on attributes), and an element's
  close tag must repeat its prefix and name.
-/

namespace ReefLink.Xml

/-- A node of a read document. Elements keep their local name and their attributes without a
namespace prefix, in document order. -/
inductive Node where
  | element (name : String) (attrs : List (String × String)) (children : List Node)
  | text (s : String)
  | other
  deriving Inhabited

/-- The namespace of the `xml` prefix. -/
def xmlUri : String := "http://www.w3.org/XML/1998/namespace"

/-- The namespace of namespace declarations. -/
def xmlnsUri : String := "http://www.w3.org/2000/xmlns/"

/-- The unread rest of a document and the place reached. -/
structure Cursor where
  rest : List Char
  row : Nat := 1
  col : Nat := 1

namespace Cursor

/-- The place reached. -/
def pos (c : Cursor) : TextPos := ⟨c.row, c.col⟩

/-- The place after one more character. -/
def step (c : Cursor) (ch : Char) (tl : List Char) : Cursor :=
  { rest := tl
    row := if ch = '\n' then c.row + 1 else c.row
    col := if ch = '\n' then 1 else c.col + 1 }

/-- The place after `n` more characters. -/
def advance (c : Cursor) : Nat → Cursor
  | 0 => c
  | n + 1 =>
    match c.rest with
    | ch :: tl => (c.step ch tl).advance n
    | [] => c

/-- Whether the rest starts with a text. -/
def startsWith (c : Cursor) (s : String) : Bool := s.toList.isPrefixOf c.rest

/-- Whether the text has ended. -/
def atEnd (c : Cursor) : Bool := c.rest.isEmpty

/-- The next character. -/
def curr (c : Cursor) : Option Char := c.rest.head?

end Cursor

/-- The blanks of XML: space, tab, line feed, carriage return. -/
def isSpace (ch : Char) : Bool := ch = ' ' || ch = '\t' || ch = '\n' || ch = '\r'

/-- Characters allowed in a document: not the control characters other than tab, line feed
and carriage return, and not U+FFFE or U+FFFF. -/
def isXmlChar (ch : Char) : Bool :=
  if ch.toNat < 0x20 then isSpace ch else ch.toNat ≠ 0xFFFE && ch.toNat ≠ 0xFFFF

/-- Characters that may start a name. -/
def isNameStart (ch : Char) : Bool :=
  let n := ch.toNat
  if n ≤ 128 then ('A' ≤ ch && ch ≤ 'Z') || ('a' ≤ ch && ch ≤ 'z') || ch = ':' || ch = '_'
  else (0xC0 ≤ n && n ≤ 0xD6) || (0xD8 ≤ n && n ≤ 0xF6) || (0xF8 ≤ n && n ≤ 0x2FF) ||
    (0x370 ≤ n && n ≤ 0x37D) || (0x37F ≤ n && n ≤ 0x1FFF) || (0x200C ≤ n && n ≤ 0x200D) ||
    (0x2070 ≤ n && n ≤ 0x218F) || (0x2C00 ≤ n && n ≤ 0x2FEF) || (0x3001 ≤ n && n ≤ 0xD7FF) ||
    (0xF900 ≤ n && n ≤ 0xFDCF) || (0xFDF0 ≤ n && n ≤ 0xFFFD) || (0x10000 ≤ n && n ≤ 0xEFFFF)

/-- Characters that may continue a name. -/
def isNameChar (ch : Char) : Bool :=
  let n := ch.toNat
  if n ≤ 128 then
    ('A' ≤ ch && ch ≤ 'Z') || ('a' ≤ ch && ch ≤ 'z') || ('0' ≤ ch && ch ≤ '9') || ch = ':' ||
      ch = '_' || ch = '-' || ch = '.'
  else isNameStart ch || n = 0xB7 || (0x300 ≤ n && n ≤ 0x36F) || (0x203F ≤ n && n ≤ 0x2040)

/-- The first byte of a character's UTF-8 form, read as a character: what a byte-wise reader
reports on meeting it. -/
def leadByte (ch : Char) : Char :=
  let n := ch.toNat
  if n < 0x80 then ch
  else if n < 0x800 then Char.ofNat (0xC0 + n / 64)
  else if n < 0x10000 then Char.ofNat (0xE0 + n / 4096)
  else Char.ofNat (0xF0 + n / 262144)

/-- Reads on while `go` holds of the rest, refusing characters that may not occur. -/
def consumeWhile (go : List Char → Bool) (c : Cursor) (acc : List Char) :
    Except XmlError (List Char × Cursor) :=
  match h : c.rest with
  | [] => .ok (acc.reverse, c)
  | ch :: tl =>
    if !isXmlChar ch then .error (.nonXmlChar ch c.pos)
    else if go (ch :: tl) then consumeWhile go (c.step ch tl) (ch :: acc)
    else .ok (acc.reverse, c)
termination_by c.rest.length
decreasing_by simp [Cursor.step, h]

/-- Skips blanks. -/
def skipSpaces (c : Cursor) : Cursor :=
  match h : c.rest with
  | ch :: tl => if isSpace ch then skipSpaces (c.step ch tl) else c
  | [] => c
termination_by c.rest.length
decreasing_by simp [Cursor.step, h]

/-- Expects a text. -/
def skipString (c : Cursor) (s : String) : Except XmlError Cursor :=
  if c.startsWith s then .ok (c.advance s.length) else .error (.invalidString s c.pos)

/-- Expects one character; a different one is reported by its first byte. -/
def consumeByte (c : Cursor) (b : Char) : Except XmlError Cursor :=
  match c.rest with
  | [] => .error .unexpectedEndOfStream
  | ch :: tl => if ch = b then .ok (c.step ch tl) else .error (.invalidChar b (leadByte ch) c.pos)

/-- Expects an opening quote and gives it back. -/
def consumeQuote (c : Cursor) : Except XmlError (Char × Cursor) :=
  match c.rest with
  | [] => .error .unexpectedEndOfStream
  | ch :: tl =>
    if ch = '\'' || ch = '"' then .ok (ch, c.step ch tl)
    else .error (.invalidChar2 "a quote" (leadByte ch) c.pos)

/-- Expects `=` between optional blanks. -/
def consumeEq (c : Cursor) : Except XmlError Cursor := do
  let c ← consumeByte (skipSpaces c) '='
  pure (skipSpaces c)

/-- The characters of a name after its first. -/
def nameTail (c : Cursor) (acc : List Char) : List Char × Cursor :=
  match h : c.rest with
  | ch :: tl => if isNameChar ch then nameTail (c.step ch tl) (ch :: acc) else (acc.reverse, c)
  | [] => (acc.reverse, c)
termination_by c.rest.length
decreasing_by simp [Cursor.step, h]

/-- A name. -/
def consumeName (c : Cursor) : Except XmlError (String × Cursor) :=
  match c.rest with
  | ch :: tl =>
    if isNameStart ch then
      let (cs, c') := nameTail (c.step ch tl) [ch]
      .ok (String.ofList cs, c')
    else .error (.invalidName c.pos)
  | [] => .error (.invalidName c.pos)

/-- The characters of a qualified name, split at its one colon. -/
def qnameChars (start : Cursor) (c : Cursor) (pre : Option (List Char)) (acc : List Char) :
    Except XmlError (Option (List Char) × List Char × Cursor) :=
  match h : c.rest with
  | ch :: tl =>
    if ch = ':' then
      match pre with
      | none => qnameChars start (c.step ch tl) (some acc.reverse) []
      | some _ => .error (.invalidName start.pos)
    else if isNameChar ch then qnameChars start (c.step ch tl) pre (ch :: acc)
    else .ok (pre, acc.reverse, c)
  | [] => .ok (pre, acc.reverse, c)
termination_by c.rest.length
decreasing_by all_goals simp [Cursor.step, h]

/-- A qualified name as prefix (empty when absent) and local name. -/
def consumeQName (c : Cursor) : Except XmlError (String × String × Cursor) := do
  let (pre, localName, c') ← qnameChars c c none []
  let pre := pre.getD []
  match pre with
  | p :: _ => if !isNameStart p then throw (.invalidName c.pos)
  | [] => pure ()
  match localName with
  | l :: _ => if !isNameStart l then throw (.invalidName c.pos)
  | [] => throw (.invalidName c.pos)
  pure (String.ofList pre, String.ofList localName, c')

/-- What a reference stands for. -/
inductive Reference where
  | char (c : Char)
  | entity (name : String)

/-- The value of hexadecimal or decimal digits. -/
def digitsValue (radix : Nat) (ds : List Char) : Nat :=
  ds.foldl (fun acc d =>
    let v := if '0' ≤ d && d ≤ '9' then d.toNat - 48
      else if 'a' ≤ d && d ≤ 'f' then d.toNat - 87 else d.toNat - 55
    acc * radix + v) 0

/-- Reads a reference at `&`; `none` when it is malformed. -/
def readReference (c : Cursor) : Option (Reference × Cursor) :=
  match c.rest with
  | '&' :: tl =>
    let c := c.step '&' tl
    let body : Option (Reference × Cursor) :=
      match c.rest with
      | '#' :: tl =>
        let c := c.step '#' tl
        let (radix, c) := match c.rest with
          | 'x' :: tl => (16, c.step 'x' tl)
          | _ => (10, c)
        let isDigit (d : Char) : Bool :=
          ('0' ≤ d && d ≤ '9') || (radix = 16 && (('a' ≤ d && d ≤ 'f') || ('A' ≤ d && d ≤ 'F')))
        let ds := c.rest.takeWhile isDigit
        let c := c.advance ds.length
        if ds.isEmpty then none
        else
          let n := digitsValue radix ds
          if n ≥ Nat.pow 2 32 then none
          else
            let ch := if n < 0x110000 && !(0xD800 ≤ n && n ≤ 0xDFFF) then Char.ofNat n
              else Char.ofNat 0xFFFD
            if isXmlChar ch then some (.char ch, c) else none
      | _ =>
        match consumeName c with
        | .ok (name, c) =>
          let r : Reference := match name with
            | "quot" => .char '"'
            | "amp" => .char '&'
            | "apos" => .char '\''
            | "lt" => .char '<'
            | "gt" => .char '>'
            | other => .entity other
          some (r, c)
        | .error _ => none
    match body with
    | some (r, c) =>
      match c.rest with
      | ';' :: tl => some (r, c.step ';' tl)
      | _ => none
    | none => none
  | _ => none

/-- A reference inside text or a value, resolved to its character. -/
def resolveReference (c : Cursor) : Except XmlError (Char × Cursor) :=
  match readReference c with
  | some (.char ch, c') => .ok (ch, c')
  | some (.entity name, _) => .error (.unknownEntityReference name c.pos)
  | none => .error (.malformedEntityReference c.pos)

/-- Adds a character of text: a carriage return before a line feed is dropped, and a lone one
becomes a line feed. `buf` is reversed. -/
def pushText (buf : List Char) (ch : Char) (atEnd : Bool) : List Char :=
  match buf with
  | '\r' :: rest =>
    let buf := '\n' :: rest
    if atEnd && ch = '\r' then '\n' :: buf
    else if ch ≠ '\n' then ch :: buf
    else buf
  | _ => if atEnd && ch = '\r' then '\n' :: buf else ch :: buf

/-- Resolves the references and line ends of a run of text that starts at `c`. `asIs` marks that
the last character came from a reference, which keeps the next one as it is. -/
def textValue (c : Cursor) (buf : List Char) (asIs : Bool) : Except XmlError (List Char) :=
  match h : c.rest with
  | [] => .ok buf.reverse
  | ch :: tl =>
    if ch = '&' then
      match hr : resolveReference c with
      | .error e => .error e
      | .ok (r, c') =>
        if c'.rest.length < c.rest.length then textValue c' (r :: buf) true
        else .error (.malformedEntityReference c.pos)
    else if asIs then textValue (c.step ch tl) (ch :: buf) false
    else textValue (c.step ch tl) (pushText buf ch tl.isEmpty) false
termination_by c.rest.length
decreasing_by all_goals simp_all [Cursor.step]

/-- Resolves the references of an attribute value that starts at `c`, and turns tab, line feed
and carriage return into spaces (a carriage return before a line feed is dropped). -/
def attrValue (c : Cursor) (buf : List Char) : Except XmlError (List Char) :=
  match h : c.rest with
  | [] => .ok buf.reverse
  | ch :: tl =>
    if ch = '&' then
      match resolveReference c with
      | .error e => .error e
      | .ok (r, c') =>
        if c'.rest.length < c.rest.length then attrValue c' (r :: buf)
        else .error (.malformedEntityReference c.pos)
    else
      let c' := c.step ch tl
      if ch = '\r' && tl.head? = some '\n' then attrValue c' buf
      else if ch = '\n' || ch = '\r' || ch = '\t' then attrValue c' (' ' :: buf)
      else attrValue c' (ch :: buf)
termination_by c.rest.length
decreasing_by all_goals simp_all [Cursor.step]

/-- The place of a run read from `c`, for reading its references: the run alone. -/
def runCursor (c : Cursor) (run : List Char) : Cursor := { c with rest := run }

/-- Whether a list contains a text. -/
def occurs (t : List Char) : List Char → Bool
  | [] => t.isEmpty
  | x :: xs => t.isPrefixOf (x :: xs) || occurs t xs

/-- Reads a comment at `<!--`. -/
def readComment (c : Cursor) : Except XmlError Cursor := do
  let start := c
  let (text, c) ← consumeWhile (fun r => !("-->".toList.isPrefixOf r)) (c.advance 4) []
  let c ← skipString c "-->"
  if occurs "--".toList text || text.getLast? = some '-' then throw (.invalidComment start.pos)
  pure c

/-- Reads a processing instruction at `<?`. -/
def readPI (c : Cursor) : Except XmlError Cursor := do
  if c.startsWith "<?xml " then throw (.unexpectedDeclaration c.pos)
  let (_, c) ← consumeName (c.advance 2)
  let (_, c) ← consumeWhile (fun r => !("?>".toList.isPrefixOf r)) (skipSpaces c) []
  skipString c "?>"

/-- Reads a CDATA section at `<![CDATA[`, giving its text with line ends normalized. -/
def readCdata (c : Cursor) : Except XmlError (String × Cursor) := do
  let (text, c) ← consumeWhile (fun r => !("]]>".toList.isPrefixOf r)) (c.advance 9) []
  let c ← skipString c "]]>"
  let value := if text.contains '\r' then
      (text.zipIdx.foldl (fun buf (ch, i) => pushText buf ch (i + 1 = text.length)) []).reverse
    else text
  pure (String.ofList value, c)

/-- Namespaces in scope: a prefix (`none` for the default namespace) and its name. -/
abbrev Scope := List (Option String × String)

/-- An attribute as read, before its prefix is resolved. -/
structure RawAttr where
  pre : String
  localName : String
  value : String
  pos : TextPos

/-- An element's start tag as read. -/
structure StartTag where
  pre : String
  localName : String
  pos : TextPos
  attrs : List RawAttr := []
  decls : Scope := []

/-- Takes in an attribute: a namespace declaration goes into the tag's declarations. -/
def takeAttr (t : StartTag) (a : RawAttr) : Except XmlError StartTag :=
  if a.pre = "xmlns" then
    if a.value = xmlnsUri then .error (.unexpectedXmlnsUri a.pos)
    else
      let isXml := a.value = xmlUri
      if a.localName = "xml" && !isXml then .error (.invalidXmlPrefixUri a.pos)
      else if a.localName ≠ "xml" && isXml then .error (.unexpectedXmlUri a.pos)
      else if t.decls.any (·.1 = some a.localName) then .error (.duplicatedNamespace a.localName a.pos)
      else if isXml then .ok t
      else .ok { t with decls := t.decls ++ [(some a.localName, a.value)] }
  else if a.localName = "xmlns" then
    if a.value = xmlUri then .error (.unexpectedXmlUri a.pos)
    else if a.value = xmlnsUri then .error (.unexpectedXmlnsUri a.pos)
    else .ok { t with decls := t.decls ++ [(none, a.value)] }
  else .ok { t with attrs := t.attrs ++ [a] }

/-- The namespaces in scope of an element: its own declarations, then the parent's that it does
not redeclare. -/
def scopeOf (t : StartTag) (parent : Scope) : Scope :=
  t.decls ++ parent.filter fun d => !t.decls.any (·.1 = d.1)

/-- The namespace of a prefix; an undeclared non-empty prefix is refused at `pos`. -/
def namespaceOf (scope : Scope) (pre : String) (pos : TextPos) : Except XmlError (Option String) :=
  let key : Option String := if pre.isEmpty then none else some pre
  match scope.find? (·.1 = key) with
  | some (_, uri) => .ok (some uri)
  | none => if pre.isEmpty then .ok none else .error (.unknownNamespace pre pos)

/-- Resolves the attributes of a tag, refusing one named twice. -/
def resolveAttrs (scope : Scope) : List RawAttr → List (Option String × String) →
    Except XmlError (List (String × String))
  | [], _ => .ok []
  | a :: rest, seen => do
    let ns ← if a.pre = "xml" then pure (some xmlUri)
      else if a.pre.isEmpty then pure none
      else namespaceOf scope a.pre a.pos
    if seen.any (· = (ns, a.localName)) then throw (.duplicatedAttribute a.localName a.pos)
    let tail ← resolveAttrs scope rest (seen ++ [(ns, a.localName)])
    pure (if a.pre.isEmpty then (a.localName, a.value) :: tail else tail)

/-- Completes a start tag: its scope and its attributes, then its own prefix. -/
def finishTag (t : StartTag) (parent : Scope) : Except XmlError (Scope × List (String × String)) := do
  let scope := scopeOf t parent
  let attrs ← resolveAttrs scope t.attrs []
  let _ ← namespaceOf scope t.pre t.pos
  pure (scope, attrs)

/-- The text of a qualified name. -/
def qnameText (pre localName : String) : String := if pre.isEmpty then localName else pre ++ ":" ++ localName

/-- Adds a text to children kept in reverse; it joins a text right before it. -/
def addText (kids : List Node) (s : String) : List Node :=
  match kids with
  | .text prev :: rest => .text (prev ++ s) :: rest
  | _ => .text s :: kids

/-- How the reading of an element ended. -/
inductive Ending where
  /-- The element is complete. -/
  | closed (node : Node)
  /-- The text ended inside its content. -/
  | unclosed (node : Node)
  /-- The text ended inside its start tag, so there is no element. -/
  | cut

/-- Reads an attribute at its name: name, `=`, quoted value without `<`. -/
def readAttr (c : Cursor) : Except XmlError (RawAttr × Cursor) := do
  let start := c
  let (pre, localName, c) ← consumeQName c
  let c ← consumeEq c
  let (q, c) ← consumeQuote c
  let valueStart := c
  let (raw, c) ← consumeWhile (fun r => match r with
    | ch :: _ => ch ≠ q && ch ≠ '<'
    | [] => false) c []
  let c ← consumeByte c q
  let value ← attrValue (runCursor valueStart raw) []
  pure (⟨pre, localName, String.ofList value, start.pos⟩, c)

/-- Reads the attributes of a start tag up to its end: `some true` for `>`, `some false` for
`/>`, `none` when the text ends first. -/
def readAttrs (c : Cursor) (t : StartTag) : Except XmlError (Option Bool × StartTag × Cursor) :=
  match h : c.rest with
  | [] => .ok (none, t, c)
  | ch0 :: _ =>
    let hasSpace := isSpace ch0
    let c1 := skipSpaces c
    match c1.rest with
    | [] => .error .unexpectedEndOfStream
    | '/' :: tl =>
      match consumeByte (c1.step '/' tl) '>' with
      | .ok c2 => .ok (some false, t, c2)
      | .error e => .error e
    | '>' :: tl => .ok (some true, t, c1.step '>' tl)
    | ch :: _ =>
      if !hasSpace then .error (.invalidChar2 "a whitespace" (leadByte ch) c1.pos)
      else
        match hr : readAttr c1 with
        | .error e => .error e
        | .ok (a, c2) =>
          match takeAttr t a with
          | .error e => .error e
          | .ok t' =>
            if c2.rest.length < c.rest.length then readAttrs c2 t'
            else .error .unexpectedEndOfStream
termination_by c.rest.length

mutual

/-- Reads an element at `<`. `budget` bounds the nesting and is never the limit for a document
shorter than it. -/
def readElement : Nat → Scope → Cursor → Except XmlError (Ending × Cursor)
  | 0, _, c => .error (.unknownToken c.pos)
  | budget + 1, parent, c => do
    let start := c
    let (pre, localName, c) ← consumeQName (c.advance 1)
    if pre = "xmlns" then throw (.invalidElementNamePrefix (start.advance 1).pos)
    let (ending, tag, c) ← readAttrs c { pre, localName, pos := (start.advance 1).pos }
    match ending with
    | none => pure (.cut, c)
    | some isOpen =>
      let (scope, attrs) ← finishTag tag parent
      if !isOpen then pure (.closed (.element localName attrs []), c)
      else
        let (kids, closed, c) ← readContent budget scope pre localName c []
        let node := Node.element localName attrs kids.reverse
        pure (if closed then .closed node else .unclosed node, c)

/-- Reads element content up to the close tag of `pre:local`; children are kept in reverse.
Says whether the close tag was found. -/
def readContent : Nat → Scope → String → String → Cursor → List Node →
    Except XmlError (List Node × Bool × Cursor)
  | 0, _, _, _, c, _ => .error (.unknownToken c.pos)
  | budget + 1, scope, pre, localName, c, kids =>
    match c.rest with
    | [] => .ok (kids, false, c)
    | '<' :: tl =>
      match tl with
      | '!' :: _ =>
        if c.startsWith "<!--" then
          match readComment c with
          | .ok c' => readContent budget scope pre localName c' (.other :: kids)
          | .error e => .error e
        else if c.startsWith "<![CDATA[" then
          match readCdata c with
          | .ok (s, c') => readContent budget scope pre localName c' (addText kids s)
          | .error e => .error e
        else .error (.unknownToken c.pos)
      | '?' :: _ =>
        match readPI c with
        | .ok c' => readContent budget scope pre localName c' (.other :: kids)
        | .error e => .error e
      | '/' :: _ =>
        match consumeQName (c.advance 2) with
        | .error e => .error e
        | .ok (p, l, c') =>
          match consumeByte (skipSpaces c') '>' with
          | .error e => .error e
          | .ok c'' =>
            if p ≠ pre || l ≠ localName then
              .error (.unexpectedCloseTag (qnameText pre localName) (qnameText p l) c.pos)
            else .ok (kids, true, c'')
      | [] => .error (.unknownToken c.pos)
      | _ :: _ =>
        match readElement budget scope c with
        | .error e => .error e
        | .ok (.closed n, c') => readContent budget scope pre localName c' (n :: kids)
        | .ok (.unclosed n, c') => .ok (n :: kids, false, c')
        | .ok (.cut, c') => .ok (kids, false, c')
    | _ :: _ =>
      match consumeWhile (fun r => r.head? ≠ some '<') c [] with
      | .error e => .error e
      | .ok (run, c') =>
        if run.contains '>' && occurs "]]>".toList run then .error (.invalidCharacterData c'.pos)
        else
          let value : Except XmlError (List Char) :=
            if run.contains '&' || run.contains '\r' then textValue (runCursor c run) [] false
            else .ok run
          match value with
          | .error e => .error e
          | .ok v => readContent budget scope pre localName c' (addText kids (String.ofList v))

end

/-- Comments, processing instructions and blanks outside the root element. -/
def readMisc (c : Cursor) : Except XmlError Cursor :=
  let c1 := skipSpaces c
  if c1.atEnd then .ok c1
  else if c1.startsWith "<!--" then
    match h : readComment c1 with
    | .ok c2 => if c2.rest.length < c.rest.length then readMisc c2 else .ok c2
    | .error e => .error e
  else if c1.startsWith "<?" then
    match h : readPI c1 with
    | .ok c2 => if c2.rest.length < c.rest.length then readMisc c2 else .ok c2
    | .error e => .error e
  else .ok c1
termination_by c.rest.length

/-- An attribute of the XML declaration. -/
def readDeclAttr (c : Cursor) : Except XmlError Cursor := do
  let (_, _, c) ← consumeQName c
  let c ← consumeEq c
  let (q, c) ← consumeQuote c
  let (_, c) ← consumeWhile (fun r => match r with
    | ch :: _ => ch ≠ q && ch ≠ '<'
    | [] => false) c []
  consumeByte c q

/-- Blanks required between declaration attributes, unless the declaration ends. -/
def declSpaces (c : Cursor) : Except XmlError Cursor :=
  match c.rest with
  | ch :: _ =>
    if isSpace ch then .ok (skipSpaces c)
    else if c.startsWith "?>" then .ok c
    else .error (.invalidChar2 "a whitespace" (leadByte ch) c.pos)
  | [] => .ok c

/-- Reads the XML declaration at `<?xml `: a version, then optionally an encoding and a
standalone flag. -/
def readDeclaration (c : Cursor) : Except XmlError Cursor := do
  let c ← declSpaces (c.advance 5)
  if !c.startsWith "version" then
    let _ ← skipString c "version"
  let c ← readDeclAttr c
  let c ← declSpaces c
  let c ← if c.startsWith "encoding" then do
      let c ← readDeclAttr c
      declSpaces c
    else pure c
  let c ← if c.startsWith "standalone" then readDeclAttr c else pure c
  skipString (skipSpaces c) "?>"

/-- **Reads a document** and gives its root element. -/
def read (s : String) : Except XmlError Node := do
  let c : Cursor := { rest := s.toList }
  let c := match c.rest with
    | '﻿' :: tl => c.step '﻿' tl
    | _ => c
  let c ← if c.startsWith "<?xml " then readDeclaration c else pure c
  let c ← readMisc c
  let c := skipSpaces c
  if c.startsWith "<!DOCTYPE" then throw .dtdDetected
  let c := skipSpaces c
  let (ending, c) ← if c.curr = some '<' then readElement (s.length + 1) [] c else pure (.cut, c)
  let c ← readMisc c
  if !c.atEnd then throw (.unknownToken c.pos)
  match ending with
  | .cut => throw .noRootNode
  | .unclosed _ => throw .unclosedRootNode
  | .closed root => pure root

/-- The children of an element with a local name. -/
def Node.childrenNamed (n : Node) (name : String) : List Node :=
  match n with
  | .element _ _ kids => kids.filter fun k => match k with
    | .element nm _ _ => nm = name
    | _ => false
  | _ => []

/-- The text of an element: its first child, when that is a text. -/
def Node.text? : Node → Option String
  | .element _ _ (.text s :: _) => some s
  | _ => none

/-- An attribute without a namespace prefix. -/
def Node.attr? (n : Node) (name : String) : Option String :=
  match n with
  | .element _ attrs _ => attrs.lookup name
  | _ => none

end ReefLink.Xml

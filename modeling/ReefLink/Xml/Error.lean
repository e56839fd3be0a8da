/-!
# Why an XML document is refused

Every refusal of the XML reader, with the place where it was found as `row:column`: the row
counts line feeds before the place plus one, the column counts characters since the last line
feed plus one.
-/

namespace ReefLink.Xml

/-- A place in a document. -/
structure TextPos where
  row : Nat
  col : Nat
  deriving DecidableEq, Repr

/-- A place as `row:column`. -/
def TextPos.render (p : TextPos) : String := toString p.row ++ ":" ++ toString p.col

/-- Why a document was refused. -/
inductive XmlError where
  | invalidXmlPrefixUri (pos : TextPos)
  | unexpectedXmlUri (pos : TextPos)
  | unexpectedXmlnsUri (pos : TextPos)
  | invalidElementNamePrefix (pos : TextPos)
  | duplicatedNamespace (name : String) (pos : TextPos)
  | unknownNamespace (name : String) (pos : TextPos)
  | unexpectedCloseTag (expected actual : String) (pos : TextPos)
  | malformedEntityReference (pos : TextPos)
  | unknownEntityReference (name : String) (pos : TextPos)
  | duplicatedAttribute (name : String) (pos : TextPos)
  | noRootNode
  | unclosedRootNode
  | unexpectedDeclaration (pos : TextPos)
  | dtdDetected
  | invalidName (pos : TextPos)
  | nonXmlChar (c : Char) (pos : TextPos)
  | invalidChar (expected actual : Char) (pos : TextPos)
  | invalidChar2 (expected : String) (actual : Char) (pos : TextPos)
  | invalidString (expected : String) (pos : TextPos)
  | invalidComment (pos : TextPos)
  | invalidCharacterData (pos : TextPos)
  | unknownToken (pos : TextPos)
  | unexpectedEndOfStream

/-- Lowercase hexadecimal digits of a number. -/
def hexDigits (n : Nat) : String := String.ofList (Nat.toDigits 16 n)

/-- A character as a quoted literal: control characters and the two non-characters U+FFFE and
U+FFFF as `\u{hex}`, NUL as `\0`, the usual named escapes, the rest as they are. -/
def charLiteral (c : Char) : String :=
  let body :=
    if c.toNat = 0 then "\\0"
    else if c = '\t' then "\\t"
    else if c = '\n' then "\\n"
    else if c = '\r' then "\\r"
    else if c = '\'' then "\\'"
    else if c = '\\' then "\\\\"
    else if c.toNat < 0x20 || c.toNat = 0x7F || c.toNat = 0xFFFE || c.toNat = 0xFFFF then
      "\\u\x7b" ++ hexDigits c.toNat ++ "\x7d"
    else c.toString
  "'" ++ body ++ "'"

/-- The message of a refused document. -/
def XmlError.message : XmlError → String
  | .invalidXmlPrefixUri p => "'xml' namespace prefix mapped to wrong URI at " ++ p.render
  | .unexpectedXmlUri p => "the 'xml' namespace URI is used for not 'xml' prefix at " ++ p.render
  | .unexpectedXmlnsUri p =>
    "the 'xmlns' URI is used at " ++ p.render ++ ", but it must not be declared"
  | .invalidElementNamePrefix p =>
    "the 'xmlns' prefix is used at " ++ p.render ++ ", but it must not be"
  | .duplicatedNamespace n p => "namespace '" ++ n ++ "' at " ++ p.render ++ " is already defined"
  | .unknownNamespace n p => "an unknown namespace prefix '" ++ n ++ "' at " ++ p.render
  | .unexpectedCloseTag e a p => "expected '" ++ e ++ "' tag, not '" ++ a ++ "' at " ++ p.render
  | .malformedEntityReference p => "malformed entity reference at " ++ p.render
  | .unknownEntityReference n p => "unknown entity reference '" ++ n ++ "' at " ++ p.render
  | .duplicatedAttribute n p => "attribute '" ++ n ++ "' at " ++ p.render ++ " is already defined"
  | .noRootNode => "the document does not have a root node"
  | .unclosedRootNode => "the root node was opened but never closed"
  | .unexpectedDeclaration p => "unexpected XML declaration at " ++ p.render
  | .dtdDetected => "XML with DTD detected"
  | .invalidName p => "invalid name token at " ++ p.render
  | .nonXmlChar c p => "a non-XML character " ++ charLiteral c ++ " found at " ++ p.render
  | .invalidChar e a p =>
    "expected '" ++ e.toString ++ "' not '" ++ a.toString ++ "' at " ++ p.render
  | .invalidChar2 e a p => "expected " ++ e ++ " not '" ++ a.toString ++ "' at " ++ p.render
  | .invalidString e p => "expected '" ++ e ++ "' at " ++ p.render
  | .invalidComment p => "comment at " ++ p.render ++ " contains '--'"
  | .invalidCharacterData p => "']]>' at " ++ p.render ++ " is not allowed inside a character data"
  | .unknownToken p => "unknown token at " ++ p.render
  | .unexpectedEndOfStream => "unexpected end of stream"

end ReefLink.Xml

/-!
# Faults of documents

What can be wrong with a document, in the words in which it is reported, and where: the line and the
column of the character at fault. A carriage return, a line feed, or the one followed by the other
ends a line; columns are counted in characters from zero.
-/

namespace SchemaGen.Xml

/-- What is wrong with a document. -/
inductive Cause where
  | noElement
  | syntaxError
  | invalidToken
  | unclosedToken
  | partialCharacter
  | mismatchedTag
  | duplicateAttribute
  | junkAfterRoot
  | parameterReference
  | undefinedEntity
  | recursiveReference
  | asynchronousEntity
  | badCharacterNumber
  | binaryReference
  | externalReferenceInAttribute
  | misplacedDeclaration
  | unknownEncoding
  | incorrectEncoding
  | unclosedCdata
  | unboundPrefix
  | undeclaredPrefix
  | malformedDeclaration
  | illegalPublicId
  | reservedPrefixXml
  | reservedPrefixXmlns
  | reservedNamespace
  | amplification
  /-- A reference to an entity that may be declared in a part of the document that is not read. -/
  | unreadEntity (reference : String)
deriving DecidableEq, Repr

/-- The words for a cause. -/
def Cause.message : Cause → String
  | noElement => "no element found"
  | syntaxError => "syntax error"
  | invalidToken => "not well-formed (invalid token)"
  | unclosedToken => "unclosed token"
  | partialCharacter => "partial character"
  | mismatchedTag => "mismatched tag"
  | duplicateAttribute => "duplicate attribute"
  | junkAfterRoot => "junk after document element"
  | parameterReference => "illegal parameter entity reference"
  | undefinedEntity => "undefined entity"
  | recursiveReference => "recursive entity reference"
  | asynchronousEntity => "asynchronous entity"
  | badCharacterNumber => "reference to invalid character number"
  | binaryReference => "reference to binary entity"
  | externalReferenceInAttribute => "reference to external entity in attribute"
  | misplacedDeclaration => "XML or text declaration not at start of entity"
  | unknownEncoding => "unknown encoding"
  | incorrectEncoding => "encoding specified in XML declaration is incorrect"
  | unclosedCdata => "unclosed CDATA section"
  | unboundPrefix => "unbound prefix"
  | undeclaredPrefix => "must not undeclare prefix"
  | malformedDeclaration => "XML declaration not well-formed"
  | illegalPublicId => "illegal character(s) in public id"
  | reservedPrefixXml =>
    "reserved prefix (xml) must not be undeclared or bound to another namespace name"
  | reservedPrefixXmlns => "reserved prefix (xmlns) must not be declared or undeclared"
  | reservedNamespace => "prefix must not be bound to one of the reserved namespace names"
  | amplification => "limit on input amplification factor (from DTD and entities) breached"
  | unreadEntity reference => s!"undefined entity {reference}"

/-- A place in a document: the line from one on and the column from zero on. -/
structure Position where
  line : Nat
  column : Nat
deriving DecidableEq, Repr

/-- The position after some characters. -/
def Position.after : Position → List Char → Position
  | p, [] => p
  | p, '\r' :: '\n' :: rest => after ⟨p.line + 1, 0⟩ rest
  | p, c :: rest =>
    if c = '\r' ∨ c = '\n' then after ⟨p.line + 1, 0⟩ rest else after ⟨p.line, p.column + 1⟩ rest

/-- A cause and how many characters are left from the one at fault to the end. -/
structure Fault where
  cause : Cause
  left : Nat
deriving DecidableEq, Repr

/-- A cause at a position. -/
structure Error where
  cause : Cause
  position : Position
deriving DecidableEq, Repr

def Error.message (e : Error) : String :=
  s!"{e.cause.message}: line {e.position.line}, column {e.position.column}"

/-- The fault in a document of the given characters. -/
def Fault.locate (f : Fault) (chars : List Char) : Error :=
  ⟨f.cause, Position.after ⟨1, 0⟩ (chars.take (chars.length - f.left))⟩

end SchemaGen.Xml

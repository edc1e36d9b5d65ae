import SchemaGen.Xml.Fault
import SchemaGen.Xml.Input
import SchemaGen.Xml.NameChars

/-!
# Reading the parts of markup

Readers for names, references, comments, processing instructions and tags. A reader is given the
characters from a place in a text on, and gives what it read and the characters after it, or a
reason to stop: the text ends within what is read, or a character must not stand where it stands. At
the end of the characters the reason depends on what follows them (`Ending`), and on whether any
character was looked for (`lacking`) or one of a few marks (`lackingMark`).
-/

namespace SchemaGen.Xml

/-- The text that is read: how the signs of names are told, and what follows its last character. -/
structure Reading where
  alphabet : Alphabet
  ending : Ending
deriving Repr

namespace Reading

/-- Whether the three signs of the Latin-1 block count as letters. -/
def latin (r : Reading) : Bool := r.alphabet == .utf16 || r.alphabet == .latin1

/-- Whether a character takes a single code unit of the smallest size. -/
def isSingle (r : Reading) (c : Char) : Bool :=
  match r.alphabet with
  | .utf8 => c.toNat < 0x80
  | .utf16 | .latin1 => c.toNat < 0x100
  | .table => true

end Reading

/-- Why nothing could be read. -/
inductive Stop where
  /-- The text ends. -/
  | unfinished
  /-- The text ends within a character. -/
  | cutCharacter
  /-- The first of the given characters must not stand there. -/
  | invalid (rest : List Char)
deriving Repr

/-- What was read, and the characters after it. -/
abbrev Scan (α : Type) := Except Stop (α × List Char)

/-- Why no character is left. -/
def Reading.lacking (r : Reading) : Stop :=
  match r.ending with
  | .clean | .half => .unfinished
  | .cut _ => .cutCharacter
  | .invalid _ _ => .invalid []

/-- Why a mark is not there, where the characters are at an end. -/
def Reading.lackingMark (r : Reading) : Stop :=
  match r.ending with
  | .clean | .half => .unfinished
  | .cut _ | .invalid _ _ => .invalid []

/-- The white space of markup. -/
def isSpace (c : Char) : Bool := c == ' ' || c == '\t' || c == '\n' || c == '\r'

def skipSpace (cs : List Char) : List Char := cs.dropWhile isSpace

/-- The name at the start of a text. -/
def name (r : Reading) : List Char → Scan (List Char)
  | [] => .error r.lacking
  | c :: rest =>
    if isNameStart r.latin c then
      .ok (c :: rest.takeWhile (isNameChar r.latin), rest.dropWhile (isNameChar r.latin))
    else .error (.invalid (c :: rest))

/-- A name with or without a prefix. -/
def qualifiedName (r : Reading) (cs : List Char) : Scan (List Char) :=
  match name r cs with
  | .error e => .error e
  | .ok (n, ':' :: rest) =>
    match name r rest with
    | .error e => .error e
    | .ok (m, rest') => .ok (n ++ ':' :: m, rest')
  | .ok (n, rest) => .ok (n, rest)

/-- A reference to an entity or to a character. -/
inductive Reference where
  | entity (name : List Char)
  /-- The digits of the number are given with their base. -/
  | number (base : Nat) (digits : List Char)
deriving Repr

def isHexDigit (c : Char) : Bool :=
  c.isDigit || ('a' ≤ c && c ≤ 'f') || ('A' ≤ c && c ≤ 'F')

/-- The digits of a character number and the semicolon after them. -/
def numberDigits (r : Reading) (base : Nat) (cs : List Char) : Scan Reference :=
  let isDigit := if base = 16 then isHexDigit else Char.isDigit
  match cs.takeWhile isDigit, cs.dropWhile isDigit with
  | _, [] => .error r.lackingMark
  | [], rest => .error (.invalid rest)
  | digits, ';' :: rest => .ok (.number base digits, rest)
  | _, rest => .error (.invalid rest)

/-- What follows the sign `&`. -/
def reference (r : Reading) : List Char → Scan Reference
  | '#' :: 'x' :: rest => numberDigits r 16 rest
  | '#' :: rest => numberDigits r 10 rest
  | cs =>
    match name r cs with
    | .error e => .error e
    | .ok (n, ';' :: rest) => .ok (.entity n, rest)
    | .ok (_, []) => .error r.lacking
    | .ok (_, rest) => .error (.invalid rest)

def digitValue (c : Char) : Nat :=
  if c.isDigit then c.toNat - '0'.toNat
  else if 'a' ≤ c then c.toNat - 'a'.toNat + 10
  else c.toNat - 'A'.toNat + 10

/-- The character of a number, if it is one of a document. -/
def numberedChar? (base : Nat) (digits : List Char) : Option Char :=
  let n := digits.foldl (fun n d => if n < 0x110000 then n * base + digitValue d else n) 0
  if isDocumentChar n then some (Char.ofNat n) else none

/-- The character of an entity that needs no declaration. -/
def predefined? (name : List Char) : Option Char :=
  if name = ['l', 't'] then some '<'
  else if name = ['g', 't'] then some '>'
  else if name = ['a', 'm', 'p'] then some '&'
  else if name = ['q', 'u', 'o', 't'] then some '"'
  else if name = ['a', 'p', 'o', 's'] then some '\''
  else none

/-- The rest of a comment after `<!--`. -/
def commentBody (r : Reading) : List Char → Scan Unit
  | [] => .error r.lacking
  | '-' :: '-' :: '>' :: rest => .ok ((), rest)
  | ['-', '-'] => .error r.lackingMark
  | '-' :: '-' :: rest => .error (.invalid rest)
  | _ :: rest => commentBody r rest

/-- The rest of a comment after `<!-`. -/
def comment (r : Reading) : List Char → Scan Unit
  | [] => .error r.lackingMark
  | '-' :: rest => commentBody r rest
  | rest => .error (.invalid rest)

/-- A processing instruction, or the declaration at the start of a document with its text. -/
inductive Instruction where
  | other
  | declaration (text : List Char)
deriving Repr

/-- The text of an instruction up to `?>`; `acc` holds what was read, the last character first. -/
def instructionBody (r : Reading) (acc : List Char) : List Char → Scan (List Char)
  | [] => .error r.lacking
  | '?' :: '>' :: rest => .ok (acc.reverse, rest)
  | c :: rest => instructionBody r (c :: acc) rest

/-- Whether a name is `xml` in any case. -/
def isXmlName (n : List Char) : Bool := n.map Char.toLower == ['x', 'm', 'l']

/-- What follows `<?`. A target that is `xml` but for the case of its letters is refused. -/
def instruction (r : Reading) (cs : List Char) : Scan Instruction :=
  match name r cs with
  | .error e => .error e
  | .ok (_, []) => .error r.lacking
  | .ok (target, c :: rest) =>
    let isDeclaration := target == ['x', 'm', 'l']
    if isSpace c || c == '?' then
      if isXmlName target && !isDeclaration then .error (.invalid (c :: rest))
      else if c == '?' then
        match rest with
        | [] => .error r.lackingMark
        | '>' :: rest' => .ok (if isDeclaration then .declaration [] else .other, rest')
        | rest' => .error (.invalid rest')
      else
        match instructionBody r [c] rest with
        | .error e => .error e
        | .ok (text, rest') => .ok (if isDeclaration then .declaration text else .other, rest')
    else .error (.invalid (c :: rest))

/-- An attribute of a tag as it is written, with the characters from its name on and those from the
end of its value on. -/
structure RawAttribute where
  name : List Char
  nameAt : List Char
  value : List Char
  valueEnd : List Char
deriving Repr

/-- The value of an attribute up to the given quote. References are checked but kept. -/
def attributeValue (r : Reading) (quote : Char) (acc : List Char) : List Char → Scan (List Char)
  | [] => .error r.lacking
  | c :: rest =>
    if c = quote then .ok (acc.reverse, c :: rest)
    else if c = '<' then .error (.invalid (c :: rest))
    else if c = '&' then
      match reference r rest with
      | .error e => .error e
      | .ok _ => attributeValue r quote (c :: acc) rest
    else attributeValue r quote (c :: acc) rest

/-- The equals sign and the value of an attribute, from its name on. -/
def rawAttribute (r : Reading) (cs : List Char) : Scan RawAttribute :=
  match qualifiedName r cs with
  | .error e => .error e
  | .ok (_, []) => .error r.lacking
  | .ok (n, rest) =>
    match skipSpace rest with
    | [] => .error r.lackingMark
    | '=' :: rest' =>
      match skipSpace rest' with
      | [] => .error r.lackingMark
      | q :: value =>
        if q = '"' ∨ q = '\'' then
          match attributeValue r q [] value with
          | .error e => .error e
          | .ok (v, valueEnd) => .ok (⟨n, cs, v, valueEnd⟩, valueEnd.drop 1)
        else .error (.invalid (q :: value))
    | rest' => .error (.invalid rest')

/-- How a tag ends: whether it is that of an empty element. -/
def tagEnd (r : Reading) : List Char → Scan Bool
  | '>' :: rest => .ok (false, rest)
  | ['/'] => .error r.lackingMark
  | '/' :: '>' :: rest => .ok (true, rest)
  | '/' :: rest => .error (.invalid rest)
  | rest => .error (.invalid rest)

/-- The attributes and the end of a tag, from white space or the end of the tag on. The fuel bounds
the number of attributes. -/
def attributes (r : Reading) : Nat → List RawAttribute → List Char →
    Scan (List RawAttribute × Bool)
  | 0, _, cs => .error (.invalid cs)
  | _ + 1, _, [] => .error r.lackingMark
  | fuel + 1, acc, c :: cs =>
    if isSpace c then
      match skipSpace cs with
      | [] => .error r.lacking
      | d :: rest =>
        if d = '>' ∨ d = '/' then
          match tagEnd r (d :: rest) with
          | .error e => .error e
          | .ok (isEmpty, rest') => .ok ((acc.reverse, isEmpty), rest')
        else
          match rawAttribute r (d :: rest) with
          | .error e => .error e
          | .ok (a, rest') => attributes r fuel (a :: acc) rest'
    else
      match tagEnd r (c :: cs) with
      | .error e => .error e
      | .ok (isEmpty, rest') => .ok ((acc.reverse, isEmpty), rest')

/-- A tag that opens an element. -/
structure StartTag where
  name : List Char
  attributes : List RawAttribute
  isEmpty : Bool
deriving Repr

/-- What follows `<` in a tag that opens an element. The fuel bounds the number of attributes. -/
def startTag (r : Reading) (fuel : Nat) (cs : List Char) : Scan StartTag :=
  match qualifiedName r cs with
  | .error e => .error e
  | .ok (_, []) => .error r.lacking
  | .ok (n, rest) =>
    match attributes r (fuel + 1) [] rest with
    | .error e => .error e
    | .ok ((attrs, isEmpty), rest') => .ok (⟨n, attrs, isEmpty⟩, rest')

/-- What follows `</`: the name as written, and the end of the tag. -/
def endTag (r : Reading) (cs : List Char) : Scan (List Char) :=
  match name r cs with
  | .error e => .error e
  | .ok (n, rest) =>
    let isPart (c : Char) : Bool := isNameChar r.latin c || c == ':'
    let full := n ++ rest.takeWhile isPart
    match rest.dropWhile isPart with
    | [] => .error r.lacking
    | '>' :: rest' => .ok (full, rest')
    | c :: rest' =>
      if isSpace c then
        match skipSpace rest' with
        | [] => .error r.lackingMark
        | '>' :: after => .ok (full, after)
        | after => .error (.invalid after)
      else .error (.invalid (c :: rest'))

/-- The rest of a CDATA section up to `]]>`; gives what is left where the section is not closed. -/
def cdataBody : List Char → Except (List Char) (List Char)
  | [] => .error []
  | ']' :: ']' :: '>' :: rest => .ok rest
  | [']', ']'] => .error [']', ']']
  | [']'] => .error [']']
  | ['\r'] => .error ['\r']
  | _ :: rest => cdataBody rest

end SchemaGen.Xml

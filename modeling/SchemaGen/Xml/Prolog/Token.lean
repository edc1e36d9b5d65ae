import SchemaGen.Xml.Scan

/-!
# Tokens outside of elements

Before the root element, inside the document type and after the root element a document is read as a
sequence of tokens. `Token.next` reads one off the front of the characters.
-/

namespace SchemaGen.Xml.Prolog

/-- A token outside of elements. -/
inductive Token where
  | space
  | comment
  | instruction (i : Instruction)
  /-- The start of the root element; nothing of it is taken. -/
  | rootElement
  /-- The sign `<!` and the word after it. -/
  | declarationOpen (keyword : List Char)
  | declarationClose
  | conditionalOpen
  | conditionalClose
  | name (n : List Char)
  | prefixedName (n : List Char)
  | nameToken
  /-- A name with a sign of repetition after it. -/
  | repeatedName
  | hashName (n : List Char)
  /-- A text between quotes, with the characters from its closing quote on. -/
  | literal (text closing : List Char)
  | percent
  | parameterReference
  | comma
  | bar
  | bracketOpen
  | bracketClose
  | parenOpen
  /-- A closing parenthesis with the sign of repetition after it. -/
  | parenClose (mark : Option Char)
deriving Repr

namespace Token

/-- Whether a token ends where the next character does not belong to it. At the end of the
characters such a token takes half a code unit that is left with it. -/
def isOpenEnded : Token → Bool
  | name _ | prefixedName _ | nameToken | hashName _ | literal _ _ | bracketClose
  | parenClose none => true
  | _ => false

/-- Why no character of a token is left; a token that may end here is taken to end. -/
def endOr (r : Reading) (t : Token) : Scan Token :=
  match r.ending with
  | .clean | .half => .ok (t, [])
  | .cut _ | .invalid _ _ => .error (.invalid [])

/-- A literal after its opening quote; `acc` holds the characters read, the last one first. -/
def literalBody (r : Reading) (quote : Char) (acc : List Char) : List Char → Scan Token
  | [] => .error r.lacking
  | c :: rest =>
    if c = quote then
      let t := literal acc.reverse (c :: rest)
      match rest with
      | [] => endOr r t
      | d :: _ =>
        if isSpace d || d == '>' || d == '%' || d == '[' then .ok (t, rest)
        else .error (.invalid rest)
    else literalBody r quote (c :: acc) rest

/-- The kinds of name that can be told apart while one is read. -/
inductive NameKind where
  | plain
  | withPrefix
  | other
deriving DecidableEq

def ofName (n : List Char) : NameKind → Token
  | .plain => name n
  | .withPrefix => prefixedName n
  | .other => nameToken

/-- Whether a character ends a name. -/
def endsName (c : Char) : Bool :=
  isSpace c || c == '>' || c == ')' || c == ',' || c == '|' || c == '[' || c == '%'

/-- The rest of a name; `acc` holds the characters read, the last one first, and `afterColon` tells
that the last one was the first colon. -/
def nameBody (r : Reading) (kind : NameKind) (afterColon : Bool) (acc : List Char) :
    List Char → Scan Token
  | [] =>
    if afterColon then .error r.lacking
    else
      match r.ending with
      | .clean | .half => .ok (ofName acc.reverse kind, [])
      | .cut _ => .error .cutCharacter
      | .invalid _ _ => .error (.invalid [])
  | c :: rest =>
    if isNameChar r.latin c then nameBody r kind false (c :: acc) rest
    else
      -- a colon that no part of a name follows is no prefix
      let kind := if afterColon then .other else kind
      if c = ':' then
        match kind with
        | .plain => nameBody r .withPrefix true (c :: acc) rest
        | _ => nameBody r .other false (c :: acc) rest
      else if endsName c then .ok (ofName acc.reverse kind, c :: rest)
      else if c = '+' ∨ c = '*' ∨ c = '?' then
        if kind = .other then .error (.invalid (c :: rest)) else .ok (repeatedName, rest)
      else .error (.invalid (c :: rest))

/-- Whether the word that opens a declaration may hold a character: a letter of one code unit. -/
def isKeywordChar (r : Reading) (c : Char) : Bool :=
  isNameStart r.latin c && r.isSingle c

/-- What follows `<!`. -/
def declaration (r : Reading) (cs : List Char) : Scan Token :=
  match cs with
  | [] => .error r.lackingMark
  | '-' :: rest =>
    match Xml.comment r rest with
    | .error e => .error e
    | .ok (_, rest') => .ok (.comment, rest')
  | '[' :: rest => .ok (conditionalOpen, rest)
  | c :: _ =>
    if isKeywordChar r c then
      let keyword := cs.takeWhile (isKeywordChar r)
      match cs.dropWhile (isKeywordChar r) with
      | [] => .error r.lackingMark
      | '%' :: rest =>
        match rest with
        | [] => .error r.lackingMark
        | d :: _ =>
          if isSpace d || d == '%' then .error (.invalid ('%' :: rest))
          else .ok (declarationOpen keyword, '%' :: rest)
      | d :: rest =>
        if isSpace d then .ok (declarationOpen keyword, d :: rest)
        else .error (.invalid (d :: rest))
    else .error (.invalid cs)

/-- What follows the sign `%`. -/
def parameter (r : Reading) (cs : List Char) : Scan Token :=
  match cs with
  | [] => .error r.lacking
  | c :: _ =>
    if isSpace c || c == '%' then .ok (percent, cs)
    else
      match Xml.name r cs with
      | .error e => .error e
      | .ok (_, ';' :: rest) => .ok (parameterReference, rest)
      | .ok (_, []) => .error r.lacking
      | .ok (_, rest) => .error (.invalid rest)

/-- What follows the sign `#`. -/
def hash (r : Reading) (cs : List Char) : Scan Token :=
  match Xml.name r cs with
  | .error e => .error e
  | .ok (n, []) =>
    match r.ending with
    | .clean | .half => .ok (hashName n, [])
    | .cut _ => .error .cutCharacter
    | .invalid _ _ => .error (.invalid [])
  | .ok (n, c :: rest) =>
    if isSpace c || c == ')' || c == '>' || c == '%' || c == '|' then
      .ok (hashName n, c :: rest)
    else .error (.invalid (c :: rest))

/-- What follows a closing bracket. -/
def bracket (r : Reading) (cs : List Char) : Scan Token :=
  match cs with
  | ']' :: '>' :: rest => .ok (conditionalClose, rest)
  | [']'] =>
    match r.ending with
    | .clean | .half => .error .unfinished
    | .cut _ | .invalid _ _ => .ok (bracketClose, cs)
  | _ => .ok (bracketClose, cs)

/-- What follows a closing parenthesis. -/
def paren (r : Reading) (cs : List Char) : Scan Token :=
  match cs with
  | [] => endOr r (parenClose none)
  | c :: rest =>
    if c = '*' ∨ c = '+' ∨ c = '?' then .ok (parenClose (some c), rest)
    else if isSpace c || c == '>' || c == ',' || c == '|' || c == ')' then
      .ok (parenClose none, cs)
    else .error (.invalid cs)

/-- What follows the sign `<`. -/
def markup (r : Reading) (cs : List Char) : Scan Token :=
  match cs with
  | [] =>
    match r.ending with
    | .clean | .half => .error .unfinished
    | .invalid _ false => .error (.invalid [])
    | .cut _ | .invalid _ true => .ok (rootElement, ['<'])
  | '!' :: rest => declaration r rest
  | '?' :: rest =>
    match Xml.instruction r rest with
    | .error e => .error e
    | .ok (i, rest') => .ok (.instruction i, rest')
  | c :: _ =>
    if isNameStart r.latin c || !r.isSingle c then .ok (rootElement, '<' :: cs)
    else .error (.invalid cs)

/-- The next token, if the text is not at its end. -/
def next (r : Reading) (cs : List Char) : Except Stop (Option (Token × List Char)) :=
  let found (t : Token) (rest : List Char) : Scan Token := .ok (t, rest)
  match cs with
  | [] =>
    match r.ending with
    | .clean => .ok none
    | .half => .error .unfinished
    | .cut _ => .error .cutCharacter
    | .invalid _ _ => .error (.invalid [])
  | c :: rest =>
    let scanned : Scan Token :=
      if c = '"' ∨ c = '\'' then literalBody r c [] rest
      else if c = '<' then markup r rest
      else if isSpace c then found space (skipSpace rest)
      else if c = '%' then parameter r rest
      else if c = ',' then found comma rest
      else if c = '[' then found bracketOpen rest
      else if c = ']' then bracket r rest
      else if c = '(' then found parenOpen rest
      else if c = ')' then paren r rest
      else if c = '|' then found bar rest
      else if c = '>' then found declarationClose rest
      else if c = '#' then hash r rest
      else if isNameStart r.latin c then nameBody r .plain false [c] rest
      else if isNameChar r.latin c || c == ':' then nameBody r .other false [c] rest
      else .error (.invalid cs)
    scanned.map some

end Token

end SchemaGen.Xml.Prolog

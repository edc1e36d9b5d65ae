import SchemaGen.Entries
import SchemaGen.Xml.Scan

/-!
# Declarations of a document

The internal part of a document type declares entities, and attributes with their types and default
values. `Dtd` holds what the elements need of it. A value is written with references and white space
of any kind; `Dtd.attributeText` gives the text it stands for.
-/

namespace SchemaGen.Xml

/-- An entity. -/
inductive Entity where
  /-- The text with its character references replaced. -/
  | internal (text : List Char)
  | external
  | unparsed
deriving Repr, DecidableEq

/-- What is declared of an attribute. -/
structure AttributeRule where
  name : List Char
  isCdata : Bool
  default? : Option (List Char)
deriving Repr, DecidableEq

/-- The declarations of a document. -/
structure Dtd where
  entities : Entries (List Char) Entity := []
  /-- The rules of each element in order. -/
  rules : Entries (List Char) (List AttributeRule) := []
  /-- Whether there may be declarations that are not read. -/
  isPartial : Bool := false
  isStandalone : Bool := false
  /-- Whether declarations still count. -/
  isKept : Bool := true
deriving Repr

/-- The reading of a text that stands in a declaration. -/
def innerReading : Reading := ⟨.utf8, .clean⟩

namespace Dtd

/-- Whether an entity has to be declared. -/
def requiresDeclaration (d : Dtd) : Bool := !d.isPartial || d.isStandalone

/-- The rules of an element. -/
def rulesOf (d : Dtd) (element : List Char) : List AttributeRule :=
  (Entries.get? d.rules element).getD []

/-- Whether the value of an attribute is taken as it is; the first rule on it decides. -/
def isCdata (d : Dtd) (element attr : List Char) : Bool :=
  match (d.rulesOf element).find? (·.name == attr) with
  | some rule => rule.isCdata
  | none => true

/-- Adds a rule. An attribute that has one already gets no default value by a second. -/
def addRule (d : Dtd) (element : List Char) (rule : AttributeRule) (isId : Bool) : Dtd :=
  let known := d.rulesOf element
  if (rule.default?.isSome || isId) && known.any (·.name == rule.name) then d
  else { d with rules := Entries.set d.rules element (known ++ [rule]) }

/-- Adds an entity, unless its name is taken. -/
def addEntity (d : Dtd) (name : List Char) (e : Entity) : Dtd :=
  if (Entries.get? d.entities name).isSome then d
  else { d with entities := Entries.set d.entities name e }

end Dtd

/-- A part of a value. The numbers count the characters from the part to the end of the value. -/
inductive Piece where
  | char (c : Char)
  /-- White space as written. -/
  | space
  | number (c? : Option Char) (left : Nat)
  | entity (name : List Char) (left : Nat)
  | invalid (left : Nat)
deriving Repr

/-- The parts of a value, of which `skip` characters at the start belong to the part found last. -/
def pieces (r : Reading) : Nat → List Char → List Piece
  | _, [] => []
  | skip + 1, _ :: rest => pieces r skip rest
  | 0, '\r' :: '\n' :: rest => .space :: pieces r 0 rest
  | 0, c :: rest =>
    if c = '&' then
      match reference r rest with
      | .error (.invalid bad) => [.invalid bad.length]
      | .error _ => [.invalid (rest.length + 1)]
      | .ok (.entity n, rest') =>
        .entity n (rest.length + 1) :: pieces r (rest.length - rest'.length) rest
      | .ok (.number base ds, rest') =>
        .number (numberedChar? base ds) (rest.length + 1) ::
          pieces r (rest.length - rest'.length) rest
    else if c = '<' then [.invalid (rest.length + 1)]
    else if isSpace c then .space :: pieces r 0 rest
    else .char c :: pieces r 0 rest

/-- A fault in a value: how many characters are left from it to the end of the value, unless it lies
in the text of an entity or is put down to the whole value. -/
structure ValueFault where
  cause : Cause
  left? : Option Nat
deriving Repr

/-- The characters of a value so far, the last one first, and the octets spent on entities. -/
structure ValueText where
  chars : List Char
  spent : Nat

namespace ValueText

/-- Appends a space, unless spaces are collapsed here and one would follow another or come first. -/
def addSpace (isCdata : Bool) (t : ValueText) : ValueText :=
  if !isCdata && (t.chars.isEmpty || t.chars.head? == some ' ') then t
  else { t with chars := ' ' :: t.chars }

def add (isCdata : Bool) (t : ValueText) (c : Char) : ValueText :=
  if c = ' ' then t.addSpace isCdata else { t with chars := c :: t.chars }

end ValueText

/-- The octets of some characters. -/
def octetCount (cs : List Char) : Nat := cs.foldl (fun n c => n + c.utf8Size) 0

/-- How a value is read: the declarations, whether it is taken as it is, and whether the octets
spent on entities are too many. -/
structure ValueContext where
  dtd : Dtd
  isCdata : Bool
  isTooMuch : Nat → Bool

/-- Appends a part to a value. `nested` appends the text of an entity; `opened` are the entities in
whose texts the part stands. -/
def addPiece (x : ValueContext) (opened : List (List Char))
    (nested : List Char → List Char → ValueText → Except ValueFault ValueText)
    (t : ValueText) (p : Piece) : Except ValueFault ValueText :=
  let here (left : Nat) : Option Nat := if opened.isEmpty then some left else none
  match p with
  | .char c => .ok { t with chars := c :: t.chars }
  | .space => .ok (t.addSpace x.isCdata)
  | .number (some c) _ => .ok (t.add x.isCdata c)
  | .number none left => .error ⟨.badCharacterNumber, here left⟩
  | .invalid left => .error ⟨.invalidToken, here left⟩
  | .entity n left =>
    match predefined? n with
    | some c => .ok { t with chars := c :: t.chars }
    | none =>
      match Entries.get? x.dtd.entities n with
      | none =>
        if x.dtd.requiresDeclaration then .error ⟨.undefinedEntity, none⟩ else .ok t
      | some e =>
        if n ∈ opened then .error ⟨.recursiveReference, none⟩
        else
          match e with
          | .unparsed => .error ⟨.binaryReference, here left⟩
          | .external => .error ⟨.externalReferenceInAttribute, here left⟩
          | .internal text =>
            let spent := t.spent + octetCount text
            if x.isTooMuch spent then .error ⟨.amplification, none⟩
            else nested n text { t with spent }

/-- Appends the text that a value stands for. The fuel bounds the depth of entities within
entities. -/
def addValue (x : ValueContext) : Nat → Reading → List (List Char) → List Char → ValueText →
    Except ValueFault ValueText
  | 0, _, _, _, _ => .error ⟨.recursiveReference, none⟩
  | depth + 1, r, opened, value, t =>
    (pieces r 0 value).foldlM
      (addPiece x opened fun n text t' => addValue x depth innerReading (n :: opened) text t') t

/-- The text that the value of an attribute stands for, and the octets spent. The value stands in
the texts of the entities `opened`. -/
def Dtd.attributeText (x : ValueContext) (r : Reading) (opened : List (List Char)) (spent : Nat)
    (value : List Char) : Except ValueFault (List Char × Nat) :=
  match addValue x (x.dtd.entities.length + 2) r opened value ⟨[], spent⟩ with
  | .error e => .error e
  | .ok t =>
    let chars := if !x.isCdata && t.chars.head? == some ' ' then t.chars.drop 1 else t.chars
    .ok (chars.reverse, t.spent)

/-- The text of an entity from the text in its declaration: line ends become line feeds and
character references are replaced, references to entities are kept. `skip` characters at the start
belong to the reference found last, `acc` holds the text so far, the last character first. -/
def entityText (r : Reading) (acc : List Char) : Nat → List Char → Except ValueFault (List Char)
  | _, [] => .ok acc.reverse
  | skip + 1, _ :: rest => entityText r acc skip rest
  | 0, '\r' :: '\n' :: rest => entityText r ('\n' :: acc) 0 rest
  | 0, c :: rest =>
    if c = '&' then
      match reference r rest with
      | .error (.invalid bad) => .error ⟨.invalidToken, some bad.length⟩
      | .error _ => .error ⟨.invalidToken, some (rest.length + 1)⟩
      | .ok (.number base ds, rest') =>
        match numberedChar? base ds with
        | some d => entityText r (d :: acc) (rest.length - rest'.length) rest
        | none => .error ⟨.badCharacterNumber, some (rest.length + 1)⟩
      | .ok (.entity _, _) => entityText r (c :: acc) 0 rest
    else if c = '%' then
      match name r rest with
      | .error (.invalid bad) => .error ⟨.invalidToken, some bad.length⟩
      | .error _ => .error ⟨.invalidToken, some (rest.length + 1)⟩
      | .ok (_, ';' :: _) => .error ⟨.parameterReference, some (rest.length + 1)⟩
      | .ok (_, []) => .error ⟨.invalidToken, some (rest.length + 1)⟩
      | .ok (_, bad) => .error ⟨.invalidToken, some bad.length⟩
    else entityText r ((if c = '\r' then '\n' else c) :: acc) 0 rest

end SchemaGen.Xml

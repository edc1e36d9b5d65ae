import SchemaGen.Xml.Dtd
import SchemaGen.Xml.Prolog.Token

/-!
# The grammar before the root element

The tokens before the root element follow a grammar whose states are listed in `State`.
`Prolog.step` takes one token: it moves to the next state and enters what is declared, or gives the
fault. Entities in parameters are not expanded; after a reference to one, declarations count only in
a document that stands alone.
-/

namespace SchemaGen.Xml

namespace Prolog

/-- What may come next. -/
inductive State where
  | beforeDoctype
  | afterDoctype
  | doctypeName
  | doctypeBody
  | doctypePublicId
  | doctypeSystemId
  | doctypeSubset
  | doctypeEnd
  | subset
  | entityName
  | parameterName
  | entityBody
  | entityPublicId
  | entitySystemId
  | entityNotationOrEnd
  | entityNotation
  | parameterBody
  | parameterPublicId
  | parameterSystemId
  | parameterEnd
  | notationName
  | notationBody
  | notationPublicId
  | notationSystemId
  | notationSystemIdOrEnd
  | attlistElement
  | attributeName
  | attributeType
  | enumerationValue
  | enumerationNext
  | notationList
  | notationValue
  | notationNext
  | attributeDefault
  | fixedValue
  | elementName
  | elementContent
  | groupStart
  | mixedNext
  | mixedName
  | mixedMore
  | groupItem
  | groupNext
  | close
deriving DecidableEq, Repr

end Prolog

/-- What was read before the root element. -/
structure Prolog where
  state : Prolog.State := .beforeDoctype
  dtd : Dtd := {}
  /-- The general entity that is being declared. -/
  entity? : Option (List Char) := none
  /-- The element whose attributes are being declared. -/
  element : List Char := []
  /-- The attribute that is being declared. -/
  attr : List Char := []
  isCdata : Bool := false
  isId : Bool := false
  /-- The separators of the groups that are open, the innermost one first. -/
  separators : List (Option Char) := []
deriving Repr

namespace Prolog

open Token

/-- Whether a character may stand in a public identifier. -/
def isPublicIdChar (c : Char) : Bool :=
  c.isAlphanum || c ∈ ['-', '\'', '(', ')', '+', ',', '.', '/', ':', '=', '?', ';', '!', '*', '#',
    '@', '$', '_', '%', ' ', '\n', '\r']

/-- The fault of a public identifier, at its first character that may not stand there. -/
def publicIdFault? (text closing : List Char) : Option Fault :=
  match text.dropWhile isPublicIdChar with
  | [] => none
  | bad => some ⟨.illegalPublicId, bad.length + closing.length⟩

/-- A fault in a value that ends before `closing`; `left` is where the value is put down to. -/
def valueFault (e : ValueFault) (closing : List Char) (left : Nat) : Fault :=
  ⟨e.cause, match e.left? with
    | some n => n + closing.length
    | none => left⟩

/-- Moves to another state. -/
def goTo (p : Prolog) (s : State) : Except Fault Prolog := .ok { p with state := s }

/-- Declares the entity at hand, if there is one and declarations count. -/
def declareEntity (p : Prolog) (e : Entity) : Prolog :=
  match p.entity? with
  | some n => if p.dtd.isKept then { p with dtd := p.dtd.addEntity n e } else p
  | none => p

/-- Declares the attribute at hand. -/
def declareAttribute (p : Prolog) (default? : Option (List Char)) : Prolog :=
  if p.dtd.isKept then
    { p with dtd := p.dtd.addRule p.element ⟨p.attr, p.isCdata, default?⟩ p.isId }
  else p

/-- The value of the entity at hand. -/
def entityValue (r : Reading) (p : Prolog) (left : Nat) (text closing : List Char) :
    Except Fault Prolog :=
  if p.dtd.isKept then
    match entityText { r with ending := .clean } [] 0 text with
    | .error e => .error (valueFault e closing left)
    | .ok value => (p.declareEntity (.internal value)).goTo .close
  else p.goTo .close

/-- The default value of the attribute at hand. -/
def defaultValue (r : Reading) (p : Prolog) (left : Nat) (text closing : List Char)
    (isTooMuch : Nat → Bool) : Except Fault Prolog :=
  if p.dtd.isKept then
    match Dtd.attributeText ⟨p.dtd, p.isCdata, isTooMuch⟩ { r with ending := .clean } [] 0
        text with
    | .error e => .error (valueFault e closing left)
    | .ok (value, _) => (p.declareAttribute (some value)).goTo .attributeName
  else p.goTo .attributeName

/-- Opens a group. -/
def openGroup (p : Prolog) (s : State) : Except Fault Prolog :=
  .ok { p with state := s, separators := none :: p.separators }

/-- Closes a group. -/
def closeGroup (p : Prolog) : Except Fault Prolog :=
  let outer := p.separators.drop 1
  .ok { p with state := if outer.isEmpty then .close else .groupNext, separators := outer }

/-- Takes a separator of the innermost group; all have to be the same. -/
def separate (p : Prolog) (c : Char) (left : Nat) : Except Fault Prolog :=
  match p.separators with
  | some d :: outer =>
    if c = d then .ok { p with state := .groupItem, separators := some c :: outer }
    else .error ⟨.syntaxError, left⟩
  | _ :: outer => .ok { p with state := .groupItem, separators := some c :: outer }
  | [] => .ok { p with state := .groupItem }

/-- The state after the word that opens a declaration. -/
def declarationState? (keyword : List Char) : Option State :=
  match String.ofList keyword with
  | "ENTITY" => some .entityName
  | "ATTLIST" => some .attlistElement
  | "ELEMENT" => some .elementName
  | "NOTATION" => some .notationName
  | _ => none

/-- The types of attributes that are named by a word. -/
def typeNames : List String :=
  ["CDATA", "ID", "IDREF", "IDREFS", "ENTITY", "ENTITIES", "NMTOKEN", "NMTOKENS"]

/-- The fault of a token that must not stand where it does. -/
def misplaced (t : Token) (left : Nat) : Fault :=
  match t with
  | .parameterReference => ⟨.parameterReference, left⟩
  | .instruction (.declaration _) => ⟨.misplacedDeclaration, left⟩
  | _ => ⟨.syntaxError, left⟩

/-- Whether comments and instructions may stand in a state. -/
def State.takesComments : State → Bool
  | .beforeDoctype | .afterDoctype | .subset => true
  | _ => false

/-- Takes one token. `left` counts the characters from its start to the end of the document. -/
def step (r : Reading) (isTooMuch : Nat → Bool) (p : Prolog) (left : Nat) (t : Token) :
    Except Fault Prolog :=
  let fail : Except Fault Prolog := .error (misplaced t left)
  match p.state, t with
  | _, .space => .ok p
  | s, .comment => if s.takesComments then .ok p else fail
  | s, .instruction .other => if s.takesComments then .ok p else fail
  | .beforeDoctype, .declarationOpen k => if k = "DOCTYPE".toList then p.goTo .doctypeName else fail
  | .doctypeName, .name _ => p.goTo .doctypeBody
  | .doctypeName, .prefixedName _ => p.goTo .doctypeBody
  | .doctypeBody, .bracketOpen => p.goTo .subset
  | .doctypeBody, .declarationClose => p.goTo .afterDoctype
  | .doctypeBody, .name n =>
    if n = "SYSTEM".toList then p.goTo .doctypeSystemId
    else if n = "PUBLIC".toList then p.goTo .doctypePublicId
    else fail
  | .doctypePublicId, .literal text closing =>
    match publicIdFault? text closing with
    | some f => .error f
    | none => { p with dtd := { p.dtd with isPartial := true } }.goTo .doctypeSystemId
  | .doctypeSystemId, .literal _ _ =>
    { p with dtd := { p.dtd with isPartial := true } }.goTo .doctypeSubset
  | .doctypeSubset, .bracketOpen => p.goTo .subset
  | .doctypeSubset, .declarationClose => p.goTo .afterDoctype
  | .doctypeEnd, .declarationClose => p.goTo .afterDoctype
  | .subset, .declarationOpen k =>
    match declarationState? k with
    | some s => p.goTo s
    | none => fail
  | .subset, .parameterReference =>
    .ok { p with dtd := { p.dtd with isPartial := true, isKept := p.dtd.isStandalone } }
  | .subset, .bracketClose => p.goTo .doctypeEnd
  | .entityName, .percent => p.goTo .parameterName
  | .entityName, .name n =>
    let isFree := (predefined? n).isNone && (Entries.get? p.dtd.entities n).isNone
    { p with entity? := if isFree then some n else none }.goTo .entityBody
  | .parameterName, .name _ => { p with entity? := none }.goTo .parameterBody
  | .entityBody, .name n =>
    if n = "SYSTEM".toList then p.goTo .entitySystemId
    else if n = "PUBLIC".toList then p.goTo .entityPublicId
    else fail
  | .entityBody, .literal text closing => entityValue r p left text closing
  | .entityPublicId, .literal text closing =>
    match publicIdFault? text closing with
    | some f => .error f
    | none => p.goTo .entitySystemId
  | .entitySystemId, .literal _ _ => p.goTo .entityNotationOrEnd
  | .entityNotationOrEnd, .declarationClose => (p.declareEntity .external).goTo .subset
  | .entityNotationOrEnd, .name n => if n = "NDATA".toList then p.goTo .entityNotation else fail
  | .entityNotation, .name _ => (p.declareEntity .unparsed).goTo .close
  | .parameterBody, .name n =>
    if n = "SYSTEM".toList then p.goTo .parameterSystemId
    else if n = "PUBLIC".toList then p.goTo .parameterPublicId
    else fail
  | .parameterBody, .literal text closing => entityValue r p left text closing
  | .parameterPublicId, .literal text closing =>
    match publicIdFault? text closing with
    | some f => .error f
    | none => p.goTo .parameterSystemId
  | .parameterSystemId, .literal _ _ => p.goTo .parameterEnd
  | .parameterEnd, .declarationClose => p.goTo .subset
  | .notationName, .name _ => p.goTo .notationBody
  | .notationBody, .name n =>
    if n = "SYSTEM".toList then p.goTo .notationSystemId
    else if n = "PUBLIC".toList then p.goTo .notationPublicId
    else fail
  | .notationPublicId, .literal text closing =>
    match publicIdFault? text closing with
    | some f => .error f
    | none => p.goTo .notationSystemIdOrEnd
  | .notationSystemId, .literal _ _ => p.goTo .close
  | .notationSystemIdOrEnd, .literal _ _ => p.goTo .close
  | .notationSystemIdOrEnd, .declarationClose => p.goTo .subset
  | .attlistElement, .name n => { p with element := n }.goTo .attributeName
  | .attlistElement, .prefixedName n => { p with element := n }.goTo .attributeName
  | .attributeName, .declarationClose => p.goTo .subset
  | .attributeName, .name n =>
    { p with attr := n, isCdata := false, isId := false }.goTo .attributeType
  | .attributeName, .prefixedName n =>
    { p with attr := n, isCdata := false, isId := false }.goTo .attributeType
  | .attributeType, .name n =>
    let word := String.ofList n
    if word ∈ typeNames then
      { p with isCdata := word = "CDATA", isId := word = "ID" }.goTo .attributeDefault
    else if word = "NOTATION" then p.goTo .notationList
    else fail
  | .attributeType, .parenOpen => p.goTo .enumerationValue
  | .enumerationValue, .name _ => p.goTo .enumerationNext
  | .enumerationValue, .prefixedName _ => p.goTo .enumerationNext
  | .enumerationValue, .nameToken => p.goTo .enumerationNext
  | .enumerationNext, .parenClose none => p.goTo .attributeDefault
  | .enumerationNext, .bar => p.goTo .enumerationValue
  | .notationList, .parenOpen => p.goTo .notationValue
  | .notationValue, .name _ => p.goTo .notationNext
  | .notationNext, .parenClose none => p.goTo .attributeDefault
  | .notationNext, .bar => p.goTo .notationValue
  | .attributeDefault, .hashName n =>
    match String.ofList n with
    | "IMPLIED" | "REQUIRED" => (p.declareAttribute none).goTo .attributeName
    | "FIXED" => p.goTo .fixedValue
    | _ => fail
  | .attributeDefault, .literal text closing => defaultValue r p left text closing isTooMuch
  | .fixedValue, .literal text closing => defaultValue r p left text closing isTooMuch
  | .elementName, .name _ => p.goTo .elementContent
  | .elementName, .prefixedName _ => p.goTo .elementContent
  | .elementContent, .name n =>
    if n = "EMPTY".toList ∨ n = "ANY".toList then p.goTo .close else fail
  | .elementContent, .parenOpen => p.openGroup .groupStart
  | .groupStart, .hashName n => if n = "PCDATA".toList then p.goTo .mixedNext else fail
  | .groupStart, .parenOpen => p.openGroup .groupItem
  | .groupStart, .name _ => p.goTo .groupNext
  | .groupStart, .prefixedName _ => p.goTo .groupNext
  | .groupStart, .repeatedName => p.goTo .groupNext
  | .mixedNext, .parenClose none => p.closeGroup
  | .mixedNext, .parenClose (some '*') => p.closeGroup
  | .mixedNext, .bar => p.goTo .mixedName
  | .mixedName, .name _ => p.goTo .mixedMore
  | .mixedName, .prefixedName _ => p.goTo .mixedMore
  | .mixedMore, .parenClose (some '*') => p.closeGroup
  | .mixedMore, .bar => p.goTo .mixedName
  | .groupItem, .parenOpen => p.openGroup .groupItem
  | .groupItem, .name _ => p.goTo .groupNext
  | .groupItem, .prefixedName _ => p.goTo .groupNext
  | .groupItem, .repeatedName => p.goTo .groupNext
  | .groupNext, .parenClose _ => p.closeGroup
  | .groupNext, .comma => p.separate ',' left
  | .groupNext, .bar => p.separate '|' left
  | .close, .declarationClose => p.goTo .subset
  | _, _ => fail

end Prolog

end SchemaGen.Xml

import SchemaGen.Xml.Dtd

/-!
# Names in namespaces

A prefix is bound to the name of a namespace by an attribute of an element, for this element and
what is inside it. `StartTag.resolve` gives the element that a tag opens: its attributes with their
values, default values included, and all names with their namespaces.
-/

namespace SchemaGen.Xml

/-- Prefixes with the names of their namespaces, the innermost binding first. The empty prefix
stands for names without one; an empty namespace is none. -/
abbrev Scope := List (List Char × List Char)

namespace Scope

def xmlNamespace : List Char := "http://www.w3.org/XML/1998/namespace".toList

def xmlnsNamespace : List Char := "http://www.w3.org/2000/xmlns/".toList

/-- The scope of a whole document. -/
def outermost : Scope := [("xml".toList, xmlNamespace)]

/-- The namespace of a prefix. -/
def find? (s : Scope) (pre : List Char) : Option (List Char) :=
  match List.find? (fun b => b.1 == pre) s with
  | some (_, []) => none
  | some (_, uri) => some uri
  | none => none

/-- Binds a prefix. -/
def bind (s : Scope) (pre uri : List Char) : Except Cause Scope :=
  let isXml := pre == "xml".toList
  if uri.isEmpty && !pre.isEmpty then .error .undeclaredPrefix
  else if pre == "xmlns".toList then .error .reservedPrefixXmlns
  else if '\x7d' ∈ uri then .error .syntaxError
  else if isXml && uri != xmlNamespace then .error .reservedPrefixXml
  else if !isXml && uri == xmlNamespace then .error .reservedNamespace
  else if uri == xmlnsNamespace then .error .reservedNamespace
  else .ok ((pre, uri) :: s)

end Scope

/-- The prefix that an attribute binds, if it binds one. -/
def boundPrefix? (name : List Char) : Option (List Char) :=
  if name = "xmlns".toList then some []
  else
    match "xmlns:".toList.isPrefixOf? name with
    | some pre => some pre
    | none => none

/-- The prefix of a name, if it has one, and the local name. -/
def splitName (name : List Char) : Option (List Char) × List Char :=
  match name.dropWhile (· != ':') with
  | [] => (none, name)
  | _ :: localName => (some (name.takeWhile (· != ':')), localName)

/-- A name with its namespace in braces. -/
def expandedName (uri localName : List Char) : String :=
  String.ofList ('\x7b' :: uri ++ '\x7d' :: localName)

/-- A fault of a tag; it is put down to the tag, unless it is known how many characters are left
from it to the end of the text. -/
structure TagFault where
  cause : Cause
  left? : Option Nat
deriving Repr

/-- What a tag opens: the name and the attributes of the element, and the scope inside it. -/
structure Opened where
  tag : String
  attributes : List (String × String)
  scope : Scope
deriving Repr

/-- The attributes of a tag so far: names seen, those that bind no prefix with their values in
order, the scope, and the octets spent on entities. -/
structure AttributeState where
  seen : List (List Char)
  values : List (List Char × List Char)
  scope : Scope
  spent : Nat

namespace AttributeState

/-- Enters an attribute with its value. -/
def enter (s : AttributeState) (name value : List Char) : Except TagFault AttributeState :=
  let s := { s with seen := name :: s.seen }
  match boundPrefix? name with
  | some pre =>
    match s.scope.bind pre value with
    | .error c => .error ⟨c, none⟩
    | .ok scope => .ok { s with scope }
  | none => .ok { s with values := s.values ++ [(name, value)] }

/-- Enters an attribute of a tag. -/
def enterWritten (dtd : Dtd) (isTooMuch : Nat → Bool) (r : Reading) (opened : List (List Char))
    (element : List Char) (s : AttributeState) (a : RawAttribute) :
    Except TagFault AttributeState :=
  if s.seen.contains a.name then .error ⟨.duplicateAttribute, some a.nameAt.length⟩
  else
    let isCdata := dtd.isCdata element a.name
    match Dtd.attributeText ⟨dtd, isCdata, isTooMuch⟩ { r with ending := .clean } opened s.spent
        a.value with
    | .error e => .error ⟨e.cause, e.left?.map (· + a.valueEnd.length)⟩
    | .ok (value, spent) => { s with spent }.enter a.name value

/-- Enters the default value of an attribute that the tag does not have. -/
def enterDefault (s : AttributeState) (rule : AttributeRule) : Except TagFault AttributeState :=
  match rule.default? with
  | some value => if s.seen.contains rule.name then .ok s else s.enter rule.name value
  | none => .ok s

/-- The name of an attribute with its namespace. Names without a prefix are in none. -/
def attributeName (scope : Scope) (name : List Char) : Except TagFault String :=
  match splitName name with
  | (none, n) => .ok (String.ofList n)
  | (some pre, n) =>
    match scope.find? pre with
    | some uri => .ok (expandedName uri n)
    | none => .error ⟨.unboundPrefix, none⟩

/-- The names of all attributes with their namespaces; no two may be the same. -/
def expandNames (scope : Scope) :
    List (String × String) → List (List Char × List Char) → Except TagFault (List (String × String))
  | done, [] => .ok done.reverse
  | done, (name, value) :: rest =>
    match attributeName scope name with
    | .error e => .error e
    | .ok n =>
      if done.any (·.1 == n) then .error ⟨.duplicateAttribute, none⟩
      else expandNames scope ((n, String.ofList value) :: done) rest

end AttributeState

/-- The name of an element with its namespace. -/
def elementName (scope : Scope) (name : List Char) : Except TagFault String :=
  match splitName name with
  | (none, n) =>
    match scope.find? [] with
    | some uri => .ok (expandedName uri n)
    | none => .ok (String.ofList n)
  | (some pre, n) =>
    match scope.find? pre with
    | some uri => .ok (expandedName uri n)
    | none => .error ⟨.unboundPrefix, none⟩

/-- What a tag opens inside a scope, and the octets spent on entities. The tag stands in the texts
of the entities `opened`. -/
def StartTag.resolve (dtd : Dtd) (isTooMuch : Nat → Bool) (r : Reading) (opened : List (List Char))
    (scope : Scope) (spent : Nat) (t : StartTag) : Except TagFault (Opened × Nat) := do
  let s ← t.attributes.foldlM (AttributeState.enterWritten dtd isTooMuch r opened t.name)
    ⟨[], [], scope, spent⟩
  let s ← (dtd.rulesOf t.name).foldlM AttributeState.enterDefault s
  let attributes ← AttributeState.expandNames s.scope [] s.values
  let tag ← elementName s.scope t.name
  pure (⟨tag, attributes, s.scope⟩, s.spent)

end SchemaGen.Xml

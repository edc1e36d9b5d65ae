import SchemaGen.Generation.Generator
import SchemaGen.Perl.ResultClass
import SchemaGen.Perl.SchemaClass

/-!
# The generator of Perl classes

The settings are read when a class is made: first the layout, then the namespace, then the
indentation. Settings that were checked give all three.
-/

namespace SchemaGen.Perl

open Model (Table RelationSet)

/-- The layout that a setting names. -/
def layoutOf (v : Value) : Except GenerationError Layout :=
  match v with
  | .text s =>
    match Layout.ofName? s with
    | some layout => .ok layout
    | none => .error (.unknownLayout v)
  | .list _ | .object _ => .error (.compoundLayout v)
  | _ => .error (.unknownLayout v)

/-- The memory of the machine, as far as an indentation can use it up. -/
class Memory where
  /-- The widest indentation for which there is room. -/
  maxIndent : Nat

/-- Where nothing else is said, there is room for two to the power of 32 blanks. -/
instance Memory.usual : Memory where
  maxIndent := 4294967296

variable [Memory]

/-- The first number of more than 63 bits, two to the power of 63. -/
def wordLimit : Int := 9223372036854775808

/-- The blanks in front of a name in a list; none for a number below zero. Numbers of more than 63
bits are refused, smaller ones for which there is no room fail. -/
def indentOf (v : Value) : Except GenerationError String :=
  let blanks (n : Int) : Except GenerationError String :=
    if n ≥ wordLimit ∨ n < -wordLimit then .error .indentTooLarge
    else if n > Memory.maxIndent then .error .outOfMemory
    else .ok (String.ofList (List.replicate n.toNat ' '))
  match v with
  | .int n => blanks n
  | .bool b => blanks b.toNat
  | v => .error (.indentNotWhole v)

/-- The package of a table's class. -/
def tablePackage (nameSpace : String) (layout : Layout) (schemaName table : String) : String :=
  ModuleName.joinSegments ModuleName.separator
    [some nameSpace, some schemaName, layout.tableSegment, some table]

/-- The package of the schema class. -/
def schemaPackage (nameSpace schemaName : String) : String :=
  ModuleName.joinSegments ModuleName.separator [some nameSpace, some schemaName]

/-- The class of a table, where `packageOf` gives the package of a table's class. -/
def resultClass (layout : Layout) (indent : String) (isCommented : Bool)
    (packageOf : String → String) (t : Table) (r : RelationSet) : ResultClass where
  package := packageOf t.name
  tableName := t.name
  layout := layout
  columns := t.columns
  primaryKey := t.primaryKey
  hasMany := Declaration.ofPairs .hasMany packageOf r.outgoing
  belongsTo := Declaration.ofPairs .belongsTo packageOf r.incoming
  indent := indent
  isCommented := isCommented

/-- The class of a table and its source. -/
def tableClass (s : Settings) (t : Table) (r : RelationSet) (schemaName : String) :
    Traced GenerationError (String × String) := do
  if t.name = "" then Traced.fail .unnamedTable
  let layout ← Traced.ofExcept (layoutOf s.layout)
  let nameSpace ← Traced.ofExcept s.namespaceName
  let indent ← Traced.ofExcept (indentOf s.indentSize)
  let c := resultClass layout indent s.addComments.isGiven
    (tablePackage nameSpace layout schemaName) t r
  Traced.note .debug .classWriter
    s!"Rendering {c.package} ({c.hasMany.length} has_many, {c.belongsTo.length} belongs_to)"
  pure (c.package, c.render)

/-- The schema class and its source. Every layout but the one of namespaces lists the classes. -/
def schemaClass (s : Settings) (names : List String) (schemaName : String) :
    Traced GenerationError (String × String) := do
  let nameSpace ← Traced.ofExcept s.namespaceName
  let indent ← Traced.ofExcept (indentOf s.indentSize)
  let c : SchemaClass :=
    { package := schemaPackage nameSpace schemaName
      classes := if s.layout = .text Layout.namespaces.name then none else some names
      indent
      isCommented := s.addComments.isGiven }
  pure (c.package, c.render)

/-- The generator of Perl classes. -/
def generator (s : Settings) : Generator where
  language := "dbic"
  settings := s
  tableClass := tableClass s
  schemaClass := schemaClass s

end SchemaGen.Perl

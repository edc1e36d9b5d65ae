import SchemaGen.Generation.Error
import SchemaGen.Log
import SchemaGen.Model.Relations
import SchemaGen.Model.Warning
import SchemaGen.Package.ModuleName
import SchemaGen.Settings.Basic
import SchemaGen.Text.Tidy

/-!
# Generators

A generator makes the class of a table and the schema class from the model; all else is the same for
every target. `Generator.generate` runs one over a list of tables: the name of the schema class is
chosen first, since every package name holds it, then the classes are made in the order of the
tables and the schema class last. The outcome, with the warnings and the particulars of the run, is
a `Generation`.
-/

namespace SchemaGen

open Model (Table RelationSet Relations)

/-- A generator for a target, with its settings. -/
structure Generator where
  /-- The name of the target. -/
  language : String
  /-- The separator between the segments of a module name. -/
  separator : String := ModuleName.separator
  settings : Settings
  /-- The module of a table's class and its source, given the name of the schema class. -/
  tableClass : Table → RelationSet → String → Traced GenerationError (String × String)
  /-- The module of the schema class and its source, given the names of the tables. -/
  schemaClass : List String → String → Traced GenerationError (String × String)

/-- The namespace that the settings give: a value that counts as not given is an empty one, any
other has to be a text. -/
def Settings.namespaceName (s : Settings) : Except GenerationError String :=
  if s.nameSpace.isGiven then
    match s.nameSpace with
    | .text name => .ok name
    | v => .error (.namespaceNotText v)
  else .ok ""

/-- The name of a module below the namespace of the settings. -/
def Settings.moduleName (s : Settings) (separator : String) (parts : List (Option String)) :
    Except GenerationError String := do
  pure (ModuleName.joinSegments separator (some (← s.namespaceName) :: parts))

/-- What a successful generation gives. -/
structure Product where
  /-- The sources by module, the table classes in order and the schema class last. -/
  files : Entries String String
  warnings : List Model.Warning
  language : String
  fileExtension : Value
  nameSpace : Value
  tableCount : Nat
  schemaModule : String
  relationshipCount : Nat
deriving DecidableEq, Repr

/-- The particulars of a generation, as they are shown. -/
def Product.metadata (p : Product) : Entries String Value :=
  [("language", .text p.language), ("file_extension", p.fileExtension),
   ("namespace", p.nameSpace), ("table_count", .int p.tableCount),
   ("schema_module", .text p.schemaModule), ("relationship_count", .int p.relationshipCount)]

/-- The outcome of a generation and, if the model was loaded for it, where it was loaded from. -/
structure Generation where
  outcome : Except GenerationError Product
  source : Option String := none

namespace Generation

def isSuccess (g : Generation) : Bool :=
  match g.outcome with
  | .ok _ => true
  | .error _ => false

def files (g : Generation) : Entries String String :=
  match g.outcome with
  | .ok p => p.files
  | .error _ => []

def warnings (g : Generation) : List Model.Warning :=
  match g.outcome with
  | .ok p => p.warnings
  | .error _ => []

def metadata (g : Generation) : Entries String Value :=
  (match g.outcome with
    | .ok p => p.metadata
    | .error _ => []) ++
  match g.source with
    | some source => [("source", .text source)]
    | none => []

/-- What is said of a generation that failed. -/
def failureMessage (e : GenerationError) : String := s!"Code generation failed: {e.message}"

def errorMessage? (g : Generation) : Option String :=
  match g.outcome with
  | .ok _ => none
  | .error e => some (failureMessage e)

end Generation

namespace Generator

/-- The classes of some tables, entered one after the other: a later class with the name of an
earlier one takes its place. -/
def tableClasses (g : Generator) (relations : Relations) (schemaName : String) :
    List Table → Entries String String → Traced GenerationError (Entries String String)
  | [], files => pure files
  | t :: rest, files => do
    let (name, source) ← g.tableClass t (relations.of t.name) schemaName
    tableClasses g relations schemaName rest (files.set name source)

/-- The sources of all modules, not yet tidy. -/
def sources (g : Generator) (tables : List Table) :
    Traced GenerationError (Entries String String) := do
  let names := Model.tableNames tables
  let schemaName ← Traced.ofExcept
    ((Package.chooseSchemaName Package.schemaNameCandidates names).mapError .noSchemaName)
  Traced.note .debug .generator
    s!"Using schema name {schemaName} for {tables.length} tables"
  let files ← g.tableClasses (Relations.derive tables) schemaName tables []
  let (name, source) ← g.schemaClass names schemaName
  pure (files.set name source)

/-- Makes the sources of all modules tidy. -/
def tidySources (files : Entries String String) : Entries String String :=
  files.map fun (name, source) => (name, Text.tidy source)

/-- What a run over some tables gives when it succeeds. -/
def product (g : Generator) (tables : List Table) : Traced GenerationError Product := do
  let warnings := Model.Warning.ofTables tables
  Traced.notes (warnings.map fun w => ⟨.warning, .generator, w.message⟩)
  let files := tidySources (← g.sources tables)
  let schemaModule := (files.keys.getLast?).getD ""
  Traced.note .info .generator s!"Generated {files.length} modules ({schemaModule})"
  pure {
    files, warnings, schemaModule
    language := g.language
    fileExtension := g.settings.fileExtension
    nameSpace := g.settings.nameSpace
    tableCount := tables.length
    relationshipCount := tables.foldl (fun count t => count + t.pairCount) 0 }

/-- Runs a generator over some tables. A failure is reported and becomes part of the outcome. -/
def generate (g : Generator) (tables : List Table) : List Log.Entry × Generation :=
  let run := g.product tables
  match run.outcome with
  | .ok _ => (run.log, ⟨run.outcome, none⟩)
  | .error e =>
    (run.log ++ [⟨.error, .generator, Generation.failureMessage e⟩], ⟨run.outcome, none⟩)

end Generator

end SchemaGen

import SchemaGen.Log
import SchemaGen.Model.ForeignKeyText
import SchemaGen.Xml.Document

/-!
# Reading a model

A model is a document with the root element `DBMODEL`. Its tables stand under
`METADATA/TABLES/TABLE`, and under `METADATA/RELATIONS/RELATION` the relations between them, from
the table referred to (`SrcTable`) to the table that refers to it (`DestTable`). A relation names
its two tables by their identifiers; the identifier of a table without one is its name, and of
several tables with one identifier the last counts.
-/

namespace SchemaGen.Model

/-- Why a document gives no model. -/
inductive ReadError where
  | document (e : Xml.ReadError)
  | otherRoot (tag : String)
  /-- A table without a name, with its identifier. -/
  | unnamedTable (identifier : String)
  | unnamedColumn (table : String)
  | duplicateTable (name : String)
  | unknownTable (relation : String)
  | foreignKey (e : ForeignKeyText.Malformed)
deriving DecidableEq, Repr

namespace ReadError

def message : ReadError → String
  | document e => e.message
  | otherRoot tag => s!"Not a DBDesigner4 model: root element is <{tag}>"
  | unnamedTable identifier => s!"Table {identifier} has no name"
  | unnamedColumn table => s!"Table {table} has a column without name"
  | duplicateTable name => s!"Duplicate table name: {name}"
  | unknownTable relation => s!"Relation {relation} refers to an unknown table"
  | foreignKey e => e.message

end ReadError

/-- An attribute that holds a name, without the blanks around it; empty if it is missing. -/
def nameIn (e : Xml.Element) (key : String) : String :=
  Text.trim ((e.attribute? key).getD "")

/-- A column of the table `table`: its name, and whether it is part of the primary key. -/
def readColumn (table : String) (e : Xml.Element) : Except ReadError (String × Bool) :=
  let name := nameIn e "ColName"
  if name = "" then .error (.unnamedColumn table)
  else .ok (name, e.attribute? "PrimaryKey" = some "1")

/-- A table without its foreign keys. -/
def readTable (e : Xml.Element) : Except ReadError Table :=
  let name := nameIn e "Tablename"
  if name = "" then .error (.unnamedTable ((e.attribute? "ID").getD "?"))
  else do
    let columns ← (e.select ["COLUMNS", "COLUMN"]).mapM (readColumn name)
    pure (columns.foldl (fun t c => t.addColumn c.1 c.2) { name })

/-- The identifier by which relations refer to a table. -/
def identifierOf (e : Xml.Element) (t : Table) : String := (e.attribute? "ID").getD t.name

/-- The tables with their identifiers, where `taken` are the names of the tables before. -/
def readTables (taken : List String) : List Xml.Element → Except ReadError (List (String × Table))
  | [] => .ok []
  | e :: rest => do
    let t ← readTable e
    if t.name ∈ taken then .error (.duplicateTable t.name)
    else
      let others ← readTables (t.name :: taken) rest
      pure ((identifierOf e t, t) :: others)

/-- Names of tables by their identifiers, in the order of the tables. -/
abbrev Identifiers := List (String × String)

/-- The name of the table that a reference stands for. -/
def Identifiers.nameOf? (ids : Identifiers) (reference : String) : Option String :=
  (ids.reverse.find? (·.1 = reference)).map Prod.snd

/-- A relation: the table that refers, the table referred to, and the column pairs that join them.
-/
structure Relation where
  name : String
  table : String
  referenced : String
  pairs : List ColumnPair
deriving DecidableEq, Repr

/-- A relation between tables with the given identifiers. -/
def readRelation (ids : Identifiers) (e : Xml.Element) : Except ReadError Relation :=
  let name := (e.attribute? "RelationName").getD ((e.attribute? "ID").getD "?")
  match ids.nameOf? ((e.attribute? "SrcTable").getD ""),
      ids.nameOf? ((e.attribute? "DestTable").getD "") with
  | some referenced, some table =>
    match ForeignKeyText.read ((e.attribute? "FKFields").getD "") with
    | .ok pairs => .ok { name, table, referenced, pairs }
    | .error m => .error (.foreignKey m)
  | _, _ => .error (.unknownTable name)

/-- Enters the column pairs of a relation into the table that refers. -/
def enterRelation (tables : List Table) (r : Relation) : List Table :=
  tables.map fun t =>
    if t.name = r.table then r.pairs.foldl (·.addForeignKey r.referenced ·) t else t

/-- The relations, each reported when it was read. -/
def readRelations (ids : Identifiers) : List Xml.Element → Traced ReadError (List Relation)
  | [] => pure []
  | e :: rest => do
    let r ← Traced.ofExcept (readRelation ids e)
    Traced.note .debug .reader s!"Relation {r.name}: {r.table} -> {r.referenced}"
    let others ← readRelations ids rest
    pure (r :: others)

/-- The tables of a model, given as an element. -/
def ofElement (root : Xml.Element) : Traced ReadError (List Table) := do
  if root.tag ≠ "DBMODEL" then Traced.fail (.otherRoot root.tag)
  let tables ← Traced.ofExcept (readTables [] (root.select ["METADATA", "TABLES", "TABLE"]))
  let ids : Identifiers := tables.map fun (id, t) => (id, t.name)
  let relations ← readRelations ids (root.select ["METADATA", "RELATIONS", "RELATION"])
  Traced.note .info .reader s!"Read {tables.length} tables"
  pure (relations.foldl enterRelation (tables.map Prod.snd))

/-- The tables of a model in octets. -/
def readOctets (octets : List UInt8) : Traced ReadError (List Table) := do
  ofElement (← Traced.ofExcept ((Xml.Document.readOctets octets).mapError .document))

/-- The tables of a model in a text. -/
def readText (text : String) : Traced ReadError (List Table) := do
  ofElement (← Traced.ofExcept ((Xml.Document.readText text).mapError .document))

end SchemaGen.Model

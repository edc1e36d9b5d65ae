import SchemaGen.Entries

/-!
# Tables of a model

A table has a name, columns in order, the columns of its primary key, and for every table it refers
to the pairs of columns that join the two.
-/

namespace SchemaGen.Model

/-- A column of the table referred to and the column of the table that refers to it. -/
structure ColumnPair where
  foreignColumn : String
  localColumn : String
deriving DecidableEq, Repr, Inhabited

/-- Column pairs by the name of another table. -/
abbrev PairsByTable := Entries String (List ColumnPair)

/-- A table of the model. -/
structure Table where
  name : String
  columns : List String := []
  primaryKey : List String := []
  /-- The pairs by the name of the table referred to. -/
  foreignKeys : PairsByTable := []
deriving DecidableEq, Repr, Inhabited

namespace Table

/-- Adds a column, to the primary key as well if asked. -/
def addColumn (t : Table) (name : String) (inPrimaryKey : Bool) : Table :=
  { t with
    columns := t.columns ++ [name]
    primaryKey := if inPrimaryKey then t.primaryKey ++ [name] else t.primaryKey }

/-- Adds a column pair that refers to the table `referenced`. -/
def addForeignKey (t : Table) (referenced : String) (pair : ColumnPair) : Table :=
  { t with foreignKeys := t.foreignKeys.alter referenced fun pairs => pairs.getD [] ++ [pair] }

/-- The column pairs of all foreign keys. -/
def pairCount (t : Table) : Nat :=
  t.foreignKeys.foldl (fun count key => count + key.2.length) 0

end Table

/-- The names of some tables in order. -/
def tableNames (tables : List Table) : List String := tables.map Table.name

end SchemaGen.Model

import SchemaGen.Model.Table

/-!
# Warnings about tables

What makes a table doubtful without making it unusable: no columns, no primary key, a reference to a
table that is not in the model, a joining column that the table does not have.
-/

namespace SchemaGen.Model

/-- A doubt about a table. -/
inductive Warning where
  | noColumns (table : String)
  | noPrimaryKey (table : String)
  | unknownTable (table referenced : String)
  | unknownColumn (table column : String)
deriving DecidableEq, Repr

namespace Warning

def message : Warning → String
  | noColumns table => s!"Table '{table}' has no columns"
  | noPrimaryKey table => s!"Table '{table}' has no primary key"
  | unknownTable table referenced => s!"Table '{table}' references unknown table '{referenced}'"
  | unknownColumn table column =>
    s!"Foreign key column {table}.{column} is not a column of the table"

/-- The doubts about one foreign key of a table, where `known` are the names of all tables. -/
def ofForeignKey (known : List String) (t : Table) (key : String × List ColumnPair) :
    List Warning :=
  (if key.1 ∈ known then [] else [unknownTable t.name key.1]) ++
    key.2.filterMap fun pair =>
      if pair.localColumn ∈ t.columns then none else some (unknownColumn t.name pair.localColumn)

/-- The doubts about one table. -/
def ofTable (known : List String) (t : Table) : List Warning :=
  (if t.columns = [] then [noColumns t.name] else []) ++
    (if t.primaryKey = [] then [noPrimaryKey t.name] else []) ++
    t.foreignKeys.flatMap (ofForeignKey known t)

/-- The doubts about all tables, in their order. -/
def ofTables (tables : List Table) : List Warning :=
  tables.flatMap (ofTable (tableNames tables))

end Warning

end SchemaGen.Model

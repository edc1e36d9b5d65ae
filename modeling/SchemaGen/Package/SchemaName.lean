/-!
# The name of the schema class

The class that loads all table classes stands beside them, so it takes the first of a list of names
that no table has.
-/

namespace SchemaGen.Package

/-- The names that a schema class may have, the preferred one first. -/
def schemaNameCandidates : List String :=
  ["DBIC_Scheme", "Database", "DBIC", "MyScheme", "MyDatabase", "DBIxClass_Scheme"]

/-- Every candidate is the name of a table. -/
structure NoSchemaName where
  candidates : List String
deriving DecidableEq, Repr

def NoSchemaName.message (e : NoSchemaName) : String :=
  let names := String.intercalate ", " e.candidates
  s!"no available schema name: every candidate ({names}) is already used by a table"

/-- The first candidate that is not among the names of the tables. -/
def chooseSchemaName (candidates taken : List String) : Except NoSchemaName String :=
  match candidates.find? (· ∉ taken) with
  | some name => .ok name
  | none => .error ⟨candidates⟩

end SchemaGen.Package

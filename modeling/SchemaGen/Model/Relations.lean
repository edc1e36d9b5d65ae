import SchemaGen.Model.Table

/-!
# Relations between tables

From the foreign keys of all tables the relations of each are derived, in both directions: a pair
that table `T` declares on table `R` is an incoming pair of `T` under `R` and an outgoing pair of
`R` under `T`. The relations stand in the order of the tables; a name that only occurs as a
reference gets its relations when it is first referred to.
-/

namespace SchemaGen.Model

/-- The relations of one table by the other table's name. -/
structure RelationSet where
  /-- Pairs of tables that refer to this one. -/
  outgoing : PairsByTable := []
  /-- Pairs of tables that this one refers to. -/
  incoming : PairsByTable := []
deriving DecidableEq, Repr, Inhabited

namespace RelationSet

def isEmpty (r : RelationSet) : Bool := r.outgoing.isEmpty && r.incoming.isEmpty

/-- Adds pairs that `other` declares on this table. -/
def addOutgoing (r : RelationSet) (other : String) (pairs : List ColumnPair) : RelationSet :=
  { r with outgoing := r.outgoing.alter other fun known => known.getD [] ++ pairs }

/-- Adds pairs that this table declares on `other`. -/
def addIncoming (r : RelationSet) (other : String) (pairs : List ColumnPair) : RelationSet :=
  { r with incoming := r.incoming.alter other fun known => known.getD [] ++ pairs }

end RelationSet

/-- The relations of all tables by name. -/
abbrev Relations := Entries String RelationSet

namespace Relations

/-- Applies `f` to the relations of a table, to empty ones if it has none yet. -/
def change (rs : Relations) (name : String) (f : RelationSet → RelationSet) : Relations :=
  rs.alter name fun known => f (known.getD {})

/-- Enters the pairs that `table` declares on `referenced`, at both ends. -/
def declare (rs : Relations) (table : String) (referenced : String × List ColumnPair) : Relations :=
  (rs.change referenced.1 (·.addOutgoing table referenced.2)).change table
    (·.addIncoming referenced.1 referenced.2)

/-- Enters all foreign keys of a table. -/
def declareAll (rs : Relations) (t : Table) : Relations :=
  t.foreignKeys.foldl (fun acc key => acc.declare t.name key) rs

/-- The relations that the foreign keys of some tables make. -/
def derive (tables : List Table) : Relations :=
  tables.foldl declareAll (Entries.ofList (tables.map fun t => (t.name, {})))

/-- The relations of a table, empty if it has none. -/
def of (rs : Relations) (name : String) : RelationSet := (rs.get? name).getD {}

end Relations

end SchemaGen.Model

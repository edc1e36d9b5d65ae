import SchemaGen.Model.Relations
import SchemaGen.Perl.Quote

/-!
# Declarations of relationships

A class declares a relationship for every column pair that joins its table with another one:
`has_many` where the other table refers to it, `belongs_to` where it refers to the other table. The
declaration is named for the local column and joins the columns of the pair.
-/

namespace SchemaGen.Perl

open Model (ColumnPair PairsByTable)

/-- The two kinds of relationship. -/
inductive RelationshipKind where
  | hasMany
  | belongsTo
deriving DecidableEq, Repr

/-- The method that declares a relationship. -/
def RelationshipKind.method : RelationshipKind → String
  | hasMany => "has_many"
  | belongsTo => "belongs_to"

/-- The declaration of a relationship. -/
structure Declaration where
  kind : RelationshipKind
  name : String
  /-- The class of the other table. -/
  package : String
  foreignColumn : String
  localColumn : String
deriving DecidableEq, Repr

namespace Declaration

/-- The declaration that a column pair makes. -/
def ofPair (kind : RelationshipKind) (package : String) (pair : ColumnPair) : Declaration :=
  ⟨kind, pair.localColumn, package, pair.foreignColumn, pair.localColumn⟩

/-- The declarations of all pairs, where `packageOf` gives the class of a table. -/
def ofPairs (kind : RelationshipKind) (packageOf : String → String) (pairs : PairsByTable) :
    List Declaration :=
  pairs.flatMap fun (table, ps) => ps.map (ofPair kind (packageOf table))

/-- The text of a declaration, without the line feed at its end. -/
def render (d : Declaration) : String :=
  s!"__PACKAGE__->{d.kind.method}({d.name} => {quote d.package},\n" ++
    "             \x7b 'foreign." ++ d.foreignColumn ++ "' => 'self." ++ d.localColumn ++ "' \x7d);"

end Declaration

end SchemaGen.Perl

/-!
# Layouts of classes

How the schema class finds the table classes: it lists them (`classes`), or it loads all that stand
in a namespace of their own (`namespaces`). The layout fixes the base of a table class, the
components it loads, and the segment between the schema's name and the table's.
-/

namespace SchemaGen.Perl

/-- How the schema class finds the table classes. -/
inductive Layout where
  | classes
  | namespaces
deriving DecidableEq, Repr, Inhabited

namespace Layout

def name : Layout → String
  | classes => "classes"
  | namespaces => "namespaces"

def all : List Layout := [classes, namespaces]

/-- The layout of a name. -/
def ofName? (name : String) : Option Layout := all.find? (·.name = name)

/-- The class that a table class is derived from. -/
def baseClass : Layout → String
  | classes => "DBIx::Class"
  | namespaces => "DBIx::Class::Core"

/-- The components that a table class loads. -/
def components : Layout → List String
  | classes => ["PK::Auto", "Core"]
  | namespaces => []

/-- The segment of a package between the schema's name and the table's. -/
def tableSegment : Layout → Option String
  | classes => none
  | namespaces => some "Result"

end Layout

end SchemaGen.Perl

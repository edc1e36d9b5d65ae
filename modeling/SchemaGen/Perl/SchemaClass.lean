/-!
# The schema class

The schema class loads the table classes, by name or all that stand in their namespace.
-/

namespace SchemaGen.Perl

/-- The schema class. -/
structure SchemaClass where
  package : String
  /-- The classes to load by name; none if they are found by their namespace. -/
  classes : Option (List String)
  /-- What stands in front of a name in a list. -/
  indent : String
  /-- Whether a comment on the origin follows the first line. -/
  isCommented : Bool
deriving DecidableEq, Repr

namespace SchemaClass

/-- The lines that load the table classes. -/
def loadLines (c : SchemaClass) : List String :=
  match c.classes with
  | none => ["__PACKAGE__->load_namespaces;"]
  | some names => ["__PACKAGE__->load_classes(qw/"] ++ names.map (c.indent ++ ·) ++ ["/);"]

def lines (c : SchemaClass) : List String :=
  [s!"package {c.package};"] ++
    (if c.isCommented then ["# Generated schema class. Regenerate instead of editing."] else []) ++
    ["", "use strict;", "use warnings;", "use base qw/DBIx::Class::Schema/;", ""] ++
    c.loadLines ++ ["", "1;"]

/-- The source of the class. -/
def render (c : SchemaClass) : String :=
  String.join (c.lines.map (· ++ "\n"))

end SchemaClass

end SchemaGen.Perl

import SchemaGen.Perl.Declaration
import SchemaGen.Perl.Layout

/-!
# Classes of tables

The class of a table names the table, its columns and its primary key, and declares its
relationships, the `has_many` ones first.
-/

namespace SchemaGen.Perl

/-- The class of a table. -/
structure ResultClass where
  package : String
  tableName : String
  layout : Layout
  columns : List String
  primaryKey : List String
  hasMany : List Declaration
  belongsTo : List Declaration
  /-- What stands in front of a name in a list. -/
  indent : String
  /-- Whether a comment on the origin follows the first line. -/
  isCommented : Bool
deriving DecidableEq, Repr

namespace ResultClass

/-- All relationships in the order in which they are declared. -/
def declarations (c : ResultClass) : List Declaration := c.hasMany ++ c.belongsTo

/-- The lines from the first one to that of the primary key. -/
def headLines (c : ResultClass) : List String :=
  [s!"package {c.package};"] ++
    (if c.isCommented then
      [s!"# Generated from table '{c.tableName}'. Regenerate instead of editing."]
    else []) ++
    ["", "use strict;", "use warnings;", s!"use base qw/{c.layout.baseClass}/;", ""] ++
    (if c.layout.components = [] then []
    else
      ["__PACKAGE__->load_components( qw/" ++ String.intercalate " " c.layout.components ++
        "/ );"]) ++
    [s!"__PACKAGE__->table( {quote c.tableName} );", "__PACKAGE__->add_columns( qw/"] ++
    c.columns.map (c.indent ++ ·) ++
    ["/);", "__PACKAGE__->set_primary_key( qw/ " ++ String.intercalate " " c.primaryKey ++ " / );"]

/-- The texts that follow the head, each to be ended by a line feed. -/
def bodyLines (c : ResultClass) : List String :=
  c.declarations.flatMap (fun d => ["", d.render]) ++ ["", "1;"]

/-- The source of the class. -/
def render (c : ResultClass) : String :=
  String.join ((c.headLines ++ c.bodyLines).map (· ++ "\n"))

end ResultClass

end SchemaGen.Perl

import SchemaGen.Package.SchemaName
import SchemaGen.Value.Display

/-!
# What can go wrong in a generation

Settings that were checked rule out all but a missing name of the schema class and a table without a
name. A generator can also be given settings as they are; then a value of the wrong kind shows where
it is used.
-/

namespace SchemaGen

/-- Why no code was generated. -/
inductive GenerationError where
  | noSchemaName (e : Package.NoSchemaName)
  | unnamedTable
  /-- The layout is a single value, but not the name of a layout. -/
  | unknownLayout (v : Value)
  /-- The layout is a list or an object. -/
  | compoundLayout (v : Value)
  | namespaceNotText (v : Value)
  | indentNotWhole (v : Value)
  | indentTooLarge
  | outOfMemory
  /-- The generator asks for a template that it does not have. -/
  | missingTemplate (name : String)
deriving DecidableEq, Repr

namespace GenerationError

def message : GenerationError → String
  | noSchemaName e => e.message
  | unnamedTable => "Cannot generate a class for a table without name"
  | unknownLayout v => v.quoted
  | compoundLayout v => s!"unhashable type: '{v.kindName}'"
  | namespaceNotText v => s!"sequence item 0: expected str instance, {v.kindName} found"
  | indentNotWhole v => s!"can't multiply sequence by non-int of type '{v.kindName}'"
  | indentTooLarge => "cannot fit 'int' into an index-sized integer"
  | outOfMemory => ""
  | missingTemplate name => s!"Failed to render template {name}: {name}"

end GenerationError

end SchemaGen

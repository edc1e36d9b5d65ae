import SchemaGen.Perl.Generator
import SchemaGen.Target.Registry

/-!
# The targets of this library

There is one family of generators, that of the Perl classes; its target is `dbic`.
-/

namespace SchemaGen

/-- The families of this library. -/
inductive Family where
  | perlClasses
deriving DecidableEq, Repr

instance [Perl.Memory] : GeneratorFamily Family where
  name _ := "DBICGenerator"
  module _ := Log.Source.classWriter.name
  isGenerator _ := true
  missing _ := []
  make _ := Perl.generator

/-- The registry of this library. -/
def Registry.shipped : Registry Family where
  families := [("dbic", .perlClasses)]
  aliases := [("dbix-class", "dbic"), ("perl", "dbic")]

-- registering the family gives the same
example [Perl.Memory] :
    Registry.register {} "dbic" Family.perlClasses ["dbix-class", "perl"] = .ok .shipped := rfl

end SchemaGen

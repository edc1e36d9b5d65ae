import SchemaGen.Entries
import SchemaGen.Generation.Generator
import SchemaGen.Text.LetterCase

/-!
# Targets

A registry tells which family of generators stands behind the name of a target or behind an alias of
it. Letter case does not count in either. A name is looked up among the aliases first, and an alias
never changes its owner.
-/

namespace SchemaGen

/-- Families of generators. -/
class GeneratorFamily (κ : Type) where
  /-- The name of the family. -/
  name : κ → String
  /-- The module that defines it. -/
  module : κ → String
  /-- Whether it is a family of generators at all. -/
  isGenerator : κ → Bool
  /-- What is left open, in order; a family that leaves something open has no members. -/
  missing : κ → List String
  /-- The member with the given settings. -/
  make : κ → Settings → Generator

/-- Targets with their families, and aliases with the targets that own them. All names are in lower
case. -/
structure Registry (κ : Type) where
  families : Entries String κ := []
  aliases : Entries String String := []
deriving DecidableEq, Repr

/-- Why a registry refuses. -/
inductive RegistryError where
  | notGenerator
  | aliasTaken (name owner : String)
  | unknownTarget (target : String) (known : List String)
  | notSettings (v : Value)
deriving DecidableEq, Repr

def RegistryError.message : RegistryError → String
  | notGenerator => "Generator class must inherit from CodeGenerator"
  | aliasTaken name owner => s!"Alias '{name}' already points to '{owner}'"
  | unknownTarget target known =>
    s!"No generator registered for target: {target}. Available: " ++ String.intercalate ", " known
  | notSettings v => s!"Invalid config type: <class '{v.kindName}'>"

/-- A family that leaves something open has no members. -/
structure IncompleteFamily where
  name : String
  missing : List String
deriving DecidableEq, Repr

def IncompleteFamily.message (e : IncompleteFamily) : String :=
  s!"Can't instantiate abstract class {e.name} with abstract methods " ++
    String.intercalate ", " e.missing

/-- What is told of a target. -/
structure TargetInfo where
  name : String
  family : String
  fileExtension : Value
  aliases : List String
  module : String
deriving DecidableEq, Repr

namespace Registry

variable {κ : Type} [GeneratorFamily κ]

/-- Names in the order of their characters. -/
def sorted (names : List String) : List String :=
  names.mergeSort fun a b => decide (a ≤ b)

/-- The first of some aliases that another target than `target` owns, with that target. -/
def takenAlias? (r : Registry κ) (target : String) (aliases : List String) :
    Option (String × String) :=
  aliases.findSome? fun a =>
    match r.aliases.get? (Text.lower a) with
    | some owner => if owner = target then none else some (a, owner)
    | none => none

/-- Registers a family for a target. -/
def register (r : Registry κ) (target : String) (family : κ) (aliases : List String) :
    Except RegistryError (Registry κ) :=
  let target := Text.lower target
  if GeneratorFamily.isGenerator family = false then .error .notGenerator
  else
    match r.takenAlias? target aliases with
    | some (a, owner) => .error (.aliasTaken a owner)
    | none => .ok {
        families := r.families.set target family
        aliases := aliases.foldl (fun acc a => Entries.set acc (Text.lower a) target) r.aliases }

/-- The targets in order. -/
def targets (r : Registry κ) : List String := sorted r.families.keys

/-- The family of a target or of the owner of an alias. -/
def find (r : Registry κ) (name : String) : Except RegistryError κ :=
  let key := Text.lower name
  match r.families.get? ((r.aliases.get? key).getD key) with
  | some family => .ok family
  | none => .error (.unknownTarget name r.targets)

/-- The aliases of all targets with the given family, in order. -/
def aliasesOf [DecidableEq κ] (r : Registry κ) (family : κ) : List String :=
  sorted ((r.aliases.filter fun a => r.families.get? a.2 = some family).map Prod.fst)

/-- What is told of the target with a family, the settings being those by default. -/
def infoOf [DecidableEq κ] (r : Registry κ) (family : κ) : TargetInfo :=
  let g := GeneratorFamily.make family {}
  { name := g.language
    family := GeneratorFamily.name family
    fileExtension := g.settings.fileExtension
    aliases := r.aliasesOf family
    module := GeneratorFamily.module family }

/-- The member of a family with some settings. -/
def makeGenerator (family : κ) (s : Settings) : Except IncompleteFamily Generator :=
  match GeneratorFamily.missing family with
  | [] => .ok (GeneratorFamily.make family s)
  | missing => .error ⟨GeneratorFamily.name family, missing⟩

end Registry

end SchemaGen

import SchemaGen.Target.Registry

/-!
# Registering in place

A registry in use is changed by one registration after the other. A registration goes through its
steps on the registry as it stands: the family is checked and then each alias, in order, and only
after that the target gets its family and the aliases are pointed to it (`Registration.perform`). A
step that fails ends the registration and takes nothing back of what came before it.

`Registry.registerAll` is what some registrations leave, those that fail among them.
-/

namespace SchemaGen

/-- A family for a target, with the aliases that shall lead there. -/
structure Registration (κ : Type) where
  target : String
  family : κ
  aliases : List String := []
deriving DecidableEq, Repr

/-- A computation that changes a registry. When it fails, its changes so far stay. -/
abbrev Registering (κ : Type) := ExceptT RegistryError (StateM (Registry κ))

namespace Registration

variable {κ : Type}

/-- The target as it is entered. -/
def key (c : Registration κ) : String := Text.lower c.target

/-- Refuses an alias that points to another target than `target`. -/
def checkAlias (target name : String) : Registering κ Unit := do
  match (← get).aliases.get? (Text.lower name) with
  | some owner => if owner = target then pure () else throw (.aliasTaken name owner)
  | none => pure ()

/-- Points an alias to a target. -/
def pointAlias (target name : String) : Registering κ Unit :=
  modify fun r => { r with aliases := r.aliases.set (Text.lower name) target }

variable [GeneratorFamily κ]

/-- Registers step by step. -/
def perform (c : Registration κ) : Registering κ Unit := do
  if GeneratorFamily.isGenerator c.family = false then throw .notGenerator
  c.aliases.forM (checkAlias c.key)
  modify fun r => { r with families := r.families.set c.key c.family }
  c.aliases.forM (pointAlias c.key)

/-- How a registration ends, and the registry that it leaves. -/
def run (c : Registration κ) (r : Registry κ) : Except RegistryError Unit × Registry κ :=
  c.perform r

end Registration

namespace Registry

variable {κ : Type} [GeneratorFamily κ]

/-- Registers one after the other, whether the ones before succeed or fail. -/
def registerAll (r : Registry κ) (cs : List (Registration κ)) : Registry κ :=
  cs.foldl (fun acc c => (c.run acc).2) r

/-- The registry that some registrations make of an empty one. -/
def ofRegistrations (cs : List (Registration κ)) : Registry κ := registerAll {} cs

end Registry

end SchemaGen

import SchemaGen.Settings.Loading
import SchemaGen.Target.Shipped

/-!
# Making generators

The generator of a target, with settings in any form. Settings that are given as they are are not
checked.
-/

namespace SchemaGen.Registry

variable {m : Type → Type} [Monad m] [Host m] {κ : Type} [GeneratorFamily κ]

/-- The settings of a generator. -/
def settingsOf : Settings.Source → Run m Settings
  | .settings s => pure s
  | .value .null => Settings.ofSource (.value .null)
  | .value (.text path) => Settings.ofSource (.value (.text path))
  | .value (.object fields) => Settings.ofSource (.value (.object fields))
  | .value v => throw (.registry (.notSettings v))

/-- The generator of a target. -/
def create (r : Registry κ) (target : String) (source : Settings.Source) : Run m Generator := do
  let family ← Run.ofExcept .registry (r.find target)
  let s ← settingsOf source
  Run.ofExcept .incompleteFamily (makeGenerator family s)

/-- What is told of a target. -/
def info [DecidableEq κ] (r : Registry κ) (target : String) : Run m TargetInfo := do
  let family ← Run.ofExcept .registry (r.find target)
  let _ ← Run.ofExcept .incompleteFamily (makeGenerator family {})
  pure (r.infoOf family)

end SchemaGen.Registry

import SchemaGen.Host.Run

/-!
# Loading settings

Settings are loaded from a configuration file and overrides, or from any form in which they may be
given. What is loaded was checked.
-/

namespace SchemaGen.Settings

variable {m : Type → Type} [Monad m] [Host m]

/-- What a content error of the configuration file at a path means for a run. -/
def contentFailure (p : Path) : SettingsFile.ContentError → Failure
  | .octets e => .octets e
  | .json e => if e.cause.isLimit then .jsonLimit e else .settingsFile (.malformed p e)
  | .notObject => .settingsFile (.notObject p)

/-- The fields of the configuration file at a path. -/
def loadFields (p : Path) : Run m (Entries String Value) := do
  if (← Run.status p) = .absent then throw (.settingsFile (.notFound p))
  if Text.lower p.suffix ≠ ".json" then throw (.settingsFile (.notJson p))
  match ← ExceptT.lift (Host.readFile p) with
  | .error cause => throw (.settingsFile (.unreadable p ⟨cause, p⟩))
  | .ok content => Run.ofExcept (contentFailure p) (SettingsFile.fields content)

/-- The settings that a configuration file and overrides give; no file for a missing or empty
path. -/
def load (file : Option String) (overrides : Value) : Run m Settings := do
  let fields ←
    match file with
    | none => pure []
    | some "" => pure []
    | some path => loadFields (Path.ofString path)
  let overrides ← Run.ofExcept .notOverrides (overridesOf overrides)
  Run.ofExcept .setting (resolve fields overrides)

/-- The settings that any form of them gives. -/
def ofSource : Source → Run m Settings
  | .settings s => Run.ofExcept .setting s.check
  | .value (.text path) => load (some path) .null
  | .value v => load none v

end SchemaGen.Settings

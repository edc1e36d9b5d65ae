import SchemaGen.Failure
import SchemaGen.Host.Basic

/-!
# Runs

A run uses a host and ends in a result or a failure.
-/

namespace SchemaGen

/-- A run on a host, which may fail. -/
abbrev Run (m : Type → Type) := ExceptT Failure m

namespace Run

variable {m : Type → Type} [Monad m] {α : Type}

/-- A result or a failure that is there already. -/
def ofExcept {ε : Type} (toFailure : ε → Failure) (x : Except ε α) : Run m α :=
  ExceptT.mk (pure (x.mapError toFailure))

variable [Host m]

/-- Reports a record. -/
def note (level : Log.Level) (source : Log.Source) (message : String) : Run m Unit :=
  ExceptT.lift (Host.note level source message)

/-- Runs a computation with its reports. -/
def traced {ε : Type} (toFailure : ε → Failure) (t : Traced ε α) : Run m α := do
  let outcome ← ExceptT.lift (Host.run t)
  ofExcept toFailure outcome

/-- What is at a path. A path with a null character leads nowhere. -/
def status (p : Path) : Run m Files.Status :=
  if p.hasNull then pure .absent
  else do
    match ← ExceptT.lift (Host.status p) with
    | .ok s => pure s
    | .error cause => throw (.status ⟨cause, p⟩)

end Run

end SchemaGen

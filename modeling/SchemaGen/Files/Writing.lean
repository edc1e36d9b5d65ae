import SchemaGen.Host.Run

/-!
# Writing modules

Each module goes to the file that its name leads to; directories on the way are made. The first file
that cannot be written ends the run.
-/

namespace SchemaGen

variable {m : Type → Type} [Monad m] [Host m]

namespace Files

/-- What a cause means where a directory may exist already: it does not count if there is one. -/
def settleDirectory (p : Path) (cause : Cause) : m (Except Error Unit) := do
  match ← Host.status p with
  | .ok .directory => pure (.ok ())
  | .ok _ => pure (.error ⟨cause, p⟩)
  | .error other => pure (.error ⟨other, p⟩)

/-- Makes the directory at a path, and those on the way to it. -/
def makeDirectories (p : Path) : m (Except Error Unit) := do
  match ← Host.makeDirectory p with
  | .ok () => pure (.ok ())
  | .error .notFound =>
    if h : p.components = [] then pure (.error ⟨.notFound, p⟩)
    else
      have : p.parent.components.length < p.components.length := by
        have := List.length_pos_iff.2 h
        simp only [Path.parent, List.length_dropLast]
        omega
      match ← makeDirectories p.parent with
      | .error e => pure (.error e)
      | .ok () =>
        match ← Host.makeDirectory p with
        | .ok () => pure (.ok ())
        | .error .notFound => pure (.error ⟨.notFound, p⟩)
        | .error cause => settleDirectory p cause
  | .error cause => settleDirectory p cause
termination_by p.components.length

end Files

namespace Destination

/-- Ends a run that cannot write a file, with a record on the reason. -/
def failWriting {α : Type} (p : Path) (e : Files.Error) : Run m α := do
  Run.note .error .fileWriter s!"Couldn't create {p.toString}: {e.message}"
  throw (.unwritable p e)

/-- Writes a text to the file at a path, and makes the directories on the way. -/
def writeText (p : Path) (text : String) : Run m Unit := do
  if p.parent.hasNull then throw .nullInPath
  match ← ExceptT.lift (Files.makeDirectories p.parent) with
  | .error e => failWriting p e
  | .ok () =>
    if p.hasNull then throw .nullInPath
    match ← ExceptT.lift (Host.writeFile p (Text.Utf8.encode text)) with
    | .error cause => failWriting p ⟨cause, p⟩
    | .ok () => Run.note .debug .fileWriter s!"Wrote {p.toString}"

/-- Writes a module, and gives the path of its file. -/
def writeModule (d : Destination) (module source : String) : Run m Path := do
  let p ← Run.ofExcept .moduleName (d.pathOf module)
  writeText p source
  pure p

/-- Writes modules one after the other, and gives the paths of their files. -/
def writeEach (d : Destination) : List (String × String) → Run m (List Path)
  | [] => pure []
  | (module, source) :: rest => do
    let p ← d.writeModule module source
    let paths ← writeEach d rest
    pure (p :: paths)

/-- Writes all modules. -/
def writeModules (d : Destination) (files : Entries String String) : Run m (List Path) := do
  let paths ← d.writeEach files
  Run.note .info .fileWriter s!"Wrote {paths.length} files"
  pure paths

end Destination

end SchemaGen

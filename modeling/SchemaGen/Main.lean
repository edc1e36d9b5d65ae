import SchemaGen.CommandLine.Command
import SchemaGen.CommandLine.Usage

/-!
# The program

The command on the files of the machine it runs on. There is no way to the web from here, so every
request ends without a connection.
-/

namespace SchemaGen.Terminal

/-- Programs that know how grave a record must be to be taken. -/
abbrev Program := ReaderT (IO.Ref Nat) IO

/-- The number of an error, which the machine may give with the opposite sign. -/
def numberOf (n : UInt32) : Nat := if n < 0x80000000 then n.toNat else (0 - n).toNat

/-- The number and the text of an error. -/
def numbered : IO.Error → Nat × String
  | .alreadyExists _ n s | .interrupted _ n s | .noFileOrDirectory _ n s | .invalidArgument _ n s
  | .permissionDenied _ n s | .resourceExhausted _ n s | .inappropriateType _ n s
  | .noSuchThing _ n s | .otherError n s | .resourceBusy n s | .resourceVanished n s
  | .unsupportedOperation n s | .hardwareFault n s | .unsatisfiedConstraints n s
  | .illegalOperation n s | .protocolError n s | .timeExpired n s => (numberOf n, s)
  | .unexpectedEof => (5, "Input/output error")
  | .userError s => (5, s)

/-- The cause of an error of the file system. -/
def causeOf (e : IO.Error) : Files.Cause :=
  let (n, s) := numbered e
  match [Files.Cause.notFound, .alreadyExists, .notDirectory, .isDirectory, .nameTooLong].find?
      (·.number = n) with
  | some cause => cause
  | none => .other n s

/-- The outcome of an action on files. -/
def attempt {α : Type} (action : IO α) : Program (Except Files.Cause α) := do
  match ← action.toBaseIO with
  | .ok a => pure (.ok a)
  | .error e => pure (.error (causeOf e))

/-- What is at a path. -/
def statusOf (p : Path) : Program (Except Files.Cause Files.Status) := do
  let entry : IO.FS.DirEntry := { root := ".", fileName := p.toString }
  match ← attempt entry.path.metadata with
  | .ok data => pure (.ok (if data.type == .dir then .directory else .file))
  | .error .notFound | .error .notDirectory => pure (.ok .absent)
  | .error cause => pure (.error cause)

/-- The lines of an item. -/
def linesOf : Console.Item → List String
  | .blank => [""]
  | .line s => [s]
  | .panel title _ (.text s) => [title, s]
  | .panel title _ (.code source) => [title, source]
  | .table title columns rows => title :: (columns :: rows).map (String.intercalate "  ")

instance : Host Program where
  status := statusOf
  readFile p := attempt do pure (← IO.FS.readBinFile p.toString).toList
  writeFile p content := attempt (IO.FS.writeBinFile p.toString ⟨content.toArray⟩)
  makeDirectory p := attempt (IO.FS.createDir p.toString)
  fetch _ := pure (.noConnection "no way to the web")
  report e := do
    if (← (← read).get) ≤ e.level.rank then IO.eprintln s!"{e.level.name} {e.message}"
  setThreshold n := do (← read).set n
  display i := do
    (linesOf i).forM fun line => IO.println line
    pure (.ok ())

end SchemaGen.Terminal

open SchemaGen in
/-- Runs the command. -/
def main (line : List String) : IO UInt32 := do
  let threshold ← IO.mkRef Log.Level.warning.rank
  let run : Terminal.Program (Except Failure CommandLine.Ending) := (CommandLine.run line).run
  match ← run.run threshold with
  | .ok (.exit code) => pure code.toUInt32
  | .ok .help =>
    IO.print CommandLine.help
    pure 0
  | .ok (.usage e) =>
    IO.eprint CommandLine.usage
    IO.eprintln s!"dbdesigner-dbic: error: {e.message}"
    pure 2
  | .error f =>
    IO.eprintln f.message
    pure 1

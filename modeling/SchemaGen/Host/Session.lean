import SchemaGen.Files.Tree
import SchemaGen.Host.Run

/-!
# Sessions

A host whose surroundings are a value: a file tree, a web that answers every request, a console that
may refuse an item, and what was asked, reported and shown so far. Only writing a file and making a
directory change the tree.
-/

namespace SchemaGen

/-- The surroundings of one or more runs. -/
structure Session where
  files : Files.Tree := {}
  web : Web.Request → Web.Answer := fun _ => .noConnection ""
  /-- What the console makes of an item. -/
  draw : Console.Item → Except Console.Refusal Unit := fun _ => .ok ()
  requests : List Web.Request := []
  /-- How grave a record must be to be taken. -/
  threshold : Nat := Log.Level.rank .debug
  log : List Log.Entry := []
  /-- The items that were shown. -/
  console : List Console.Item := []

namespace Session

/-- Puts another file tree in the place of the one at hand, if there is one. -/
def putFiles (s : Session) : Except Files.Cause Files.Tree → Except Files.Cause Unit × Session
  | .ok files => (.ok (), { s with files })
  | .error e => (.error e, s)

/-- Shows an item, unless it is refused. -/
def display (s : Session) (i : Console.Item) : Except Console.Refusal Unit × Session :=
  match s.draw i with
  | .ok () => (.ok (), { s with console := s.console ++ [i] })
  | .error e => (.error e, s)

/-- Takes a record, if it is grave enough. -/
def report (s : Session) (e : Log.Entry) : Session :=
  if s.threshold ≤ e.level.rank then { s with log := s.log ++ [e] } else s

def statusOf : Option Files.Node → Files.Status
  | none => .absent
  | some (.file _) => .file
  | some .directory => .directory

instance : Host (StateM Session) where
  status p s := ((s.files.status p).map statusOf, s)
  readFile p s := (s.files.read p, s)
  writeFile p content s := s.putFiles (s.files.write p content)
  makeDirectory p s := s.putFiles (s.files.makeDirectory p)
  fetch r s := (s.web r, { s with requests := s.requests ++ [r] })
  report e s := ((), s.report e)
  setThreshold n s := ((), { s with threshold := n })
  display i s := s.display i

/-- Makes a run from a session on: its result or failure, and the session after it. -/
def perform {α : Type} (s : Session) (x : Run (StateM Session) α) : Except Failure α × Session :=
  StateT.run (ExceptT.run x) s

variable {α β : Type}

@[simp] theorem perform_pure (s : Session) (a : α) :
    s.perform (pure a : Run (StateM Session) α) = (.ok a, s) := rfl

@[simp] theorem perform_throw (s : Session) (e : Failure) :
    s.perform (throw e : Run (StateM Session) α) = (.error e, s) := rfl

/-- A run goes on from the session that its first part leaves, unless that part fails. -/
theorem perform_bind (s : Session) (x : Run (StateM Session) α)
    (f : α → Run (StateM Session) β) :
    s.perform (x >>= f) =
      match s.perform x with
      | (.ok a, s') => s'.perform (f a)
      | (.error e, s') => (.error e, s') := by
  show StateT.run (ExceptT.run (x >>= f)) s = _
  rw [ExceptT.run_bind, StateT.run_bind]
  show (match StateT.run (ExceptT.run x) s with | (a, s') => _) = _
  unfold perform
  cases StateT.run (ExceptT.run x) s with
  | mk r s' => cases r <;> rfl

@[simp] theorem perform_note (s : Session) (level : Log.Level) (source : Log.Source)
    (message : String) :
    s.perform (Run.note level source message) = (.ok (), s.report ⟨level, source, message⟩) := rfl

@[simp] theorem perform_ofExcept {ε : Type} (s : Session) (toFailure : ε → Failure)
    (x : Except ε α) :
    s.perform (Run.ofExcept toFailure x) = (x.mapError toFailure, s) := rfl

@[simp] theorem files_report (s : Session) (e : Log.Entry) : (s.report e).files = s.files := by
  unfold report
  split <;> rfl

end Session

end SchemaGen

import SchemaGen.Console
import SchemaGen.Files.Error
import SchemaGen.Log
import SchemaGen.Web.Request

/-!
# What a run needs from its surroundings

A run looks at files, writes some, asks for a document on the web, reports what it does and shows
its results. `Host` lists these operations; everything that uses them is written for any monad that
has them.
-/

namespace SchemaGen

/-- What is at a path. -/
inductive Files.Status where
  | absent
  | file
  | directory
deriving DecidableEq, Repr

/-- The operations on the surroundings of a run. -/
class Host (m : Type → Type) where
  /-- What is at a path. A path that leads nowhere has nothing at it. -/
  status : Path → m (Except Files.Cause Files.Status)
  /-- The content of a file. -/
  readFile : Path → m (Except Files.Cause (List UInt8))
  /-- Gives a file a content; a file that is not there is made. -/
  writeFile : Path → List UInt8 → m (Except Files.Cause Unit)
  /-- Makes a directory in one that exists. -/
  makeDirectory : Path → m (Except Files.Cause Unit)
  /-- Sends a request. -/
  fetch : Web.Request → m Web.Answer
  /-- Takes a record, if it is grave enough. -/
  report : Log.Entry → m Unit
  /-- Sets how grave a record must be to be taken. -/
  setThreshold : Nat → m Unit
  /-- Shows an item, unless the console refuses it. -/
  display : Console.Item → m (Except Console.Refusal Unit)

namespace Host

variable {m : Type → Type} [Monad m] [Host m] {ε α : Type}

/-- Reports a record. -/
def note (level : Log.Level) (source : Log.Source) (message : String) : m Unit :=
  report ⟨level, source, message⟩

/-- Reports some records. -/
def noteAll : List Log.Entry → m Unit
  | [] => pure ()
  | e :: rest => do
    report e
    noteAll rest

/-- Shows some items, up to the first that is refused. -/
def displayAll : List Console.Item → m (Except Console.Refusal Unit)
  | [] => pure (.ok ())
  | i :: rest => do
    match ← display i with
    | .ok () => displayAll rest
    | .error e => pure (.error e)

/-- Runs a computation with its reports. -/
def run (t : Traced ε α) : m (Except ε α) := do
  noteAll t.log
  pure t.outcome

end Host

end SchemaGen

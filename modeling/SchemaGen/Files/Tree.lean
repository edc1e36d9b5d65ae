import SchemaGen.Entries
import SchemaGen.Files.Error

/-!
# File trees

A file tree tells for every place whether a file or a directory is there; a place is the list of
names that lead to it from the root, and the root itself is always a directory. A path is followed
from name to name through directories that exist (`locate`); the operations look at the place where
it ends. What an operation does is said place by place: it changes the node of one place and of no
other.
-/

namespace SchemaGen.Files

/-- What is at a place. -/
inductive Node where
  | file (content : List UInt8)
  | directory
deriving DecidableEq, Repr

/-- The names that lead to a node from the root. -/
abbrev Place := List String

/-- All files and directories below the root, and the place of the working directory. -/
structure Tree where
  nodes : Entries Place Node := []
  working : Place := []
deriving Repr

namespace Tree

/-- What is at a place, if anything. -/
def node? (t : Tree) (p : Place) : Option Node :=
  if p = [] then some .directory else Entries.get? t.nodes p

/-- The most octets of a name. -/
def maxName : Nat := 255

/-- The most octets of a path. -/
def maxPath : Nat := 4095

/-- The place where names lead from a place. -/
def follow (t : Tree) : Place → List String → Except Cause Place
  | here, [] => .ok here
  | here, name :: rest =>
    match t.node? here with
    | none => .error .notFound
    | some (.file _) => .error .notDirectory
    | some .directory =>
      if maxName < name.utf8ByteSize then .error .nameTooLong
      else follow t (if name = ".." then here.dropLast else here ++ [name]) rest

/-- The place of a path. There may be nothing at it, but all before it are directories. -/
def locate (t : Tree) (p : Path) : Except Cause Place :=
  if maxPath < p.toString.utf8ByteSize then .error .nameTooLong
  else t.follow (if p.root = .working then t.working else []) p.components

/-- Gives a place a node. -/
def put (t : Tree) (p : Place) (n : Node) : Tree := { t with nodes := Entries.set t.nodes p n }

/-- What is at a path; nothing if the way to it does not exist. -/
def status (t : Tree) (p : Path) : Except Cause (Option Node) :=
  match t.locate p with
  | .ok place => .ok (t.node? place)
  | .error .notFound | .error .notDirectory => .ok none
  | .error e => .error e

/-- The content of the file at a path. -/
def read (t : Tree) (p : Path) : Except Cause (List UInt8) :=
  match t.locate p with
  | .error e => .error e
  | .ok place =>
    match t.node? place with
    | some (.file content) => .ok content
    | some .directory => .error .isDirectory
    | none => .error .notFound

/-- Gives the file at a path a content; the file is made if it is not there. -/
def write (t : Tree) (p : Path) (content : List UInt8) : Except Cause Tree :=
  match t.locate p with
  | .error e => .error e
  | .ok place =>
    if t.node? place = some .directory then .error .isDirectory
    else .ok (t.put place (.file content))

/-- Makes a directory at a path. -/
def makeDirectory (t : Tree) (p : Path) : Except Cause Tree :=
  match t.locate p with
  | .error e => .error e
  | .ok place =>
    if (t.node? place).isSome then .error .alreadyExists else .ok (t.put place .directory)

theorem node?_put_self (t : Tree) {p : Place} (n : Node) (h : p ≠ []) :
    (t.put p n).node? p = some n := by
  simp [put, node?, h]

theorem node?_put_of_ne (t : Tree) {p q : Place} (n : Node) (h : p ≠ q) :
    (t.put p n).node? q = t.node? q := by
  by_cases hq : q = []
  · simp [node?, hq]
  · simp [put, node?, hq, Entries.get?_set_of_ne _ _ h]

end Tree

end SchemaGen.Files

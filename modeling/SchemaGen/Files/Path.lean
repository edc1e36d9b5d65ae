import SchemaGen.Text.Pieces

/-!
# Paths

A path is a root and a list of components. Empty components and the component `.` do not count, so
they are gone as soon as a path is read; `..` stays. A path of just two slashes at its start keeps
both. Joining a path with a rooted one gives the rooted one.
-/

namespace SchemaGen

/-- Where a path starts. -/
inductive Path.Root where
  /-- At the working directory. -/
  | working
  | slash
  | doubleSlash
deriving DecidableEq, Repr, Inhabited

def Path.Root.toString : Path.Root → String
  | working => ""
  | slash => "/"
  | doubleSlash => "//"

/-- A path. -/
structure Path where
  root : Path.Root := .working
  components : List String := []
deriving DecidableEq, Repr, Inhabited

namespace Path

/-- Whether a component counts. -/
def isComponent (s : String) : Bool := s ≠ "" && s ≠ "."

/-- The root that the slashes at the start of a text stand for. -/
def rootOf (s : String) : Root :=
  match (s.toList.takeWhile (· = '/')).length with
  | 0 => .working
  | 2 => .doubleSlash
  | _ => .slash

/-- The path that a text stands for. -/
def ofString (s : String) : Path where
  root := rootOf s
  components := (Text.split "/" s).filter isComponent

/-- The text of a path. -/
def toString (p : Path) : String :=
  let s := p.root.toString ++ Text.join "/" p.components
  if s = "" then "." else s

/-- The path `q`, seen from `p`. -/
def join (p q : Path) : Path :=
  if q.root = .working then { p with components := p.components ++ q.components } else q

/-- The path that some texts stand for, each seen from the one before. -/
def joinAll (p : Path) (parts : List String) : Path :=
  parts.foldl (fun acc part => acc.join (ofString part)) p

/-- The directory of a path. -/
def parent (p : Path) : Path := { p with components := p.components.dropLast }

/-- The last component; empty for a root. -/
def fileName (p : Path) : String := (p.components.getLast?).getD ""

/-- What the last component holds from its last point on; nothing if the point is the first or the
last character. -/
def suffix (p : Path) : String :=
  let cs := p.fileName.toList
  let tail := (cs.reverse.takeWhile (· ≠ '.')).reverse
  if tail.length + 1 < cs.length ∧ 0 < tail.length then String.ofList ('.' :: tail) else ""

/-- Whether a null character stands somewhere in the path. -/
def hasNull (p : Path) : Bool := p.components.any (·.toList.contains '\x00')

end Path

end SchemaGen

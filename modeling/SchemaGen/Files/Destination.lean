import SchemaGen.Files.Error
import SchemaGen.Package.ModuleName

/-!
# Files of modules

A module is written to the file that its name leads to: the segments of the name are the directories
below the destination, the last one with the extension is the file.
-/

namespace SchemaGen

/-- Where modules are written. -/
structure Destination where
  /-- The directory below which files are written; the working directory if there is none. -/
  directory : Option Path := none
  fileExtension : String := ".pm"
  separator : String := ModuleName.separator
deriving DecidableEq, Repr

/-- Why a module name leads to no file. -/
inductive Destination.PathError where
  | noSegments (module : String)
  | emptySeparator (e : ModuleName.EmptySeparator)
deriving DecidableEq, Repr

namespace Destination

def PathError.message : PathError → String
  | noSegments module => s!"Cannot derive a file name from module {Text.quoted module}"
  | emptySeparator e => e.message

/-- The directory of a text; none if it is missing or empty. -/
def directoryOf (text : Option String) : Option Path :=
  match text with
  | none => none
  | some s => if s = "" then none else some (Path.ofString s)

/-- The path of the module with the given segments, of which `file` is the last. -/
def pathOfSegments (d : Destination) (directories : List String) (file : String) : Path :=
  ((d.directory.getD {}).joinAll directories).join (Path.ofString (file ++ d.fileExtension))

/-- The path of a module's file. -/
def pathOf (d : Destination) (module : String) : Except PathError Path :=
  match ModuleName.segments? d.separator module with
  | .error e => .error (.emptySeparator e)
  | .ok segments =>
    match segments.getLast? with
    | none => .error (.noSegments module)
    | some file => .ok (d.pathOfSegments segments.dropLast file)

end Destination

end SchemaGen

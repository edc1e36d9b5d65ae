import SchemaGen.Files.Path
import SchemaGen.Text.Quoted

/-!
# Errors of the file system

What can go wrong with a file or a directory, with the number that the operating system gives it.
-/

namespace SchemaGen.Files

/-- Why an operation on a file or a directory failed. -/
inductive Cause where
  | notFound
  | alreadyExists
  | notDirectory
  | isDirectory
  | nameTooLong
  /-- Any other cause, as the operating system has it. -/
  | other (number : Nat) (text : String)
deriving DecidableEq, Repr

def Cause.number : Cause → Nat
  | notFound => 2
  | alreadyExists => 17
  | notDirectory => 20
  | isDirectory => 21
  | nameTooLong => 36
  | other number _ => number

def Cause.text : Cause → String
  | notFound => "No such file or directory"
  | alreadyExists => "File exists"
  | notDirectory => "Not a directory"
  | isDirectory => "Is a directory"
  | nameTooLong => "File name too long"
  | other _ text => text

/-- A cause and the path of the operation. -/
structure Error where
  cause : Cause
  path : Path
deriving DecidableEq, Repr

def Error.message (e : Error) : String :=
  s!"[Errno {e.cause.number}] {e.cause.text}: {Text.quoted e.path.toString}"

end SchemaGen.Files

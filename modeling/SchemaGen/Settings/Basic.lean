import SchemaGen.Package.Namespace
import SchemaGen.Value.Display

/-!
# Settings of a generation

The settings hold values as they were given. `Settings.check` accepts settings in which every value
is of its kind, puts an empty namespace for a missing one, and names the first value that is not.
-/

namespace SchemaGen

/-- The settings of a generation, as given. -/
structure Settings where
  /-- The namespace of all packages, empty for none. -/
  nameSpace : Value := .text ""
  /-- The path of the model. -/
  inputFile : Value := .null
  /-- The directory below which files are written; the working directory if missing or empty. -/
  outputPath : Value := .null
  /-- What is put after the name of a file. -/
  fileExtension : Value := .text ".pm"
  /-- How the schema class finds the table classes. -/
  layout : Value := .text "classes"
  /-- The blanks in front of a name in a list of names. -/
  indentSize : Value := .int 4
  /-- Whether a file starts with a comment on its origin. -/
  addComments : Value := .bool false
  /-- Whatever else was given. -/
  custom : Value := .object []
deriving Repr, DecidableEq, Inhabited

/-- A value that a setting may not have. -/
inductive SettingError where
  | namespaceNotText (v : Value)
  | nameSpace (s : String)
  | layout (v : Value)
  | fileExtension (v : Value)
  | indentSize (v : Value)
  | addComments (v : Value)
  | path (setting : String) (v : Value)
  | custom (v : Value)
deriving DecidableEq, Repr

namespace SettingError

def message : SettingError → String
  | namespaceNotText v => s!"no valid namespace given: {v.quoted} is not a string"
  | nameSpace s => s!"no valid namespace given: {Text.quoted s}"
  | layout v => s!"Invalid layout: {v.plain} (expected one of classes, namespaces)"
  | fileExtension v => s!"Invalid file extension: {v.plain}"
  | indentSize v => s!"Invalid indent_size: {v.plain}"
  | addComments v => s!"Invalid add_comments: {v.quoted} (expected true or false)"
  | path setting v => s!"Invalid {setting}: {v.quoted} (expected a path)"
  | custom v => s!"Invalid custom settings: {v.quoted}"

end SettingError

namespace Settings

/-- The names of the layouts. -/
def layoutNames : List String := ["classes", "namespaces"]

/-- A namespace, empty for a missing one. -/
def checkNamespace : Value → Except SettingError String
  | .null => .ok ""
  | .text s => if Package.isNamespace s then .ok s else .error (.nameSpace s)
  | v => .error (.namespaceNotText v)

def checkLayout (v : Value) : Except SettingError Unit :=
  match v with
  | .text s => if s ∈ layoutNames then .ok () else .error (.layout v)
  | _ => .error (.layout v)

def checkFileExtension (v : Value) : Except SettingError Unit :=
  match v with
  | .text s => if s.toList.head? = some '.' then .ok () else .error (.fileExtension v)
  | _ => .error (.fileExtension v)

def checkIndentSize (v : Value) : Except SettingError Unit :=
  match v with
  | .int n => if n < 0 then .error (.indentSize v) else .ok ()
  | _ => .error (.indentSize v)

def checkAddComments (v : Value) : Except SettingError Unit :=
  match v with
  | .bool _ => .ok ()
  | _ => .error (.addComments v)

def checkPath (setting : String) (v : Value) : Except SettingError Unit :=
  match v with
  | .null => .ok ()
  | .text _ => .ok ()
  | _ => .error (.path setting v)

def checkCustom (v : Value) : Except SettingError Unit :=
  match v with
  | .object _ => .ok ()
  | _ => .error (.custom v)

/-- The settings with the namespace made a text, or the first value that is not of its kind. -/
def check (s : Settings) : Except SettingError Settings := do
  let name ← checkNamespace s.nameSpace
  checkLayout s.layout
  checkFileExtension s.fileExtension
  checkIndentSize s.indentSize
  checkAddComments s.addComments
  checkPath "input_file" s.inputFile
  checkPath "output_path" s.outputPath
  checkCustom s.custom
  pure { s with nameSpace := .text name }

end Settings

end SchemaGen

import SchemaGen.Files.Error
import SchemaGen.Json.Reader
import SchemaGen.Settings.Merge
import SchemaGen.Text.Utf8

/-!
# Where settings come from

Settings are given as they are, as overrides of the defaults, or as the path of a configuration
file; `SettingsFile` says what such a file holds. Line ends of a configuration file are read as line
feeds.
-/

namespace SchemaGen

namespace SettingsFile

/-- Why a configuration file gives no settings. -/
inductive Error where
  | notFound (p : Path)
  /-- The name of the file does not end in `.json`. -/
  | notJson (p : Path)
  | unreadable (p : Path) (e : Files.Error)
  | malformed (p : Path) (e : Json.Error)
  | notObject (p : Path)

def Error.message : Error → String
  | notFound p => s!"Configuration file not found: {p.toString}"
  | notJson p => s!"Configuration file must be JSON: {p.toString}"
  | unreadable p e => s!"Failed to load configuration file {p.toString}: {e.message}"
  | malformed p e => s!"Invalid JSON in configuration file {p.toString}: {e.message}"
  | notObject p => s!"Configuration file must contain a JSON object: {p.toString}"

/-- Why the content of a configuration file gives no fields. -/
inductive ContentError where
  | octets (e : Text.Utf8.Error)
  | json (e : Json.Error)
  | notObject

/-- The characters of a text with each line end made a line feed. -/
def lineFeeds : List Char → List Char
  | [] => []
  | '\r' :: '\n' :: rest => '\n' :: lineFeeds rest
  | '\r' :: rest => '\n' :: lineFeeds rest
  | c :: rest => c :: lineFeeds rest

/-- The fields that the content of a configuration file gives. -/
def fields (content : List UInt8) : Except ContentError (Entries String Value) :=
  match Text.Utf8.decode content with
  | .error e => .error (.octets e)
  | .ok text =>
    match Json.read (String.ofList (lineFeeds text.toList)) with
    | .error e => .error (.json e)
    | .ok (.object fields) => .ok fields
    | .ok _ => .error .notObject

end SettingsFile

namespace Settings

/-- A form in which settings may be given. -/
inductive Source where
  /-- Settings as they are. -/
  | settings (s : Settings)
  /-- Overrides as an object, a configuration file as a text with its path; no other value but one
  that counts as not given is right. -/
  | value (v : Value)
deriving DecidableEq, Repr

/-- The overrides that a value holds; none if it counts as not given. -/
def overridesOf (v : Value) : Except Value (Entries String Value) :=
  if v.isGiven then
    match v with
    | .object fields => .ok fields
    | v => .error v
  else .ok []

/-- A field that is no setting. -/
structure UnknownField where
  name : String
deriving DecidableEq, Repr

def UnknownField.message (e : UnknownField) : String :=
  s!"GeneratorConfig.__init__() got an unexpected keyword argument '{e.name}'"

/-- The settings that some fields give, all of which have to be settings. -/
def ofKnownFields (fields : Entries String Value) : Except UnknownField Settings :=
  match (unknownFields fields).head? with
  | some f => .error ⟨f.1⟩
  | none => .ok (withFields {} fields)

end Settings

end SchemaGen

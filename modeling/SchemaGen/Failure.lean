import SchemaGen.Console
import SchemaGen.Files.Destination
import SchemaGen.Model.LoadError
import SchemaGen.Model.Reading
import SchemaGen.Settings.Source
import SchemaGen.Target.Registry
import SchemaGen.Web.Request
import SchemaGen.Web.Url

/-!
# Failures of a run

All that can end a run, with its message. A failure of one of five kinds is expected, and a command
line reports it; a failure of any other kind points to an input that was not provided for.
-/

namespace SchemaGen

/-- Why a run failed. -/
inductive Failure where
  | setting (e : SettingError)
  | settingsFile (e : SettingsFile.Error)
  /-- Overrides of settings that are no object. -/
  | notOverrides (v : Value)
  | unknownField (e : Settings.UnknownField)
  /-- A configuration file that is not UTF-8. -/
  | octets (e : Text.Utf8.Error)
  /-- A configuration file that goes beyond a limit. -/
  | jsonLimit (e : Json.Error)
  | model (e : Model.ReadError)
  | loading (e : Model.LoadError)
  | url (e : Web.UrlError)
  /-- A request that breaks down in a way that nothing provides for. -/
  | request (e : Web.Breakdown)
  | registry (e : RegistryError)
  | incompleteFamily (e : IncompleteFamily)
  | generation (e : GenerationError)
  | moduleName (e : Destination.PathError)
  /-- A file that could not be written. -/
  | unwritable (p : Path) (e : Files.Error)
  /-- What is at a path could not be found out. -/
  | status (e : Files.Error)
  /-- A path with a null character, where a directory is to be made or a file to be opened. -/
  | nullInPath
  /-- An item that the console refuses. -/
  | unshown (e : Console.Refusal)

namespace Failure

def message : Failure → String
  | setting e => e.message
  | settingsFile e => e.message
  | notOverrides v => s!"'{v.kindName}' object has no attribute 'items'"
  | unknownField e => e.message
  | octets e => e.message
  | jsonLimit e => e.message
  | model e => e.message
  | loading e => e.message
  | url e => e.message
  | request e => e.message
  | registry e => e.message
  | incompleteFamily e => e.message
  | generation (.noSchemaName e) => e.message
  | generation .unnamedTable => GenerationError.message .unnamedTable
  | generation e => Generation.failureMessage e
  | moduleName e => e.message
  | unwritable p e => s!"Couldn't create {p.toString}: {e.message}"
  | status e => e.message
  | nullInPath => "embedded null byte"
  | unshown e => e.message

/-- The kinds of failures. -/
inductive Kind where
  | settings
  | reading
  | generation
  | writing
  | registry
  | unexpected
deriving DecidableEq, Repr

def kind : Failure → Kind
  | setting _ => .settings
  | settingsFile _ => .settings
  | model (.document (.malformed _)) => .reading
  | model (.document _) => .unexpected
  | model _ => .reading
  | loading _ => .reading
  | registry _ => .registry
  | generation (.noSchemaName _) => .settings
  | generation _ => .generation
  | moduleName (.noSegments _) => .writing
  | unwritable _ _ => .writing
  | _ => .unexpected

/-- Whether the failure is one that a run may end in. -/
def isExpected (f : Failure) : Bool := f.kind ≠ .unexpected

end Failure

end SchemaGen

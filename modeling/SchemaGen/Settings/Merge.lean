import SchemaGen.Settings.Basic

/-!
# Settings from several sources

Settings are put together from the defaults, the fields of a configuration file and the overrides of
a caller, the later ones first in rank. An override that is null counts as not given; a null of the
file stands. Fields that are no settings of their own go into the custom settings.
-/

namespace SchemaGen

namespace Settings

/-- The settings as fields, in their order. -/
def toFields (s : Settings) : Entries String Value :=
  [("namespace", s.nameSpace), ("input_file", s.inputFile), ("output_path", s.outputPath),
   ("file_extension", s.fileExtension), ("layout", s.layout), ("indent_size", s.indentSize),
   ("add_comments", s.addComments), ("custom", s.custom)]

/-- The names of the settings. -/
def fieldNames : List String :=
  ["namespace", "input_file", "output_path", "file_extension", "layout", "indent_size",
   "add_comments", "custom"]

/-- The settings that some fields give, by default those of `defaults`; other fields do not count.
-/
def withFields (defaults : Settings) (fields : Entries String Value) : Settings where
  nameSpace := (Entries.get? fields "namespace").getD defaults.nameSpace
  inputFile := (Entries.get? fields "input_file").getD defaults.inputFile
  outputPath := (Entries.get? fields "output_path").getD defaults.outputPath
  fileExtension := (Entries.get? fields "file_extension").getD defaults.fileExtension
  layout := (Entries.get? fields "layout").getD defaults.layout
  indentSize := (Entries.get? fields "indent_size").getD defaults.indentSize
  addComments := (Entries.get? fields "add_comments").getD defaults.addComments
  custom := (Entries.get? fields "custom").getD defaults.custom

/-- The fields that are no settings of their own. -/
def unknownFields (fields : Entries String Value) : Entries String Value :=
  fields.filter fun f => f.1 ∉ fieldNames

/-- The fields that are not null. -/
def givenFields (fields : Entries String Value) : Entries String Value :=
  fields.filter fun f => !f.2.isNull

/-- The settings that some fields give, the unknown ones added to the custom settings. An empty
value of any kind counts as no custom settings then. -/
def ofFields (fields : Entries String Value) : Except SettingError Settings :=
  let known := withFields {} fields
  let unknown := unknownFields fields
  if unknown.isEmpty then .ok known
  else if known.custom.isGiven then
    match known.custom with
    | .object custom => .ok { known with custom := .object (Entries.merge custom unknown) }
    | v => .error (.custom v)
  else .ok { known with custom := .object (Entries.ofList unknown) }

/-- The checked settings from the fields of a file and the overrides of a caller. -/
def resolve (file overrides : Entries String Value) : Except SettingError Settings := do
  let fields := Entries.merge (Entries.merge (toFields {}) file) (givenFields overrides)
  check (← ofFields fields)

/-- The checked settings that overrides make of given settings. -/
def override (s : Settings) (overrides : Entries String Value) : Except SettingError Settings :=
  resolve [] (Entries.merge (toFields s) overrides)

end Settings

end SchemaGen

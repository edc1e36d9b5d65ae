import SchemaGen.Files.Writing
import SchemaGen.Model.Loading
import SchemaGen.Target.Making

/-!
# From a model to its classes

The whole way: load the settings and the model, generate the classes, write their files. Nothing is
written unless every class was generated.
-/

namespace SchemaGen.Scheme

open Model (Table)

variable [Perl.Memory] {m : Type → Type} [Monad m] [Host m]

/-- What is to be generated, for which target and with which settings. -/
structure Order where
  /-- The path of the model. -/
  file : Option String := none
  url : Option String := none
  target : String := "dbic"
  settings : Settings.Source := .value .null
deriving Repr

/-- Generates the classes of some tables. -/
def generateTables (tables : List Table) (target : String) (source : Settings.Source) :
    Run m Generation := do
  let s ← Settings.ofSource source
  let g ← Registry.shipped.create target (.settings s)
  let (log, generation) := g.generate tables
  ExceptT.lift (Host.noteAll log)
  pure generation

/-- The path of the model: the given one, or that of the settings if neither it nor a URL is
given. -/
def modelPath (file url : Option String) (s : Settings) : Option String :=
  if file.isNone && url.isNone then s.inputFile.text? else file

/-- Generates the classes of the model that is asked for, with settings that were checked. -/
def generateWith (o : Order) (s : Settings) : Run m Generation := do
  let document ← Model.load (modelPath o.file o.url s) o.url 30
  let tables ← Run.traced .model (Model.readOctets document.content)
  let generation ← generateTables tables o.target (.settings s)
  pure { generation with source := some document.source }

/-- Generates the classes of the model that is asked for. -/
def generate (o : Order) : Run m Generation := do
  generateWith o (← Settings.ofSource o.settings)

/-- Where settings that were checked have the files written. -/
def destination (s : Settings) : Destination where
  directory := Destination.directoryOf s.outputPath.text?
  fileExtension := (s.fileExtension.text?).getD ""

/-- Generates the classes of the model that is asked for and writes their files. -/
def create (o : Order) : Run m (List Path) := do
  let s ← Settings.ofSource o.settings
  let generation ← generateWith { o with settings := .settings s } s
  match generation.outcome with
  | .error e => throw (.generation e)
  | .ok p => (destination s).writeModules p.files

end SchemaGen.Scheme

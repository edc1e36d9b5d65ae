import SchemaGen.CommandLine.Arguments
import SchemaGen.Log.Threshold
import SchemaGen.Scheme

/-!
# The command

The command generates the classes of a model and writes their files, or shows them instead
(`--dry-run`), or lists the targets. It reports an expected failure on the console and ends with
exit code 1; a failure of another kind ends the run, and so does an item that the console refuses.
-/

namespace SchemaGen.CommandLine

open Console (Item)

variable [Perl.Memory] {m : Type → Type} [Monad m] [Host m]

namespace Arguments

/-- The overrides of settings that a command line gives. -/
def overrides (a : Arguments) : Entries String Value :=
  [("namespace", .ofText? a.nameSpace), ("output_path", .ofText? a.output),
   ("layout", .ofText? a.layout), ("add_comments", if a.comments then .bool true else .null),
   ("input_file", .ofText? a.file)]

/-- How grave a record must be to be taken: the asked level, where a verbose run takes more than
warnings. -/
def threshold (a : Arguments) : Nat :=
  let name := if a.verbose && a.logLevel = Log.Level.warning.name then Log.Level.info.name
    else a.logLevel
  match Log.levelOfName name with
  | .ok n => n
  | .error _ => Log.Level.warning.rank

/-- What is to be generated, with settings that were loaded. -/
def order (a : Arguments) (s : Settings) : Scheme.Order :=
  { url := a.url, target := a.target, settings := .settings s }

end Arguments

/-- The row of a target in the list of targets. -/
def targetRow (target : String) (info : TargetInfo) : List String :=
  [s!"🔧 {target}", info.fileExtension.plain, info.family,
   if info.aliases.isEmpty then "[dim]none[/dim]" else String.intercalate ", " info.aliases]

/-- The rows of some targets. -/
def targetRows : List String → Run m (List (List String))
  | [] => pure []
  | target :: rest => do
    let info ← Registry.shipped.info target
    let rows ← targetRows rest
    pure (targetRow target info :: rows)

/-- The items that list the targets. -/
def targetItems : Run m (List Item) := do
  let rows ← targetRows Registry.shipped.targets
  pure [.blank,
    .table "📋 Supported Targets" ["Target", "Extension", "Generator Class", "Aliases"] rows]

/-- The item of a doubt about a table. -/
def warningItem (w : Model.Warning) : Item := .line s!"[yellow]⚠️  {w.message}[/yellow]"

/-- The item with the particulars of a generation. -/
def detailsItem (g : Generation) : Item :=
  .panel "📊 Generation Details" "blue" <| .text <| String.intercalate "\n" <|
    g.metadata.map fun (key, value) => s!"[bold]{key}:[/bold] {value.plain}"

/-- The items of a module that is shown. -/
def moduleItems (file : String × String) : List Item :=
  [.blank, .panel s!"📄 {file.1}" "green" (.code file.2)]

/-- The items that tell of a generation. -/
def generationItems (a : Arguments) (g : Generation) : List Item :=
  g.warnings.map warningItem ++
    (if a.verbose then [detailsItem g] else []) ++
    if a.dryRun then g.files.flatMap moduleItems else []

/-- The items that tell of the files written. -/
def writtenItems (a : Arguments) (p : Product) (paths : List Path) : List Item :=
  .line s!"[green]✓[/green] Wrote {paths.length} files for [bold]{p.schemaModule}[/bold]" ::
    if a.verbose then paths.map fun path => .line s!"  [dim]{path.toString}[/dim]" else []

/-- The item of a run without a model. -/
def noInputItem : Item := .line "[red]✗[/red] Input source required (file or --url)"

/-- The item of a generation that failed. -/
def failedItem (e : GenerationError) : Item :=
  .line s!"[red]✗ {Generation.failureMessage e}[/red]"

/-- The item of a failure. -/
def failureItem (f : Failure) : Item := .line s!"[red]✗ Error:[/red] {f.message}"

/-- Shows some items in a run, which ends at the first that is refused. -/
def displayAll (items : List Item) : Run m Unit := do
  match ← ExceptT.lift (Host.displayAll items) with
  | .ok () => pure ()
  | .error e => throw (.unshown e)

/-- Whether settings or arguments name a model. -/
def hasInput (a : Arguments) (s : Settings) : Bool :=
  s.inputFile.isGiven || (Model.given? a.url).isSome

/-- Generates the classes with settings that were loaded, shows or writes them, and gives the exit
code. -/
def generate (a : Arguments) (s : Settings) : Run m Nat := do
  let g ← Scheme.generate (a.order s)
  match g.outcome with
  | .error e =>
    displayAll [failedItem e]
    pure 1
  | .ok p =>
    displayAll (generationItems a g)
    if a.dryRun then pure 0
    else
      let paths ← (Scheme.destination s).writeModules p.files
      displayAll (writtenItems a p paths)
      pure 0

/-- Does what arguments ask for, and gives the exit code. -/
def perform (a : Arguments) : Run m Nat := do
  if a.listTargets then
    displayAll (← targetItems)
    pure 0
  else
    let s ← Settings.load a.config (.object a.overrides)
    if hasInput a s then generate a s
    else
      displayAll [noInputItem]
      pure 1

/-- Reports a failure that is expected, with exit code 1. -/
def report (f : Failure) : Run m Nat :=
  if f.isExpected then do
    Run.note .debug .commandLine "Run failed"
    displayAll [failureItem f]
    pure 1
  else throw f

/-- Carries out arguments, and gives the exit code. -/
def carryOut (a : Arguments) : Run m Nat := do
  ExceptT.lift (Host.setThreshold a.threshold)
  tryCatch (perform a) report

/-- How a command ends that does not fail. -/
inductive Ending where
  | exit (code : Nat)
  | help
  | usage (e : UsageError)
deriving DecidableEq, Repr

/-- Runs the command. -/
def run (line : List String) : Run m Ending :=
  match Arguments.read line with
  | .error .help => pure .help
  | .error (.error e) => pure (.usage e)
  | .ok a => do
    let code ← carryOut a
    pure (.exit code)

end SchemaGen.CommandLine

import SchemaGen.CommandLine.Word

/-!
# Arguments of a command line

`Arguments.read` reads a command line: switches in any order, and one value that is the path of the
model. Flags of one letter may be put together in one word, the last of them may have a value. The
path and a URL exclude each other.
-/

namespace SchemaGen.CommandLine

/-- What is wrong with a command line. -/
inductive UsageError where
  | ambiguous (e : Ambiguous)
  | missingValue (s : Setting)
  /-- A flag was given a value. -/
  | unwantedValue (f : Flag) (text : String)
  | unknownChoice (s : Setting) (value : String)
  /-- A URL after the path of the model. -/
  | urlAfterFile
  | fileAfterUrl
  | unrecognized (words : List String)
deriving DecidableEq, Repr

/-- What is said about an argument. -/
def onArgument (name text : String) : String := s!"argument {name}: {text}"

def UsageError.message : UsageError → String
  | ambiguous e =>
    s!"ambiguous option: {e.word} could match " ++ String.intercalate ", " e.names
  | missingValue s => onArgument (Switch.setting s).shown "expected one argument"
  | unwantedValue f text =>
    onArgument (Switch.flag f).shown s!"ignored explicit argument {Text.quoted text}"
  | unknownChoice s value =>
    let choices := String.intercalate ", " (s.choices.map Text.quoted)
    onArgument (Switch.setting s).shown
      s!"invalid choice: {Text.quoted value} (choose from {choices})"
  | urlAfterFile => onArgument "--url" "not allowed with argument file"
  | fileAfterUrl => onArgument "file" "not allowed with argument --url"
  | unrecognized words => "unrecognized arguments: " ++ String.intercalate " " words

/-- What a command line asks for. -/
structure Arguments where
  file : Option String := none
  url : Option String := none
  nameSpace : Option String := none
  output : Option String := none
  config : Option String := none
  target : String := "dbic"
  layout : Option String := none
  logLevel : String := "WARNING"
  comments : Bool := false
  dryRun : Bool := false
  verbose : Bool := false
  listTargets : Bool := false
deriving DecidableEq, Repr

/-- Why reading a command line ends early. -/
inductive Stop where
  | help
  | error (e : UsageError)
deriving DecidableEq, Repr

namespace Arguments

/-- Takes a flag. -/
def setFlag (a : Arguments) : Flag → Except Stop Arguments
  | .help => .error .help
  | .comments => .ok { a with comments := true }
  | .dryRun => .ok { a with dryRun := true }
  | .verbose => .ok { a with verbose := true }
  | .listTargets => .ok { a with listTargets := true }

/-- Takes a setting with its value. -/
def setValue (a : Arguments) (s : Setting) (value : String) : Except Stop Arguments :=
  if s.choices ≠ [] ∧ value ∉ s.choices then .error (.error (.unknownChoice s value))
  else
    match s with
    | .url =>
      if a.file.isSome then .error (.error .urlAfterFile) else .ok { a with url := some value }
    | .nameSpace => .ok { a with nameSpace := some value }
    | .output => .ok { a with output := some value }
    | .config => .ok { a with config := some value }
    | .target => .ok { a with target := value }
    | .layout => .ok { a with layout := some value }
    | .logLevel => .ok { a with logLevel := value }

/-- Takes the path of the model. -/
def setFile (a : Arguments) (path : String) : Except Stop Arguments :=
  if a.url.isSome then .error (.error .fileAfterUrl) else .ok { a with file := some path }

/-- The switches that one word stands for: some flags, and then nothing more, letters that are no
switches, a setting with its value, or a setting whose value is the next word. -/
inductive Tail where
  | nothing
  | unknown (text : String)
  | value (s : Setting) (text : String)
  | awaiting (s : Setting)
deriving DecidableEq, Repr

/-- The switches of a word whose last one found so far is `switch`. -/
def expand (switch : Switch) (isShort : Bool) (attached : Attached) :
    Except UsageError (List Flag × Tail) :=
  match switch, attached with
  | .setting s, .none => .ok ([], .awaiting s)
  | .setting s, .assigned text => .ok ([], .value s (String.ofList text))
  | .setting s, .joined text => .ok ([], .value s (String.ofList text))
  | .flag f, .none => .ok ([f], .nothing)
  | .flag f, .assigned text => .error (.unwantedValue f (String.ofList text))
  | .flag f, .joined [] => .error (.unwantedValue f "")
  | .flag f, .joined (c :: text) =>
    if c = '-' || !isShort then .error (.unwantedValue f (String.ofList (c :: text)))
    else
      match Switch.ofLetter? c with
      | none => .ok ([f], .unknown (String.ofList ('-' :: c :: text)))
      | some next =>
        let rest : Except UsageError (List Flag × Tail) :=
          match text with
          | [] => expand next true .none
          | '=' :: assigned => expand next true (.assigned assigned)
          | d :: more => expand next true (.joined (d :: more))
        match rest with
        | .error e => .error e
        | .ok (flags, tail) => .ok (f :: flags, tail)
termination_by
  match attached with
  | .none => 0
  | .assigned _ => 0
  | .joined text => text.length + 1

/-- Takes some flags one after the other. -/
def setFlags (a : Arguments) : List Flag → Except Stop Arguments
  | [] => .ok a
  | f :: rest =>
    match a.setFlag f with
    | .error e => .error e
    | .ok a => setFlags a rest

/-- A line that is read in part: what it asks for so far, whether the place of the path was passed,
and the words that found no place. -/
structure Partial where
  arguments : Arguments := {}
  pathPassed : Bool := false
  unplaced : List String := []
deriving Repr

/-- Takes the value at the place of the path, if there is one. -/
def Partial.passPath (p : Partial) (path : Option String) : Except Stop Partial :=
  match path with
  | none => .ok { p with pathPassed := true }
  | some path =>
    match p.arguments.setFile path with
    | .error e => .error e
    | .ok arguments => .ok { p with arguments, pathPassed := true }

def Partial.addUnplaced (p : Partial) (word : String) : Partial :=
  { p with unplaced := p.unplaced ++ [word] }

/-- Reads the words of a command line from the first to the last. -/
def readWords (p : Partial) : List Word → Except Stop Partial
  | [] => .ok p
  | .unknown text :: rest => readWords (p.addUnplaced text) rest
  | .separator :: .value path :: rest =>
    if p.pathPassed then readWords (p.addUnplaced "--") (.value path :: rest)
    else
      match p.passPath (some path) with
      | .error e => .error e
      | .ok p => readWords p rest
  | .separator :: rest =>
    if p.pathPassed then readWords (p.addUnplaced "--") rest
    else
      match p.passPath none with
      | .error e => .error e
      | .ok p => readWords p rest
  | .value path :: rest =>
    if p.pathPassed then readWords (p.addUnplaced path) rest
    else
      match p.passPath (some path) with
      | .error e => .error e
      | .ok p =>
        match rest with
        | .separator :: rest' => readWords p rest'
        | rest => readWords p rest
  | .switch r :: rest =>
    match expand r.switch r.isShort r.attached with
    | .error e => .error (.error e)
    | .ok (flags, tail) =>
      match tail, rest with
      | .awaiting s, .value text :: rest' =>
        match p.arguments.setFlags flags with
        | .error e => .error e
        | .ok a =>
          match a.setValue s text with
          | .error e => .error e
          | .ok arguments => readWords { p with arguments } rest'
      | .awaiting s, _ => .error (.error (.missingValue s))
      | .value s text, rest =>
        match p.arguments.setFlags flags with
        | .error e => .error e
        | .ok a =>
          match a.setValue s text with
          | .error e => .error e
          | .ok arguments => readWords { p with arguments } rest
      | .nothing, rest =>
        match p.arguments.setFlags flags with
        | .error e => .error e
        | .ok arguments => readWords { p with arguments } rest
      | .unknown text, rest =>
        match p.arguments.setFlags flags with
        | .error e => .error e
        | .ok arguments => readWords ({ p with arguments }.addUnplaced text) rest
termination_by words => words.length

/-- Reads a command line. -/
def read (line : List String) : Except Stop Arguments :=
  match Word.ofStrings line with
  | .error e => .error (.error (.ambiguous e))
  | .ok words =>
    match readWords {} words with
    | .error e => .error e
    | .ok p =>
      if p.unplaced = [] then .ok p.arguments
      else .error (.error (.unrecognized p.unplaced))

end Arguments

end SchemaGen.CommandLine

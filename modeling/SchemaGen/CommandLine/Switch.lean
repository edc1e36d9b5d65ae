import SchemaGen.Log
import SchemaGen.Settings.Basic

/-!
# Switches of the command line

A switch is a flag, which stands alone, or a setting, which has a value. It has one or two names;
the order of the names is that of a message that lists several.
-/

namespace SchemaGen.CommandLine

/-- A switch without a value. -/
inductive Flag where
  | help
  | comments
  | dryRun
  | verbose
  | listTargets
deriving DecidableEq, Repr

/-- A switch with a value. -/
inductive Setting where
  | url
  | nameSpace
  | output
  | config
  | target
  | layout
  | logLevel
deriving DecidableEq, Repr

/-- A switch. -/
inductive Switch where
  | flag (f : Flag)
  | setting (s : Setting)
deriving DecidableEq, Repr

namespace Switch

/-- All names with their switches. -/
def names : List (String × Switch) :=
  [("-h", flag .help), ("--help", flag .help), ("--url", setting .url),
   ("--namespace", setting .nameSpace), ("-n", setting .nameSpace),
   ("--output", setting .output), ("-o", setting .output), ("--config", setting .config),
   ("--target", setting .target), ("-t", setting .target), ("--layout", setting .layout),
   ("--comments", flag .comments), ("--dry-run", flag .dryRun), ("--verbose", flag .verbose),
   ("-v", flag .verbose), ("--log-level", setting .logLevel),
   ("--list-targets", flag .listTargets)]

/-- The switch of a name. -/
def ofName? (name : String) : Option Switch :=
  (names.find? (·.1 = name)).map Prod.snd

/-- The switch of a name of one letter. -/
def ofLetter? (c : Char) : Option Switch := ofName? (String.ofList ['-', c])

/-- A switch as messages name it, by all its names. -/
def shown (s : Switch) : String :=
  String.intercalate "/" ((names.filter (·.2 = s)).map Prod.fst)

end Switch

/-- The values that a setting may have; any if there are none. -/
def Setting.choices : Setting → List String
  | layout => Settings.layoutNames
  | logLevel => [Log.Level.debug, .info, .warning, .error].map Log.Level.name
  | _ => []

end SchemaGen.CommandLine

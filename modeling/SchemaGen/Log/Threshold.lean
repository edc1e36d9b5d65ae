import SchemaGen.Log
import SchemaGen.Value.Display

/-!
# Thresholds of records

How grave a record must be to be taken is given by a number or by a name. Letter case does not count
in a name; an unknown name means the level of warnings, but two names are taken already by values
that are no levels.
-/

namespace SchemaGen.Log

/-- A value that is no level. -/
inductive ThresholdError where
  | unknownLevel (v : String)
  | notLevel (shown : String)
deriving DecidableEq, Repr

def ThresholdError.message : ThresholdError → String
  | unknownLevel s => s!"Unknown level: {Text.quoted s}"
  | notLevel shown => s!"Level not an integer or a valid string: {shown}"

/-- The names of levels with their numbers. -/
def levelNames : List (String × Nat) :=
  [("CRITICAL", 50), ("FATAL", 50), ("ERROR", 40), ("WARNING", 30), ("WARN", 30), ("INFO", 20),
   ("DEBUG", 10), ("NOTSET", 0)]

/-- The names of values that are no levels. -/
def takenNames : List (String × ThresholdError) :=
  [("BASIC_FORMAT", .unknownLevel "%(levelname)s:%(name)s:%(message)s"),
   ("_STYLES", .notLevel <|
    "\x7b'%': (<class 'logging.PercentStyle'>, '%(levelname)s:%(name)s:%(message)s'), " ++
    "'\x7b': (<class 'logging.StrFormatStyle'>, " ++
    "'\x7blevelname\x7d:\x7bname\x7d:\x7bmessage\x7d'), " ++
    "'$': (<class 'logging.StringTemplateStyle'>, " ++
    "'$\x7blevelname\x7d:$\x7bname\x7d:$\x7bmessage\x7d')\x7d")]

/-- The capital form of a character, as far as it is a letter A to Z. -/
def capital (c : Char) : List Char :=
  if c = 'ı' then ['I']
  else if c = 'ſ' then ['S']
  else if c = 'ﬅ' ∨ c = 'ﬆ' then ['S', 'T']
  else [c.toUpper]

/-- The number of the level that a name stands for. -/
def levelOfName (name : String) : Except ThresholdError Nat :=
  let key := String.ofList (name.toList.flatMap capital)
  match takenNames.find? (·.1 = key) with
  | some (_, e) => .error e
  | none =>
    match levelNames.find? (·.1 = key) with
    | some (_, n) => .ok n
    | none => .ok Level.warning.rank

/-- The threshold that a value stands for. A truth value stands for itself. -/
def thresholdOf : Value → Except ThresholdError Value
  | .text name => (levelOfName name).map fun n => .int n
  | .int n => .ok (.int n)
  | .bool b => .ok (.bool b)
  | v => .error (.notLevel v.quoted)

end SchemaGen.Log

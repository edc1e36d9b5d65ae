/-!
# Log records

What a run reports while it works. A record has a level, a source and a message; `Traced` is a
computation that reports records and ends in a result or an error.
-/

namespace SchemaGen.Log

/-- How grave a record is. -/
inductive Level where
  | debug
  | info
  | warning
  | error
deriving DecidableEq, Repr, Inhabited

namespace Level

def name : Level → String
  | debug => "DEBUG"
  | info => "INFO"
  | warning => "WARNING"
  | error => "ERROR"

/-- The number of a level; graver ones have greater numbers. -/
def rank : Level → Nat
  | debug => 10
  | info => 20
  | warning => 30
  | error => 40

end Level

/-- The name from which the names of all sources start. -/
def rootName : String := "dbdesigner_dbic"

/-- Which part of the program reports. -/
inductive Source where
  | reader
  | loader
  | generator
  | classWriter
  | fileWriter
  | commandLine
deriving DecidableEq, Repr

def Source.name : Source → String
  | reader => "dbdesigner_dbic.reader"
  | loader => "dbdesigner_dbic.utils"
  | generator => "dbdesigner_dbic.codegen.core.generator"
  | classWriter => "dbdesigner_dbic.codegen.languages.dbic.generator"
  | fileWriter => "dbdesigner_dbic.codegen.core.writer"
  | commandLine => "dbdesigner_dbic.cli"

/-- A record. -/
structure Entry where
  level : Level
  source : Source
  message : String
deriving DecidableEq, Repr

/-- The name of a source below the root, given with or without the root's name; the root's own for
no name. -/
def sourceName : Option String → String
  | none => rootName
  | some name =>
    if name = "" ∨ name = rootName then rootName
    else
      match (rootName ++ ".").toList.isPrefixOf? name.toList with
      | some rest => rootName ++ "." ++ String.ofList rest
      | none => rootName ++ "." ++ name

end SchemaGen.Log

namespace SchemaGen

/-- A computation that reports records and ends in a result or an error. -/
structure Traced (ε α : Type) where
  log : List Log.Entry
  outcome : Except ε α

namespace Traced

variable {ε α β : Type}

/-- Ends in an error. -/
def fail (e : ε) : Traced ε α := ⟨[], .error e⟩

/-- Reports a record. -/
def note (level : Log.Level) (source : Log.Source) (message : String) : Traced ε Unit :=
  ⟨[⟨level, source, message⟩], .ok ()⟩

/-- Reports some records. -/
def notes (entries : List Log.Entry) : Traced ε Unit := ⟨entries, .ok ()⟩

/-- A computation that reports nothing. -/
def ofExcept (x : Except ε α) : Traced ε α := ⟨[], x⟩

/-- Goes on with the result, if there is one. -/
def andThen (x : Traced ε α) (f : α → Traced ε β) : Traced ε β :=
  match x.outcome with
  | .ok a =>
    let y := f a
    ⟨x.log ++ y.log, y.outcome⟩
  | .error e => ⟨x.log, .error e⟩

instance : Monad (Traced ε) where
  pure a := ⟨[], .ok a⟩
  bind := andThen

instance : MonadExceptOf ε (Traced ε) where
  throw := fail
  tryCatch x handle :=
    match x.outcome with
    | .ok _ => x
    | .error e => ⟨x.log ++ (handle e).log, (handle e).outcome⟩

@[simp] theorem outcome_pure (a : α) : (pure a : Traced ε α).outcome = .ok a := rfl

@[simp] theorem outcome_fail (e : ε) : (fail e : Traced ε α).outcome = .error e := rfl

@[simp] theorem outcome_ofExcept (x : Except ε α) : (ofExcept x).outcome = x := rfl

@[simp] theorem outcome_note (level : Log.Level) (source : Log.Source) (message : String) :
    (note level source message : Traced ε Unit).outcome = .ok () := rfl

@[simp] theorem outcome_notes (entries : List Log.Entry) :
    (notes entries : Traced ε Unit).outcome = .ok () := rfl

/-- The reports of a computation have no part in its outcome. -/
@[simp] theorem outcome_bind (x : Traced ε α) (f : α → Traced ε β) :
    (x >>= f).outcome = x.outcome.bind (fun a => (f a).outcome) := by
  show (andThen x f).outcome = _
  unfold andThen
  cases x.outcome <;> rfl

end Traced

end SchemaGen

import SchemaGen.CommandLine.Switch
import SchemaGen.Text.Digit
import SchemaGen.Text.Quoted

/-!
# Words of a command line

Every word of a command line is a value, the separator `--`, or a switch; after the separator there
are values only. A long name may be cut short as long as just one name starts so. A value may be
part of the word: after an equals sign, or after a name of one letter.
-/

namespace SchemaGen.CommandLine

/-- The text that stands in one word with the name of a switch. -/
inductive Attached where
  | none
  /-- After an equals sign. -/
  | assigned (text : List Char)
  /-- Right after a name of one letter. -/
  | joined (text : List Char)
deriving DecidableEq, Repr

/-- A switch as a word has it. -/
structure Reading where
  switch : Switch
  /-- Whether the name is of one letter. -/
  isShort : Bool
  attached : Attached
deriving DecidableEq, Repr

/-- A word of a command line. -/
inductive Word where
  | value (text : String)
  | separator
  /-- A word that looks like a switch but is none. -/
  | unknown (text : String)
  | switch (r : Reading)
deriving DecidableEq, Repr

/-- A word that several names start with. -/
structure Ambiguous where
  word : String
  names : List String
deriving DecidableEq, Repr

namespace Word

/-- What stands before the first equals sign, and what stands after it if there is one. -/
def splitAssignment (cs : List Char) : List Char × Attached :=
  let name := cs.takeWhile (· ≠ '=')
  match cs.drop name.length with
  | _ :: text => (name, .assigned text)
  | [] => (name, .none)

/-- Whether a word is a negative number. A line feed may follow it. -/
def isNegativeNumber : List Char → Bool
  | '-' :: cs =>
    let cs := if cs.getLast? = some '\n' then cs.dropLast else cs
    let rest := cs.dropWhile Text.isDigit
    match rest with
    | [] => !cs.isEmpty
    | '.' :: places => !places.isEmpty && places.all Text.isDigit
    | _ => false
  | _ => false

/-- The readings of a word by the start of its name, with the full names. -/
def readings (cs : List Char) : List (String × Reading) :=
  match cs with
  | '-' :: '-' :: _ =>
    let (name, attached) := splitAssignment cs
    (Switch.names.filter fun n => name.isPrefixOf n.1.toList).map fun n =>
      (n.1, ⟨n.2, false, attached⟩)
  | '-' :: c :: text =>
    match Switch.ofLetter? c with
    | some s => [(String.ofList ['-', c], ⟨s, true, .joined text⟩)]
    | none => []
  | _ => []

/-- A word that starts with a hyphen and is not the name of a switch. -/
def ofHyphened (cs : List Char) : Except Ambiguous Word :=
  match readings cs with
  | [(_, r)] => .ok (.switch r)
  | _ :: _ :: _ => .error ⟨String.ofList cs, (readings cs).map Prod.fst⟩
  | [] =>
    if isNegativeNumber cs || cs.contains ' ' then .ok (.value (String.ofList cs))
    else .ok (.unknown (String.ofList cs))

/-- A word before the separator. -/
def ofString (s : String) : Except Ambiguous Word :=
  match s.toList with
  | '-' :: c :: cs =>
    let isShort := c ≠ '-'
    match Switch.ofName? s with
    | some known => .ok (.switch ⟨known, isShort, .none⟩)
    | none =>
      let (name, attached) := splitAssignment ('-' :: c :: cs)
      match attached, Switch.ofName? (String.ofList name) with
      | .assigned text, some known => .ok (.switch ⟨known, isShort, .assigned text⟩)
      | _, _ => ofHyphened ('-' :: c :: cs)
  | _ => .ok (.value s)

/-- The words of a command line. -/
def ofStrings : List String → Except Ambiguous (List Word)
  | [] => .ok []
  | s :: rest =>
    if s = "--" then .ok (.separator :: rest.map .value)
    else
      match ofString s with
      | .error e => .error e
      | .ok w =>
        match ofStrings rest with
        | .error e => .error e
        | .ok ws => .ok (w :: ws)

end Word

end SchemaGen.CommandLine

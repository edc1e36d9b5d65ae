import SchemaGen.Xml.Scan

/-!
# The declaration at the start of a document

The declaration names the version, and may name the encoding and say whether the document stands
alone, in this order. Its text is read as assignments of quoted values to names.
-/

namespace SchemaGen.Xml

/-- What the declaration says, with the characters from the name of the encoding on. -/
structure Declaration where
  encoding? : Option (String × List Char) := none
  isStandalone : Bool := false
deriving Repr

/-- An assignment: the characters from its name on, the name, and the value with the characters
from it on. -/
structure Assignment where
  nameAt : List Char
  name : List Char
  value : List Char
  valueAt : List Char

/-- The characters of a value. -/
def isValueChar (c : Char) : Bool :=
  c.isAlphanum || c == '.' || c == '-' || c == '_'

/-- The next assignment, if there is one, and what follows it; the characters at fault otherwise. -/
def assignment (cs : List Char) : Except (List Char) (Option Assignment × List Char) :=
  match cs with
  | [] => .ok (none, cs)
  | c :: rest =>
    if !isSpace c then .error cs
    else
      match skipSpace rest with
      | [] => .ok (none, cs)
      | start =>
        let isNamePart (c : Char) : Bool := c.toNat < 0x80 && c != '=' && !isSpace c
        let name := start.takeWhile isNamePart
        let afterName := start.dropWhile isNamePart
        -- white space is skipped, then the sign has to follow
        match skipSpace afterName with
        | '=' :: afterSign =>
          if name.isEmpty then .error start
          else
            match skipSpace afterSign with
            | [] => .error []
            | q :: valueAt =>
              if q = '"' ∨ q = '\'' then
                match valueAt.dropWhile isValueChar with
                | [] => .error []
                | d :: after =>
                  if d = q then
                    .ok (some ⟨start, name, valueAt.takeWhile isValueChar, valueAt⟩, after)
                  else .error (d :: after)
              else .error (q :: valueAt)
        | bad => .error bad

/-- Reads the text between `<?xml` and `?>`; gives the characters at fault otherwise. -/
def Declaration.read (cs : List Char) : Except (List Char) Declaration := do
  let (first?, rest) ← assignment cs
  match first? with
  | none => throw cs
  | some first =>
    if String.ofList first.name ≠ "version" then throw first.nameAt
    let (second?, rest) ← assignment rest
    match second? with
    | none => pure {}
    | some second =>
      let mut d : Declaration := {}
      let mut last := second
      let mut rest := rest
      if String.ofList second.name = "encoding" then
        match second.value with
        | c :: _ => if !c.isAlpha then throw second.valueAt
        | [] => throw second.valueAt
        d := { d with encoding? := some (String.ofList second.value, second.valueAt) }
        let (third?, rest') ← assignment rest
        rest := rest'
        match third? with
        | none => return d
        | some third => last := third
      if String.ofList last.name ≠ "standalone" then throw last.nameAt
      match String.ofList last.value with
      | "yes" => d := { d with isStandalone := true }
      | "no" => pure ()
      | _ => throw last.valueAt
      match skipSpace rest with
      | [] => pure d
      | bad => throw bad

end SchemaGen.Xml

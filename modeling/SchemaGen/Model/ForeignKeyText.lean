import SchemaGen.Model.Table
import SchemaGen.Text.Blank
import SchemaGen.Text.Quoted

/-!
# Foreign keys as text

A model writes the column pairs of a relation into one text of entries `foreign=local`. A line feed,
with or without a carriage return before it, ends an entry, and so do the two characters backslash
and `n`. Blanks around names and entries do not count, and blank entries are passed over.
-/

namespace SchemaGen.Model.ForeignKeyText

/-- Puts a character in front of the first entry. -/
def consHead (c : Char) : List (List Char) → List (List Char)
  | [] => [[c]]
  | e :: es => (c :: e) :: es

/-- The entries of a text, blank ones included. -/
def entries : List Char → List (List Char)
  | [] => [[]]
  | '\\' :: 'n' :: rest => [] :: entries rest
  | '\r' :: '\n' :: rest => [] :: entries rest
  | '\n' :: rest => [] :: entries rest
  | c :: rest => consHead c (entries rest)

/-- An entry that is not of the form `foreign=local`, without the blanks around it. -/
structure Malformed where
  entry : String
deriving DecidableEq, Repr

def Malformed.message (e : Malformed) : String :=
  s!"Invalid foreign key field mapping: {Text.quoted e.entry}"

/-- The pair of an entry, nothing for a blank one. -/
def readEntry (cs : List Char) : Except Malformed (Option ColumnPair) :=
  match Text.trimChars cs with
  | [] => .ok none
  | entry =>
    let foreign := Text.trimChars (entry.takeWhile (· ≠ '='))
    let own := Text.trimChars ((entry.dropWhile (· ≠ '=')).drop 1)
    if '=' ∉ entry ∨ foreign = [] ∨ own = [] then .error ⟨String.ofList entry⟩
    else .ok (some ⟨String.ofList foreign, String.ofList own⟩)

/-- The pairs of some entries, up to the first malformed one. -/
def readEntries : List (List Char) → Except Malformed (List ColumnPair)
  | [] => .ok []
  | e :: es =>
    match readEntry e with
    | .error m => .error m
    | .ok none => readEntries es
    | .ok (some pair) =>
      match readEntries es with
      | .error m => .error m
      | .ok pairs => .ok (pair :: pairs)

/-- The column pairs that a text holds. -/
def read (text : String) : Except Malformed (List ColumnPair) :=
  readEntries (entries text.toList)

/-- The entry of a pair. -/
def writeEntry (pair : ColumnPair) : String :=
  pair.foreignColumn ++ "=" ++ pair.localColumn

/-- The text of some pairs, one entry a line. -/
def write (pairs : List ColumnPair) : String :=
  String.intercalate "\n" (pairs.map writeEntry)

end SchemaGen.Model.ForeignKeyText

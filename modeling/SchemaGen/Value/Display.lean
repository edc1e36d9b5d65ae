import SchemaGen.Number.Shortest
import SchemaGen.Text.Quoted
import SchemaGen.Value.Basic

/-!
# Values inside messages

`Value.quoted` is the form in which a value is named in a message: texts between quotes, lists in
square brackets, objects in braces. `Value.plain` differs on a text alone, which it leaves as it is.
-/

namespace SchemaGen.Value

open Text (quoted)

mutual

/-- The characters of a value in a message. -/
def shown : Value → List Char
  | null => "None".toList
  | bool true => "True".toList
  | bool false => "False".toList
  | int n => (toString n).toList
  | float x => x.shortest.toList
  | text s => (Text.quoted s).toList
  | list items => '[' :: shownItems items ++ [']']
  | object fields => '\x7b' :: shownFields fields ++ ['\x7d']

def shownItems : List Value → List Char
  | [] => []
  | [v] => shown v
  | v :: rest => shown v ++ ", ".toList ++ shownItems rest

def shownFields : List (String × Value) → List Char
  | [] => []
  | [(k, v)] => (Text.quoted k).toList ++ ": ".toList ++ shown v
  | (k, v) :: rest =>
    (Text.quoted k).toList ++ ": ".toList ++ shown v ++ ", ".toList ++ shownFields rest

end

/-- A value in a message, a text between quotes. -/
def quoted (v : Value) : String := String.ofList v.shown

/-- A value in a message, a text as it is. -/
def plain : Value → String
  | text s => s
  | v => v.quoted

end SchemaGen.Value

import SchemaGen.Number.Shortest
import SchemaGen.Text.Quoted
import SchemaGen.Value.Basic

/-!
# Writing JSON

The text of a value without any white space. Characters beyond ASCII stand as they are; the three
numbers that the standard has no form for are written as the words that `Json.read` takes for them.
-/

namespace SchemaGen.Json

open Number (Binary64)

/-- One character of a string. -/
def writtenChar (c : Char) : List Char :=
  if c = '"' ∨ c = '\\' then ['\\', c]
  else if c.toNat < 0x20 then '\\' :: 'u' :: Text.hexDigits 4 c.toNat
  else [c]

def writtenString (s : String) : List Char :=
  '"' :: s.toList.flatMap writtenChar ++ ['"']

def writtenNumber (x : Binary64) : List Char :=
  if x.isNaN then "NaN".toList
  else if x.isInfinite then (if x.isNegative then "-Infinity" else "Infinity").toList
  else x.shortest.toList

mutual

def written : Value → List Char
  | .null => "null".toList
  | .bool true => "true".toList
  | .bool false => "false".toList
  | .int n => (toString n).toList
  | .float x => writtenNumber x
  | .text s => writtenString s
  | .list items => '[' :: writtenItems items ++ [']']
  | .object fields => '\x7b' :: writtenFields fields ++ ['\x7d']

def writtenItems : List Value → List Char
  | [] => []
  | [v] => written v
  | v :: rest => written v ++ ',' :: writtenItems rest

def writtenFields : List (String × Value) → List Char
  | [] => []
  | [(k, v)] => writtenString k ++ ':' :: written v
  | (k, v) :: rest => writtenString k ++ ':' :: (written v ++ ',' :: writtenFields rest)

end

/-- The text of a value. -/
def write (v : Value) : String := String.ofList (written v)

end SchemaGen.Json

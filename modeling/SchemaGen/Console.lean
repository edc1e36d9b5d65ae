/-!
# What is shown on the console

The items that a run shows one after the other. Texts may hold markup; how an item is drawn is not
settled here, and neither is which markup cannot be drawn. A console refuses an item that it cannot
draw.
-/

namespace SchemaGen.Console

/-- What stands in a panel. -/
inductive Body where
  | text (s : String)
  | code (source : String)
deriving DecidableEq, Repr

/-- An item on the console. -/
inductive Item where
  | blank
  | line (text : String)
  | panel (title border : String) (body : Body)
  | table (title : String) (columns : List String) (rows : List (List String))
deriving DecidableEq, Repr

/-- Why an item is not shown. -/
structure Refusal where
  message : String
deriving DecidableEq, Repr

end SchemaGen.Console

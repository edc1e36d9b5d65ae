/-!
# Sets of code points as run lengths

The properties of characters that the library needs (word characters, printable characters, blanks
and the like) are fixed sets of code points, made of a few hundred intervals. Such a set is written
here as a list of lengths, alternately a stretch of code points outside the set and one inside it,
from code point zero on. `contains` walks the list and counts off a stretch before the next one
begins.
-/

namespace SchemaGen.Text

/-- Stretches outside and inside a set of code points by turns, beginning with one outside. -/
abbrev Runs := List Nat

/-- Whether code point `c`, counted from the start of the first stretch, lies in a stretch inside.
-/
def Runs.contains : Runs → Nat → Bool
  | skip :: take :: rest, c =>
    if c < skip then false
    else if c < skip + take then true
    else contains rest (c - (skip + take))
  | _, _ => false

end SchemaGen.Text

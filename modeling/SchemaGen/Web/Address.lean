import SchemaGen.Text.Pieces

/-!
# Numeric addresses

Whether a text is the numeric address of a host: four decimal octets, or eight groups of hexadecimal
digits of which a run of empty ones may be written `::` and the last two as four octets.
-/

namespace SchemaGen.Web.Address

open Text (pieces)

def isHexDigit (c : Char) : Bool :=
  c.isDigit || ('a' ≤ c && c ≤ 'f') || ('A' ≤ c && c ≤ 'F')

/-- A decimal octet without leading zeros. -/
def isOctet (cs : List Char) : Bool :=
  !cs.isEmpty && cs.all Char.isDigit && decide (cs.length ≤ 3) &&
    (cs == ['0'] || cs.head? != some '0') &&
    decide (cs.foldl (fun n d => n * 10 + (d.toNat - '0'.toNat)) 0 ≤ 255)

/-- An address of four octets. -/
def isFourOctets (cs : List Char) : Bool :=
  let parts := pieces ['.'] cs
  parts.length == 4 && parts.all isOctet

/-- A group of hexadecimal digits. -/
def isGroup (cs : List Char) : Bool :=
  !cs.isEmpty && decide (cs.length ≤ 4) && cs.all isHexDigit

/-- The groups of an address, where four octets at the end count as two groups; nothing if what
stands there is not four octets. -/
def groups? (cs : List Char) : Option (List (List Char)) :=
  let parts := pieces [':'] cs
  if parts.length < 3 then none
  else
    match parts.getLast? with
    | none => none
    | some last =>
      if last.contains '.' then
        if isFourOctets last then some (parts.dropLast ++ [['0'], ['0']]) else none
      else some parts

/-- The groups on one side of a run: none where an empty group stands for the end of the address. -/
def side (gs : List (List Char)) : List (List Char) :=
  if gs = [[]] then [] else gs

/-- The groups before and after the first empty group that is neither the first nor the last one. -/
def splitAtRun (gs : List (List Char)) : Option (List (List Char) × List (List Char)) :=
  match gs with
  | [] => none
  | first :: rest =>
    let before := rest.takeWhile (· ≠ [])
    let after := rest.drop before.length
    if after.length < 2 then none else some (first :: before, after.drop 1)

/-- An address of eight groups. -/
def isEightGroups (cs : List Char) : Bool :=
  match groups? cs with
  | none => false
  | some gs =>
    decide (gs.length ≤ 9) &&
      match splitAtRun gs with
      | none => gs.length == 8 && gs.all isGroup
      | some (before, after) =>
        (side before).all isGroup && (side after).all isGroup &&
          decide ((side before).length + (side after).length < 8)

/-- An address of eight groups, which may name its zone after a percent sign. -/
def isZoned (cs : List Char) : Bool :=
  let zone := (cs.dropWhile (· ≠ '%')).drop 1
  !cs.contains '/' && (!cs.contains '%' || (!zone.isEmpty && !zone.contains '%')) &&
    isEightGroups (cs.takeWhile (· ≠ '%'))

end SchemaGen.Web.Address

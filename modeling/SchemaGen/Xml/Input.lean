import SchemaGen.Xml.Charset

/-!
# From octets to characters

A document is a string of octets. The first octets and the declaration at its start say how they are
read; `Encoding.decode` then gives the characters up to the end or up to the first octets that are
no character, and what stands there (`Ending`). Whatever reads the characters meets the ending last,
so a fault in the octets shows only where it is reached.
-/

namespace SchemaGen.Xml

/-- What follows the last character of a text. The numbers count the code units that are left. -/
inductive Ending where
  /-- Nothing. -/
  | clean
  /-- Half of a code unit of two octets. -/
  | half
  /-- The beginning of a character. -/
  | cut (units : Nat)
  /-- Something that is no character, and whether it starts like one of several code units. -/
  | invalid (units : Nat) (isLead : Bool)
deriving DecidableEq, Repr

/-- What the signs of names are told by. -/
inductive Alphabet where
  | utf8
  | utf16
  | latin1
  | table
deriving DecidableEq, Repr

/-- An encoding of characters. -/
inductive Encoding where
  | utf8
  | utf16 (bigEndian : Bool)
  | latin1
  | ascii
  /-- One octet to a character: those below `start` stand for themselves. -/
  | table (start : Nat) (chars : String)
deriving DecidableEq, Repr

/-- Whether a code point is a character of a document. -/
def isDocumentChar (n : Nat) : Bool :=
  n == 9 || n == 10 || n == 13 || (0x20 ≤ n && n < 0xD800) || (0xE000 ≤ n && n < 0xFFFE) ||
    (0x10000 ≤ n && n < 0x110000)

namespace Encoding

/-- Whether an octet goes on with a character in UTF-8. -/
def isContinuation (b : UInt8) : Bool := 0x80 ≤ b && b < 0xC0

/-- The characters of `acc`, the last one first, where octets that are no character follow. -/
def invalidUtf8 (acc : List Char) (a : UInt8) (rest : List UInt8) : List Char × Ending :=
  (acc.reverse, .invalid (rest.length + 1) (0xC0 ≤ a && a ≤ 0xF4))

/-- The characters of `acc`, the last one first, where the beginning of one follows. -/
def cutUtf8 (acc : List Char) (rest : List UInt8) : List Char × Ending :=
  (acc.reverse, .cut (rest.length + 1))

/-- Reads UTF-8. `acc` holds the characters read so far, the last one first. -/
def decodeUtf8 (acc : List Char) : List UInt8 → List Char × Ending
  | [] => (acc.reverse, .clean)
  | a :: rest =>
    if a < 0x80 then
      if isDocumentChar a.toNat then decodeUtf8 (Char.ofNat a.toNat :: acc) rest
      else invalidUtf8 acc a rest
    else if a < 0xC0 ∨ 0xF4 < a then invalidUtf8 acc a rest
    else if a < 0xE0 then
      match rest with
      | b :: rest' =>
        if a < 0xC2 ∨ !isContinuation b then invalidUtf8 acc a rest
        else decodeUtf8 (Char.ofNat (a.toNat % 32 * 64 + b.toNat % 64) :: acc) rest'
      | [] => cutUtf8 acc rest
    else if a < 0xF0 then
      match rest with
      | b :: c :: rest' =>
        let n := a.toNat % 16 * 4096 + b.toNat % 64 * 64 + c.toNat % 64
        if isContinuation b && isContinuation c && 0x800 ≤ n && isDocumentChar n then
          decodeUtf8 (Char.ofNat n :: acc) rest'
        else invalidUtf8 acc a rest
      | _ => cutUtf8 acc rest
    else
      match rest with
      | b :: c :: d :: rest' =>
        let n := a.toNat % 8 * 262144 + b.toNat % 64 * 4096 + c.toNat % 64 * 64 + d.toNat % 64
        if isContinuation b && isContinuation c && isContinuation d && 0x10000 ≤ n &&
            isDocumentChar n then
          decodeUtf8 (Char.ofNat n :: acc) rest'
        else invalidUtf8 acc a rest
      | _ => cutUtf8 acc rest

/-- Reads UTF-16. The first half of a pair takes whatever unit follows for the second. -/
def decodeUtf16 (bigEndian : Bool) (acc : List Char) : List UInt8 → List Char × Ending
  | [] => (acc.reverse, .clean)
  | [_] => (acc.reverse, .half)
  | a :: b :: rest =>
    let unit (x y : UInt8) : Nat :=
      if bigEndian then x.toNat * 256 + y.toNat else y.toNat * 256 + x.toNat
    let n := unit a b
    if 0xD800 ≤ n ∧ n < 0xDC00 then
      match rest with
      | c :: d :: rest' =>
        let code := 0x10000 + n % 1024 * 1024 + unit c d % 1024
        decodeUtf16 bigEndian (Char.ofNat code :: acc) rest'
      | _ => (acc.reverse, .cut (rest.length / 2 + 1))
    else if isDocumentChar n then decodeUtf16 bigEndian (Char.ofNat n :: acc) rest
    else (acc.reverse, .invalid (rest.length / 2 + 1) false)

/-- Reads an encoding of one octet to a character. -/
def decodeOctets (charOf : UInt8 → Option Char) (acc : List Char) :
    List UInt8 → List Char × Ending
  | [] => (acc.reverse, .clean)
  | b :: rest =>
    match charOf b with
    | some c =>
      if isDocumentChar c.toNat then decodeOctets charOf (c :: acc) rest
      else (acc.reverse, .invalid (rest.length + 1) false)
    | none => (acc.reverse, .invalid (rest.length + 1) false)

/-- The character that an octet stands for by a table. -/
def tableChar (start : Nat) (chars : Array Char) (b : UInt8) : Option Char :=
  if b.toNat < start then some (Char.ofNat b.toNat)
  else chars[b.toNat - start]?.filter (· ≠ '\uFFFD')

/-- The characters of some octets, and what follows them. -/
def decode : Encoding → List UInt8 → List Char × Ending
  | utf8, octets => decodeUtf8 [] octets
  | utf16 bigEndian, octets => decodeUtf16 bigEndian [] octets
  | latin1, octets => decodeOctets (fun b => some (Char.ofNat b.toNat)) [] octets
  | ascii, octets =>
    decodeOctets (fun b => if b < 0x80 then some (Char.ofNat b.toNat) else none) [] octets
  | table start chars, octets => decodeOctets (tableChar start chars.toList.toArray) [] octets

/-- How the signs of names are told in an encoding. -/
def alphabet : Encoding → Alphabet
  | utf8 | ascii => .utf8
  | utf16 _ => .utf16
  | latin1 => .latin1
  | table _ _ => .table

/-- The number of code units of a character. -/
def units : Encoding → Char → Nat
  | utf8, c => c.utf8Size
  | utf16 _, c => if c.toNat < 0x10000 then 1 else 2
  | latin1, _ | ascii, _ | table _ _, _ => 1

/-- The encoding that the first octets of a document show, and how many of them are a byte order
mark; nothing if they are too few to tell. -/
def detect : List UInt8 → Option (Encoding × Nat)
  | [] => some (utf8, 0)
  | [b] => if b ∈ [0xFE, 0xFF, 0xEF, 0x00, 0x3C] then none else some (utf8, 0)
  | a :: b :: rest =>
    if a = 0xFE ∧ b = 0xFF then some (utf16 true, 2)
    else if a = 0xFF ∧ b = 0xFE then some (utf16 false, 2)
    else if a = 0xEF ∧ b = 0xBB then
      match rest with
      | [] => none
      | c :: _ => if c = 0xBF then some (utf8, 3) else some (utf8, 0)
    else if a = 0x00 then some (utf16 true, 0)
    else if b = 0x00 then some (utf16 false, 0)
    else some (utf8, 0)

/-- What a declared name asks for, when the document has been read in an encoding so far. -/
inductive Choice where
  | use (e : Encoding)
  /-- The name belongs to an encoding with code units of another size. -/
  | incorrect
  | incompatible
  | multiOctet
  | notText
  | failing (fault : CharsetFault)
  | unknown

/-- The size of a code unit in octets. -/
def unitSize : Encoding → Nat
  | utf16 _ => 2
  | utf8 | latin1 | ascii | table _ _ => 1

/-- Whether two texts are the same but for the case of ASCII letters. -/
def sameName (a b : String) : Bool := a.toList.map Char.toLower == b.toList.map Char.toLower

/-- The native encoding of a name. The name UTF-16 alone leaves the order of octets open. -/
def native? (current : Encoding) (name : String) : Option Encoding :=
  if sameName name "utf-16" then
    match current with
    | utf16 b => some (utf16 b)
    | _ => some (utf16 true)
  else if sameName name "utf-8" then some utf8
  else if sameName name "iso-8859-1" then some latin1
  else if sameName name "us-ascii" then some ascii
  else if sameName name "utf-16be" then some (utf16 true)
  else if sameName name "utf-16le" then some (utf16 false)
  else none

/-- The encoding that a declaration asks for. -/
def choose (current : Encoding) (name : String) : Choice :=
  match native? current name with
  | some e =>
    if e.unitSize ≠ current.unitSize ∨ (e.unitSize = 2 ∧ e ≠ current) then .incorrect else .use e
  | none =>
    match charset? name with
    | some (.octets start chars) => .use (table start chars)
    | some .multiOctet => .multiOctet
    | some .incompatible => .incompatible
    | some .notText => .notText
    | some (.failing fault) => .failing fault
    | none => .unknown

end Encoding

end SchemaGen.Xml

/-!
# Reading and writing UTF-8

`decode` reads octets as UTF-8 and stops at the first octet that rules the text out, with the reason
and the stretch of octets at fault. `encode` writes a text.
-/

namespace SchemaGen.Text.Utf8

/-- Why octets are not UTF-8. -/
inductive Reason where
  | invalidStart
  | invalidContinuation
  | unexpectedEnd
deriving DecidableEq, Repr

def Reason.message : Reason → String
  | invalidStart => "invalid start byte"
  | invalidContinuation => "invalid continuation byte"
  | unexpectedEnd => "unexpected end of data"

/-- Octets at fault: from `start`, `octets` in number. -/
structure Error where
  start : Nat
  octets : List UInt8
  reason : Reason
deriving DecidableEq, Repr

def hexByte (b : UInt8) : String :=
  let digits := Nat.toDigits 16 b.toNat
  String.ofList (List.replicate (2 - digits.length) '0' ++ digits)

def Error.message (e : Error) : String :=
  let place := match e.octets with
    | [b] => s!"byte 0x{hexByte b} in position {e.start}"
    | bs => s!"bytes in position {e.start}-{e.start + bs.length - 1}"
  s!"'utf-8' codec can't decode {place}: {e.reason.message}"

/-- How many octets follow a first octet, and the least and the greatest that the next may be. -/
def lead? (b : UInt8) : Option (Nat × UInt8 × UInt8) :=
  if b < 0x80 then some (0, 0x80, 0xBF)
  else if b < 0xC2 then none
  else if b < 0xE0 then some (1, 0x80, 0xBF)
  else if b = 0xE0 then some (2, 0xA0, 0xBF)
  else if b = 0xED then some (2, 0x80, 0x9F)
  else if b < 0xF0 then some (2, 0x80, 0xBF)
  else if b = 0xF0 then some (3, 0x90, 0xBF)
  else if b < 0xF4 then some (3, 0x80, 0xBF)
  else if b = 0xF4 then some (3, 0x80, 0x8F)
  else none

/-- The value that a first octet contributes, where `following` octets come after it. -/
def leadBits (b : UInt8) : (following : Nat) → Nat
  | 0 => b.toNat
  | 1 => b.toNat % 32
  | 2 => b.toNat % 16
  | _ => b.toNat % 8

/-- The characters of some octets. `seen` holds the octets of the character being read, the last one
first; `owed` octets are still to come, the next between `low` and `high`; `code` is the value so
far and `start` the offset of the next octet. -/
def decodeFrom (start : Nat) (seen : List UInt8) (owed : Nat) (low high : UInt8) (code : Nat)
    (acc : List Char) : List UInt8 → Except Error (List Char)
  | [] =>
    if owed = 0 then .ok acc.reverse
    else .error ⟨start - seen.length, seen.reverse, .unexpectedEnd⟩
  | b :: rest =>
    match owed with
    | 0 =>
      match lead? b with
      | none => .error ⟨start, [b], .invalidStart⟩
      | some (0, _, _) => decodeFrom (start + 1) [] 0 0x80 0xBF 0 (Char.ofNat b.toNat :: acc) rest
      | some (n, low, high) => decodeFrom (start + 1) [b] n low high (leadBits b n) acc rest
    | owed + 1 =>
      if low ≤ b ∧ b ≤ high then
        let code := code * 64 + b.toNat % 64
        if owed = 0 then
          decodeFrom (start + 1) [] 0 0x80 0xBF 0 (Char.ofNat code :: acc) rest
        else decodeFrom (start + 1) (b :: seen) owed 0x80 0xBF code acc rest
      else .error ⟨start - seen.length, seen.reverse, .invalidContinuation⟩

/-- Reads octets as UTF-8. -/
def decode (octets : List UInt8) : Except Error String :=
  (decodeFrom 0 [] 0 0x80 0xBF 0 [] octets).map String.ofList

/-- The octets of a character. -/
def encodeChar (c : Char) : List UInt8 :=
  let n := c.toNat
  let tail (k : Nat) : UInt8 := UInt8.ofNat (0x80 + k % 64)
  if n < 0x80 then [UInt8.ofNat n]
  else if n < 0x800 then [UInt8.ofNat (0xC0 + n / 64), tail n]
  else if n < 0x10000 then [UInt8.ofNat (0xE0 + n / 4096), tail (n / 64), tail n]
  else [UInt8.ofNat (0xF0 + n / 262144), tail (n / 4096), tail (n / 64), tail n]

/-- The octets of a text. -/
def encode (s : String) : List UInt8 := s.toList.flatMap encodeChar

end SchemaGen.Text.Utf8

import SchemaGen.Number.Binary64
import SchemaGen.Value.Basic

/-!
# Reading JSON

`Json.read` reads one value from a text. Beyond the standard it takes the three words `NaN`,
`Infinity` and `-Infinity` for numbers; of several members with one key the last value counts, at
the place of the first. A text that goes beyond some limit is refused: a number of too many digits,
values nested too deeply, half of a surrogate pair. An `Error` carries the cause and the offset of
the character at fault, and its message names line and column as well. While reading, a position is
what is left of the text, and becomes an offset at the end.
-/

namespace SchemaGen.Json

open Number (Binary64)

/-- What can be wrong with a text that should be JSON. -/
inductive Cause where
  | byteOrderMark
  | noValue
  | noKey
  | noColon
  | noComma
  | extraData
  | unterminatedString
  | controlCharacter
  | badEscape
  | badUnicodeEscape
  /-- A whole number with more digits than are taken. -/
  | longNumber (digits : Nat)
  /-- Arrays and objects nested more deeply than is taken; the flag tells of an object. -/
  | tooDeep (inObject : Bool)
  /-- Half of a surrogate pair that stands alone. Texts are made of characters, and it is none. -/
  | loneSurrogate
deriving DecidableEq, Repr

/-- The words for a cause. -/
def Cause.message : Cause → String
  | byteOrderMark => "Unexpected UTF-8 BOM (decode using utf-8-sig)"
  | noValue => "Expecting value"
  | noKey => "Expecting property name enclosed in double quotes"
  | noColon => "Expecting ':' delimiter"
  | noComma => "Expecting ',' delimiter"
  | extraData => "Extra data"
  | unterminatedString => "Unterminated string starting at"
  | controlCharacter => "Invalid control character at"
  | badEscape => "Invalid \\escape"
  | badUnicodeEscape => "Invalid \\uXXXX escape"
  | longNumber digits =>
    "Exceeds the limit (4300 digits) for integer string conversion: " ++
      s!"value has {digits} digits; use sys.set_int_max_str_digits() to increase the limit"
  | tooDeep inObject =>
    let kind := if inObject then "object" else "array"
    s!"maximum recursion depth exceeded while decoding a JSON {kind} from a unicode string"
  | loneSurrogate => "surrogates not allowed"

/-- Whether the text is JSON, but beyond what is taken. -/
def Cause.isLimit : Cause → Bool
  | longNumber _ => true
  | tooDeep _ => true
  | loneSurrogate => true
  | _ => false

/-- The most digits that a whole number may have. -/
def maxDigits : Nat := 4300

/-- The most arrays and objects that may be open at once. -/
def maxDepth : Nat := 985

/-- A cause with what was left of the text at the character at fault. -/
structure Fault where
  cause : Cause
  rest : List Char
deriving Repr

/-- The result of reading a part of the text: what was read, and what is left. -/
abbrev Step (α : Type) := Except Fault (α × List Char)

def fail {α : Type} (cause : Cause) (rest : List Char) : Except Fault α := .error ⟨cause, rest⟩

/-- The white space between the parts of a value. -/
def isSpace (c : Char) : Bool := c == ' ' || c == '\t' || c == '\n' || c == '\r'

def skipSpace (cs : List Char) : List Char := cs.dropWhile isSpace

def hexValue? (c : Char) : Option Nat :=
  if '0' ≤ c ∧ c ≤ '9' then some (c.toNat - '0'.toNat)
  else if 'a' ≤ c ∧ c ≤ 'f' then some (c.toNat - 'a'.toNat + 10)
  else if 'A' ≤ c ∧ c ≤ 'F' then some (c.toNat - 'A'.toNat + 10)
  else none

/-- Four hexadecimal digits, which a further character has to follow. -/
def hexFour? : List Char → Option (Nat × List Char)
  | a :: b :: c :: d :: x :: rest => do
    let a ← hexValue? a
    let b ← hexValue? b
    let c ← hexValue? c
    let d ← hexValue? d
    pure (a * 4096 + b * 256 + c * 16 + d, x :: rest)
  | _ => none

def isHighSurrogate (n : Nat) : Bool := 0xD800 ≤ n && n < 0xDC00

def isLowSurrogate (n : Nat) : Bool := 0xDC00 ≤ n && n < 0xE000

def isSurrogate (n : Nat) : Bool := isHighSurrogate n || isLowSurrogate n

/-- The character of a code unit, U+FFFD for half of a pair that stands alone, which is refused in
the end. -/
def ofUnit (n : Nat) : Char := if isSurrogate n then '\uFFFD' else Char.ofNat n

/-- What follows `\u`, where `start` is the text from the letter `u` on. -/
def readUnit (start cs : List Char) : Step Char :=
  match hexFour? cs with
  | none => fail .badUnicodeEscape start
  | some (n, rest) =>
    match rest with
    | '\\' :: 'u' :: more =>
      -- a second unit is looked at only when a character is left after it
      if isHighSurrogate n && decide (5 ≤ more.length) then
        match hexFour? more with
        | none => fail .badUnicodeEscape ('u' :: more)
        | some (m, rest') =>
          if isLowSurrogate m then
            .ok (Char.ofNat (0x10000 + (n - 0xD800) * 0x400 + (m - 0xDC00)), rest')
          else .ok (ofUnit n, rest)
      else .ok (ofUnit n, rest)
    | _ => .ok (ofUnit n, rest)

/-- The character of a one-letter escape. -/
def escape? : Char → Option Char
  | '"' => some '"'
  | '\\' => some '\\'
  | '/' => some '/'
  | 'b' => some '\x08'
  | 'f' => some '\x0c'
  | 'n' => some '\n'
  | 'r' => some '\r'
  | 't' => some '\t'
  | _ => none

/-- The rest of a string, where `start` is the text from its opening quote on and `acc` holds the
characters read so far, the last one first. -/
def readString (start : List Char) : Nat → List Char → List Char → Step String
  | 0, _, _ => fail .unterminatedString start
  | fuel + 1, acc, cs =>
    match cs with
    | [] => fail .unterminatedString start
    | '"' :: rest => .ok (String.ofList acc.reverse, rest)
    | '\\' :: rest =>
      match rest with
      | [] => fail .unterminatedString start
      | 'u' :: digits =>
        match readUnit rest digits with
        | .error e => .error e
        | .ok (c, rest') => readString start fuel (c :: acc) rest'
      | e :: rest' =>
        match escape? e with
        | some c => readString start fuel (c :: acc) rest'
        | none => fail .badEscape cs
    | c :: rest =>
      if c.toNat < 0x20 then fail .controlCharacter cs
      else readString start fuel (c :: acc) rest

/-- The value of some decimal digits. -/
def natOfDigits (ds : List Char) : Nat :=
  ds.foldl (fun n d => n * 10 + (d.toNat - '0'.toNat)) 0

/-- The digits at the start of a text, and what follows them. -/
def spanDigits (cs : List Char) : List Char × List Char :=
  (cs.takeWhile Char.isDigit, cs.dropWhile Char.isDigit)

/-- The digits of a fraction, if the text goes on with one. -/
def fraction (cs : List Char) : List Char × List Char :=
  match cs with
  | '.' :: d :: rest => if d.isDigit then spanDigits (d :: rest) else ([], cs)
  | _ => ([], cs)

/-- The exponent, if the text goes on with one. -/
def exponent (cs : List Char) : Option Int × List Char :=
  match cs with
  | e :: rest =>
    if e = 'e' ∨ e = 'E' then
      let (negative, rest) := match rest with
        | '-' :: r => (true, r)
        | '+' :: r => (false, r)
        | r => (false, r)
      let (ds, after) := spanDigits rest
      if ds.isEmpty then (none, cs)
      else (some (if negative then -(natOfDigits ds : Int) else natOfDigits ds), after)
    else (none, cs)
  | [] => (none, cs)

/-- A number, where `start` is the text from its sign on. -/
def readNumber (start : List Char) : Step Value :=
  let (negative, cs) := match start with
    | '-' :: r => (true, r)
    | r => (false, r)
  let (whole, rest) := match cs with
    | '0' :: r => (['0'], r)
    | r => spanDigits r
  if whole.isEmpty then fail .noValue start
  else
    let (places, rest) := fraction rest
    let (exp?, rest) := exponent rest
    if places.isEmpty && exp?.isNone then
      if maxDigits < whole.length then fail (.longNumber whole.length) start
      else
        let n := natOfDigits whole
        .ok (.int (if negative then -(n : Int) else n), rest)
    else
      let e : Int := exp?.getD 0 - places.length
      .ok (.float (Binary64.ofDecimal negative (natOfDigits (whole ++ places)) e), rest)

/-- The words that stand for values. -/
def words : List (List Char × Value) :=
  [("null".toList, .null), ("true".toList, .bool true), ("false".toList, .bool false),
   ("NaN".toList, .float .nan), ("Infinity".toList, .float (.infinity false)),
   ("-Infinity".toList, .float (.infinity true))]

/-- The word at the start of a text. -/
def word? (cs : List Char) : Option (Value × List Char) :=
  words.findSome? fun (w, v) => (w.isPrefixOf? cs).map (v, ·)

mutual

/-- One value of a text of less than `size` characters. `depth` tells how many arrays and objects
may still be opened. -/
def readValue (size fuel depth : Nat) (cs : List Char) : Step Value :=
  match fuel with
  | 0 => fail .noValue cs
  | fuel + 1 =>
    match cs with
    | '"' :: rest =>
      match readString cs size [] rest with
      | .ok (s, rest') => .ok (.text s, rest')
      | .error e => .error e
    | '[' :: rest =>
      if depth = 0 then fail (.tooDeep false) cs
      else
        match skipSpace rest with
        | ']' :: rest' => .ok (.list [], rest')
        | rest' => readItems size fuel (depth - 1) [] rest'
    | '\x7b' :: rest =>
      if depth = 0 then fail (.tooDeep true) cs
      else
        match skipSpace rest with
        | '\x7d' :: rest' => .ok (.object [], rest')
        | rest' => readMembers size fuel (depth - 1) [] rest'
    | _ =>
      match word? cs with
      | some r => .ok r
      | none => readNumber cs

/-- The items of an array up to its end; `acc` holds those read so far, the last one first. -/
def readItems (size fuel depth : Nat) (acc : List Value) (cs : List Char) : Step Value :=
  match fuel with
  | 0 => fail .noValue cs
  | fuel + 1 =>
    match readValue size fuel depth cs with
    | .error e => .error e
    | .ok (v, rest) =>
      match skipSpace rest with
      | ']' :: rest' => .ok (.list (v :: acc).reverse, rest')
      | ',' :: rest' => readItems size fuel depth (v :: acc) (skipSpace rest')
      | rest' => fail .noComma rest'

/-- The members of an object up to its end. -/
def readMembers (size fuel depth : Nat) (acc : List (String × Value)) (cs : List Char) :
    Step Value :=
  match fuel with
  | 0 => fail .noValue cs
  | fuel + 1 =>
    match cs with
    | '"' :: rest =>
      match readString cs size [] rest with
      | .error e => .error e
      | .ok (key, rest') =>
        match skipSpace rest' with
        | ':' :: rest'' =>
          match readValue size fuel depth (skipSpace rest'') with
          | .error e => .error e
          | .ok (v, rest3) =>
            match skipSpace rest3 with
            | '\x7d' :: rest4 => .ok (.object (Entries.set acc key v), rest4)
            | ',' :: rest4 => readMembers size fuel depth (Entries.set acc key v) (skipSpace rest4)
            | rest4 => fail .noComma rest4
        | rest'' => fail .noColon rest''
    | _ => fail .noKey cs

end

/-- A cause with the offset of the character at fault. -/
structure Error where
  cause : Cause
  text : List Char
  offset : Nat
deriving Repr

/-- The message names the line and the column from one on, the offset from zero. That of a text
which goes beyond a limit names no place. -/
def Error.message (e : Error) : String :=
  if e.cause.isLimit then e.cause.message
  else
    let before := e.text.take e.offset
    let line := before.count '\n' + 1
    let column := (before.reverse.takeWhile (· != '\n')).length + 1
    s!"{e.cause.message}: line {line} column {column} (char {e.offset})"

/-- The code units that a text writes as `\u` with four digits, with a gap for all else. -/
def escapedUnits : List Char → List (Option Nat)
  | '\\' :: 'u' :: a :: b :: c :: d :: rest =>
    (hexFour? [a, b, c, d, ' ']).map Prod.fst :: escapedUnits rest
  | '\\' :: _ :: rest => none :: escapedUnits rest
  | _ :: rest => none :: escapedUnits rest
  | [] => []

/-- Whether half of a surrogate pair stands alone among code units. -/
def hasLoneSurrogate : List (Option Nat) → Bool
  | some n :: some m :: rest =>
    if isHighSurrogate n && isLowSurrogate m then hasLoneSurrogate rest
    else isSurrogate n || hasLoneSurrogate (some m :: rest)
  | some n :: rest => isSurrogate n || hasLoneSurrogate rest
  | none :: rest => hasLoneSurrogate rest
  | [] => false

/-- Reads a text that holds one value and white space. -/
def read (s : String) : Except Error Value :=
  let cs := s.toList
  let located (f : Fault) : Error := ⟨f.cause, cs, cs.length - f.rest.length⟩
  if cs.head? = some '\uFEFF' then .error ⟨.byteOrderMark, cs, 0⟩
  else
    match readValue (cs.length + 1) (2 * cs.length + 2) maxDepth (skipSpace cs) with
    | .error f => .error (located f)
    | .ok (v, rest) =>
      match skipSpace rest with
      | [] => if hasLoneSurrogate (escapedUnits cs) then .error ⟨.loneSurrogate, cs, 0⟩ else .ok v
      | rest' => .error (located ⟨.extraData, rest'⟩)

end SchemaGen.Json

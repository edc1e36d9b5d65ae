import SchemaGen.Text.Utf8
import SchemaGen.Xml.Declaration
import SchemaGen.Xml.Element
import SchemaGen.Xml.Namespaces
import SchemaGen.Xml.Prolog.Grammar

/-!
# Documents

`Document.read` reads the root element of a document, given as octets or as a text. A document is
read from its start to its end, and the first fault decides; so the elements that are open are kept
on a stack, and the text of an entity is read in the place of the reference to it. A fault inside
the text of an entity is put down to the outermost reference.
-/

namespace SchemaGen.Xml

namespace Document

/-- An element that is open: its name as written, what its tag opened, and the elements inside so
far, the last one first. -/
structure OpenElement where
  name : List Char
  opened : Opened
  children : List Element

def OpenElement.close (e : OpenElement) : Element :=
  .mk e.opened.tag e.opened.attributes e.children.reverse

/-- A text that is left for the text of an entity: the entity, the characters after the reference,
and how many elements were open. -/
structure Suspended where
  entity : List Char
  rest : List Char
  depth : Nat

/-- The state inside the root element. -/
structure Content where
  rest : List Char
  /-- The texts that are left, the innermost one first. -/
  suspended : List Suspended := []
  /-- The characters from the outermost reference on. -/
  outermost : List Char := []
  elements : List OpenElement := []
  /-- The octets spent on entities. -/
  spent : Nat := 0

/-- What stays the same while a document is read. -/
structure Setting where
  reading : Reading
  dtd : Dtd
  /-- The octets of the whole document. -/
  size : Nat
  /-- The number of code units of a character. -/
  units : Char → Nat

/-- The octets that may be spent on any document. -/
def freeOctets : Nat := 8388608

/-- How many times the octets of a document may be spent beyond that. -/
def maxFactor : Nat := 100

/-- Whether the octets spent are too many when `rest` of the document is left. -/
def isTooMuch (size : Nat) (rest : List Char) (spent : Nat) : Bool :=
  if size + spent < freeOctets then false
  else
    let direct := size - octetCount rest
    direct + spent ≥ freeOctets && direct + spent > maxFactor * direct

/-- The characters up to the next one that may have a meaning of its own. -/
def skipData : List Char → List Char
  | [] => []
  | ']' :: ']' :: '>' :: rest => ']' :: ']' :: '>' :: rest
  | c :: rest => if c = '<' ∨ c = '&' then c :: rest else skipData rest

namespace Content

/-- The reading of the text at hand: that of an entity is known to the end. -/
def reading (s : Setting) (c : Content) : Reading :=
  if c.suspended.isEmpty then s.reading else innerReading

/-- How many characters of the document are left from a place in the text at hand on. -/
def left (c : Content) (place : List Char) : Nat :=
  if c.suspended.isEmpty then place.length else c.outermost.length

/-- A fault at a place in the text at hand. -/
def fault {α : Type} (c : Content) (cause : Cause) (place : List Char) : Except Fault α :=
  .error ⟨cause, c.left place⟩

/-- The fault of a token that starts with `start` and could not be read. -/
def stopped {α : Type} (c : Content) (start : List Char) : Stop → Except Fault α
  | .unfinished => c.fault .unclosedToken start
  | .cutCharacter => c.fault .partialCharacter start
  | .invalid bad => c.fault .invalidToken bad

/-- The octets left of the document when the text at hand is read from `place` on. -/
def documentRest (c : Content) (place : List Char) : List Char :=
  if c.suspended.isEmpty then place else c.outermost

/-- How many elements were open when the text at hand was begun. -/
def depth (c : Content) : Nat :=
  match c.suspended with
  | s :: _ => s.depth
  | [] => 0

end Content

/-- A step inside the root element: more is to be read, or the root element is closed and the given
characters follow it. -/
inductive Progress where
  | more (c : Content)
  | closed (root : Element) (rest : List Char)

/-- Puts a closed element into the one around it. -/
def addChild (c : Content) (e : Element) (outer : List OpenElement) (rest : List Char) : Progress :=
  match outer with
  | [] => .closed e rest
  | o :: os => .more { c with rest, elements := { o with children := e :: o.children } :: os }

/-- Reads a tag that opens an element, after its sign `<`. -/
def readStartTag (s : Setting) (c : Content) (start cs : List Char) : Except Fault Progress :=
  match startTag (c.reading s) s.size cs with
  | .error e => c.stopped start e
  | .ok (t, rest) =>
    let scope := match c.elements with
      | e :: _ => e.opened.scope
      | [] => Scope.outermost
    match t.resolve s.dtd (isTooMuch s.size (c.documentRest rest)) (c.reading s)
        (c.suspended.map (·.entity)) scope c.spent with
    | .error e =>
      if c.suspended.isEmpty then .error ⟨e.cause, e.left?.getD start.length⟩
      else c.fault e.cause start
    | .ok (opened, spent) =>
      let c := { c with spent }
      let e : OpenElement := ⟨t.name, opened, []⟩
      if t.isEmpty then .ok (addChild c e.close c.elements rest)
      else .ok (.more { c with rest, elements := e :: c.elements })

/-- Reads a tag that closes an element, after its signs `</`. -/
def readEndTag (s : Setting) (c : Content) (start cs : List Char) : Except Fault Progress :=
  match endTag (c.reading s) cs with
  | .error e => c.stopped start e
  | .ok (name, rest) =>
    if !c.suspended.isEmpty && c.elements.length = c.depth then
      c.fault .asynchronousEntity start
    else
      match c.elements with
      | [] => c.fault .asynchronousEntity start
      | e :: outer =>
        if e.name = name then .ok (addChild c e.close outer rest)
        else c.fault .mismatchedTag cs

/-- Whether so many code units follow that the word that opens a CDATA section could stand here. -/
def hasRoom (s : Setting) (c : Content) (cs : List Char) : Bool :=
  let after := match (c.reading s).ending with
    | .clean | .half => 0
    | .cut n | .invalid n _ => n
  let units := if c.suspended.isEmpty then s.units else Char.utf8Size
  6 ≤ (cs.take 6).foldl (fun count c => count + units c) after

/-- Reads a CDATA section, after its signs `<![`. -/
def readCdata (s : Setting) (c : Content) (start cs : List Char) : Except Fault Progress :=
  let word := "CDATA[".toList
  match word.isPrefixOf? cs with
  | some body =>
    match cdataBody body with
    | .ok rest => .ok (.more { c with rest })
    | .error bad =>
      match (c.reading s).ending with
      | .invalid _ _ => c.fault .invalidToken []
      | .cut _ => c.fault .partialCharacter []
      | .clean | .half => c.fault .unclosedCdata bad
  | none =>
    if hasRoom s c cs then
      let same := ((word.zip cs).takeWhile fun (a, b) => a == b).length
      c.fault .invalidToken (cs.drop same)
    else c.fault .unclosedToken start

/-- Reads markup, after its sign `<`. -/
def readMarkup (s : Setting) (c : Content) (start cs : List Char) : Except Fault Progress :=
  let r := c.reading s
  match cs with
  | [] => c.stopped start r.lacking
  | '!' :: rest =>
    match rest with
    | [] => c.stopped start r.lackingMark
    | '-' :: rest' =>
      match comment r rest' with
      | .error e => c.stopped start e
      | .ok (_, rest) => .ok (.more { c with rest })
    | '[' :: rest' => readCdata s c start rest'
    | bad => c.fault .invalidToken bad
  | '?' :: rest =>
    match instruction r rest with
    | .error e => c.stopped start e
    | .ok (.declaration _, _) => c.fault .misplacedDeclaration start
    | .ok (.other, rest) => .ok (.more { c with rest })
  | '/' :: rest => readEndTag s c start rest
  | _ => readStartTag s c start cs

/-- Goes on with the text of an entity. -/
def enterEntity (s : Setting) (c : Content) (start rest name text : List Char) :
    Except Fault Progress :=
  let spent := c.spent + octetCount text
  if isTooMuch s.size (c.documentRest rest) spent then c.fault .amplification start
  else .ok (.more { c with
    rest := text
    spent
    outermost := if c.suspended.isEmpty then start else c.outermost
    suspended := ⟨name, rest, c.elements.length⟩ :: c.suspended })

/-- The reference to an entity as it is named in a message: its first hundred octets. -/
def referenceText (name : List Char) : String :=
  let rec go (room : Nat) : List Char → List Char
    | [] => []
    | c :: cs =>
      if c.utf8Size ≤ room then c :: go (room - c.utf8Size) cs
      else if room = 0 then [] else ['\uFFFD']
  String.ofList (go 100 ('&' :: name ++ [';']))

/-- Reads a reference, after its sign `&`. -/
def readReference (s : Setting) (c : Content) (start cs : List Char) : Except Fault Progress :=
  match reference (c.reading s) cs with
  | .error e => c.stopped start e
  | .ok (.number base ds, rest) =>
    match numberedChar? base ds with
    | some _ => .ok (.more { c with rest })
    | none => c.fault .badCharacterNumber start
  | .ok (.entity n, rest) =>
    if (predefined? n).isSome then .ok (.more { c with rest })
    else
      match Entries.get? s.dtd.entities n with
      | none =>
        if s.dtd.requiresDeclaration then c.fault .undefinedEntity start
        else c.fault (.unreadEntity (referenceText n)) start
      | some e =>
        if c.suspended.any (·.entity == n) then c.fault .recursiveReference start
        else
          match e with
          | .unparsed => c.fault .binaryReference start
          | .external => c.fault (.unreadEntity (referenceText n)) start
          | .internal text => enterEntity s c start rest n text

/-- Goes on where the text at hand is at its end. -/
def readEnd (s : Setting) (c : Content) : Except Fault Progress :=
  match c.suspended with
  | outer :: others =>
    if c.elements.length = outer.depth then
      .ok (.more { c with rest := outer.rest, suspended := others })
    else c.fault .asynchronousEntity []
  | [] =>
    -- a carriage return or a bracket at the very end is a token of its own
    match s.reading.ending, c.rest.getLast? with
    | .clean, some '\r' | .half, some '\r' => c.fault .noElement ['\r']
    | .clean, _ | .half, some ']' => c.fault .noElement []
    | .half, _ => c.fault .unclosedToken []
    | .cut _, _ => c.fault .partialCharacter []
    | .invalid _ _, _ => c.fault .invalidToken []

/-- One step inside the root element. -/
def readStep (s : Setting) (c : Content) : Except Fault Progress :=
  match skipData c.rest with
  | [] => readEnd s c
  | '<' :: cs => readMarkup s c ('<' :: cs) cs
  | '&' :: cs => readReference s c ('&' :: cs) cs
  | bad => c.fault .invalidToken (bad.drop 2)

/-- Reads the root element, and gives what follows it. The fuel bounds the number of steps. -/
def readRoot (s : Setting) : Nat → Content → Except Fault (Element × List Char)
  | 0, c => c.fault .amplification []
  | fuel + 1, c =>
    match readStep s c with
    | .error e => .error e
    | .ok (.closed root rest) => .ok (root, rest)
    | .ok (.more c') => readRoot s fuel c'

/-- The fault of a token outside of elements that could not be read. -/
def stoppedOutside {α : Type} (start : List Char) : Stop → Except Fault α
  | .unfinished => .error ⟨.unclosedToken, start.length⟩
  | .cutCharacter => .error ⟨.partialCharacter, start.length⟩
  | .invalid bad => .error ⟨.invalidToken, bad.length⟩

/-- Reads up to the root element. -/
def readProlog (r : Reading) (tooMuch : Nat → Bool) : Nat → Prolog → List Char →
    Except Fault (Prolog × List Char)
  | 0, _, cs => .error ⟨.noElement, cs.length⟩
  | fuel + 1, p, cs =>
    match Prolog.Token.next r cs with
    | .error e => stoppedOutside cs e
    | .ok none => .error ⟨.noElement, 0⟩
    | .ok (some (.rootElement, rest)) =>
      if p.state = .beforeDoctype ∨ p.state = .afterDoctype then .ok (p, rest)
      else .error ⟨.syntaxError, cs.length⟩
    | .ok (some (t, rest)) =>
      match p.step r tooMuch cs.length t with
      | .error e => .error e
      | .ok p' =>
        let ending :=
          if r.ending = .half && rest.isEmpty && t.isOpenEnded then .clean else r.ending
        readProlog { r with ending } tooMuch fuel p' rest

/-- Reads what follows the root element. -/
def readEpilog (r : Reading) : Nat → List Char → Except Fault Unit
  | 0, cs => .error ⟨.junkAfterRoot, cs.length⟩
  | fuel + 1, cs =>
    match Prolog.Token.next r cs with
    | .error e => stoppedOutside cs e
    | .ok none => .ok ()
    | .ok (some (t, rest)) =>
      match t with
      | .space | .comment | .instruction .other => readEpilog r fuel rest
      | _ => .error ⟨.junkAfterRoot, cs.length⟩

/-- Reads a document after its declaration. -/
def readBody (r : Reading) (units : Char → Nat) (isStandalone : Bool) (all cs : List Char) :
    Except Fault Element := do
  let size := octetCount all
  let dtd : Dtd := { isStandalone }
  let (p, rest) ← readProlog r (isTooMuch size []) (cs.length + 1) { dtd } cs
  let s : Setting := ⟨r, p.dtd, size, units⟩
  let fuel := 4 * (freeOctets + (maxFactor + 2) * (size + 1))
  let (root, rest) ← readRoot s fuel { rest }
  readEpilog r (rest.length + 1) rest
  pure root

end Document

/-- Why a document could not be read. -/
inductive ReadError where
  | malformed (e : Error)
  | unknownEncoding (name : String)
  | multiOctetEncoding
  | notTextEncoding (name : String)
  | failingEncoding (name : String) (fault : CharsetFault)
deriving DecidableEq, Repr

def ReadError.message : ReadError → String
  | malformed e => s!"Invalid XML: {e.message}"
  | unknownEncoding name => s!"unknown encoding: {name}"
  | multiOctetEncoding => "multi-byte encodings are not supported"
  | notTextEncoding name =>
    s!"'{name}' is not a text encoding; use codecs.decode() to handle arbitrary codecs"
  | failingEncoding name fault => fault.message name

namespace Document

/-- Reads a document in an encoding that is settled, from the given octets on. The characters
`before` them count for positions alone. -/
def readIn (e : Encoding) (before : List Char) (octets : List UInt8) (isStandalone : Bool) :
    Except ReadError Element :=
  let (chars, ending) := e.decode octets
  let all := before ++ chars
  match readBody ⟨e.alphabet, ending⟩ e.units isStandalone all chars with
  | .ok root => .ok root
  | .error f => .error (.malformed (f.locate all))

/-- Reads a document. A declared encoding counts unless the encoding is known beforehand. -/
def read (isKnown : Bool) (octets : List UInt8) : Except ReadError Element :=
  match Encoding.detect octets with
  | none => .error (.malformed ⟨.unclosedToken, ⟨1, 0⟩⟩)
  | some (e, mark) =>
    let (chars, ending) := e.decode (octets.drop mark)
    let sign := if mark = 0 then [] else ['\uFEFF']
    let fail (cause : Cause) (left : Nat) : Except ReadError Element :=
      .error (.malformed (Fault.locate ⟨cause, left⟩ (sign ++ chars)))
    match Prolog.Token.next ⟨e.alphabet, ending⟩ chars with
    | .ok (some (.instruction (.declaration text), rest)) =>
      let after := rest.length + 2
      match Declaration.read text with
      | .error bad => fail .malformedDeclaration (bad.length + after)
      | .ok d =>
        let written := chars.take (chars.length - rest.length)
        let taken := mark + written.length * e.unitSize
        match (if isKnown then none else d.encoding?) with
        | none => readIn e (sign ++ written) (octets.drop taken) d.isStandalone
        | some (name, nameAt) =>
          match e.choose name with
          | .use chosen =>
            -- what was taken counts as the chosen encoding has it
            let before := if chosen = e then sign ++ written
              else (octets.take taken).map fun b => Char.ofNat b.toNat
            readIn chosen before (octets.drop taken) d.isStandalone
          | .incorrect => fail .incorrectEncoding (nameAt.length + after)
          | .incompatible => fail .unknownEncoding (nameAt.length + after)
          | .multiOctet => .error .multiOctetEncoding
          | .notText => .error (.notTextEncoding name)
          | .failing fault => .error (.failingEncoding name fault)
          | .unknown => .error (.unknownEncoding name)
    | _ => readIn e sign (octets.drop mark) false

/-- Reads a document given as octets. -/
def readOctets (octets : List UInt8) : Except ReadError Element := read false octets

/-- Reads a document given as a text, for which a declared encoding does not count. -/
def readText (text : String) : Except ReadError Element := read true (Text.Utf8.encode text)

end Document

end SchemaGen.Xml

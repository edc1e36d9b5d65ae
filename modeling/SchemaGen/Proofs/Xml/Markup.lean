import Mathlib.Data.List.Infix
import SchemaGen.Xml.Document

/-!
# Documents as they are written

A document without a document type is written as a tree of tags with data and comments in between.
`Markup` is what stands between two tags, `Attribute` and `Tag` are written with white space where
it may stand, and a value is written sign by sign, each as it is or by a reference to it. Every part
has its text, and the elements that are read where it is written.

White space in a value is read as blanks, the two signs of a line end as one of them, but for
characters that are written by their number (`Sign.read`).
-/

namespace SchemaGen.Xml

/-! ## Values -/

namespace Reference

/-- The text after the sign `&`. -/
def body : Reference → List Char
  | entity name => name ++ [';']
  | number base digits => '#' :: ((if base = 16 then ['x'] else []) ++ (digits ++ [';']))

/-- The character that a reference stands for in any document. -/
def char? : Reference → Option Char
  | entity name => predefined? name
  | number base digits => numberedChar? base digits

/-- Whether a number is written in the digits of its base. -/
def IsWritten : Reference → Prop
  | entity _ => True
  | number base digits => digits ≠ [] ∧
    (base = 10 ∧ (∀ d ∈ digits, d.isDigit = true) ∨ base = 16 ∧ ∀ d ∈ digits, isHexDigit d = true)

instance : DecidablePred IsWritten
  | entity _ => inferInstanceAs (Decidable True)
  | number base digits =>
    decidable_of_iff (digits ≠ [] ∧ (base = 10 ∧ digits.all Char.isDigit = true ∨
        base = 16 ∧ digits.all isHexDigit = true))
      (by rw [List.all_eq_true, List.all_eq_true]; rfl)

end Reference

/-- **A sign of a value.** -/
inductive Sign where
  | plain (c : Char)
  /-- A character that is written by a reference to it. -/
  | reference (r : Reference) (c : Char)
deriving Repr

namespace Sign

def char : Sign → Char
  | plain c => c
  | reference _ c => c

def text : Sign → List Char
  | plain c => [c]
  | reference r _ => '&' :: r.body

/-- Whether a sign may stand between two quotes. -/
def IsAllowed (quote : Char) : Sign → Prop
  | plain c => c ≠ quote ∧ c ≠ '<' ∧ c ≠ '&'
  | reference r c => r.IsWritten ∧ r.char? = some c

instance (quote : Char) : DecidablePred (IsAllowed quote)
  | plain c => inferInstanceAs (Decidable (c ≠ quote ∧ c ≠ '<' ∧ c ≠ '&'))
  | reference r c => inferInstanceAs (Decidable (r.IsWritten ∧ r.char? = some c))

/-- **The characters that are read where some signs are written.** -/
def read : List Sign → List Char
  | [] => []
  | plain '\r' :: plain '\n' :: rest => ' ' :: read rest
  | plain c :: rest => (if isSpace c then ' ' else c) :: read rest
  | reference _ c :: rest => c :: read rest

end Sign

/-! ## Tags -/

/-- White space. -/
def AreSpaces (cs : List Char) : Prop := ∀ c ∈ cs, isSpace c = true

instance (cs : List Char) : Decidable (AreSpaces cs) :=
  decidable_of_iff (cs.all isSpace = true) List.all_eq_true

/-- A name without a prefix. -/
structure IsPlainName (n : List Char) : Prop where
  head : ∃ c ∈ n.head?, isNameStart false c = true
  tail : ∀ c ∈ n.tail, isNameChar false c = true

instance (n : List Char) : Decidable (IsPlainName n) :=
  decidable_of_iff (n.head?.any (isNameStart false) = true ∧ n.tail.all (isNameChar false) = true)
    ⟨fun h => ⟨(Option.any_eq_true _ _).1 h.1, List.all_eq_true.1 h.2⟩,
      fun h => ⟨(Option.any_eq_true _ _).2 h.head, List.all_eq_true.2 h.tail⟩⟩

/-- An attribute as it is written, with the white space before it and around its sign. -/
structure Attribute where
  space : List Char := [' ']
  name : List Char
  beforeSign : List Char := []
  afterSign : List Char := []
  quote : Char := '"'
  value : List Sign
deriving Repr

namespace Attribute

def valueText (a : Attribute) : List Char := a.value.flatMap Sign.text

/-- The text from the name on. -/
def body (a : Attribute) : List Char :=
  a.name ++ a.beforeSign ++ '=' :: a.afterSign ++ a.quote :: a.valueText ++ [a.quote]

def text (a : Attribute) : List Char := a.space ++ a.body

/-- The name with the value that is read. -/
def entry (a : Attribute) : String × String :=
  (String.ofList a.name, String.ofList (Sign.read a.value))

structure IsWellFormed (a : Attribute) : Prop where
  space_ne_nil : a.space ≠ []
  spaces : AreSpaces a.space ∧ AreSpaces a.beforeSign ∧ AreSpaces a.afterSign
  name : IsPlainName a.name
  name_ne : a.name ≠ "xmlns".toList
  quote : a.quote = '"' ∨ a.quote = '\''
  value : ∀ s ∈ a.value, s.IsAllowed a.quote

instance (a : Attribute) : Decidable a.IsWellFormed :=
  decidable_of_iff (a.space ≠ [] ∧ (AreSpaces a.space ∧ AreSpaces a.beforeSign ∧
      AreSpaces a.afterSign) ∧ IsPlainName a.name ∧ a.name ≠ "xmlns".toList ∧
      (a.quote = '"' ∨ a.quote = '\'') ∧ ∀ s ∈ a.value, s.IsAllowed a.quote)
    ⟨fun ⟨h1, h2, h3, h4, h5, h6⟩ => ⟨h1, h2, h3, h4, h5, h6⟩,
      fun ⟨h1, h2, h3, h4, h5, h6⟩ => ⟨h1, h2, h3, h4, h5, h6⟩⟩

end Attribute

/-- A tag as it is written, with the white space before its end. -/
structure Tag where
  name : List Char
  attributes : List Attribute := []
  space : List Char := []
deriving Repr

namespace Tag

def text (t : Tag) : List Char := t.name ++ t.attributes.flatMap Attribute.text ++ t.space

structure IsWellFormed (t : Tag) : Prop where
  name : IsPlainName t.name
  attributes : ∀ a ∈ t.attributes, a.IsWellFormed
  names_nodup : (t.attributes.map (·.name)).Nodup
  space : AreSpaces t.space

instance (t : Tag) : Decidable t.IsWellFormed :=
  decidable_of_iff (IsPlainName t.name ∧ (∀ a ∈ t.attributes, a.IsWellFormed) ∧
      (t.attributes.map (·.name)).Nodup ∧ AreSpaces t.space)
    ⟨fun ⟨h1, h2, h3, h4⟩ => ⟨h1, h2, h3, h4⟩, fun ⟨h1, h2, h3, h4⟩ => ⟨h1, h2, h3, h4⟩⟩

/-- The element that is read where a tag is written. -/
def element (t : Tag) (children : List Element) : Element :=
  .mk (String.ofList t.name) (t.attributes.map Attribute.entry) children

end Tag

/-! ## Trees -/

/-- Data without a meaning of its own. -/
def IsData (cs : List Char) : Prop :=
  (∀ c ∈ cs, c ≠ '<' ∧ c ≠ '&') ∧ ¬ [']', ']', '>'] <:+: cs

instance (cs : List Char) : Decidable (IsData cs) :=
  decidable_of_iff (cs.all (fun c => decide (c ≠ '<' ∧ c ≠ '&')) = true ∧
      ¬ [']', ']', '>'] <:+: cs)
    (and_congr_left fun _ => by simp only [List.all_eq_true, decide_eq_true_eq])

/-- What a comment may hold: two dashes neither in it nor from it to its end. -/
def IsComment (cs : List Char) : Prop := ¬ ['-', '-'] <:+: cs ++ ['-']

instance (cs : List Char) : Decidable (IsComment cs) :=
  inferInstanceAs (Decidable (¬ ['-', '-'] <:+: cs ++ ['-']))

/-- **What stands between two tags**: data, after which come comments and elements with data after
each. -/
inductive Markup where
  | data (cs : List Char)
  | comment (before body : List Char) (rest : Markup)
  | empty (before : List Char) (tag : Tag) (rest : Markup)
  | element (before : List Char) (tag : Tag) (content rest : Markup)
deriving Repr

namespace Markup

def text : Markup → List Char
  | data cs => cs
  | comment before body rest => before ++ "<!--".toList ++ body ++ "-->".toList ++ rest.text
  | empty before tag rest => before ++ '<' :: tag.text ++ ['/', '>'] ++ rest.text
  | element before tag content rest =>
    before ++ '<' :: tag.text ++ '>' :: content.text ++ '<' :: '/' :: tag.name ++ '>' :: rest.text

/-- The elements that are read. -/
def elements : Markup → List Element
  | data _ => []
  | comment _ _ rest => rest.elements
  | empty _ tag rest => tag.element [] :: rest.elements
  | element _ tag content rest => tag.element content.elements :: rest.elements

def IsWellFormed : Markup → Prop
  | data cs => IsData cs
  | comment before body rest => IsData before ∧ IsComment body ∧ rest.IsWellFormed
  | empty before tag rest => IsData before ∧ tag.IsWellFormed ∧ rest.IsWellFormed
  | element before tag content rest =>
    IsData before ∧ tag.IsWellFormed ∧ content.IsWellFormed ∧ rest.IsWellFormed

instance decidableIsWellFormed : (m : Markup) → Decidable m.IsWellFormed
  | data cs => inferInstanceAs (Decidable (IsData cs))
  | comment before body rest =>
    have := rest.decidableIsWellFormed
    inferInstanceAs (Decidable (IsData before ∧ IsComment body ∧ rest.IsWellFormed))
  | empty before tag rest =>
    have := rest.decidableIsWellFormed
    inferInstanceAs (Decidable (IsData before ∧ tag.IsWellFormed ∧ rest.IsWellFormed))
  | element before tag content rest =>
    have := content.decidableIsWellFormed
    have := rest.decidableIsWellFormed
    inferInstanceAs (Decidable (IsData before ∧ tag.IsWellFormed ∧ content.IsWellFormed ∧
      rest.IsWellFormed))

end Markup

/-- **A document as it is written**: a declaration if there is one, the root element, and white
space around it. -/
structure Script where
  declaration : Option (List Char) := none
  before : List Char := []
  tag : Tag
  content : Markup
  after : List Char := []
deriving Repr

namespace Script

/-- The text of the declaration. -/
def declarationText (d : Script) : List Char :=
  match d.declaration with
  | some cs => "<?xml".toList ++ cs ++ "?>".toList
  | none => []

/-- The text after the declaration. -/
def bodyText (d : Script) : List Char :=
  d.before ++ (Markup.element [] d.tag d.content (.data d.after)).text

def text (d : Script) : String := String.ofList (d.declarationText ++ d.bodyText)

/-- The root element that is read. -/
def root (d : Script) : Element := d.tag.element d.content.elements

/-- A declaration that can be read, in characters of one octet. -/
structure IsDeclaration (cs : List Char) : Prop where
  space : ∃ c ∈ cs.head?, isSpace c = true
  isAscii : ∀ c ∈ cs, c.toNat < 0x80
  mark : '?' ∉ cs
  reads : ∃ d, Declaration.read cs = .ok d

structure IsWellFormed (d : Script) : Prop where
  declaration : ∀ cs ∈ d.declaration, IsDeclaration cs
  before : AreSpaces d.before
  tag : d.tag.IsWellFormed
  content : d.content.IsWellFormed
  after : AreSpaces d.after
  isDocument : ∀ c ∈ d.text.toList, isDocumentChar c.toNat = true

end Script

end SchemaGen.Xml

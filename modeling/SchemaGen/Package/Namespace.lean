import SchemaGen.Text.Word

/-!
# Namespaces of packages

A namespace is empty or a list of segments with `::` between them, each a capital letter A to Z
followed by word characters. `isNamespace` reads it from left to right.
-/

namespace SchemaGen.Package

/-- Whether the text after the first letter of a segment is the rest of a namespace. -/
def isNamespaceTail : List Char → Bool
  | [] => true
  | ':' :: ':' :: c :: rest => c.isUpper && isNamespaceTail rest
  | c :: rest => Text.isWord c && isNamespaceTail rest

/-- Whether a text is a namespace. -/
def isNamespace (s : String) : Bool :=
  match s.toList with
  | [] => true
  | c :: rest => c.isUpper && isNamespaceTail rest

end SchemaGen.Package

/-!
# Elements

A document read is a tree of elements. Only what a model is read from is kept: the names, with the
namespace in braces before the local name if there is one, the attributes, and the elements inside.
-/

namespace SchemaGen.Xml

/-- An element. -/
inductive Element where
  | mk (tag : String) (attributes : List (String × String)) (children : List Element)
deriving Repr, Inhabited

namespace Element

def tag : Element → String
  | mk t _ _ => t

def attributes : Element → List (String × String)
  | mk _ as _ => as

def children : Element → List Element
  | mk _ _ cs => cs

/-- The value of an attribute. -/
def attribute? (e : Element) (name : String) : Option String :=
  (e.attributes.find? (·.1 == name)).map Prod.snd

/-- The elements inside with the given tag. -/
def childrenTagged (e : Element) (tag : String) : List Element :=
  e.children.filter (·.tag == tag)

/-- The elements that are reached by a path of tags. -/
def select : List String → Element → List Element
  | [], e => [e]
  | t :: path, e => (e.childrenTagged t).flatMap (select path)

end Element

end SchemaGen.Xml

/-
# Element trees

A document is looked at as a tree of elements, each with its name as written, the text that
stands directly in it and the elements directly in it.  The lookups take the rule by which
names are compared.  A search goes through the descendants of an element in the order in
which they begin in the document.
-/
import UpnpGateway.Text.Blank
import UpnpGateway.Xml.Tag

namespace UpnpGateway.Xml

open UpnpGateway.Text

/-- An element of a document. -/
structure Element where
  /-- The qualified name as written. -/
  name : String
  /-- The text directly in the element, joined. -/
  text : String
  /-- The elements directly in the element, in order. -/
  children : List Element
deriving Repr, Inhabited, BEq

namespace Element

/-- The name without its namespace. -/
def localName (e : Element) : String := localPart e.name

/-- The children with the given name. -/
def childrenNamed (e : Element) (name : String) (rule : TagRule) : List Element :=
  e.children.filter fun c => rule.matches c.name name

/-- The first child with the given name. -/
def child? (e : Element) (name : String) (rule : TagRule) : Option Element :=
  e.children.find? fun c => rule.matches c.name name

/-- The text of the first child with the given name, without blanks at its ends. -/
def childText? (e : Element) (name : String) (rule : TagRule) : Option String :=
  (e.child? name rule).map fun c => trimmed c.text

/-- The text of the first child with the given name, or nothing if there is none. -/
def childTextD (e : Element) (name : String) (rule : TagRule) : String :=
  (e.childText? name rule).getD ""

mutual

/-- The first descendant with the given name: a child comes before its own descendants, and
these before the next child. -/
def find? (name : String) (rule : TagRule) : Element → Option Element
  | ⟨_, _, children⟩ => findAmong? name rule children

/-- The first element with the given name among some elements and their descendants. -/
def findAmong? (name : String) (rule : TagRule) : List Element → Option Element
  | [] => none
  | c :: cs =>
    if rule.matches c.name name then some c
    else (find? name rule c).or (findAmong? name rule cs)

end

mutual

/-- The element and its descendants in the order in which they begin, each with its depth. -/
def outline (depth : Nat) : Element → List (Nat × Element)
  | ⟨name, text, children⟩ => (depth, ⟨name, text, children⟩) :: outlineAll (depth + 1) children

/-- The outlines of some elements, one after the other. -/
def outlineAll (depth : Nat) : List Element → List (Nat × Element)
  | [] => []
  | c :: cs => outline depth c ++ outlineAll depth cs

end

end Element

end UpnpGateway.Xml

/-
# Reading a document as a tree

Gateways send documents that are not well formed: end tags that do not match, elements that
are never closed, ampersands that begin no entity, and more behind the root element.  The
reader of this file makes a tree of all of these.  An end tag closes the innermost element
whatever its name, an end tag without an element to close is passed over, the end of the
document closes what is open, and nothing behind the root element is read.
-/
import UpnpGateway.Xml.Element
import UpnpGateway.Xml.Escape
import UpnpGateway.Xml.Event

namespace UpnpGateway.Xml

open UpnpGateway.Text

/-- Why a document has no tree. -/
inductive ReadError where
  /-- There is markup before the end of the root element that cannot be cut. -/
  | malformed
  /-- There is no element. -/
  | noRoot
deriving DecidableEq, Repr

/-- The text that is shown for an unreadable document. -/
def ReadError.message : ReadError → String
  | .malformed => "malformed XML"
  | .noRoot => "document has no root element"

/-- An element whose end has not been reached. -/
structure Frame where
  /-- The qualified name. -/
  name : List Char
  /-- The text so far. -/
  text : List Char
  /-- The children so far, the last one first. -/
  children : List Element

namespace Frame

/-- The frame of an element that has just been opened. -/
def opened (tag : Tag) : Frame := ⟨tag.name, [], []⟩

/-- The element of a frame whose end has been reached. -/
def close (f : Frame) : Element :=
  ⟨String.ofList f.name, String.ofList f.text, f.children.reverse⟩

/-- The frame with one more child. -/
def push (f : Frame) (e : Element) : Frame := { f with children := e :: f.children }

/-- The frame with more text. -/
def write (f : Frame) (s : List Char) : Frame := { f with text := f.text ++ s }

end Frame

/-- The data that a run of text stands for: the blanks at its ends are layout, and a run with
an ampersand that begins no entity is taken as written. -/
def runText (raw : List Char) : List Char := unescape (dropEndsWhile isMarkupBlank raw)

/-- The element that is left when the end of a document closes all open elements. -/
def closeAll : List Frame → Except ReadError Element
  | [] => .error .noRoot
  | [f] => .ok f.close
  | f :: g :: stack => closeAll (g.push f.close :: stack)
termination_by stack => stack.length

/-- Reads events up to the end of the root element; `stack` holds the open elements, the
innermost first, and `complete` says whether the document could be cut to its end. -/
def assemble (complete : Bool) : List Frame → List Event → Except ReadError Element
  | stack, [] => if complete then closeAll stack else .error .malformed
  | stack, .opening tag :: es => assemble complete (Frame.opened tag :: stack) es
  | [], .empty tag :: _ => .ok (Frame.opened tag).close
  | f :: stack, .empty tag :: es =>
    assemble complete (f.push (Frame.opened tag).close :: stack) es
  | [], .closing _ :: es => assemble complete [] es
  | [f], .closing _ :: _ => .ok f.close
  | f :: g :: stack, .closing _ :: es => assemble complete (g.push f.close :: stack) es
  | [], .text _ :: es => assemble complete [] es
  | f :: stack, .text raw :: es => assemble complete (f.write (runText raw) :: stack) es
  | [], .cdata _ :: es => assemble complete [] es
  | f :: stack, .cdata data :: es => assemble complete (f.write data :: stack) es
  | stack, .doctype :: es => assemble complete stack es
  | stack, .remark :: es => assemble complete stack es

/-- The root element of a document. -/
def parse (document : String) : Except ReadError Element :=
  let (es, complete) := events document
  assemble complete [] es

/-- The name of the root element: the first tag that opens an element, before which no end
tag may stand. -/
def rootNameOf (complete : Bool) : List Event → Except ReadError String
  | [] => .error (if complete then .noRoot else .malformed)
  | .opening tag :: _ => .ok (String.ofList tag.name)
  | .empty tag :: _ => .ok (String.ofList tag.name)
  | .closing _ :: _ => .error .malformed
  | _ :: es => rootNameOf complete es

/-- The qualified name of the root element of a document. -/
def rootName (document : String) : Except ReadError String :=
  let (es, complete) := events document
  rootNameOf complete es

end UpnpGateway.Xml

/-
# Comparing the names of tags

A gateway may write a name with any namespace before the colon, and some get the case of the
letters wrong.  This file sets up the three rules by which a qualified name is compared with
the name that a document type asks for.
-/
import UpnpGateway.Text.Letter

namespace UpnpGateway.Xml

open UpnpGateway.Text

/-- A rule for comparing the name of a tag with a wanted name. -/
inductive TagRule where
  /-- The names agree, namespace included. -/
  | exact
  /-- The names agree when the namespace of the tag is dropped. -/
  | localName
  /-- The names agree when the namespace of the tag is dropped and the case of letters is
  ignored. -/
  | ignoreCase
deriving DecidableEq, Repr

/-- The part of a qualified name behind its last colon. -/
def localPart (qualified : String) : String :=
  match cutLast ':' qualified.toList with
  | some (_, name) => String.ofList name
  | none => qualified

/-- Whether the tag `qualified` is the one that is called `wanted`. -/
def TagRule.matches (rule : TagRule) (qualified wanted : String) : Bool :=
  match rule with
  | .exact => qualified == wanted
  | .localName => localPart qualified == wanted
  | .ignoreCase => sameLetters (localPart qualified).toList wanted.toList

end UpnpGateway.Xml

/-
# Envelopes

Actions and their answers travel in envelopes.  In the body of a request stands one element
with the name of the action and in it one element for each argument.  An answer has an
element of its own in its body, and some gateways give it another name, or put the body
deeper than they should.
-/
import UpnpGateway.Xml.Document

namespace UpnpGateway.Soap

open UpnpGateway.Text UpnpGateway.Xml

/-- What stands before the element of the action. -/
def envelopeStart : String :=
  "<?xml version=\"1.0\"?>\n" ++
  "<s:Envelope xmlns:s=\"http://schemas.xmlsoap.org/soap/envelope/\" " ++
  "s:encodingStyle=\"http://schemas.xmlsoap.org/soap/encoding/\">\n" ++
  "<s:Body>\n"

/-- What stands behind the element of the action. -/
def envelopeEnd : String := "\n</s:Body>\n</s:Envelope>"

/-- A text with the reserved characters of markup escaped. -/
def escaped (s : String) : String := String.ofList (escape s.toList)

/-- The element of an argument. -/
def argumentElement (arg : String × String) : String :=
  "<" ++ arg.1 ++ ">" ++ escaped arg.2 ++ "</" ++ arg.1 ++ ">"

/-- The envelope of a request; the arguments keep their order. -/
def requestEnvelope (serviceType action : String) (args : List (String × String)) : String :=
  envelopeStart ++
  "<u:" ++ action ++ " xmlns:u=\"" ++ escaped serviceType ++ "\">" ++
  String.join (args.map argumentElement) ++
  "</u:" ++ action ++ ">" ++
  envelopeEnd

/-- Why nothing is found in an envelope. -/
inductive EnvelopeError where
  /-- It has no tree. -/
  | unreadable (cause : ReadError)
  /-- There is no body, or nothing in it. -/
  | noElement (wanted : String)
deriving DecidableEq, Repr

/-- The text that is shown for an envelope in which nothing is found. -/
def EnvelopeError.message : EnvelopeError → String
  | unreadable cause => cause.message
  | noElement wanted => "no <" ++ wanted ++ "> in SOAP body"

/-- The element with the given name in the body, or else the first one there.  A body directly
in the root counts before one further down. -/
def bodyElement? (root : Element) (element : String) (rule : TagRule) : Option Element := do
  let body ← (root.child? "Body" rule).or (Element.find? "Body" rule root)
  (body.child? element rule).or body.children.head?

/-- The names and texts of the elements in an element of the body, in document order and
without blanks at the ends of the texts. -/
def readArguments (rule : TagRule) (element envelope : String) :
    Except EnvelopeError (List (String × String)) := do
  let root ← (Xml.parse envelope).mapError .unreadable
  match bodyElement? root element rule with
  | none => throw (.noElement element)
  | some e => return e.children.map fun c => (c.localName, trimmed c.text)

end UpnpGateway.Soap

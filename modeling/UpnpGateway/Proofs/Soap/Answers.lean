/-
# Answers as gateways write them

Gateways differ in how they name and lay out the envelope of an answer, but the arguments are
found in all of them: one element for each, with its value escaped.  What is read is the value
without the blanks at its ends, and the slot of an output gets the value that stands under its
name.
-/
import Mathlib.Data.List.Find
import UpnpGateway.Proofs.Soap.Inputs
import UpnpGateway.Proofs.Xml.Content
import UpnpGateway.Soap.Response

namespace UpnpGateway.Soap

open UpnpGateway.Text UpnpGateway.Xml

/-! ## Envelopes -/

/-- A rule that drops namespaces recognizes a name by its local part. -/
lemma matches_of_localPart {rule : TagRule} (hrule : rule ≠ .exact) {qualified wanted : String}
    (h : localPart qualified = wanted) : rule.matches qualified wanted = true := by
  cases rule with
  | exact => exact absurd rfl hrule
  | localName => simpa [TagRule.matches] using h
  | ignoreCase => simp [TagRule.matches, h, sameLetters]

/-- In an envelope that holds nothing but a body, and a body that holds nothing but one element,
the arguments are those of this element, whatever it is called. -/
lemma readArguments_of_parse {rule : TagRule} (hrule : rule ≠ .exact) {envelope : String}
    {root body inner : Element} (hparse : Xml.parse envelope = .ok root)
    (hroot : root.children = [body]) (hbody : body.children = [inner])
    (hname : localPart body.name = "Body") (wanted : String) :
    readArguments rule wanted envelope =
      .ok (inner.children.map fun c => (c.localName, trimmed c.text)) := by
  have hchild : root.child? "Body" rule = some body := by
    simp [Element.child?, hroot, matches_of_localPart hrule hname]
  have hinner : (body.child? wanted rule).or body.children.head? = some inner := by
    rw [Element.child?, hbody, List.find?_singleton]
    split <;> rfl
  have hfound : bodyElement? root wanted rule = some inner := by
    rw [bodyElement?, hchild]
    exact hinner
  rw [readArguments, hparse]
  simp only [Except.mapError, bind, Except.bind, hfound, pure, Except.pure]

/-! ## Envelopes of answers -/

/-- An argument as a gateway writes it. -/
structure WrittenArgument where
  /-- What stands before it. -/
  before : Run
  /-- The tag that opens its element. -/
  tag : StartTag
  /-- The value. -/
  value : String

namespace WrittenArgument

/-- The name of an argument, without the namespace that it is written with. -/
def name (a : WrittenArgument) : String := localPart (String.ofList a.tag.name)

/-- Arguments as they are written one after the other. -/
def contentOf (gap : Run) : List WrittenArgument → Content
  | [] => .done gap
  | a :: args =>
    .element a.before a.tag (.done (.ofText a.value.toList)) a.tag.ending (contentOf gap args)

/-- The element in which an argument is found. -/
def element (a : WrittenArgument) : Element :=
  ⟨String.ofList a.tag.name, String.ofList (dropEndsWhile isMarkupBlank a.value.toList), []⟩

lemma elements_contentOf (gap : Run) (args : List WrittenArgument) :
    (contentOf gap args).elements = args.map element := by
  induction args with
  | nil => rfl
  | cons a args ih =>
    simp [contentOf, Content.elements, Content.data, Run.ofText, element, ih]

/-- The value is read without the blanks at its ends. -/
lemma trimmed_text_element (a : WrittenArgument) : trimmed a.element.text = trimmed a.value := by
  rw [element, trimmed, String.toList_ofList, trim_dropEndsWhile, trimmed]

/-- What is read of some arguments is their names and their values without the blanks at their
ends. -/
lemma map_element (args : List WrittenArgument) :
    ((args.map element).map fun c => (c.localName, trimmed c.text)) =
      args.map fun a => (a.name, trimmed a.value) := by
  rw [List.map_map]
  refine List.map_congr_left fun a _ => ?_
  rw [Function.comp_apply, a.trimmed_text_element]
  rfl

end WrittenArgument

/-- How a gateway lays out the envelope of an answer. -/
structure AnswerLayout where
  /-- What stands before the envelope. -/
  prolog : Option Remark
  /-- The tag that opens the envelope. -/
  envelope : StartTag
  /-- The tag that opens the body. -/
  body : StartTag
  /-- The tag that opens the answer. -/
  answer : StartTag
  /-- What stands between the tags. -/
  gap : Run
  localPart_body : localPart (String.ofList body.name) = "Body"

namespace AnswerLayout

variable (l : AnswerLayout) (args : List WrittenArgument)

/-- The contents of the body. -/
def bodyContent : Content :=
  .element l.gap l.answer (WrittenArgument.contentOf l.gap args) l.answer.ending (.done l.gap)

/-- The contents of the envelope. -/
def envelopeContent : Content :=
  .element l.gap l.body (l.bodyContent args) l.body.ending (.done l.gap)

/-- The whole document. -/
def content : Content :=
  match l.prolog with
  | none => .element .empty l.envelope (l.envelopeContent args) l.envelope.ending (.done l.gap)
  | some r =>
    .remark .empty r
      (.element l.gap l.envelope (l.envelopeContent args) l.envelope.ending (.done l.gap))

/-- The answer as it is written. -/
def write : String := String.ofList (l.content args).chars

lemma head?_chars_content : (l.content args).chars.head? = some '<' := by
  unfold content
  split <;> simp [Content.chars, Run.empty]

/-- The element of the answer. -/
def answerElement : Element :=
  ⟨String.ofList l.answer.name, String.ofList (WrittenArgument.contentOf l.gap args).data,
    args.map WrittenArgument.element⟩

/-- The element of the body. -/
def bodyElement : Element :=
  ⟨String.ofList l.body.name, String.ofList (l.bodyContent args).data, [l.answerElement args]⟩

/-- The element of the envelope. -/
def root : Element :=
  ⟨String.ofList l.envelope.name, String.ofList (l.envelopeContent args).data,
    [l.bodyElement args]⟩

lemma elements_content : (l.content args).elements = [l.root args] := by
  unfold content
  split <;>
    simp [Content.elements, root, bodyElement, answerElement, envelopeContent, bodyContent,
      WrittenArgument.elements_contentOf]

lemma parse_write : Xml.parse (l.write args) = .ok (l.root args) :=
  Content.parse_chars _ (by rw [elements_content, List.head?_cons])
    (by simp [head?_chars_content])

/-- The arguments are found in every layout, whatever the element of the answer is called. -/
lemma readArguments_write {rule : TagRule} (hrule : rule ≠ .exact) (wanted : String) :
    readArguments rule wanted (l.write args) =
      .ok (args.map fun a => (a.name, trimmed a.value)) := by
  rw [readArguments_of_parse hrule (l.parse_write args) rfl rfl l.localPart_body wanted,
    answerElement, WrittenArgument.map_element]

/-- Of an answer only the arguments matter, whatever its layout. -/
lemma ofEnvelope_write {rule : TagRule} (hrule : rule ≠ .exact) (action : Action) :
    Response.ofEnvelope rule action (l.write args) =
      ⟨action.name, action.outputs.map
        (Response.slot rule (args.map fun a => (a.name, trimmed a.value)))⟩ := by
  rw [Response.ofEnvelope, l.readArguments_write args hrule]

end AnswerLayout

/-! ## Slots of outputs -/

/-- An output that is declared has the value that was received under its name. -/
lemma Response.get?_ofEnvelope {rule : TagRule} {received : List (String × String)}
    {name value : String} {action : Action} {envelope : String}
    (hread : readArguments rule (action.name ++ "Response") envelope = .ok received)
    (hdeclared : name ∈ action.outputs.map Argument.name)
    (hnodup : (received.map Prod.fst).Nodup) (hmem : (name, value) ∈ received)
    (hrule : ∀ p ∈ received, rule.matches p.1 name = (p.1 == name)) :
    (Response.ofEnvelope rule action envelope).get? name = some value := by
  have hfind : (received.find? fun p => rule.matches p.1 name) = some (name, value) :=
    (List.find?_congr hrule).trans (find?_of_nodup hnodup hmem)
  rw [get?, ofEnvelope, hread]
  cases h : (action.outputs.map (slot rule received)).find? fun s => s.1 == name with
  | none =>
    obtain ⟨output, houtput, hname⟩ := List.mem_map.1 hdeclared
    have hnone := List.find?_eq_none.1 h _ (List.mem_map_of_mem houtput)
    simp [slot, hname] at hnone
  | some s =>
    obtain ⟨output, -, rfl⟩ := List.mem_map.1 (List.mem_of_find?_eq_some h)
    have hname : output.name = name := by simpa [slot] using List.find?_some h
    simp only [Option.bind_some, slot, hname, hfind, Option.map_some]

end UpnpGateway.Soap

/-
# Requests are read as they are written

The envelope of a request is put together from texts, of which the type of the service and the
values of the arguments are whatever the caller has.  This file shows that the envelope is a
document all the same: a tree is written in it that can be read in one way only, and in it
stand the arguments in their order, each value without the blanks at its ends.
-/
import UpnpGateway.Proofs.Soap.Answers
import UpnpGateway.Proofs.Text.Cut

namespace UpnpGateway.Soap

open UpnpGateway.Text UpnpGateway.Xml

/-! ## Names without a namespace -/

/-- A text that can stand as a name in a tag and has no colon.  All names of the standard that
have no colon are of this kind. -/
structure IsPlainName (n : String) : Prop where
  isName : IsName n.toList
  notMem : ':' ∉ n.toList

instance (n : String) : Decidable (IsPlainName n) :=
  decidable_of_iff (IsName n.toList ∧ ':' ∉ n.toList)
    ⟨fun h => ⟨h.1, h.2⟩, fun h => ⟨h.isName, h.notMem⟩⟩

/-- A name without a namespace is its own local part. -/
lemma IsPlainName.localPart_eq {n : String} (h : IsPlainName n) : localPart n = n := by
  rw [localPart, cutLast_eq_none.2 h.notMem]

/-! ## The tree of a request -/

/-- The processing instruction before the envelope. -/
def declaration : Remark := .instruction "xml version=\"1.0\"".toList

lemma isName_envelope : IsName "s:Envelope".toList := by decide

lemma isName_body : IsName "s:Body".toList := by decide

/-- The tag that opens the envelope. -/
def envelopeTag : StartTag where
  name := "s:Envelope".toList
  attributes := [
    ("xmlns:s".toList, "http://schemas.xmlsoap.org/soap/envelope/".toList),
    ("s:encodingStyle".toList, "http://schemas.xmlsoap.org/soap/encoding/".toList)]
  isName := isName_envelope
  isName_key := by decide
  notMem_value := by decide

/-- The tag that opens the body. -/
def bodyTag : StartTag := .ofName "s:Body".toList isName_body

/-- An envelope carries texts under their names to an action.  Their elements stand in it in their
order, one right behind the other, and whoever reads the envelope finds the names in this order,
each with its text without the blanks at its ends, provided that the names can stand in tags at
all. -/
structure Carries (envelope action : String) (args : List (String × String)) : Prop where
  exists_elements :
    ∃ front back, envelope = front ++ String.join (args.map argumentElement) ++ back
  readArguments_eq : IsName action.toList → (∀ arg ∈ args, IsPlainName arg.1) →
    ∀ rule, rule ≠ .exact →
      readArguments rule action envelope = .ok (args.map fun arg => (arg.1, trimmed arg.2))

section Request

variable (serviceType : String) {action : String} (haction : IsName action.toList)
  {args : List (String × String)} (hargs : ∀ arg ∈ args, IsPlainName arg.1)

/-- The tag that opens the element of an action; the type of the service is its namespace. -/
def actionTag : StartTag where
  name := "u:".toList ++ action.toList
  attributes := [("xmlns:u".toList, escape serviceType.toList)]
  isName := IsName.append (by decide) haction
  isName_key := by
    rw [List.forall_mem_singleton]
    exact show IsName "xmlns:u".toList by decide
  notMem_value := by
    rw [List.forall_mem_singleton]
    exact notMem_escape_of_reserved (.inr (.inr (.inr rfl))) _

/-- The arguments as they are written. -/
def requestArguments : List WrittenArgument :=
  args.pmap (fun arg h => ⟨.empty, .ofName arg.1.toList h.isName, arg.2⟩) hargs

/-- The line feed between two tags. -/
def lineFeed : Run := .ofText ['\n']

/-- The contents of the body. -/
def requestBody : Content :=
  .element lineFeed (actionTag serviceType haction)
    (WrittenArgument.contentOf .empty (requestArguments hargs))
    (actionTag serviceType haction).ending (.done lineFeed)

/-- The contents of the envelope. -/
def requestInner : Content :=
  .element lineFeed bodyTag (requestBody serviceType haction hargs) bodyTag.ending
    (.done lineFeed)

/-- The whole document. -/
def requestContent : Content :=
  .remark .empty declaration
    (.element lineFeed envelopeTag (requestInner serviceType haction hargs) envelopeTag.ending
      (.done .empty))

lemma chars_requestArguments :
    (WrittenArgument.contentOf .empty (requestArguments hargs)).chars =
      (String.join (args.map argumentElement)).toList := by
  induction args with
  | nil => rfl
  | cons arg args ih =>
    have helement : (argumentElement arg).toList =
        '<' :: (arg.1.toList ++ '>' :: (escape arg.2.toList ++
          '<' :: '/' :: (arg.1.toList ++ ['>']))) := by
      simp [argumentElement, escaped]
    rw [List.map_cons, String.join_cons, String.toList_append, helement,
      ← ih fun a ha => hargs a (List.mem_cons_of_mem _ ha)]
    simp [requestArguments, WrittenArgument.contentOf, Content.chars, Run.empty, Run.ofText,
      StartTag.ofName, StartTag.written, StartTag.ending]

/-- The envelope of a request is the document. -/
lemma chars_requestContent :
    (requestContent serviceType haction hargs).chars =
      (requestEnvelope serviceType action args).toList := by
  have hstart : envelopeStart.toList =
      '<' :: (declaration.body ++ (lineFeed.raw ++
        '<' :: (envelopeTag.name ++ (envelopeTag.written ++ '>' :: (lineFeed.raw ++
          '<' :: (bodyTag.name ++ (bodyTag.written ++ '>' :: lineFeed.raw))))))) := by
    decide +kernel
  have hend : envelopeEnd.toList =
      lineFeed.raw ++ '<' :: '/' :: (bodyTag.ending.name ++ '>' :: (lineFeed.raw ++
        '<' :: '/' :: (envelopeTag.ending.name ++ ['>']))) := rfl
  have htag : (actionTag serviceType haction).written =
      " xmlns:u=\"".toList ++ (escape serviceType.toList ++ ['"']) := by
    simp [actionTag, StartTag.written, writeAttribute]
  simp only [requestContent, requestInner, requestBody, Content.chars, chars_requestArguments,
    requestEnvelope, escaped, String.toList_append, String.toList_ofList, hstart, hend, htag]
  simp [actionTag, StartTag.ending, Run.empty]

/-- What is read of the arguments is their names and values as they were given, but for the
blanks. -/
lemma map_requestArguments :
    ((requestArguments hargs).map fun a => (a.name, trimmed a.value)) =
      args.map fun arg => (arg.1, trimmed arg.2) := by
  rw [requestArguments, List.map_pmap]
  refine (List.pmap_congr_left args fun arg _ h _ => ?_).trans (List.pmap_eq_map hargs)
  rw [WrittenArgument.name, StartTag.ofName, String.ofList_toList, h.localPart_eq]

include haction hargs

/-- The envelope of a request is read as the tree that is written in it. -/
lemma exists_parse_requestEnvelope :
    ∃ root body inner, Xml.parse (requestEnvelope serviceType action args) = .ok root ∧
      root.children = [body] ∧ body.children = [inner] ∧ body.name = "s:Body" ∧
      inner.children = (requestArguments hargs).map WrittenArgument.element := by
  have hmark : (requestContent serviceType haction hargs).chars.head? ≠ some '\uFEFF' := by
    simp [requestContent, Content.chars, Run.empty]
  have hread := (requestContent serviceType haction hargs).parse_chars rfl hmark
  rw [chars_requestContent, String.ofList_toList] at hread
  refine ⟨_, _, _, hread, rfl, rfl, rfl, ?_⟩
  rw [WrittenArgument.elements_contentOf]

/-- The names of the arguments are read in their order, each with its value without the blanks at
its ends. -/
lemma readArguments_eq_of_isName {rule : TagRule} (hrule : rule ≠ .exact) :
    readArguments rule action (requestEnvelope serviceType action args) =
      .ok (args.map fun arg => (arg.1, trimmed arg.2)) := by
  obtain ⟨root, body, inner, hparse, hroot, hbody, hname, hinner⟩ :=
    exists_parse_requestEnvelope serviceType haction hargs
  have hlocal : localPart body.name = "Body" := by rw [hname]; decide
  rw [readArguments_of_parse hrule hparse hroot hbody hlocal, hinner,
    WrittenArgument.map_element, map_requestArguments]

/-- A request is read as it is written: whatever the type of the service and the values of the
arguments are, the names come back in their order, and each with its value without the blanks
at its ends. -/
theorem readArguments_requestEnvelope {rule : TagRule} (hrule : rule ≠ .exact) :
    readArguments rule action (requestEnvelope serviceType action args) =
        .ok (args.map fun arg => (arg.1, trimmed arg.2)) ∧
      ∀ arg ∈ args, (∀ c ∈ arg.2.toList.head?, isBlank c = false) →
        (∀ c ∈ arg.2.toList.getLast?, isBlank c = false) → trimmed arg.2 = arg.2 := by
  refine ⟨readArguments_eq_of_isName serviceType haction hargs hrule, fun arg _ hhead hlast => ?_⟩
  rw [trimmed, trim_of_ends hhead hlast, String.ofList_toList]

end Request

/-- The envelope of a request carries its arguments. -/
lemma carries_requestEnvelope (serviceType action : String) (args : List (String × String)) :
    Carries (requestEnvelope serviceType action args) action args where
  exists_elements :=
    ⟨envelopeStart ++ "<u:" ++ action ++ " xmlns:u=\"" ++ escaped serviceType ++ "\">",
      "</u:" ++ action ++ ">" ++ envelopeEnd, by simp [requestEnvelope, String.append_assoc]⟩
  readArguments_eq haction hargs _ hrule :=
    readArguments_eq_of_isName serviceType haction hargs hrule

/-- Arguments with markup, blanks and an entity in their values. -/
def gameArguments : List (String × String) := [
  ("NewRemoteHost", " \u00A0"),
  ("NewInternalClient", "<a href='x'>"),
  ("NewPortMappingDescription", "\r\n&lt;games&gt; & \"voice\" &#65; ]]>\u3000\n")]

/-- The arguments are read back under a type of service that would close its quotes. -/
theorem readArguments_gameArguments :
    readArguments .ignoreCase "AddPortMapping"
        (requestEnvelope "urn:\"> <'&amp;" "AddPortMapping" gameArguments) =
      .ok [("NewRemoteHost", ""), ("NewInternalClient", "<a href='x'>"),
        ("NewPortMappingDescription", "&lt;games&gt; & \"voice\" &#65; ]]>")] ∧
      trimmed "<a href='x'>" = "<a href='x'>" := by
  have hnames : ∀ arg ∈ gameArguments, IsPlainName arg.1 := by decide
  have haction : IsName "AddPortMapping".toList := by decide
  have hrule : TagRule.ignoreCase ≠ .exact := by decide
  obtain ⟨hread, hvalue⟩ :=
    readArguments_requestEnvelope "urn:\"> <'&amp;" haction hnames hrule
  refine ⟨?_, hvalue ("NewInternalClient", "<a href='x'>") (by decide) ?_ ?_⟩
  · rw [hread]
    decide +kernel
  · intro c hc
    obtain rfl : '<' = c := Option.some.inj hc
    rfl
  · intro c hc
    obtain rfl : '>' = c := Option.some.inj hc
    rfl

end UpnpGateway.Soap

/-
# The root element that is checked is the one that is read

Before a service description is read, the name of its root element is checked.  The name comes from
a reader of its own, which stops at the first tag that opens an element.  The tolerant reader goes
on and returns what is at the bottom of its stack of open elements.  An end tag that closes the
bottom ends the reading, and one that finds no open element is passed over, so that the bottom is
the element of the first tag.  The two readers only differ over an end tag before the first tag,
which the check does not let pass.
-/
import UpnpGateway.Proofs.Device.Declarations

namespace UpnpGateway.Xml

/-! ## The first tag -/

/-- The first tag that opens an element. -/
def firstTag? (es : List Event) : Option Tag := es.findSome? Event.tag?

/-- An end tag stands before the first tag that opens an element. -/
def EndTagFirst (es : List Event) : Prop :=
  ∃ before name after, es = before ++ .closing name :: after ∧ firstTag? before = none

variable {complete : Bool} {es : List Event}

/-- The end tag stays the first one when an event that opens no element is put before it. -/
lemma EndTagFirst.cons {ev : Event} (h : EndTagFirst es) (hev : ev.tag? = none) :
    EndTagFirst (ev :: es) := by
  obtain ⟨before, name, after, rfl, hbefore⟩ := h
  refine ⟨ev :: before, name, after, rfl, ?_⟩
  rw [firstTag?, List.findSome?_cons, hev]
  exact hbefore

/-- The name of the root element is that of the first tag. -/
lemma rootNameOf_of_firstTag? {tag : Tag} (htag : firstTag? es = some tag)
    (hes : ¬EndTagFirst es) : rootNameOf complete es = .ok (String.ofList tag.name) := by
  induction es with
  | nil => cases htag
  | cons ev es ih =>
    cases ev with
    | opening tag' | empty tag' =>
      obtain rfl : tag' = tag := Option.some.inj htag
      rfl
    | closing name => exact absurd ⟨[], name, es, rfl, rfl⟩ hes
    | text raw | cdata data | doctype | remark => exact ih htag fun h => hes (h.cons rfl)

/-- An end tag before the first tag leaves a document without a name of its root element. -/
lemma EndTagFirst.rootNameOf_eq (h : EndTagFirst es) :
    rootNameOf complete es = .error .malformed := by
  obtain ⟨before, name, after, rfl, hbefore⟩ := h
  induction before with
  | nil => rfl
  | cons ev before ih =>
    cases ev with
    | opening tag | empty tag => cases hbefore
    | closing name' => rfl
    | text raw | cdata data | doctype | remark => exact ih hbefore

/-! ## The bottom of the stack -/

variable {e : Element}

/-- The name of the element at the bottom of a stack. -/
def bottomName? (stack : List Frame) : Option (List Char) := (stack.map Frame.name).getLast?

/-- What is put on top of an open element does not change the bottom. -/
lemma bottomName?_cons_cons (f g : Frame) (stack : List Frame) :
    bottomName? (f :: g :: stack) = bottomName? (g :: stack) := by
  rw [bottomName?, List.map_cons, List.map_cons, List.getLast?_cons_cons, bottomName?,
    List.map_cons]

lemma bottomName?_of_closeAll {stack : List Frame} (h : closeAll stack = .ok e) :
    bottomName? stack = some e.name.toList := by
  fun_induction closeAll stack with
  | case1 => cases h
  | case2 f =>
    obtain rfl := Except.ok.inj h
    simp [bottomName?, Frame.close]
  | case3 f g stack ih =>
    rw [bottomName?_cons_cons]
    exact ih h

/-- As long as an element is open, the one at the bottom is the one that is returned. -/
lemma bottomName?_of_assemble {f : Frame} {stack : List Frame}
    (h : assemble complete (f :: stack) es = .ok e) :
    bottomName? (f :: stack) = some e.name.toList := by
  induction es generalizing f stack with
  | nil =>
    rw [assemble] at h
    split at h
    · exact bottomName?_of_closeAll h
    · cases h
  | cons ev es ih =>
    cases ev with
    | opening tag =>
      rw [assemble] at h
      rw [← bottomName?_cons_cons (Frame.opened tag)]
      exact ih h
    | closing name =>
      cases stack with
      | nil =>
        rw [assemble] at h
        obtain rfl := Except.ok.inj h
        simp [bottomName?, Frame.close]
      | cons g stack =>
        rw [assemble] at h
        rw [bottomName?_cons_cons]
        simpa [bottomName?, Frame.push] using ih h
    -- an open element keeps its name, whatever is put into it
    | empty tag =>
      rw [assemble] at h
      simpa [bottomName?, Frame.push] using ih h
    | text raw | cdata data =>
      rw [assemble] at h
      simpa [bottomName?, Frame.write] using ih h
    | doctype | remark =>
      rw [assemble] at h
      exact ih h

/-- A document is read as the element of its first tag, whatever end tags stand before it. -/
lemma firstTag?_of_assemble (h : assemble complete [] es = .ok e) :
    ∃ tag, firstTag? es = some tag ∧ e.name = String.ofList tag.name := by
  induction es with
  | nil => cases complete <;> simp [assemble, closeAll] at h
  | cons ev es ih =>
    cases ev with
    | opening tag =>
      rw [assemble] at h
      have hbottom : some tag.name = some e.name.toList := bottomName?_of_assemble h
      exact ⟨tag, rfl, by rw [Option.some.inj hbottom, String.ofList_toList]⟩
    | empty tag =>
      obtain rfl := Except.ok.inj h
      exact ⟨tag, rfl, rfl⟩
    | closing name | text raw | cdata data | doctype | remark =>
      rw [assemble] at h
      exact ih h

end UpnpGateway.Xml

namespace UpnpGateway.ServiceDescription

open UpnpGateway.Xml

/-- Only a document whose root element has the name of service descriptions says something. -/
lemma hasRoot_of_parse {rule : TagRule} {document : String} {table : ServiceTable}
    (h : parse rule document = .ok table) : hasRoot rule document = true := by
  by_contra hroot
  have hnone := toOption_parse rule document
  rw [h, strictTable?, if_neg hroot, treeTable?, if_neg hroot] at hnone
  cases hnone

/-- If a document can be read as a tree, then its root element can have no other name in the check
than in the tree.  The check finds a name unless an end tag stands before the first tag, in which
case it finds none.  So a document says nothing about a service if the root element of its tree is
not called as a service description is. -/
theorem rootName_of_parse {document : String} {e : Element} (h : Xml.parse document = .ok e) :
    (∀ n, rootName document = .ok n → e.name = n) ∧
      (¬EndTagFirst (events document).1 → ∃ n, rootName document = .ok n) ∧
      (EndTagFirst (events document).1 → rootName document = .error .malformed) ∧
      ∀ rule table, parse rule document = .ok table → rule.matches e.name "scpd" = true := by
  obtain ⟨tag, htag, hname⟩ := firstTag?_of_assemble h
  have hfails : EndTagFirst (events document).1 → rootName document = .error .malformed :=
    EndTagFirst.rootNameOf_eq
  have hreads : ¬EndTagFirst (events document).1 → rootName document = .ok e.name :=
    fun hes => hname ▸ rootNameOf_of_firstTag? htag hes
  have hagree : ∀ n, rootName document = .ok n → e.name = n := by
    intro n hn
    by_cases hes : EndTagFirst (events document).1
    · rw [hfails hes] at hn
      cases hn
    · rw [hreads hes] at hn
      exact Except.ok.inj hn
  refine ⟨hagree, fun hes => ⟨_, hreads hes⟩, hfails, fun rule table htable => ?_⟩
  have hroot := hasRoot_of_parse htable
  rw [hasRoot] at hroot
  cases hn : rootName document with
  | error cause => simp [hn, Except.toOption] at hroot
  | ok n =>
    rw [hagree n hn]
    simpa [hn, Except.toOption] using hroot

/-- A service description with an end tag in a comment before its root element, which is closed only
by the end of the document. -/
def unclosedDeclarations : String :=
  "\uFEFF<?xml version=\"1.0\"?> x <!-- </a> --><s:scpd b='>'><c></d><e/>"

/-- The check and the reader agree about the unclosed document.  An end tag that does not stand in a
comment is passed over by the reader alone. -/
theorem rootName_unclosedDeclarations :
    (Xml.parse unclosedDeclarations =
        .ok ⟨"s:scpd", "", [⟨"c", "", []⟩, ⟨"e", "", []⟩]⟩ ∧
      rootName unclosedDeclarations = .ok "s:scpd") ∧
    Xml.parse "</a><scpd/>" = .ok ⟨"scpd", "", []⟩ ∧
      rootName "</a><scpd/>" = .error .malformed := by
  have hunclosed : events unclosedDeclarations =
      ([.remark, .text " x ".toList, .remark, .opening ⟨"s:scpd".toList, " b='>'".toList⟩,
        .opening ⟨['c'], []⟩, .closing ['d'], .empty ⟨['e'], []⟩], true) := by
    decide +kernel
  have hclosed : events "</a><scpd/>" =
      ([.closing ['a'], .empty ⟨"scpd".toList, []⟩], true) := by
    decide +kernel
  have h : Xml.parse unclosedDeclarations =
      .ok ⟨"s:scpd", "", [⟨"c", "", []⟩, ⟨"e", "", []⟩]⟩ := by
    rw [Xml.parse, hunclosed]
    simp only [assemble, closeAll]
    rfl
  have h' : Xml.parse "</a><scpd/>" = .ok ⟨"scpd", "", []⟩ := by
    rw [Xml.parse, hclosed]
    rfl
  have hopens : ¬EndTagFirst (events unclosedDeclarations).1 := by
    rw [hunclosed]
    intro hfirst
    have hfails : rootNameOf true _ = .error .malformed := hfirst.rootNameOf_eq
    cases hfails
  have hcloses : EndTagFirst (events "</a><scpd/>").1 := by
    rw [hclosed]
    exact ⟨[], _, _, rfl, rfl⟩
  obtain ⟨hagree, hreads, -, -⟩ := rootName_of_parse h
  obtain ⟨n, hn⟩ := hreads hopens
  obtain rfl : "s:scpd" = n := hagree n hn
  exact ⟨⟨h, hn⟩, h', (rootName_of_parse h').2.2.1 hcloses⟩

end UpnpGateway.ServiceDescription

/-
# The case of letters in root documents

With the rule that ignores the case of letters, the tolerant reader takes a root document in
whatever case the names of its tags are written.  The strict reader comes first, however, and
it is not tolerant: a name in another case is no field of its, so that a document in which
all required names are as they should be is read without the fields whose names are not.
-/
import UpnpGateway.Proofs.Device.Reading
import UpnpGateway.Proofs.Xml.Agreement
import UpnpGateway.Proofs.Xml.LetterCase

namespace UpnpGateway.Description

open UpnpGateway.Text UpnpGateway.Xml

lemma ofTree_recased {d d' : String} (h : Recased d.toList d'.toList) :
    ofTree .ignoreCase d = ofTree .ignoreCase d' :=
  ofTree_congr ignores_lower (Xml.parse_recased h)

/-- A document that the strict reader reads as the tolerant one does, if it reads it at all. -/
def ReadAsTree (d : String) : Prop :=
  ∀ r, ofRecords? d = some r → ofTree .ignoreCase d = .ok r

lemma parse_of_readAsTree {d : String} (h : ReadAsTree d) :
    parse .ignoreCase d = ofTree .ignoreCase d := by
  rw [parse]
  split
  · rename_i r hr
    exact (h r hr).symm
  · rfl

/-- The strict reader finds no device in a document whose names are all in upper case. -/
lemma ofRecords?_eq_none {d : String}
    (h : ∀ e ∈ (events d).1, ∀ tag, e.tag? = some tag → InCapitals tag.name) :
    ofRecords? d = none := by
  by_contra hne
  obtain ⟨r, hr⟩ := Option.ne_none_iff_exists'.1 hne
  simp only [ofRecords?, Option.bind_eq_bind, Option.bind_eq_some_iff, Option.pure_def,
    Option.some.injEq] at hr
  obtain ⟨root, hroot, content, hc, -, -, field, hfield, -, ⟨n, rfl, -⟩, -⟩ := hr
  obtain ⟨e, -, hm⟩ := mirrors_of_parse? (admitted_of_forall h []) hroot
  obtain ⟨tag, rfl⟩ := Node.record?_eq_some hc
  obtain ⟨-, -, -, hall⟩ := hm
  have hkey := hasKey_of_field? hfield
  cases n with
  | text data => simp [Node.hasKey] at hkey
  | element tag' inner =>
    obtain ⟨_, -, hname, -, -⟩ := hall.exists_of_mem (Node.mem_of_field? hfield)
    rw [Node.hasKey_element, beq_iff_eq] at hkey
    have hmem : 'd' ∈ tag'.name := mem_name_of_mem_key (by rw [hkey]; decide)
    simpa using hname 'd' hmem

/-- A document and the ways to write it with the case of letters changed in names say the same
where the strict reader leaves no field out, and only there. -/
theorem parse_ignoreCase (d : String) :
    (∀ d' : String, Recased d.toList d'.toList → ReadAsTree d → ReadAsTree d' →
      parse .ignoreCase d' = parse .ignoreCase d) ∧
    ((∀ d' : String, Recased d.toList d'.toList →
        (parse .ignoreCase d').toOption = (parse .ignoreCase d).toOption) ↔
      ∀ d' : String, Recased d.toList d'.toList → ReadAsTree d') := by
  have hpair : ∀ d' : String, Recased d.toList d'.toList → ReadAsTree d → ReadAsTree d' →
      parse .ignoreCase d' = parse .ignoreCase d := by
    intro d' hr h h'
    rw [parse_of_readAsTree h, parse_of_readAsTree h', ofTree_recased hr]
  refine ⟨hpair, fun hall d' hr r hstrict => ?_, fun hall d' hr => ?_⟩
  · -- the strict reader is out of the way where all names are in upper case
    obtain ⟨u, hu, hupper⟩ := exists_recased_document d
    have hnone := ofRecords?_eq_none hupper
    have hparse : parse .ignoreCase u = ofTree .ignoreCase d' := by
      rw [← ofTree_recased hr, ofTree_recased hu, parse, hnone]
    have hsame := (hall d' hr).trans (hall u hu).symm
    rw [hparse, parse, hstrict] at hsame
    cases htree : ofTree .ignoreCase d' with
    | error cause => simp [htree, Except.toOption] at hsame
    | ok r' => simpa [htree, Except.toOption, eq_comm] using hsame
  · rw [hpair d' hr (hall d (.same _)) (hall d' hr)]

/-- The name of the field that says what kind of device a device is. -/
def deviceTypeName : List Char := ['d', 'e', 'v', 'i', 'c', 'e', 'T', 'y', 'p', 'e']

/-- A root document with the given names for the device and for a field of it, which has the
text `1`. -/
def documentWith (device field : List Char) : String :=
  String.ofList ('<' :: (['r'] ++ '>' :: '<' :: (device ++ '>' ::
    '<' :: (deviceTypeName ++ '>' :: '<' :: '/' :: (deviceTypeName ++ '>' ::
    '<' :: (field ++ '>' :: (['1'] ++ '<' :: '/' :: (field ++ '>' ::
    '<' :: '/' :: (device ++ '>' :: '<' :: '/' :: (['r'] ++ ['>']))))))))))

lemma recased_documentWith {device device' field field' : List Char} (hd : IsName device)
    (hf : IsName field) (hdevice : lower device = lower device')
    (hfield : lower field = lower field') :
    Recased (documentWith device field).toList (documentWith device' field').toList := by
  have hr : IsName ['r'] := by decide
  have htype : IsName deviceTypeName := by decide
  rw [documentWith, documentWith, String.toList_ofList, String.toList_ofList]
  refine .of_opening hr rfl (.of_opening hd hdevice (.of_opening htype rfl
    (.of_closing htype rfl (.of_opening hf hfield ?_))))
  refine .of_text (by decide) (fun c hc => by cases hc; rfl) ?_
  exact .of_closing hf hfield (.of_closing hd hdevice (.same _))

/-- Under the rule that ignores the case of letters, it matters in the name of a field that may
be left out. -/
theorem parse_ignoreCase_field :
    Recased (documentWith ['d', 'e', 'v', 'i', 'c', 'e'] ['U', 'D', 'N']).toList
        (documentWith ['d', 'e', 'v', 'i', 'c', 'e'] ['U', 'd', 'n']).toList ∧
      (parse .ignoreCase (documentWith ['d', 'e', 'v', 'i', 'c', 'e'] ['U', 'D', 'N'])).toOption.map
        (·.device.udn) = some "1" ∧
      (parse .ignoreCase (documentWith ['d', 'e', 'v', 'i', 'c', 'e'] ['U', 'd', 'n'])).toOption.map
        (·.device.udn) = some "" := by
  refine ⟨recased_documentWith (by decide) (by decide) rfl (by decide),
    ?_, ?_⟩
  · decide +kernel
  · decide +kernel

/-- The case of letters does not matter where the strict reader reads neither document. -/
theorem parse_ignoreCase_device :
    parse .ignoreCase (documentWith ['D', 'E', 'V', 'I', 'C', 'E'] ['U', 'd', 'n']) =
      parse .ignoreCase (documentWith ['D', 'e', 'v', 'i', 'c', 'e'] ['U', 'D', 'N']) := by
  have hread : ∀ d, (ofRecords? d).isNone = true → ReadAsTree d := by
    intro d hd r hr
    simp [hr] at hd
  exact (parse_ignoreCase _).1 _
    (recased_documentWith (by decide) (by decide) (by decide) (by decide))
    (hread _ (by decide +kernel)) (hread _ (by decide +kernel))

end UpnpGateway.Description

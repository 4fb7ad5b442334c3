/-
# What stands behind a description

A gateway may send more than the description that it was asked for.  Whatever stands behind the tag
that closes the root element of a document, be it text or markup that does not even end, makes no
difference to what is read, neither in a root document nor in the description of a service, and
neither to the strict reader nor to the tolerant one.
-/
import UpnpGateway.Device.ServiceDescription
import UpnpGateway.Proofs.Xml.RootEnd

namespace UpnpGateway

open UpnpGateway.Xml

section Readers

variable {d : String} (hend : d.toList.getLast? = some '>') (hroot : EndsWithRoot 0 (events d).1)
  (rule : TagRule) (t : String)
include hend hroot

lemma Description.parse_append_of_endsWithRoot : parse rule (d ++ t) = parse rule d := by
  have hstrict : ofRecords? (d ++ t) = ofRecords? d := by
    rw [ofRecords?, Node.parse?_append_of_endsWithRoot hend hroot, ofRecords?]
  have htree : ofTree rule (d ++ t) = ofTree rule d := by
    rw [ofTree, Xml.parse_append_of_endsWithRoot hend hroot, ofTree]
  rw [parse, hstrict, htree, parse]

lemma ServiceDescription.parse_append_of_endsWithRoot : parse rule (d ++ t) = parse rule d := by
  have hstrict : ofRecords? (d ++ t) = ofRecords? d := by
    rw [ofRecords?, Node.parse?_append_of_endsWithRoot hend hroot, ofRecords?]
  have htree : ofTree rule (d ++ t) = ofTree rule d := by
    rw [ofTree, Xml.parse_append_of_endsWithRoot hend hroot, ofTree]
  rw [parse, rootName_append_of_endsWithRoot hend hroot, hstrict, htree, parse]

end Readers

/-- In a document that goes up to the tag that closes its root element nothing depends on what is
put behind it: not the name of the root element, not the tree, and not what the document says as a
root document or as the description of a service, whichever way names are compared. -/
theorem read_append_of_closesRoot {document : String} (h : ClosesRoot document) (junk : String) :
    rootName (document ++ junk) = rootName document ∧
      Xml.parse (document ++ junk) = Xml.parse document ∧
      ∀ rule, Description.parse rule (document ++ junk) = Description.parse rule document ∧
        ServiceDescription.parse rule (document ++ junk) =
          ServiceDescription.parse rule document := by
  obtain ⟨d, w, rfl, hend, hroot⟩ := h
  -- both documents say what is said up to the tag
  have hsame : ∀ {α : Type} {read : String → α}, (∀ t, read (d ++ t) = read d) →
      read (d ++ w ++ junk) = read (d ++ w) := by
    intro α read hread
    rw [String.append_assoc, hread, hread]
  exact ⟨hsame (rootName_append_of_endsWithRoot hend hroot),
    hsame (Xml.parse_append_of_endsWithRoot hend hroot),
    fun rule => ⟨hsame (Description.parse_append_of_endsWithRoot hend hroot rule),
      hsame (ServiceDescription.parse_append_of_endsWithRoot hend hroot rule)⟩⟩

/-- A root document with a comment and quotes that hold angle brackets, in which end tags have the
names of other elements. -/
def crookedDocument : String :=
  "<?xml version=\"1.0\"?><r a='>'><!-- </r> --><device><deviceType>x</b><UDN/></device></q>"

/-- The document is read tolerantly, and reads the same with the beginning of a comment, of a tag
and of an entity behind it. -/
theorem read_crookedDocument :
    ClosesRoot crookedDocument ∧
      Description.parse .localName (crookedDocument ++ "\n&lt <a b=\"</r> <!-- ") =
        Description.parse .localName crookedDocument ∧
      (Description.parse .localName crookedDocument).toOption.map (·.device.deviceType) =
        some "x" := by
  have h : ClosesRoot crookedDocument :=
    ⟨crookedDocument, "", by decide, by decide +kernel, by decide +kernel⟩
  exact ⟨h, ((read_append_of_closesRoot h _).2.2 .localName).1, by decide +kernel⟩

end UpnpGateway

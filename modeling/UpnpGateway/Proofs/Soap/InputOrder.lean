/-
# The order of arguments

A caller may name the arguments of an action in any order.  What is sent is in the order in which
the action declares its inputs, and with the values that the caller names: as long as no name is
supplied twice, another order changes neither whether the arguments are written nor how.  Only the
name in a refusal may differ, and only if there are several arguments that are not declared.
-/
import Mathlib.Data.List.Perm.Basic
import UpnpGateway.Proofs.Soap.Inputs

namespace UpnpGateway.Soap

/-- A text stands for an input: it has the name of the input and is the value that is supplied
under this name, written for the type of the input. -/
structure IsTextOf (args : List (String × Value)) (input : Argument) (text : String × String) :
    Prop where
  /-- The name is that of the input. -/
  name_eq : text.1 = input.name
  /-- The text is that of the value. -/
  written : ∃ value, (input.name, value) ∈ args ∧ value.encode input.dataType = .ok text.2

/-- Every argument is one that the action declares. -/
def AllDeclared (action : Action) (args : List (String × Value)) : Prop :=
  ∀ arg ∈ args, ∃ input ∈ action.inputs, input.name = arg.1

variable {action : Action} {args args' : List (String × Value)}

/-- Whether all arguments are declared is told by the scan for one that is not. -/
lemma find?_undeclared_eq_none_iff :
    (args.find? fun arg => !action.inputs.any fun input => input.name == arg.1) = none ↔
      AllDeclared action args := by
  simp [AllDeclared]

lemma AllDeclared.encodeInputs_eq (h : AllDeclared action args) :
    encodeInputs action args = action.inputs.mapM (encodeInput args) := by
  rw [encodeInputs, find?_undeclared_eq_none_iff.2 h]

/-- What is written for an input is the text of the value under its name. -/
lemma encodeInput_eq_ok_iff (hargs : (args.map Prod.fst).Nodup) {input : Argument}
    {text : String × String} :
    encodeInput args input = .ok text ↔ IsTextOf args input text := by
  constructor
  · intro h
    obtain ⟨arg, s, hfind, hname, hs, rfl⟩ := exists_of_encodeInput h
    exact ⟨rfl, arg.2, hname ▸ List.mem_of_find?_eq_some hfind, hs⟩
  · rintro ⟨hname, value, hmem, hs⟩
    rw [encodeInput, find?_of_nodup hargs hmem]
    dsimp only
    rw [hs, ← hname]

/-- Arguments are written if and only if all of them are declared, as one text for each input. -/
lemma encodeInputs_eq_ok_iff (hargs : (args.map Prod.fst).Nodup)
    {texts : List (String × String)} :
    encodeInputs action args = .ok texts ↔
      AllDeclared action args ∧ List.Forall₂ (IsTextOf args) action.inputs texts := by
  have hforall : List.Forall₂ (fun input text => encodeInput args input = .ok text)
      action.inputs texts ↔ List.Forall₂ (IsTextOf args) action.inputs texts := by
    simp only [encodeInput_eq_ok_iff hargs]
  constructor
  · intro h
    have hdeclared : AllDeclared action args := fun arg => exists_input_of_encodeInputs h
    exact ⟨hdeclared, hforall.1 (forall₂_of_encodeInputs h)⟩
  · rintro ⟨hdeclared, h⟩
    rw [hdeclared.encodeInputs_eq]
    exact mapM_eq_ok_iff_forall₂.2 (hforall.2 h)

lemma toOption_encodeInputs_of_not_allDeclared (h : ¬AllDeclared action args) :
    (encodeInputs action args).toOption = none := by
  cases hresult : encodeInputs action args with
  | error e => rfl
  | ok texts => exact absurd (fun arg => exists_input_of_encodeInputs hresult) h

section Reordered

variable (hperm : args'.Perm args)
include hperm

lemma allDeclared_perm : AllDeclared action args' ↔ AllDeclared action args :=
  forall_congr' fun _ => by rw [hperm.mem_iff]

lemma isTextOf_perm : IsTextOf args' = IsTextOf args := by
  funext input text
  refine propext ⟨fun h => ⟨h.name_eq, ?_⟩, fun h => ⟨h.name_eq, ?_⟩⟩
  · simpa only [hperm.mem_iff] using h.written
  · simpa only [hperm.mem_iff] using h.written

/-- In another order the same value is found under each name. -/
lemma find?_perm (hargs : (args.map Prod.fst).Nodup) (name : String) :
    (args'.find? fun arg => arg.1 == name) = args.find? fun arg => arg.1 == name := by
  have hargs' : (args'.map Prod.fst).Nodup := (hperm.map Prod.fst).nodup_iff.2 hargs
  cases h : args.find? fun arg => arg.1 == name with
  | none =>
    rw [List.find?_eq_none] at h ⊢
    exact fun arg harg => h arg (hperm.mem_iff.1 harg)
  | some arg =>
    have hname : arg.1 = name := by simpa using List.find?_some h
    have hmem : (arg.1, arg.2) ∈ args' := hperm.mem_iff.2 (List.mem_of_find?_eq_some h)
    rw [← hname, find?_of_nodup hargs' hmem]

lemma encodeInput_perm (hargs : (args.map Prod.fst).Nodup) :
    encodeInput args' = encodeInput args := by
  funext input
  rw [encodeInput, encodeInput, find?_perm hperm hargs]

end Reordered

/-- If no name is supplied twice, the order of the arguments changes neither whether they are
written nor how: there is one text for each declared input, in declared order, and each is that of
the value under the name of the input.  If all arguments are declared, a refusal is the same as
well. -/
theorem encodeInputs_perm (action : Action) (args args' : List (String × Value))
    (hargs : (args.map Prod.fst).Nodup) (hperm : args'.Perm args) :
    (encodeInputs action args').toOption = (encodeInputs action args).toOption ∧
    (AllDeclared action args → encodeInputs action args' = encodeInputs action args) ∧
    ∀ texts, (encodeInputs action args' = .ok texts ↔
        AllDeclared action args ∧ List.Forall₂ (IsTextOf args) action.inputs texts) ∧
      (encodeInputs action args' = .ok texts →
        texts.map Prod.fst = action.inputs.map Argument.name) := by
  have heq : AllDeclared action args →
      encodeInputs action args' = encodeInputs action args := by
    intro h
    rw [h.encodeInputs_eq, ((allDeclared_perm hperm).2 h).encodeInputs_eq,
      encodeInput_perm hperm hargs]
  have hargs' : (args'.map Prod.fst).Nodup := (hperm.map Prod.fst).nodup_iff.2 hargs
  refine ⟨?_, heq, fun texts => ⟨?_, map_fst_of_encodeInputs⟩⟩
  · by_cases h : AllDeclared action args
    · rw [heq h]
    · have h' : ¬AllDeclared action args' := mt (allDeclared_perm hperm).1 h
      rw [toOption_encodeInputs_of_not_allDeclared h,
        toOption_encodeInputs_of_not_allDeclared h']
  · rw [encodeInputs_eq_ok_iff hargs', allDeclared_perm hperm, isTextOf_perm hperm]

/-- An action with a port and a protocol as its inputs. -/
def openPort : Action :=
  ⟨"AddPortMapping", [⟨"NewExternalPort", "ExternalPort", .integer .ui2⟩,
    ⟨"NewProtocol", "PortMappingProtocol", .string⟩], []⟩

/-- A port and a protocol are written in declared order although the protocol is named first. -/
theorem encodeInputs_perm_protocol_first :
    let port := ("NewExternalPort", Value.text " +080 ")
    let protocol := ("NewProtocol", Value.text "TCP")
    ((([port, protocol].map Prod.fst).Nodup ∧ [protocol, port].Perm [port, protocol]) ∧
      AllDeclared openPort [port, protocol] ∧
      encodeInputs openPort [protocol, port] =
        .ok [("NewExternalPort", "80"), ("NewProtocol", "TCP")]) ∧
    (encodeInputs openPort [protocol, port]).toOption =
      (encodeInputs openPort [port, protocol]).toOption := by
  intro port protocol
  have hargs : ([port, protocol].map Prod.fst).Nodup := by decide
  have hperm : [protocol, port].Perm [port, protocol] := .swap ..
  have hresult : encodeInputs openPort [protocol, port] =
      .ok [("NewExternalPort", "80"), ("NewProtocol", "TCP")] := by
    decide +kernel
  obtain ⟨hsame, -, htexts⟩ := encodeInputs_perm openPort _ _ hargs hperm
  exact ⟨⟨⟨hargs, hperm⟩, ((htexts _).1.1 hresult).1, hresult⟩, hsame⟩

end UpnpGateway.Soap

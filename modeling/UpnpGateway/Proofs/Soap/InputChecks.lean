/-
# Checked arguments

An action is asked for with the arguments that it declares, all of them, and each one with a value
that can be written for its type.  Anything else is refused, and the refusal names an argument
that is at fault.  A name that is supplied more than once stands for its first value: the later
ones are not looked at, so a value among them that does not fit is let through.
-/
import UpnpGateway.Proofs.Device.Services
import UpnpGateway.Proofs.Soap.Inputs

namespace UpnpGateway.Soap

/-- The arguments are the ones that an action takes. -/
structure Fits (action : Action) (args : List (String × Value)) : Prop where
  /-- Every argument is declared. -/
  declared : ∀ arg ∈ args, ∃ input ∈ action.inputs, input.name = arg.1
  /-- Every value can be written for the type of the input that it is for. -/
  written : ∀ arg ∈ args, ∀ input ∈ action.inputs, input.name = arg.1 →
    ∃ s, arg.2.encode input.dataType = .ok s
  /-- Every input is supplied. -/
  supplied : ∀ input ∈ action.inputs, ∃ arg ∈ args, arg.1 = input.name

/-- An argument is at fault in the way that is told. -/
inductive IsAtFault (action : Action) (args : List (String × Value)) : ArgumentError → Prop
  /-- It is supplied, and there is no such input. -/
  | undeclared {name : String} {value : Value} (hmem : (name, value) ∈ args)
      (hnone : ∀ input ∈ action.inputs, input.name ≠ name) :
      IsAtFault action args ⟨name, .undeclared⟩
  /-- It is an input that is not supplied. -/
  | missing {input : Argument} (hmem : input ∈ action.inputs)
      (hnone : ∀ arg ∈ args, arg.1 ≠ input.name) :
      IsAtFault action args ⟨input.name, .missing⟩
  /-- It is supplied with a value that cannot be written for the type of the input. -/
  | unfit {input : Argument} {value : Value} {cause : EncodeError}
      (hinput : input ∈ action.inputs) (hmem : (input.name, value) ∈ args)
      (hcause : value.encode input.dataType = .error cause) :
      IsAtFault action args ⟨input.name, .unfit cause⟩

/-- The first argument of each name. -/
def firsts (args : List (String × Value)) : List (String × Value) :=
  args.eraseDupsBy fun a b => a.1 == b.1

variable {action : Action} {args : List (String × Value)}

/-! ## First arguments -/

lemma mem_firsts {arg : String × Value} :
    arg ∈ firsts args ↔ (args.find? fun a => a.1 == arg.1) = some arg :=
  Device.mem_eraseDupsBy_key

lemma mem_of_mem_firsts {arg : String × Value} (h : arg ∈ firsts args) : arg ∈ args :=
  List.mem_of_find?_eq_some (mem_firsts.1 h)

/-- What is found under a name is a first argument. -/
lemma mem_firsts_of_find? {name : String} {arg : String × Value}
    (h : (args.find? fun a => a.1 == name) = some arg) : arg ∈ firsts args ∧ arg.1 = name := by
  have hname : arg.1 = name := by simpa using List.find?_some h
  exact ⟨mem_firsts.2 (hname ▸ h), hname⟩

/-- Every name that is supplied has a first argument. -/
lemma exists_mem_firsts {arg : String × Value} (h : arg ∈ args) :
    ∃ first ∈ firsts args, first.1 = arg.1 := by
  cases hfind : args.find? fun a => a.1 == arg.1 with
  | none => simpa using List.find?_eq_none.1 hfind arg h
  | some first => exact ⟨first, mem_firsts_of_find? hfind⟩

/-- If all arguments are the ones that an action takes, the first ones are. -/
lemma Fits.firsts (h : Fits action args) : Fits action (firsts args) where
  declared arg harg := h.declared arg (mem_of_mem_firsts harg)
  written arg harg := h.written arg (mem_of_mem_firsts harg)
  supplied input hinput := by
    obtain ⟨arg, harg, hname⟩ := h.supplied input hinput
    obtain ⟨first, hfirst, hsame⟩ := exists_mem_firsts harg
    exact ⟨first, hfirst, hsame.trans hname⟩

/-- Beyond the first arguments, only the values of the later ones matter. -/
lemma Fits.of_firsts (h : Fits action (Soap.firsts args))
    (hwritten : ∀ arg ∈ args, ∀ input ∈ action.inputs, input.name = arg.1 →
      ∃ s, arg.2.encode input.dataType = .ok s) : Fits action args where
  declared arg harg := by
    obtain ⟨first, hfirst, hsame⟩ := exists_mem_firsts harg
    exact hsame ▸ h.declared first hfirst
  written := hwritten
  supplied input hinput := by
    obtain ⟨first, hfirst, hname⟩ := h.supplied input hinput
    exact ⟨first, mem_of_mem_firsts hfirst, hname⟩

/-! ## Faults -/

namespace IsAtFault

variable {e : ArgumentError}

/-- An argument at fault keeps the arguments from being the ones that an action takes. -/
lemma not_fits (h : IsAtFault action args e) : ¬Fits action args := by
  intro hfits
  cases h with
  | undeclared hmem hnone =>
    obtain ⟨input, hinput, hname⟩ := hfits.declared _ hmem
    exact hnone input hinput hname
  | missing hmem hnone =>
    obtain ⟨arg, harg, hname⟩ := hfits.supplied _ hmem
    exact hnone arg harg hname
  | unfit hinput hmem hcause =>
    obtain ⟨s, hs⟩ := hfits.written _ hmem _ hinput rfl
    simp [hs] at hcause

/-- What is at fault among the first arguments is at fault among all. -/
lemma of_firsts (h : IsAtFault action (firsts args) e) : IsAtFault action args e := by
  cases h with
  | undeclared hmem hnone => exact .undeclared (mem_of_mem_firsts hmem) hnone
  | missing hmem hnone =>
    refine .missing hmem fun arg harg hname => ?_
    obtain ⟨first, hfirst, hsame⟩ := exists_mem_firsts harg
    exact hnone first hfirst (hsame.trans hname)
  | unfit hinput hmem hcause => exact .unfit hinput (mem_of_mem_firsts hmem) hcause

end IsAtFault

/-! ## The checks -/

/-- An input that cannot be written is at fault. -/
lemma isAtFault_of_encodeInput {input : Argument} (hinput : input ∈ action.inputs)
    {e : ArgumentError} (h : encodeInput args input = .error e) :
    IsAtFault action (firsts args) e := by
  rw [encodeInput] at h
  split at h
  · rename_i hfind
    rw [← Except.error.inj h]
    refine .missing hinput fun arg harg => ?_
    simpa using List.find?_eq_none.1 hfind arg (mem_of_mem_firsts harg)
  · rename_i arg hfind
    obtain ⟨hfirst, hname⟩ := mem_firsts_of_find? hfind
    split at h
    · simp at h
    · rename_i cause hcause
      rw [← Except.error.inj h]
      exact .unfit hinput (hname ▸ hfirst) hcause

/-- What is refused has an argument at fault among the first ones of their names. -/
lemma isAtFault_of_encodeInputs {e : ArgumentError} (h : encodeInputs action args = .error e) :
    IsAtFault action (firsts args) e := by
  rw [encodeInputs] at h
  split at h
  · rename_i arg hfind
    rw [← Except.error.inj h]
    obtain ⟨first, hfirst, hsame⟩ := exists_mem_firsts (List.mem_of_find?_eq_some hfind)
    have hmem : (arg.1, first.2) ∈ firsts args := hsame ▸ hfirst
    refine .undeclared hmem fun input hinput => ?_
    have hnone := List.find?_some hfind
    rw [Bool.not_eq_true', List.any_eq_false] at hnone
    simpa using hnone input hinput
  · obtain ⟨input, hinput, herror⟩ := exists_of_mapM_error h
    exact isAtFault_of_encodeInput hinput herror

/-- What is written has first arguments that are the ones that the action takes. -/
lemma fits_firsts_of_encodeInputs {texts : List (String × String)}
    (h : encodeInputs action args = .ok texts) : Fits action (firsts args) where
  declared arg harg := exists_input_of_encodeInputs h (mem_of_mem_firsts harg)
  written arg harg input hinput hname := by
    obtain ⟨s, hs, -⟩ := exists_of_encodeInputs h hinput (hname ▸ mem_firsts.1 harg)
    exact ⟨s, hs⟩
  supplied input hinput := by
    obtain ⟨text, -, htext⟩ := exists_text_of_encodeInputs h hinput
    obtain ⟨arg, s, hfind, -, -, -⟩ := exists_of_encodeInput htext
    exact ⟨arg, mem_firsts_of_find? hfind⟩

/-- The arguments are written if and only if the first ones of their names are the ones that the
action takes. -/
lemma encodeInputs_isOk_iff :
    (∃ texts, encodeInputs action args = .ok texts) ↔ Fits action (firsts args) := by
  constructor
  · rintro ⟨texts, h⟩
    exact fits_firsts_of_encodeInputs h
  · intro hfits
    cases h : encodeInputs action args with
    | ok texts => exact ⟨texts, rfl⟩
    | error e => exact absurd hfits (isAtFault_of_encodeInputs h).not_fits

/-- Arguments are written if and only if the first ones of their names are the ones that the action
takes, and what is refused is refused for an argument that is at fault.  Whether all arguments are
the ones that the action takes is told in this way unless the first ones are and a later value
does not fit. -/
theorem encodeInputs_checks_firsts (action : Action) (args : List (String × Value)) :
    ((∃ texts, encodeInputs action args = .ok texts) ↔ Fits action (firsts args)) ∧
    (∀ e, encodeInputs action args = .error e → IsAtFault action args e) ∧
    (((∃ texts, encodeInputs action args = .ok texts) ↔ Fits action args) ↔
      (Fits action (firsts args) → ∀ arg ∈ args, ∀ input ∈ action.inputs, input.name = arg.1 →
        ∃ s, arg.2.encode input.dataType = .ok s)) := by
  refine ⟨encodeInputs_isOk_iff, fun e h => (isAtFault_of_encodeInputs h).of_firsts, ?_⟩
  rw [encodeInputs_isOk_iff]
  constructor
  · intro hiff hfirsts
    exact (hiff.1 hfirsts).written
  · intro hlater
    exact ⟨fun hfirsts => hfirsts.of_firsts (hlater hfirsts), Fits.firsts⟩

/-! ### A value that is not looked at -/

/-- An action with a port as its only input. -/
def closePort : Action :=
  ⟨"DeletePortMapping", [⟨"NewExternalPort", "ExternalPort", .integer .ui2⟩], []⟩

/-- A port, and a number that is no port under the same name. -/
def twoPorts : List (String × Value) :=
  [("NewExternalPort", .unsigned 1), ("NewExternalPort", .unsigned 70000)]

lemma not_fits_twoPorts : ¬ Fits closePort twoPorts := by
  have hcause : (Value.unsigned 70000).encode (.integer .ui2) =
      .error (.outOfRange 70000 .ui2) := by
    decide +kernel
  have hinput : ⟨"NewExternalPort", "ExternalPort", .integer .ui2⟩ ∈ closePort.inputs :=
    List.mem_cons_self
  have hmem : ("NewExternalPort", Value.unsigned 70000) ∈ twoPorts :=
    List.mem_cons_of_mem _ List.mem_cons_self
  exact (IsAtFault.unfit hinput hmem hcause).not_fits

/-- Arguments can be written although one of their values does not fit. -/
theorem encodeInputs_overlooks_value :
    (¬ ∀ (action : Action) (args : List (String × Value)),
      (action.inputs.map Argument.name).Nodup →
      ((∃ texts, encodeInputs action args = .ok texts) ↔ Fits action args)) ∧
    encodeInputs closePort twoPorts = .ok [("NewExternalPort", "1")] := by
  have hwritten : encodeInputs closePort twoPorts = .ok [("NewExternalPort", "1")] := by
    decide +kernel
  refine ⟨fun hall => ?_, hwritten⟩
  exact not_fits_twoPorts ((hall closePort twoPorts (by decide)).1 ⟨_, hwritten⟩)

end UpnpGateway.Soap

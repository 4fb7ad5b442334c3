/-
# Arguments as they are written

If the arguments of an action can be written at all, then there is one text for each input in
declared order, and the text of a value is its plain one: a number stays the same number and a
truth value the same digit whatever the declared type.  Only a text may be put in other words,
where a number or a truth value is declared.
-/
import Mathlib.Data.List.Forall2
import Mathlib.Data.List.Nodup
import UpnpGateway.Soap.Inputs

namespace UpnpGateway

/-- Whether values of a data type are taken as they are. -/
def DataType.isText : DataType → Bool
  | .string | .other _ => true
  | .boolean | .integer _ => false

namespace Soap

open UpnpGateway.Text

/-- Whether a value is a text. -/
def Value.isText : Value → Bool
  | .text _ => true
  | _ => false

/-! ## Values -/

/-- The only digit that stands for a number is the number itself. -/
lemma truthDigit_eq {n : Int} {b : Bool} (h : n = if b then 1 else 0) :
    String.ofList (signedDecimal n) = truthDigit b := by
  subst h
  cases b <;> rfl

lemma Value.integer?_eq_some {v : Value} (hv : v.isText = false) :
    ∃ n, v.integer? = some n ∧ v.plain = String.ofList (signedDecimal n) := by
  cases v with
  | text s => simp [isText] at hv
  | unsigned n => exact ⟨_, rfl, rfl⟩
  | signed n => exact ⟨_, rfl, rfl⟩
  | truth b => exact ⟨_, rfl, (truthDigit_eq rfl).symm⟩

/-- A number that stands for a truth value is zero or one. -/
lemma Value.integer?_of_truth? {v : Value} (hv : v.isText = false) {b : Bool}
    (h : v.truth? = some b) : v.integer? = some (if b then 1 else 0) := by
  cases v with
  | text s => simp [isText] at hv
  | truth c => rw [← Option.some.inj h, integer?]
  | unsigned n | signed n =>
    rw [truth?] at h
    split at h
    · rename_i hn
      rw [← Option.some.inj h, eq_of_beq hn]
      rfl
    · split at h
      · rename_i hn
        rw [← Option.some.inj h, eq_of_beq hn]
        rfl
      · simp at h

/-- The only written form of a value is the plain one, unless it is a text and something else
is declared. -/
lemma Value.eq_plain_of_encode {v : Value} {type : DataType} {s : String}
    (h : v.encode type = .ok s) (hv : v.isText = true → type.isText = true) : s = v.plain := by
  cases type with
  | string | other name => exact (Except.ok.inj h).symm
  | boolean =>
    -- only zero and one stand for truth values, and their digits are their texts
    have hv' : v.isText = false := by simpa [DataType.isText] using hv
    obtain ⟨n, hn, hplain⟩ := integer?_eq_some hv'
    rw [encode] at h
    split at h
    · rename_i b hb
      rw [integer?_of_truth? hv' hb, Option.some.injEq] at hn
      rw [← Except.ok.inj h, hplain, truthDigit_eq hn.symm]
    · simp at h
  | integer type =>
    have hv' : v.isText = false := by simpa [DataType.isText] using hv
    obtain ⟨n, hn, hplain⟩ := integer?_eq_some hv'
    rw [encode, hn] at h
    dsimp only at h
    split at h
    · rw [← Except.ok.inj h, hplain]
    · simp at h

/-! ## Lists of arguments -/

/-- A value that stands under its name only once is the one that is found. -/
lemma find?_of_nodup {α : Type} {l : List (String × α)} (hnodup : (l.map Prod.fst).Nodup)
    {name : String} {value : α} (hmem : (name, value) ∈ l) :
    (l.find? fun a => a.1 == name) = some (name, value) := by
  cases h : l.find? fun a => a.1 == name with
  | none => simpa using List.find?_eq_none.1 h _ hmem
  | some a =>
    have hname : a.1 = name := by simpa using List.find?_some h
    rw [List.inj_on_of_nodup_map hnodup (List.mem_of_find?_eq_some h) hmem hname]

/-- A run over a list succeeds if it does at each of the items. -/
lemma mapM_eq_ok_iff_forall₂ {α β ε : Type} {f : α → Except ε β} {l : List α} {ys : List β} :
    l.mapM f = .ok ys ↔ List.Forall₂ (fun x y => f x = .ok y) l ys := by
  induction l generalizing ys with
  | nil => simp [pure, Except.pure, eq_comm]
  | cons x l ih =>
    rw [List.mapM_cons, List.forall₂_cons_left_iff]
    cases hx : f x with
    | error e => simp [bind, Except.bind]
    | ok y =>
      cases hl : l.mapM f with
      | error e => simp [← ih, hl, bind, Except.bind]
      | ok zs => simp [← ih, hl, bind, Except.bind, pure, Except.pure, eq_comm]

/-- A run over a list fails at one of its items. -/
lemma exists_of_mapM_error {α β ε : Type} {f : α → Except ε β} {l : List α} {e : ε}
    (h : l.mapM f = .error e) : ∃ x ∈ l, f x = .error e := by
  induction l with
  | nil => simp [pure, Except.pure] at h
  | cons x l ih =>
    rw [List.mapM_cons] at h
    cases hx : f x with
    | error e' =>
      obtain rfl : e' = e := by simpa [hx, bind, Except.bind] using h
      exact ⟨x, List.mem_cons_self, hx⟩
    | ok y =>
      cases hl : l.mapM f with
      | error e' =>
        obtain rfl : e' = e := by simpa [hx, hl, bind, Except.bind] using h
        obtain ⟨z, hz, herror⟩ := ih hl
        exact ⟨z, List.mem_cons_of_mem x hz, herror⟩
      | ok zs => simp [hx, hl, bind, Except.bind, pure, Except.pure] at h

/-- What is written for an input is the text of the first value that is supplied for it. -/
lemma exists_of_encodeInput {args : List (String × Value)} {input : Argument}
    {text : String × String} (h : encodeInput args input = .ok text) :
    ∃ arg s, (args.find? fun a => a.1 == input.name) = some arg ∧ arg.1 = input.name ∧
      arg.2.encode input.dataType = .ok s ∧ text = (input.name, s) := by
  rw [encodeInput] at h
  split at h
  · cases h
  · rename_i arg hfind
    split at h
    · rename_i s hs
      have hname : arg.1 = input.name := by simpa using List.find?_some hfind
      exact ⟨arg, s, hfind, hname, hs, (Except.ok.inj h).symm⟩
    · cases h

section Encoded

variable {action : Action} {args : List (String × Value)} {texts : List (String × String)}
  (h : encodeInputs action args = .ok texts)
include h

lemma forall₂_of_encodeInputs :
    List.Forall₂ (fun input text => encodeInput args input = .ok text) action.inputs texts := by
  rw [encodeInputs] at h
  split at h
  · simp at h
  · exact mapM_eq_ok_iff_forall₂.1 h

/-- There is one text for each input, in declared order. -/
lemma map_fst_of_encodeInputs : texts.map Prod.fst = action.inputs.map Argument.name := by
  have hforall := forall₂_of_encodeInputs h
  clear h
  generalize action.inputs = inputs at hforall ⊢
  induction hforall with
  | nil => rfl
  | @cons input text inputs texts hinput hrest ih =>
    obtain ⟨arg, s, -, -, -, rfl⟩ := exists_of_encodeInput hinput
    rw [List.map_cons, List.map_cons, ih]

/-- Every argument is declared. -/
lemma exists_input_of_encodeInputs {arg : String × Value} (harg : arg ∈ args) :
    ∃ input ∈ action.inputs, input.name = arg.1 := by
  rw [encodeInputs] at h
  split at h
  · simp at h
  · rename_i hfind
    simpa using List.find?_eq_none.1 hfind arg harg

/-- Every input has its text. -/
lemma exists_text_of_encodeInputs {input : Argument} (hinput : input ∈ action.inputs) :
    ∃ text ∈ texts, encodeInput args input = .ok text := by
  obtain ⟨i, hi, rfl⟩ := List.getElem_of_mem hinput
  have hforall := List.forall₂_iff_get.1 (forall₂_of_encodeInputs h)
  exact ⟨_, List.get_mem texts ⟨i, hforall.1 ▸ hi⟩, hforall.2 i hi (hforall.1 ▸ hi)⟩

/-- The text of an input is that of the first value that is supplied for it. -/
lemma exists_of_encodeInputs {input : Argument} (hinput : input ∈ action.inputs)
    {arg : String × Value} (harg : (args.find? fun a => a.1 == input.name) = some arg) :
    ∃ s, arg.2.encode input.dataType = .ok s ∧ (input.name, s) ∈ texts := by
  obtain ⟨text, hmem, htext⟩ := exists_text_of_encodeInputs h hinput
  obtain ⟨first, s, hfirst, -, hs, rfl⟩ := exists_of_encodeInput htext
  obtain rfl := Option.some.inj (harg.symm.trans hfirst)
  exact ⟨s, hs, hmem⟩

/-- Every text is that of an argument. -/
lemma mem_map_fst_of_encodeInputs {text : String × String} (htext : text ∈ texts) :
    text.1 ∈ args.map Prod.fst := by
  have hname : text.1 ∈ action.inputs.map Argument.name := by
    rw [← map_fst_of_encodeInputs h]
    exact List.mem_map_of_mem htext
  obtain ⟨input, hinput, hname⟩ := List.mem_map.1 hname
  obtain ⟨text', -, htext'⟩ := exists_text_of_encodeInputs h hinput
  obtain ⟨arg, s, harg, hfirst, -, -⟩ := exists_of_encodeInput htext'
  exact List.mem_map.2 ⟨arg, List.mem_of_find?_eq_some harg, hfirst.trans hname⟩

/-- If no name is used twice, every argument is written as the input of its name. -/
lemma exists_encode_of_encodeInputs (hargs : (args.map Prod.fst).Nodup) {arg : String × Value}
    (harg : arg ∈ args) :
    ∃ input ∈ action.inputs, ∃ s, input.name = arg.1 ∧ arg.2.encode input.dataType = .ok s ∧
      (arg.1, s) ∈ texts := by
  obtain ⟨input, hinput, hname⟩ := exists_input_of_encodeInputs h harg
  have hfirst : (args.find? fun a => a.1 == input.name) = some arg := by
    rw [hname]
    exact find?_of_nodup hargs harg
  obtain ⟨s, hs, hmem⟩ := exists_of_encodeInputs h hinput hfirst
  exact ⟨input, hinput, s, hname, hs, hname ▸ hmem⟩

/-- An argument is written in its plain form, unless it is a text and something else is
declared. -/
lemma mem_plain_of_encodeInputs (hargs : (args.map Prod.fst).Nodup) {arg : String × Value}
    (harg : arg ∈ args) (htype : arg.2.isText = true →
      ∀ input ∈ action.inputs, input.name = arg.1 → input.dataType.isText = true) :
    (arg.1, arg.2.plain) ∈ texts := by
  obtain ⟨input, hinput, s, hname, hs, hmem⟩ := exists_encode_of_encodeInputs h hargs harg
  rwa [Value.eq_plain_of_encode hs fun htext => htype htext input hinput hname] at hmem

end Encoded

end Soap

end UpnpGateway

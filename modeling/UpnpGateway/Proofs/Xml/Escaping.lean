/-
# Escaping and reading back

An escaped text is read back as it was.  What is written has no angle bracket that could be
taken for markup, and neither escaping nor reading back adds or takes blanks, so the blanks at
the ends can be dropped before or after.
-/
import UpnpGateway.Proofs.Text.Blank
import UpnpGateway.Xml.Document

namespace UpnpGateway.Xml

open UpnpGateway.Text

/-! ## Reading back -/

/-- Reading back goes from one ampersand to the next. -/
lemma unescape?_eq (s : List Char) :
    unescape? s =
      match cutFirst '&' s with
      | none => some s
      | some (plain, r) =>
        match cutFirst ';' r with
        | none => none
        | some (name, rest) =>
          if name.contains '&' then none
          else (entity? name).bind fun c => (unescape? rest).map fun t => plain ++ c :: t := by
  rw [unescape?]
  split
  · rename_i h
    rw [h]
  · rename_i plain r h
    split
    · rename_i h'
      simp [h, h']
    · rename_i name rest h'
      simp [h, h']

/-- A text without ampersands stands for itself. -/
lemma unescape?_of_notMem {s : List Char} (h : '&' ∉ s) : unescape? s = some s := by
  rw [unescape?_eq, cutFirst_eq_none.2 h]

@[simp] lemma unescape?_nil : unescape? [] = some [] := unescape?_of_notMem (by simp)

@[simp] lemma unescape_nil : unescape [] = [] := by
  rw [unescape, unescape?_nil, Option.getD_some]

/-- A character that begins no entity stands for itself. -/
lemma unescape?_cons {c : Char} (hc : c ≠ '&') (s : List Char) :
    unescape? (c :: s) = (unescape? s).map fun t => c :: t := by
  rw [unescape?_eq, unescape?_eq s, cutFirst_cons_of_ne hc]
  cases cutFirst '&' s with
  | none => rfl
  | some p =>
    cases h : cutFirst ';' p.2 with
    | none => simp [h]
    | some q =>
      simp only [Option.map_some, h]
      split
      · rfl
      · simp [Option.map_bind, Function.comp_def]

/-- An entity is read as its character. -/
lemma unescape?_entity {w : List Char} (hsemi : ';' ∉ w) (hamp : '&' ∉ w) (s : List Char) :
    unescape? ('&' :: (w ++ ';' :: s)) =
      (entity? w).bind fun c => (unescape? s).map fun t => c :: t := by
  rw [unescape?_eq, cutFirst_cons_self]
  simp [cutFirst_append hsemi, hamp]

/-! ## Escaped texts -/

lemma unescape?_escapeChar (c : Char) (s : List Char) :
    unescape? (escapeChar c ++ s) = (unescape? s).map fun t => c :: t := by
  unfold escapeChar
  split
  · exact unescape?_entity (w := "lt".toList) (by decide) (by decide) s
  · exact unescape?_entity (w := "gt".toList) (by decide) (by decide) s
  · exact unescape?_entity (w := "amp".toList) (by decide) (by decide) s
  · exact unescape?_entity (w := "apos".toList) (by decide) (by decide) s
  · exact unescape?_entity (w := "quot".toList) (by decide) (by decide) s
  · exact unescape?_cons (by assumption) s

lemma unescape?_escape (s : List Char) : unescape? (escape s) = some s := by
  induction s with
  | nil => exact unescape?_nil
  | cons c s ih =>
    rw [escape, List.flatMap_cons, unescape?_escapeChar, ← escape, ih, Option.map_some]

/-- Every text is read back as it was. -/
@[simp] lemma unescape_escape (s : List Char) : unescape (escape s) = s := by
  rw [unescape, unescape?_escape, Option.getD_some]

/-- A character is written as itself, or else neither as a blank nor as markup. -/
lemma escapeChar_cases (c : Char) :
    escapeChar c = [c] ∧ c ≠ '<' ∨
      isMarkupBlank c = false ∧ ∃ w, escapeChar c = '&' :: (w ++ [';']) ∧ '<' ∉ w := by
  unfold escapeChar
  split
  · exact .inr ⟨rfl, "lt".toList, rfl, by decide⟩
  · exact .inr ⟨rfl, "gt".toList, rfl, by decide⟩
  · exact .inr ⟨rfl, "amp".toList, rfl, by decide⟩
  · exact .inr ⟨rfl, "apos".toList, rfl, by decide⟩
  · exact .inr ⟨rfl, "quot".toList, rfl, by decide⟩
  · exact .inl ⟨rfl, by assumption⟩

/-- Of the reserved characters only the ampersand occurs in what is written. -/
lemma notMem_escape_of_reserved {c : Char} (hc : c = '<' ∨ c = '>' ∨ c = '\'' ∨ c = '"')
    (s : List Char) : c ∉ escape s := by
  intro h
  obtain ⟨d, -, hd⟩ := List.mem_flatMap.1 h
  unfold escapeChar at hd
  rcases hc with rfl | rfl | rfl | rfl <;> split at hd <;> simp_all [eq_comm]

/-- What is written holds no markup. -/
lemma notMem_escape (s : List Char) : '<' ∉ escape s := notMem_escape_of_reserved (.inl rfl) s

lemma escape_append (s t : List Char) : escape (s ++ t) = escape s ++ escape t :=
  List.flatMap_append

lemma dropWhile_escape (s : List Char) :
    (escape s).dropWhile isMarkupBlank = escape (s.dropWhile isMarkupBlank) := by
  induction s with
  | nil => rfl
  | cons c s ih =>
    rw [escape, List.flatMap_cons, ← escape]
    rcases escapeChar_cases c with ⟨he, -⟩ | ⟨hc, w, he, -⟩
    · by_cases hc : isMarkupBlank c = true
      · simp [he, hc, ih]
      · simp [he, hc, escape]
    · have hamp : isMarkupBlank '&' = false := rfl
      simp [he, hc, hamp, escape]

lemma dropEndWhile_escape (s : List Char) :
    dropEndWhile isMarkupBlank (escape s) = escape (dropEndWhile isMarkupBlank s) := by
  induction s using List.reverseRecOn with
  | nil => rfl
  | append_singleton s c ih =>
    have hsingle : escape [c] = escapeChar c := by simp [escape]
    rw [escape_append, hsingle, dropEndWhile_concat]
    rcases escapeChar_cases c with ⟨he, -⟩ | ⟨hc, w, he, -⟩
    · rw [he, dropEndWhile_concat, ih, apply_ite escape, escape_append, hsingle, he]
    · rw [if_neg (by simp [hc]), escape_append, hsingle]
      -- an entity ends with a semicolon, which is no blank
      refine dropEndWhile_append_of_ne (by simp [he]) fun d hd => ?_
      rw [he, ← List.cons_append, List.getLast?_concat, Option.some.injEq] at hd
      subst hd
      rfl

/-- The blanks at the ends are the same before and after. -/
lemma dropEndsWhile_escape (s : List Char) :
    dropEndsWhile isMarkupBlank (escape s) = escape (dropEndsWhile isMarkupBlank s) := by
  rw [dropEndsWhile, dropWhile_escape, dropEndWhile_escape, dropEndsWhile]

/-- The data of an escaped run is the text without the blanks of markup at its ends. -/
@[simp] lemma runText_escape (s : List Char) :
    runText (escape s) = dropEndsWhile isMarkupBlank s := by
  rw [runText, dropEndsWhile_escape, unescape_escape]

end UpnpGateway.Xml

/-
# Blanks, words and lines

Values read from a gateway are trimmed at both ends, status lines are cut into words and
header blocks into lines.  A blank is a character with the `White_Space` property of
Unicode, so a no-break space is one and a zero-width space is none.  Markup has a narrower
set of its own: space, tab, carriage return and line feed.
-/
import UpnpGateway.Text.Cut

namespace UpnpGateway.Text

/-- A character with the `White_Space` property. -/
def isBlank (c : Char) : Bool :=
  (9 ≤ c.toNat && c.toNat ≤ 13) || (0x2000 ≤ c.toNat && c.toNat ≤ 0x200A) ||
    [0x20, 0x85, 0xA0, 0x1680, 0x2028, 0x2029, 0x202F, 0x205F, 0x3000].contains c.toNat

/-- A character that separates the parts of a piece of markup. -/
def isMarkupBlank (c : Char) : Bool :=
  c == ' ' || c == '\t' || c == '\r' || c == '\n'

/-- Drops the items that satisfy `p` from the end of a list. -/
def dropEndWhile {α : Type} (p : α → Bool) (s : List α) : List α :=
  (s.reverse.dropWhile p).reverse

/-- Drops the items that satisfy `p` from both ends of a list. -/
def dropEndsWhile {α : Type} (p : α → Bool) (s : List α) : List α :=
  dropEndWhile p (s.dropWhile p)

/-- Drops the blanks at both ends. -/
def trim (s : List Char) : List Char := dropEndsWhile isBlank s

/-- The text without the blanks at both ends. -/
def trimmed (s : String) : String := String.ofList (trim s.toList)

/-- The maximal runs of characters that are not blank. -/
def words (s : List Char) : List (List Char) :=
  (splitWhere isBlank s).filter fun w => !w.isEmpty

/-- Drops one carriage return from the end of a line. -/
def dropReturn (s : List Char) : List Char :=
  if s.getLast? == some '\r' then s.dropLast else s

/-- The lines of a text: a line feed ends a line, together with a carriage return right
before it, and the text after the last line feed is a line if it is not empty. -/
def lines (s : List Char) : List (List Char) :=
  let parts := splitWhere (· == '\n') s
  parts.dropLast.map dropReturn ++ (parts.getLast?.toList.filter fun w => !w.isEmpty)

theorem isBlank_of_isMarkupBlank {c : Char} (h : isMarkupBlank c = true) : isBlank c = true := by
  simp only [isMarkupBlank, Bool.or_eq_true, beq_iff_eq] at h
  rcases h with ((rfl | rfl) | rfl) | rfl <;> decide

@[simp] theorem dropEndWhile_nil {α : Type} (p : α → Bool) : dropEndWhile p [] = [] := rfl

theorem dropEndWhile_concat {α : Type} (p : α → Bool) (s : List α) (c : α) :
    dropEndWhile p (s ++ [c]) = if p c then dropEndWhile p s else s ++ [c] := by
  by_cases h : p c <;> simp [dropEndWhile, h]

/-- A list whose ends fail the test stays as it is. -/
theorem dropEndsWhile_of_ends {α : Type} {p : α → Bool} {s : List α}
    (hs : ∀ c, s.head? = some c → p c = false) (he : ∀ c, s.getLast? = some c → p c = false) :
    dropEndsWhile p s = s := by
  have h1 : s.dropWhile p = s := by
    cases s with
    | nil => rfl
    | cons c s => simp [hs c rfl]
  rw [dropEndsWhile, h1]
  rcases List.eq_nil_or_concat s with rfl | ⟨t, c, rfl⟩
  · rfl
  · rw [List.concat_eq_append, dropEndWhile_concat, he c (by simp)]
    simp

/-- Text that neither starts nor ends with a blank is its own trimmed form. -/
theorem trim_of_ends {s : List Char} (hs : ∀ c, s.head? = some c → isBlank c = false)
    (he : ∀ c, s.getLast? = some c → isBlank c = false) : trim s = s :=
  dropEndsWhile_of_ends hs he

end UpnpGateway.Text

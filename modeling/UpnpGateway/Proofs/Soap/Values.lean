/-
# Values as they are written

A number can be given as a number without or with a sign, as its text or, if it is zero or one, as
a truth value.  What is written for it is the same in all of these forms, and so is whether it is
written at all.  A text that has been written is in its final form: it is the decimal text of a
number of the declared type, or the digit of a truth value, and it is written as it is when it is
given again.  The words for truth values are those that are understood in answers.
-/
import UpnpGateway.Mapping.Answer
import UpnpGateway.Proofs.Soap.Inputs
import UpnpGateway.Proofs.Text.Letter
import UpnpGateway.Proofs.Text.Numeral

namespace UpnpGateway

open UpnpGateway.Text

namespace Text

/-- The words for a truth value. -/
def truthWords : Bool → List String
  | true => ["1", "true", "yes"]
  | false => ["0", "false", "no"]

/-- A text stands for a truth value if it is one of its words, in any case of letters and with any
blanks at its ends. -/
lemma readTruth?_eq_some_iff {s : List Char} {b : Bool} :
    readTruth? s = some b ↔ ∃ word ∈ truthWords b, word.toList = lower (trim s) := by
  have hany : ∀ b, ((truthWords b).any (·.toList == lower (trim s))) = true ↔
      ∃ word ∈ truthWords b, word.toList = lower (trim s) := by
    simp only [List.any_eq_true, beq_iff_eq, implies_true]
  have hdisjoint : ∀ v ∈ truthWords true, ∀ w ∈ truthWords false, v.toList ≠ w.toList := by
    decide
  have hread : readTruth? s = if (truthWords true).any (·.toList == lower (trim s)) then some true
      else if (truthWords false).any (·.toList == lower (trim s)) then some false else none := rfl
  rw [hread, ← hany]
  cases b with
  | true => grind
  | false => grind

/-- Only the digit among the words for a truth value is a number. -/
lemma exists_truthWord_iff {n : Int} {b : Bool} :
    (∃ word ∈ truthWords b, word.toList = signedDecimal n) ↔ n = if b then 1 else 0 := by
  constructor
  · rintro ⟨word, hmem, hword⟩
    have hplain : word.toList.any Char.isAlpha = false := by
      rw [List.any_eq_false, hword]
      exact fun c hc => by simp [(plain_of_mem_signedDecimal hc).2]
    have hdigit : ∀ b, ∀ w ∈ truthWords b, w.toList.any Char.isAlpha = false →
        w.toList = signedDecimal (if b then 1 else 0) := by
      decide
    exact signedDecimal_injective (hword.symm.trans (hdigit b word hmem hplain))
  · rintro rfl
    exact ⟨truthDigit b, by cases b <;> decide, by cases b <;> rfl⟩

/-- Zero and one are the only numbers that stand for truth values. -/
lemma readTruth?_signedDecimal (n : Int) :
    readTruth? (signedDecimal n) =
      if n = 0 then some false else if n = 1 then some true else none := by
  have hlower : lower (signedDecimal n) = signedDecimal n := by
    refine (List.map_congr_left fun c hc => toLower_of_not_isUpper ?_).trans (List.map_id _)
    have hplain := (plain_of_mem_signedDecimal hc).2
    exact Bool.eq_false_iff.1 (Bool.or_eq_false_iff.1 hplain).1
  have hword : ∀ b, readTruth? (signedDecimal n) = some b ↔ n = if b then 1 else 0 := by
    intro b
    rw [readTruth?_eq_some_iff, trim_signedDecimal, hlower, exists_truthWord_iff]
  split
  · rename_i h
    exact (hword false).2 h
  · rename_i h0
    split
    · rename_i h
      exact (hword true).2 h
    · rename_i h1
      rw [Option.eq_none_iff_forall_ne_some]
      intro b hb
      cases b with
      | true => exact h1 ((hword true).1 hb)
      | false => exact h0 ((hword false).1 hb)

end Text

namespace Soap

/-- A number of a declared type is not too large to be read from a text. -/
lemma le_maxInteger {type : IntegerType} {n : Int} (h : type.min ≤ n ∧ n ≤ type.max) :
    -Value.maxInteger - 1 ≤ n ∧ n ≤ Value.maxInteger := by
  have hmin : -Value.maxInteger - 1 ≤ type.min := by cases type <;> decide
  have hmax : type.max ≤ Value.maxInteger := by cases type <;> decide
  omega

namespace Value

/-- A value denotes a number: it is the number, its decimal text, or the truth value that zero or
one stands for. -/
inductive Denotes : Value → Int → Prop
  | unsigned (n : UInt64) : Denotes (.unsigned n) n.toNat
  | signed (n : Int64) : Denotes (.signed n) n.toInt
  | text (n : Int) : Denotes (.text (toString n)) n
  | truth (b : Bool) : Denotes (.truth b) (if b then 1 else 0)

namespace Denotes

variable {v : Value} {n : Int} (h : v.Denotes n)
include h

lemma plain_eq : v.plain = toString n := by
  cases h with
  | unsigned n => rfl
  | signed n => exact ofList_signedDecimal _
  | text n => rfl
  | truth b => cases b <;> rfl

/-- The number is found unless it is a text with too many digits. -/
lemma integer?_eq :
    v.integer? = if -maxInteger - 1 ≤ n ∧ n ≤ maxInteger then some n else none := by
  cases h with
  | unsigned n =>
    have hle : (n.toNat : Int) ≤ maxInteger := by
      have := n.toNat_lt
      rw [maxInteger]
      omega
    rw [if_pos ⟨by rw [maxInteger]; omega, hle⟩, integer?]
  | signed n =>
    have hmin := n.le_toInt
    have hmax := n.toInt_lt
    rw [if_pos ⟨by rw [maxInteger]; omega, by rw [maxInteger]; omega⟩, integer?]
  | text n =>
    rw [integer?, ← ofList_signedDecimal, String.toList_ofList, trim_signedDecimal,
      readInt?_signedDecimal]
  | truth b => cases b <;> rfl

lemma truth?_eq :
    v.truth? = if n = 0 then some false else if n = 1 then some true else none := by
  cases h with
  | unsigned n =>
    have h0 : n = 0 ↔ (n.toNat : Int) = 0 := by rw [← UInt64.toNat_inj]; simp
    have h1 : n = 1 ↔ (n.toNat : Int) = 1 := by rw [← UInt64.toNat_inj, UInt64.toNat_one]; omega
    simp only [truth?, beq_iff_eq, h0, h1]
  | signed n =>
    have h0 : n = 0 ↔ n.toInt = 0 := by rw [← Int64.toInt_inj]; simp
    have h1 : n = 1 ↔ n.toInt = 1 := by rw [← Int64.toInt_inj]; simp
    simp only [truth?, beq_iff_eq, h0, h1]
  | text n =>
    rw [truth?, ← ofList_signedDecimal, String.toList_ofList, readTruth?_signedDecimal]
  | truth b => cases b <;> rfl

end Denotes

variable {v w : Value} {n : Int} {type : IntegerType} {s : String}

lemma eq_ok_of_toOption {α ε : Type} {x : Except ε α} {a : α} (h : x.toOption = some a) :
    x = .ok a := by
  cases x with
  | error e => simp [Except.toOption] at h
  | ok b => simpa [Except.toOption] using h

/-- A number is written for an integer type if and only if it is in the range of the type. -/
lemma toOption_encode_integer (h : v.Denotes n) (type : IntegerType) :
    (v.encode (.integer type)).toOption =
      if type.min ≤ n ∧ n ≤ type.max then some (toString n) else none := by
  by_cases hrange : type.min ≤ n ∧ n ≤ type.max
  · rw [encode, h.integer?_eq, if_pos (le_maxInteger hrange), if_pos hrange, ← ofList_signedDecimal]
    dsimp only
    rw [if_pos hrange, Except.toOption]
  · rw [encode, h.integer?_eq, if_neg hrange]
    -- a number outside the range is refused whether or not it can be read
    split
    · rename_i m hm
      rw [Option.ite_none_right_eq_some, Option.some.injEq] at hm
      rw [if_neg (hm.2 ▸ hrange), Except.toOption]
    · rfl

/-- What is written for a number depends on the number and the type alone. -/
lemma toOption_encode_congr (hv : v.Denotes n) (hw : w.Denotes n) (type : DataType) :
    (v.encode type).toOption = (w.encode type).toOption := by
  cases type with
  | string | other name => rw [encode, encode, hv.plain_eq, hw.plain_eq]
  | integer type => rw [toOption_encode_integer hv, toOption_encode_integer hw]
  | boolean =>
    rw [encode, encode, hv.truth?_eq, hw.truth?_eq]
    split <;> rfl

/-- What is written for an integer type is a number in its range. -/
lemma exists_of_encode_integer (h : v.encode (.integer type) = .ok s) :
    ∃ n : Int, (type.min ≤ n ∧ n ≤ type.max) ∧ s = toString n := by
  rw [encode] at h
  split at h
  · rename_i n hn
    split at h
    · rename_i hrange
      exact ⟨n, hrange, by rw [← Except.ok.inj h, ofList_signedDecimal]⟩
    · simp at h
  · simp at h

/-- What is written for a truth value is its digit. -/
lemma encode_boolean_eq_ok_iff :
    v.encode .boolean = .ok s ↔ ∃ b, v.truth? = some b ∧ s = truthDigit b := by
  rw [encode]
  cases v.truth? with
  | none => simp
  | some b => simp [eq_comm]

/-- What is written is written as it is if it is given again. -/
lemma encode_text_of_encode {type : DataType} (h : v.encode type = .ok s) :
    (text s).encode type = .ok s := by
  cases type with
  | string | other name => rfl
  | boolean =>
    obtain ⟨b, -, rfl⟩ := encode_boolean_eq_ok_iff.1 h
    exact encode_boolean_eq_ok_iff.2 ⟨b, by cases b <;> decide +kernel, rfl⟩
  | integer type =>
    obtain ⟨n, hrange, rfl⟩ := exists_of_encode_integer h
    have hsame := toOption_encode_integer (.text n) type
    rw [if_pos hrange] at hsame
    exact eq_ok_of_toOption hsame

lemma truthDigit_injective : Function.Injective truthDigit := by
  have hall : ∀ b c, truthDigit b = truthDigit c → b = c := by decide
  exact fun b c => hall b c

/-- A text is written for a truth value if it is one of its words. -/
lemma encode_text_boolean_iff {b : Bool} :
    (text s).encode .boolean = .ok (truthDigit b) ↔
      ∃ word ∈ truthWords b, word.toList = lower (trim s.toList) := by
  rw [encode_boolean_eq_ok_iff, ← readTruth?_eq_some_iff, truth?]
  constructor
  · rintro ⟨c, hc, hbc⟩
    rw [hc, truthDigit_injective hbc]
  · intro h
    exact ⟨b, h, rfl⟩

end Value

namespace Response

lemma readEnabled?_eq_some_iff {s : String} {b : Bool} :
    readEnabled? s = some b ↔ ∃ word ∈ truthWords b, word.toList = lower (trim s.toList) := by
  have hword : ∀ word : String,
      word.toList = lower (trim s.toList) ↔ String.ofList (lower (trim s.toList)) = word := by
    intro word
    rw [← String.toList_inj, String.toList_ofList, eq_comm]
  simp only [hword]
  rw [readEnabled?]
  generalize String.ofList (lower (trim s.toList)) = t
  cases b <;> split <;> simp_all [truthWords]

/-- The words that are understood in an answer are those that are understood in a value. -/
lemma readEnabled?_eq_readTruth? (s : String) : readEnabled? s = readTruth? s.toList := by
  refine Option.ext fun b => ?_
  rw [readEnabled?_eq_some_iff, readTruth?_eq_some_iff]

/-- A text in an answer is a truth value if it is one of its words. -/
lemma enabled_eq_ok_iff {r : Response} {s : String} (h : r.get? "NewEnabled" = some s) {b : Bool} :
    r.enabled = .ok b ↔ ∃ word ∈ truthWords b, word.toList = lower (trim s.toList) := by
  rw [← readEnabled?_eq_some_iff, enabled, h]
  dsimp only
  cases readEnabled? s with
  | none => simp
  | some c => simp

end Response

/-- What is written for a value depends only on the number that it denotes, and it is in the range
of its type: a number is written for an integer type, as its decimal text, if and only if it is in
the range, and nothing else is ever written for such a type.  What has been written is written as it
is when it is given again.  A text is written for a truth value if and only if it is understood as
this truth value in an answer. -/
theorem Value.encode_canonical :
    (∀ (n : Int) (v w : Value), v.Denotes n → w.Denotes n →
      ∀ type, (v.encode type).toOption = (w.encode type).toOption) ∧
    (∀ (n : Int) (v : Value), v.Denotes n → ∀ type : IntegerType,
      (v.encode (.integer type)).toOption =
        if type.min ≤ n ∧ n ≤ type.max then some (toString n) else none) ∧
    (∀ (v : Value) (type : IntegerType) (s : String), v.encode (.integer type) = .ok s →
      ∃ n : Int, (type.min ≤ n ∧ n ≤ type.max) ∧ s = toString n) ∧
    (∀ (v : Value) (type : DataType) (s : String), v.encode type = .ok s →
      (text s).encode type = .ok s) ∧
    (∀ (s : String) (r : Response), r.get? "NewEnabled" = some s →
      (∀ b, ((text s).encode .boolean = .ok (truthDigit b) ↔ r.enabled = .ok b) ∧
        (r.enabled = .ok b ↔ ∃ word ∈ truthWords b, word.toList = lower (trim s.toList))) ∧
      ∀ t, (text s).encode .boolean = .ok t → ∃ b, t = truthDigit b) := by
  refine ⟨fun n v w hv hw => toOption_encode_congr hv hw,
    fun n v h => toOption_encode_integer h, fun v type s h => exists_of_encode_integer h,
    fun v type s h => encode_text_of_encode h, fun s r h => ⟨fun b => ⟨?_, ?_⟩, fun t ht => ?_⟩⟩
  · rw [encode_text_boolean_iff, Response.enabled_eq_ok_iff h]
  · exact Response.enabled_eq_ok_iff h
  · obtain ⟨b, -, hb⟩ := encode_boolean_eq_ok_iff.1 ht
    exact ⟨b, hb⟩

/-- A port is written as a number of two bytes, whether it is given as a number or as a text, and
`Yes` is written as the truth value that it is in an answer. -/
theorem Value.encode_canonical_port :
    let yes : Response := ⟨"GetSpecificPortMappingEntry", [("NewEnabled", some " Yes ")]⟩
    (Denotes (.unsigned 80) 80 ∧ Denotes (.text "80") 80 ∧
      (text " +080 ").encode (.integer .ui2) = .ok "80" ∧
      yes.get? "NewEnabled" = some " Yes " ∧ yes.enabled = .ok true) ∧
    ((unsigned 80).encode (.integer .ui2)).toOption =
      ((text "80").encode (.integer .ui2)).toOption ∧
    ((unsigned 80).encode (.integer .ui2)).toOption = some (toString (80 : Int)) ∧
    (text "80").encode (.integer .ui2) = .ok "80" ∧
    (text " Yes ").encode .boolean = .ok (truthDigit true) := by
  intro yes
  obtain ⟨hsame, hwritten, -, hagain, htruth⟩ := encode_canonical
  have hnumber : Denotes (.unsigned 80) 80 := .unsigned 80
  have htext : Denotes (.text "80") 80 := .text 80
  have hpadded : (text " +080 ").encode (.integer .ui2) = .ok "80" := by decide +kernel
  have hyes : yes.get? "NewEnabled" = some " Yes " := by decide +kernel
  have henabled : yes.enabled = .ok true := by decide +kernel
  exact ⟨⟨hnumber, htext, hpadded, hyes, henabled⟩, hsame 80 _ _ hnumber htext _,
    hwritten 80 _ hnumber .ui2, hagain _ _ _ hpadded, ((htruth _ _ hyes).1 true).1.2 henabled⟩

end Soap

end UpnpGateway

/-
# Faults in the places of vendors

Some gateways leave out the element that the standard prescribes for the code of a fault, and others
give the code in the text of the fault only.  A profile that lists the place finds the code there,
whatever other digits the description has, and a profile that does not list it finds none.
-/
import Mathlib.Data.List.Infix
import UpnpGateway.Proofs.Text.Cut
import UpnpGateway.Proofs.Text.Numeral
import UpnpGateway.Proofs.Xml.Search
import UpnpGateway.Soap.Fault

namespace UpnpGateway.Soap

open UpnpGateway.Text UpnpGateway.Xml

/-! ## Codes in free texts -/

/-- No three digits follow each other in a text. -/
def LacksCode (s : List Char) : Prop :=
  ∀ a b c : Char, [a, b, c] <:+: s → ¬ (a.isDigit ∧ b.isDigit ∧ c.isDigit)

lemma LacksCode.of_isInfix {s t : List Char} (ht : LacksCode t) (h : s <:+: t) : LacksCode s :=
  fun a b c habc => ht a b c (habc.trans h)

/-- A row of digits in a text without three digits in a row is shorter. -/
lemma LacksCode.length_lt_three {s run : List Char} (hs : LacksCode s) (hrun : run <:+: s)
    (hdigit : ∀ c ∈ run, c.isDigit = true) : run.length < 3 := by
  match run with
  | [] | [_] | [_, _] => simp
  | a :: b :: c :: r =>
    have hinfix : [a, b, c] <:+: s := (List.prefix_append [a, b, c] r).isInfix.trans hrun
    exact absurd ⟨hdigit a (by simp), hdigit b (by simp), hdigit c (by simp)⟩ (hs a b c hinfix)

lemma lacksCode_iff {s : List Char} :
    LacksCode s ↔
      (s.tails.all fun t => !(decide (3 ≤ t.length) && (t.take 3).all Char.isDigit)) = true := by
  simp only [List.all_eq_true, List.mem_tails, Bool.not_eq_true', Bool.and_eq_false_imp,
    decide_eq_true_eq]
  constructor
  · intro hs t ht hlong
    have htake : t.take 3 <:+: s := (List.take_prefix 3 t).isInfix.trans ht.isInfix
    refine Bool.eq_false_iff.2 fun hdigit => ?_
    have hlt := hs.length_lt_three htake (List.all_eq_true.1 hdigit)
    rw [List.length_take] at hlt
    omega
  · rintro h a b c habc ⟨ha, hb, hc⟩
    obtain ⟨t, ⟨r, rfl⟩, ht⟩ := List.infix_iff_prefix_suffix.1 habc
    have hdigit := h _ ht (by simp)
    simp [ha, hb, hc] at hdigit

instance (s : List Char) : Decidable (LacksCode s) := decidable_of_iff' _ lacksCode_iff

namespace Fault

/-- There is no code in a text without three digits in a row. -/
lemma embeddedCode?_eq_none {s : List Char} (hs : LacksCode s) : embeddedCode? s = none := by
  have hnone : ((splitWhere (fun c => !c.isDigit) s).find? fun run => 3 ≤ run.length) = none := by
    refine List.find?_eq_none.2 fun run hrun hlong => ?_
    have hdigit : ∀ c ∈ run, c.isDigit = true := by
      intro c hc
      simpa using not_of_mem_splitWhere hrun hc
    have hlt := hs.length_lt_three (infix_of_mem_splitWhere hrun) hdigit
    have hle := of_decide_eq_true hlong
    omega
  rw [embeddedCode?, hnone, Option.bind_none]

/-- A character that is no digit makes no difference to the code behind it. -/
lemma embeddedCode?_cons {c : Char} (hc : c.isDigit = false) (s : List Char) :
    embeddedCode? (c :: s) = embeddedCode? s := by
  have hsplit : splitWhere (fun c => !c.isDigit) (c :: s) =
      [] :: splitWhere (fun c => !c.isDigit) s :=
    splitWhere_append_cons (s := []) (by simp) (by simp [hc]) s
  rw [embeddedCode?, hsplit, List.find?_cons_of_neg (by simp), embeddedCode?]

/-- The first row of digits is the code if it is long enough, whatever follows it. -/
lemma embeddedCode?_append {u run r : List Char} (hu : ∀ c ∈ u, c.isDigit = false)
    (hrun : ∀ c ∈ run, c.isDigit = true) (hlong : 3 ≤ run.length)
    (hr : ∀ c, r.head? = some c → c.isDigit = false) :
    embeddedCode? (u ++ (run ++ r)) = readPort? run := by
  induction u with
  | nil =>
    have hrun' : ∀ c ∈ run, (!c.isDigit) = false := fun c hc => by rw [hrun c hc]; rfl
    have hsplit : ∃ runs, splitWhere (fun c => !c.isDigit) (run ++ r) = run :: runs := by
      cases r with
      | nil => exact ⟨[], by rw [List.append_nil, splitWhere_of_forall hrun']⟩
      | cons c r => exact ⟨_, splitWhere_append_cons hrun' (by rw [hr c rfl]; rfl) r⟩
    obtain ⟨runs, hsplit⟩ := hsplit
    rw [List.nil_append, embeddedCode?, hsplit, List.find?_cons_of_pos (by simpa using hlong),
      Option.bind_some]
  | cons c u ih =>
    obtain ⟨hc, hu⟩ := List.forall_mem_cons.1 hu
    rw [List.cons_append, embeddedCode?_cons hc, ih hu]

/-- The text in which a gateway gives the code of a fault and its description. -/
def numberedText (f : Fault) : String :=
  "UPnPError " ++ String.ofList (decimal f.code.toNat) ++ " " ++ f.description

/-- The trimmed text begins with the code, behind which no further digit stands. -/
lemma exists_trim_numberedText (f : Fault) :
    ∃ r, trim f.numberedText.toList = "UPnPError ".toList ++ (decimal f.code.toNat ++ r) ∧
      ∀ c, r.head? = some c → c.isDigit = false := by
  have hdecimal : decimal f.code.toNat ≠ [] := by
    rw [decimal]
    exact Nat.toDigits_ne_nil
  have htext : f.numberedText.toList =
      "UPnPError ".toList ++ decimal f.code.toNat ++ ' ' :: f.description.toList := by
    simp [numberedText]
  have hlast : ∀ c, ("UPnPError ".toList ++ decimal f.code.toNat).getLast? = some c →
      isBlank c = false := by
    intro c hc
    rw [List.getLast?_append_of_ne_nil _ hdecimal] at hc
    exact (plain_of_mem_decimal (List.mem_of_mem_getLast? hc)).1
  have hhead : ∀ c, ("UPnPError ".toList ++ decimal f.code.toNat).head? = some c →
      isBlank c = false := by
    rintro c ⟨⟩
    decide
  refine ⟨dropEndWhile isBlank (' ' :: f.description.toList), ?_, fun c hc => ?_⟩
  · rw [htext, trim_append (by simp) hhead hlast, List.append_assoc]
  · -- what is left of the rest begins with the blank behind the code, if anything is left
    obtain ⟨t, ht⟩ := dropEndWhile_prefix isBlank (' ' :: f.description.toList)
    cases hr : dropEndWhile isBlank (' ' :: f.description.toList) with
    | nil => simp [hr] at hc
    | cons d r =>
      rw [hr] at hc ht
      obtain rfl := Option.some.inj hc
      obtain ⟨rfl, -⟩ := List.cons.inj ht
      decide

/-- The code is found in the text of a fault, whatever digits the description has. -/
lemma embeddedCode?_numberedText {f : Fault} (hcode : 100 ≤ f.code) :
    embeddedCode? (trim f.numberedText.toList) = some f.code := by
  obtain ⟨r, htrim, hr⟩ := exists_trim_numberedText f
  have hword : ∀ c ∈ "UPnPError ".toList, c.isDigit = false := by simp
  have hlong : 3 ≤ (decimal f.code.toNat).length :=
    three_le_length_decimal (UInt16.le_iff_toNat_le.1 hcode)
  rw [htrim, embeddedCode?_append hword (fun c hc => isDigit_of_mem_decimal hc) hlong hr,
    readPort?_decimal]

end Fault

/-! ## Faults with one code -/

/-- A document in which the code of a fault stands in an element of its own only.  Names are
compared by the rule. -/
structure IsBareFault (rule : TagRule) (doc : WrittenDocument) (f : Fault) : Prop where
  /-- The element of the standard is missing. -/
  named_upnpError : doc.named rule "UPnPError" = []
  named_errorCode :
    ∃ tag, doc.named rule "errorCode" = [⟨tag, .ofText (decimal f.code.toNat)⟩]
  named_errorDescription :
    ∃ tag, doc.named rule "errorDescription" = [⟨tag, .ofText f.description.toList⟩]
  /-- No text of the fault has a code. -/
  lacksCode_faultstring : ∀ w ∈ doc.named rule "faultstring", LacksCode w.inner.data

/-- A document in which the code of a fault stands in the text of the fault only.  Names are
compared by the rule. -/
structure IsTextFault (rule : TagRule) (doc : WrittenDocument) (f : Fault) : Prop where
  /-- There is no code in an element, be it of its own or in the one of the standard. -/
  named_errorCode : doc.named rule "errorCode" = []
  named_faultstring :
    ∃ tag, doc.named rule "faultstring" = [⟨tag, .ofText f.numberedText.toList⟩]

/-! ### One place -/

section Place

variable {rule : TagRule} {doc : WrittenDocument} {f : Fault}

/-- There is no code in the place of the standard if no element has a code, or if the one that it
should be in is missing. -/
lemma Fault.ofLayout?_standard_eq_none
    (h : doc.named rule "UPnPError" = [] ∨ doc.named rule "errorCode" = []) :
    ofLayout? rule doc.root.element .standard = none := by
  rw [ofLayout?, doc.find?_root]
  cases herror : doc.named rule "UPnPError" with
  | nil => rfl
  | cons w ws =>
    have hcode : doc.named rule "errorCode" = [] := h.resolve_left (by simp [herror])
    have hw : w ∈ doc.root.inner.written :=
      List.mem_of_mem_filter (show w ∈ doc.named rule "UPnPError" by simp [herror])
    have hchild := Content.child?_eq_none hcode hw
    simp [Element.childText?, hchild]

lemma Fault.ofLayout?_bareCode_eq_none (h : doc.named rule "errorCode" = []) :
    ofLayout? rule doc.root.element .bareCode = none := by
  rw [ofLayout?, doc.find?_root, h]
  rfl

lemma Fault.ofLayout?_inText_eq_none
    (h : ∀ w ∈ doc.named rule "faultstring", LacksCode w.inner.data) :
    ofLayout? rule doc.root.element .inText = none := by
  rw [ofLayout?, doc.find?_root]
  cases hstring : doc.named rule "faultstring" with
  | nil => rfl
  | cons w ws =>
    have hlacks : LacksCode w.inner.data := h w (by simp [hstring])
    have htext : (trimmed w.element.text).toList = trim w.inner.data := by
      simp [trimmed, WrittenElement.element]
    have hnone : embeddedCode? (trimmed w.element.text).toList = none := by
      rw [htext]
      exact embeddedCode?_eq_none (hlacks.of_isInfix (infix_trim _))
    simp [hnone]

lemma IsBareFault.ofLayout?_bareCode (h : IsBareFault rule doc f) :
    Fault.ofLayout? rule doc.root.element .bareCode =
      some (.new f.code (trimmed f.description)) := by
  obtain ⟨tag, hcode⟩ := h.named_errorCode
  obtain ⟨tag', hdescription⟩ := h.named_errorDescription
  have hread : trim (WrittenElement.element ⟨tag, .ofText (decimal f.code.toNat)⟩).text.toList =
      decimal f.code.toNat := by
    rw [WrittenElement.trim_text_ofText, trim_of_forall fun c hc => (plain_of_mem_decimal hc).1]
  rw [Fault.ofLayout?, doc.find?_root, doc.find?_root, hcode, hdescription]
  simp [hread, WrittenElement.trimmed_text_ofText]

lemma IsTextFault.ofLayout?_inText (h : IsTextFault rule doc f) (hcode : 100 ≤ f.code) :
    Fault.ofLayout? rule doc.root.element .inText =
      some (.new f.code (trimmed f.numberedText)) := by
  obtain ⟨tag, hstring⟩ := h.named_faultstring
  have hembedded : Fault.embeddedCode? (trimmed f.numberedText).toList = some f.code := by
    rw [trimmed, String.toList_ofList, Fault.embeddedCode?_numberedText hcode]
  rw [Fault.ofLayout?, doc.find?_root, hstring]
  simp [WrittenElement.trimmed_text_ofText, hembedded]

end Place

/-! ### Every place -/

namespace Fault

/-- Where only one place can have the code, it is found exactly if the profile lists the place. -/
lemma parse?_of_layout {profile : Profile} {doc : WrittenDocument} {layout : FaultLayout}
    (hlayout : layout ≠ .standard)
    (hother : ∀ other, other ≠ layout →
      ofLayout? profile.tagRule doc.root.element other = none) :
    parse? profile doc.write =
      if layout ∈ profile.faultLayouts then
        ofLayout? profile.tagRule doc.root.element layout
      else none := by
  rw [parse?, doc.parse_write]
  dsimp only
  rw [List.findSome?_cons, hother .standard hlayout.symm]
  dsimp only
  induction profile.faultLayouts with
  | nil => rfl
  | cons first layouts ih =>
    rw [List.findSome?_cons, ih]
    by_cases hfirst : first = layout
    · subst hfirst
      cases ofLayout? profile.tagRule doc.root.element first <;> simp
    · simp [hother first hfirst, Ne.symm hfirst]

/-- A fault whose code is in a place of some vendors is read by the profiles that list the place as
it was sent, but for the blanks at the ends of the description, and by no others. -/
theorem parse?_vendorFault (profile : Profile) (doc : WrittenDocument) (f : Fault) :
    (IsBareFault profile.tagRule doc f →
      parse? profile doc.write =
        if .bareCode ∈ profile.faultLayouts then some (.new f.code (trimmed f.description))
        else none) ∧
    (100 ≤ f.code → IsTextFault profile.tagRule doc f →
      parse? profile doc.write =
        if .inText ∈ profile.faultLayouts then some (.new f.code (trimmed f.numberedText))
        else none) := by
  constructor
  · intro h
    have hother : ∀ other, other ≠ FaultLayout.bareCode →
        ofLayout? profile.tagRule doc.root.element other = none := by
      intro other hne
      cases other with
      | standard => exact ofLayout?_standard_eq_none (.inl h.named_upnpError)
      | bareCode => exact absurd rfl hne
      | inText => exact ofLayout?_inText_eq_none h.lacksCode_faultstring
    rw [parse?_of_layout (by decide) hother, h.ofLayout?_bareCode]
  · intro hcode h
    have hother : ∀ other, other ≠ FaultLayout.inText →
        ofLayout? profile.tagRule doc.root.element other = none := by
      intro other hne
      cases other with
      | standard => exact ofLayout?_standard_eq_none (.inr h.named_errorCode)
      | bareCode => exact ofLayout?_bareCode_eq_none h.named_errorCode
      | inText => exact absurd rfl hne
    rw [parse?_of_layout (by decide) hother, h.ofLayout?_inText hcode]

end Fault

/-! ### Two refusals -/

/-- An element without attributes, and what follows it. -/
def plainElement (name : List Char) (inner rest : Content) (h : IsName name := by decide) :
    Content :=
  .element .empty (.ofName name h) inner (StartTag.ofName name h).ending rest

/-- An envelope with a fault in which the given contents stand. -/
def refusal (contents : Content) : WrittenDocument where
  prolog := .ofText "\r\n".toList
  root := ⟨.ofName "soap:Envelope".toList, plainElement "soap:Body".toList
    (plainElement "soap:Fault".toList contents (.done .empty)) (.done .empty)⟩
  ending := (StartTag.ofName "soap:Envelope".toList).ending
  trailing := []
  head?_prolog := by decide

/-- A refusal with its code in an element of its own. -/
def bareRefusal : WrittenDocument :=
  refusal (plainElement "faultstring".toList (.ofText "UPnPError 12".toList)
    (plainElement "detail".toList
      (plainElement "errorCode".toList (.ofText "714".toList)
        (plainElement "errorDescription".toList (.ofText " No <entry> 713 ".toList)
          (.done .empty)))
      (.done .empty)))

/-- A refusal with its code in its text. -/
def textRefusal : WrittenDocument :=
  refusal (plainElement "faultstring".toList (.ofText "UPnPError 713 Index 123456 ".toList)
    (.done .empty))

example : bareRefusal.write = "\r\n<soap:Envelope><soap:Body><soap:Fault>" ++
    "<faultstring>UPnPError 12</faultstring><detail><errorCode>714</errorCode>" ++
    "<errorDescription> No &lt;entry&gt; 713 </errorDescription></detail>" ++
    "</soap:Fault></soap:Body></soap:Envelope>" := by
  decide +kernel

lemma isBareFault_bareRefusal {rule : TagRule} (hrule : rule ≠ .exact) :
    IsBareFault rule bareRefusal (.new 714 " No <entry> 713 ") := by
  have hlacks : LacksCode (Content.ofText "UPnPError 12".toList).data := by decide +kernel
  cases rule with
  | exact => exact absurd rfl hrule
  | localName | ignoreCase =>
    refine ⟨rfl, ⟨_, rfl⟩, ⟨_, rfl⟩, fun w hw => ?_⟩
    obtain rfl := List.mem_singleton.1 hw
    exact hlacks

lemma isTextFault_textRefusal {rule : TagRule} (hrule : rule ≠ .exact) :
    IsTextFault rule textRefusal (.new 713 "Index 123456 ") := by
  cases rule with
  | exact => exact absurd rfl hrule
  | localName | ignoreCase => exact ⟨rfl, _, rfl⟩

/-- Of two profiles that look in one place each, either one finds the code in its place and none in
the other one. -/
theorem Fault.parse?_refusals :
    ((∀ rule, rule ≠ .exact → IsBareFault rule bareRefusal (.new 714 " No <entry> 713 ")) ∧
      (∀ rule, rule ≠ .exact → IsTextFault rule textRefusal (.new 713 "Index 123456 ")) ∧
      (100 : UInt16) ≤ 713) ∧
    parse? .huawei bareRefusal.write = some (.new 714 "No <entry> 713") ∧
    parse? .broadcom bareRefusal.write = none ∧
    parse? .huawei textRefusal.write = none ∧
    parse? .broadcom textRefusal.write = some (.new 713 "UPnPError 713 Index 123456") := by
  have hhuawei : Profile.huawei.tagRule ≠ .exact := by decide
  have hbroadcom : Profile.broadcom.tagRule ≠ .exact := by decide
  have hcode : (100 : UInt16) ≤ 713 := by decide
  refine ⟨⟨fun _ => isBareFault_bareRefusal, fun _ => isTextFault_textRefusal, hcode⟩,
    ?_, ?_, ?_, ?_⟩
  · rw [(parse?_vendorFault .huawei bareRefusal _).1 (isBareFault_bareRefusal hhuawei)]
    decide +kernel
  · rw [(parse?_vendorFault .broadcom bareRefusal _).1 (isBareFault_bareRefusal hbroadcom)]
    decide +kernel
  · rw [(parse?_vendorFault .huawei textRefusal _).2 hcode (isTextFault_textRefusal hhuawei)]
    decide +kernel
  · rw [(parse?_vendorFault .broadcom textRefusal _).2 hcode (isTextFault_textRefusal hbroadcom)]
    decide +kernel

end UpnpGateway.Soap

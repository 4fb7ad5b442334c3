/-
# Searches as they are read

A search is sent as a first line, a line for each header and an empty line.  This file splits what
is sent at the ends of its lines, and each line of a header behind its name, and shows what is
found: the headers of the caller's own as given, and behind them those of the usual headers that
the caller has not set.  So each of the usual names is found, and under it what the caller has set
and nothing else, or else the usual value.
-/
import UpnpGateway.Discovery.Search
import UpnpGateway.Proofs.Text.Solid

namespace UpnpGateway.Discovery

open UpnpGateway.Text

/-! ## Splitting at the ends of lines -/

/-- The parts of a text between the ends of its lines; the last one is what stands behind the last
end of a line. -/
def splitLines (s : List Char) : List (List Char) :=
  match h : cutRun ['\r', '\n'] s with
  | some (line, rest) =>
    have : rest.length < s.length := by
      rw [eq_of_cutRun h]
      simp only [List.length_append, List.length_cons]
      omega
    line :: splitLines rest
  | none => [s]
termination_by s.length

/-- A text that is no more than a line. -/
def IsOneLine (s : String) : Prop := '\r' ∉ s.toList ∧ '\n' ∉ s.toList

instance (s : String) : Decidable (IsOneLine s) := inferInstanceAs (Decidable (_ ∧ _))

lemma splitLines_nil : splitLines [] = [[]] := by
  rw [splitLines]
  rfl

/-- The first part ends at the first end of a line. -/
lemma splitLines_append {line : List Char} (hline : '\r' ∉ line) (rest : List Char) :
    splitLines (line ++ '\r' :: '\n' :: rest) = line :: splitLines rest := by
  have hnone : cutRun ['\r', '\n'] line = none := by
    rw [cutRun_eq_none_iff]
    exact fun h => hline (h.subset List.mem_cons_self)
  have hcut : cutRun ['\r', '\n'] (line ++ '\r' :: '\n' :: rest) = some (line, rest) :=
    cutRun_pair hnone (by simp) rest
  rw [splitLines]
  split
  · rename_i line' rest' h
    rw [hcut] at h
    obtain ⟨rfl, rfl⟩ := Prod.mk.inj (Option.some.inj h)
    rfl
  · rename_i h
    rw [hcut] at h
    cases h

/-! ## Headers -/

/-- The header in a line: what stands before and behind the first colon with a space. -/
def splitHeader? (line : List Char) : Option (String × String) :=
  (cutRun [':', ' '] line).map fun p => (String.ofList p.1, String.ofList p.2)

/-- The headers with the given name, in any case. -/
def Headers.named (headers : Headers) (name : String) : Headers :=
  headers.filter fun h => sameLetters h.1.toList name.toList

/-- A header that stands in a line of its own and can be told from its name. -/
structure IsPlainHeader (h : String × String) : Prop where
  isOneLine_name : IsOneLine h.1
  isOneLine_value : IsOneLine h.2
  notMem_name : ':' ∉ h.1.toList

instance (h : String × String) : Decidable (IsPlainHeader h) :=
  decidable_of_iff (IsOneLine h.1 ∧ IsOneLine h.2 ∧ ':' ∉ h.1.toList)
    ⟨fun ⟨hname, hvalue, hcolon⟩ => ⟨hname, hvalue, hcolon⟩,
      fun h => ⟨h.isOneLine_name, h.isOneLine_value, h.notMem_name⟩⟩

/-- The line of a header without its end. -/
def headerText (h : String × String) : List Char := h.1.toList ++ ':' :: ' ' :: h.2.toList

lemma toList_headerLine (h : String × String) :
    (Search.headerLine h).toList = headerText h ++ ['\r', '\n'] := by
  simp [Search.headerLine, headerText]

lemma Headers.get?_eq_head?_named (headers : Headers) (name : String) :
    headers.get? name = (headers.named name).head?.map Prod.snd := by
  rw [get?, named, List.head?_filter]

lemma Headers.named_append (headers headers' : Headers) (name : String) :
    named (headers ++ headers') name = headers.named name ++ headers'.named name :=
  List.filter_append _ _

/-- Names that differ in case only are names of the same headers. -/
lemma Headers.named_congr {name name' : String}
    (h : sameLetters name.toList name'.toList = true) (headers : Headers) :
    headers.named name = headers.named name' := by
  have hsame : ∀ s : List Char, sameLetters s name.toList = sameLetters s name'.toList := by
    intro s
    rw [Bool.eq_iff_iff, sameLetters_iff, sameLetters_iff, sameLetters_iff.1 h]
  simp only [named, hsame]

namespace IsPlainHeader

variable {h : String × String} (hh : IsPlainHeader h)
include hh

lemma notMem_headerText : '\r' ∉ headerText h := by
  simp [headerText, hh.isOneLine_name.1, hh.isOneLine_value.1]

lemma splitHeader?_headerText : splitHeader? (headerText h) = some h := by
  have hnone : cutRun [':', ' '] h.1.toList = none := by
    rw [cutRun_eq_none_iff]
    exact fun hinfix => hh.notMem_name (List.IsInfix.subset hinfix List.mem_cons_self)
  rw [splitHeader?, headerText, cutRun_pair hnone (by simp)]
  simp

end IsPlainHeader

/-- Headers on lines of their own are found again, one by one. -/
lemma splitLines_headers {headers : Headers} (hheaders : ∀ h ∈ headers, IsPlainHeader h)
    (rest : List Char) :
    splitLines ((String.join (headers.map Search.headerLine)).toList ++ rest) =
      headers.map headerText ++ splitLines rest := by
  induction headers with
  | nil => simp
  | cons h headers ih =>
    obtain ⟨hh, hheaders⟩ := List.forall_mem_cons.1 hheaders
    rw [List.map_cons, String.join_cons, String.toList_append, toList_headerLine,
      List.append_assoc, List.append_assoc, List.cons_append, List.cons_append, List.nil_append,
      splitLines_append hh.notMem_headerText, ih hheaders]
    rfl

/-! ## The usual headers -/

namespace Search

/-- The usual headers of a search by name and value. -/
def defaults (s : Search) : Headers :=
  [("HOST", "239.255.255.250:1900"), ("MAN", "\"ssdp:discover\""), ("MX", toString s.mx),
    ("ST", s.target)]

/-- The usual headers of which no header of the caller's own has the name. -/
def unset (s : Search) : Headers :=
  s.defaults.filter fun d => (s.headers.named d.1).isEmpty

/-- A search that can be told from its text. -/
structure IsPlain (s : Search) : Prop where
  isOneLine_target : IsOneLine s.target
  isPlainHeader : ∀ h ∈ s.headers, IsPlainHeader h

/-- What is found in the text that is sent for a search, in which the headers `written` stand. -/
structure Delivers (s : Search) (written : Headers) : Prop where
  /-- The text is a first line, a line for each header, and an empty line with its end. -/
  exists_lines : ∃ lines,
    splitLines s.datagram.toList = "M-SEARCH * HTTP/1.1".toList :: (lines ++ [[], []]) ∧
      lines.map splitHeader? = written.map some
  /-- Under each of the usual names stands what the caller has set, or else the usual header. -/
  named_eq : ∀ d ∈ s.defaults, ∀ name, sameLetters name.toList d.1.toList = true →
    written.named name = if s.headers.named name = [] then [d] else s.headers.named name
  /-- So the first header of the name is the first one that the caller has set, or else the usual
  one. -/
  get?_eq : ∀ d ∈ s.defaults, ∀ name, sameLetters name.toList d.1.toList = true →
    written.get? name = some ((s.headers.get? name).getD d.2)

variable (s : Search)

lemma usualHeaders_eq : s.usualHeaders = s.defaults := by
  have hhost : multicastIp.text ++ ":" ++ String.ofList (decimal searchPort.toNat) =
      "239.255.255.250:1900" := by decide
  rw [usualHeaders, hhost]
  rfl

lemma allHeaders_eq : s.allHeaders = s.headers ++ s.unset := by
  have hunset : ∀ d : String × String,
      (s.headers.get? d.1).isNone = (s.headers.named d.1).isEmpty := by
    intro d
    rw [Headers.get?_eq_head?_named, Option.isNone_map]
    cases s.headers.named d.1 <;> rfl
  rw [allHeaders, usualHeaders_eq, unset]
  simp only [hunset]

lemma named_unset {d : String × String} (hd : d ∈ s.defaults) :
    s.unset.named d.1 = if s.headers.named d.1 = [] then [d] else [] := by
  have hdefault : s.defaults.named d.1 = [d] := by
    -- no two of the usual names are the same in any case
    simp only [defaults, List.mem_cons, List.not_mem_nil, or_false] at hd
    rcases hd with rfl | rfl | rfl | rfl <;> simp [defaults, Headers.named, sameLetters, lower]
  have hunset : s.unset.named d.1 = [d].filter fun d => (s.headers.named d.1).isEmpty := by
    rw [← hdefault, Headers.named, Headers.named, unset, List.filter_comm]
  rw [hunset]
  cases hnamed : s.headers.named d.1 with
  | nil => simp [hnamed]
  | cons h headers => simp [hnamed]

variable {s}

lemma IsPlain.isPlainHeader_of_mem_allHeaders (hs : s.IsPlain) :
    ∀ h ∈ s.allHeaders, IsPlainHeader h := by
  have hmx : IsOneLine (toString s.mx) := by
    have hsolid : IsSolid (toString s.mx).toList := by
      rw [show toString s.mx = String.ofList (decimal s.mx) from rfl, String.toList_ofList]
      exact IsSolid.decimal s.mx
    exact ⟨hsolid.notMem rfl, hsolid.notMem rfl⟩
  have hdefaults : ∀ d ∈ s.defaults, IsPlainHeader d := by
    have hname : ∀ name ∈ ["HOST", "MAN", "MX", "ST"], IsOneLine name ∧ ':' ∉ name.toList := by
      decide
    have hplain : ∀ name ∈ ["HOST", "MAN", "MX", "ST"], ∀ value, IsOneLine value →
        IsPlainHeader (name, value) :=
      fun name hmem value hvalue => ⟨(hname name hmem).1, hvalue, (hname name hmem).2⟩
    simp only [defaults, List.forall_mem_cons]
    exact ⟨hplain _ (by simp) _ (by decide), hplain _ (by simp) _ (by decide),
      hplain _ (by simp) _ hmx, hplain _ (by simp) _ hs.isOneLine_target, by simp⟩
  rw [allHeaders_eq, List.forall_mem_append]
  exact ⟨hs.isPlainHeader, fun d hd => hdefaults d (List.mem_of_mem_filter hd)⟩

/-- **A search is read as it is meant.**  What is sent for a search is a first line, a line for
each header and an empty line.  First come the headers of the caller's own, as given; behind them
come those of the usual headers whose names the caller has not set.  Under each of the usual names
is found what the caller has set, and nothing else, or else the usual value. -/
theorem delivers_datagram (hs : s.IsPlain) : s.Delivers (s.headers ++ s.unset) where
  exists_lines := by
    have hplain := hs.isPlainHeader_of_mem_allHeaders
    have hfirst : '\r' ∉ "M-SEARCH * HTTP/1.1".toList := by decide
    have hlast : splitLines ['\r', '\n'] = [[], []] :=
      (splitLines_append List.not_mem_nil []).trans (by rw [splitLines_nil])
    have htext : s.datagram.toList = "M-SEARCH * HTTP/1.1".toList ++ '\r' :: '\n' ::
        ((String.join (s.allHeaders.map headerLine)).toList ++ ['\r', '\n']) := by
      have hline : "M-SEARCH * HTTP/1.1\r\n".toList =
          "M-SEARCH * HTTP/1.1".toList ++ ['\r', '\n'] := by decide
      have hend : "\r\n".toList = ['\r', '\n'] := by decide
      unfold datagram
      rw [String.toList_append, String.toList_append, hline, hend, List.append_assoc,
        List.append_assoc, List.cons_append, List.cons_append, List.nil_append]
    refine ⟨s.allHeaders.map headerText, ?_, ?_⟩
    · rw [htext, splitLines_append hfirst, splitLines_headers hplain, hlast]
    · rw [← allHeaders_eq, List.map_map]
      exact List.map_congr_left fun h hh => (hplain h hh).splitHeader?_headerText
  named_eq := by
    intro d hd name hname
    rw [Headers.named_append, Headers.named_congr hname, Headers.named_congr hname,
      named_unset s hd]
    split
    · rename_i hnone
      rw [hnone, List.nil_append]
    · rw [List.append_nil]
  get?_eq := by
    intro d hd name hname
    rw [Headers.get?_eq_head?_named, Headers.get?_eq_head?_named, Headers.named_append,
      Headers.named_congr hname, Headers.named_congr hname, named_unset s hd]
    cases s.headers.named d.1 with
    | nil => rfl
    | cons h headers => rfl

/-! ### A search with headers of its own -/

/-- A search that sets two of the usual headers, one of them twice, in letters of its own. -/
def insistentSearch : Search :=
  ⟨gatewayTarget, 3, [("st", "ssdp:all: really"), ("X", ""), ("Man", "a"), ("sT", "b")]⟩

/-- The headers of the search's own are found first, and under their names nothing else is. -/
theorem delivers_datagram_insistentSearch :
    insistentSearch.IsPlain ∧
    insistentSearch.Delivers [("st", "ssdp:all: really"), ("X", ""), ("Man", "a"), ("sT", "b"),
      ("HOST", "239.255.255.250:1900"), ("MX", "3")] := by
  have hplain : insistentSearch.IsPlain := ⟨by decide, by decide⟩
  exact ⟨hplain, delivers_datagram hplain⟩

end Search

end UpnpGateway.Discovery

/-
# Answers as they are written

A gateway answers a search with a status line, a line for each header and an empty line.  Its lines
end in one way or another, and it may write spaces and quotes around the values of its headers.
This file sets up such answers and shows that the headers are read back as they were meant, and
that an answer counts exactly if it says where the description is and by which name the gateway is
known.
-/
import UpnpGateway.Discovery.Advertisement
import UpnpGateway.Proofs.Text.Lines

namespace UpnpGateway.Discovery

open UpnpGateway.Net UpnpGateway.Text

/-! ## First headers -/

namespace Headers

/-- The first header with the given name, in any case, has the given value. -/
def IsFirst (headers : Headers) (name value : String) : Prop :=
  ∃ before key behind, headers = before ++ (key, value) :: behind ∧
    lower key.toList = lower name.toList ∧ ∀ h ∈ before, lower h.1.toList ≠ lower name.toList

/-- There is no header with the given name. -/
def Lacks (headers : Headers) (name : String) : Prop :=
  ∀ h ∈ headers, lower h.1.toList ≠ lower name.toList

lemma get?_eq_some_iff {headers : Headers} {name value : String} :
    headers.get? name = some value ↔ headers.IsFirst name value := by
  simp only [get?, IsFirst, Option.map_eq_some_iff, List.find?_eq_some_iff_append, sameLetters_iff,
    Bool.not_eq_true', ← Bool.not_eq_true]
  constructor
  · rintro ⟨⟨key, value⟩, ⟨hkey, before, behind, rfl, hbefore⟩, rfl⟩
    exact ⟨before, key, behind, rfl, hkey, hbefore⟩
  · rintro ⟨before, key, behind, rfl, hkey, hbefore⟩
    exact ⟨(key, value), ⟨hkey, before, behind, rfl, hbefore⟩, rfl⟩

lemma get?_eq_none_iff {headers : Headers} {name : String} :
    headers.get? name = none ↔ headers.Lacks name := by
  simp only [get?, Lacks, Option.map_eq_none_iff, List.find?_eq_none, sameLetters_iff, ne_eq]

/-- The names of headers have no case. -/
lemma get?_congr {name name' : String} (h : lower name.toList = lower name'.toList)
    (headers : Headers) : headers.get? name = headers.get? name' := by
  simp only [get?, sameLetters, h]

end Headers

/-! ## The lines of an answer -/

/-- How a line ends. -/
inductive LineEnd where
  | lineFeed
  | returnAndLineFeed
deriving DecidableEq

/-- The characters at the end of a line. -/
def LineEnd.chars : LineEnd → List Char
  | lineFeed => ['\n']
  | returnAndLineFeed => ['\r', '\n']

/-- A line is cut off at its end, whichever this is. -/
lemma lines_append_lineEnd {s : List Char} (hs : '\n' ∉ s) (ending : LineEnd) (t : List Char) :
    ∃ line, (line = s ∨ line = dropReturn s) ∧
      lines (s ++ ending.chars ++ t) = line :: lines t := by
  cases ending with
  | lineFeed =>
    refine ⟨dropReturn s, .inr rfl, ?_⟩
    rw [LineEnd.chars, List.append_assoc, List.singleton_append, lines_append_cons hs]
  | returnAndLineFeed =>
    refine ⟨s, .inl rfl, ?_⟩
    have hreturn : '\n' ∉ s ++ ['\r'] := by simpa using hs
    have hends : s ++ ['\r', '\n'] ++ t = (s ++ ['\r']) ++ '\n' :: t := by simp
    rw [LineEnd.chars, hends, lines_append_cons hreturn, dropReturn_concat]

/-- The first line of an answer. -/
structure SuccessLine where
  /-- The version of the protocol. -/
  version : List Char
  /-- What stands behind the status, such as a space and the reason for people to read. -/
  behind : List Char
  isSolid_version : IsSolid version := by decide
  isBlank_behind : ∀ c, behind.head? = some c → isBlank c = true
  notMem_behind : '\n' ∉ behind := by decide

namespace SuccessLine

variable (l : SuccessLine)

/-- The line without its end. -/
def chars : List Char := "HTTP/".toList ++ l.version ++ " 200".toList ++ l.behind

lemma notMem_chars : '\n' ∉ l.chars := by
  have hversion := l.isSolid_version.notMem (c := '\n') rfl
  have hprotocol : '\n' ∉ "HTTP/".toList := by decide
  have hcode : '\n' ∉ " 200".toList := by decide
  unfold chars
  simp only [List.mem_append, not_or]
  exact ⟨⟨⟨hprotocol, hversion⟩, hcode⟩, l.notMem_behind⟩

/-- The line is understood, even if it loses a return at its end. -/
lemma isSuccess_of_trim {line : List Char} (h : trim line = trim l.chars) :
    Advertisement.isSuccess line = true := by
  have hversion : IsSolid ("HTTP/".toList ++ l.version) :=
    IsSolid.append (by decide) l.isSolid_version
  have hcode : IsSolid "200".toList := by decide
  have htrim : trim l.chars =
      ("HTTP/".toList ++ l.version) ++ ' ' :: ("200".toList ++ dropEndWhile isBlank l.behind) := by
    have hhead : ∀ c, ("HTTP/".toList ++ l.version ++ " 200".toList).head? = some c →
        isBlank c = false := by
      rintro c ⟨⟩
      rfl
    have hlast : ∀ c, ("HTTP/".toList ++ l.version ++ " 200".toList).getLast? = some c →
        isBlank c = false := by
      intro c hc
      have hzero : " 200".toList.getLast? = some '0' := rfl
      rw [List.getLast?_append, hzero, Option.some_or, Option.some.injEq] at hc
      subst hc
      rfl
    unfold chars
    rw [trim_append (by simp) hhead hlast]
    simp
  -- behind the status stands nothing, or a blank that ends it
  have hwords : ∃ ws,
      words ("200".toList ++ dropEndWhile isBlank l.behind) = "200".toList :: ws := by
    obtain ⟨r, hr⟩ := dropEndWhile_prefix isBlank l.behind
    cases hbehind : dropEndWhile isBlank l.behind with
    | nil => exact ⟨[], by rw [List.append_nil, words_of_isSolid hcode (by decide)]⟩
    | cons c s =>
      have hc : isBlank c = true := l.isBlank_behind c (by rw [← hr, hbehind]; rfl)
      exact ⟨words s, words_append_cons hcode (by decide) hc s⟩
  obtain ⟨ws, hws⟩ := hwords
  rw [Advertisement.isSuccess, h, htrim, words_append_cons hversion (by simp) rfl, hws]
  simp

end SuccessLine

/-- A text that does not begin or end with a character that satisfies the test. -/
def HasEndsNot (p : Char → Bool) (s : List Char) : Prop :=
  (∀ c, s.head? = some c → p c = false) ∧ ∀ c, s.getLast? = some c → p c = false

instance (p : Char → Bool) (s : List Char) : Decidable (HasEndsNot p s) :=
  decidable_of_iff (s.head?.all (!p ·) = true ∧ s.getLast?.all (!p ·) = true)
    (by simp [HasEndsNot, Option.all_eq_true])

/-- A line with a header. -/
structure HeaderLine where
  /-- The name of the header. -/
  name : String
  /-- Its value. -/
  value : String
  /-- Whether there are quotes around the value. -/
  isQuoted : Bool
  /-- How many spaces stand before the value, or before its quotes. -/
  spacesBefore : Nat
  /-- How many spaces stand behind it. -/
  spacesBehind : Nat
  /-- How the line ends. -/
  ending : LineEnd
  notMem_name : ':' ∉ name.toList ∧ '\n' ∉ name.toList := by decide
  hasEndsNot_name : HasEndsNot isBlank name.toList := by decide
  notMem_value : '\n' ∉ value.toList := by decide
  hasEndsNot_value : HasEndsNot isBlank value.toList ∧ HasEndsNot (· == '"') value.toList := by
    decide

namespace HeaderLine

variable (l : HeaderLine)

/-- The header that the line stands for. -/
def header : String × String := (l.name, l.value)

/-- The value with its quotes. -/
def quotedValue : List Char :=
  if l.isQuoted then '"' :: (l.value.toList ++ ['"']) else l.value.toList

/-- What stands behind the colon. -/
def paddedValue : List Char :=
  List.replicate l.spacesBefore ' ' ++ l.quotedValue ++ List.replicate l.spacesBehind ' '

/-- The line without its end. -/
def chars : List Char := l.name.toList ++ ':' :: l.paddedValue

lemma notMem_chars : '\n' ∉ l.chars := by
  have hquoted : '\n' ∉ l.quotedValue := by
    rw [quotedValue]
    split
    · simpa using l.notMem_value
    · exact l.notMem_value
  simp [chars, paddedValue, hquoted, l.notMem_name.2]

/-- The spaces around a value are dropped first. -/
lemma trim_paddedValue : trim l.paddedValue = l.quotedValue := by
  rw [paddedValue, trim_spaces, quotedValue]
  split
  · refine trim_of_ends ?_ ?_
    · rintro c ⟨⟩
      rfl
    · intro c hc
      rw [← List.cons_append, List.getLast?_concat] at hc
      obtain rfl := Option.some.inj hc
      rfl
  · exact trim_of_ends l.hasEndsNot_value.1.1 l.hasEndsNot_value.1.2

/-- The quotes around a value are dropped then. -/
lemma dropEndsWhile_quotedValue :
    dropEndsWhile (· == '"') l.quotedValue = l.value.toList := by
  have hbare : dropEndsWhile (· == '"') l.value.toList = l.value.toList :=
    dropEndsWhile_of_ends l.hasEndsNot_value.2.1 l.hasEndsNot_value.2.2
  rw [quotedValue]
  split
  · rw [← List.singleton_append, dropEndsWhile_append_left (by simp),
      dropEndsWhile_append_right (by simp), hbare]
  · exact hbare

lemma headerOfLine?_of_trim {v : List Char} (hv : trim v = trim l.paddedValue) :
    Advertisement.headerOfLine? (l.name.toList ++ ':' :: v) = some l.header := by
  rw [Advertisement.headerOfLine?, cutFirst_append l.notMem_name.1, Option.map_some]
  dsimp only
  rw [hv, trim_paddedValue, dropEndsWhile_quotedValue,
    trim_of_ends l.hasEndsNot_name.1 l.hasEndsNot_name.2, String.ofList_toList,
    String.ofList_toList, header]

/-- The line is read as its header, even if it loses a return at its end. -/
lemma headerOfLine?_eq {line : List Char} (h : line = l.chars ∨ line = dropReturn l.chars) :
    Advertisement.headerOfLine? line = some l.header := by
  rcases h with rfl | rfl
  · exact l.headerOfLine?_of_trim rfl
  · rcases dropReturn_cases l.chars with hline | hline
    · rw [hline]
      exact l.headerOfLine?_of_trim rfl
    · -- the return that is lost stands behind the colon
      obtain ⟨v, hv, hchars⟩ := exists_of_append_eq_right (u := ['\r']) (x := ':') (by decide)
        (hline.symm.trans rfl)
      rw [hchars]
      refine l.headerOfLine?_of_trim ?_
      rw [hv]
      exact (dropEndsWhile_append_right (List.forall_mem_singleton.2 rfl) v).symm

end HeaderLine

/-! ## Answers -/

/-- The header has a value, and the first one of its name is not empty. -/
lemma needed?_eq_some_iff {headers : Headers} {name value : String} :
    Advertisement.needed? headers name = some value ↔
      headers.IsFirst name value ∧ value ≠ "" := by
  rw [Advertisement.needed?, Option.filter_eq_some_iff, Headers.get?_eq_some_iff]
  simp

/-- An answer as it is written: its first line, a line for each header, and an empty line. -/
structure WrittenAnswer where
  /-- The first line. -/
  first : SuccessLine
  /-- How the first line ends. -/
  ending : LineEnd
  /-- The lines with headers. -/
  lines : List HeaderLine
  /-- How the empty line ends. -/
  last : LineEnd

namespace WrittenAnswer

variable (w : WrittenAnswer)

/-- The answer as a text. -/
def text : String :=
  String.ofList (w.first.chars ++ w.ending.chars ++
    (w.lines.flatMap (fun l => l.chars ++ l.ending.chars) ++ w.last.chars))

/-- The headers of the answer. -/
def headers : Headers := w.lines.map HeaderLine.header

lemma filterMap_lines (ls : List HeaderLine) (t : List Char) :
    (Text.lines (ls.flatMap (fun l => l.chars ++ l.ending.chars) ++ t)).filterMap
        Advertisement.headerOfLine? =
      ls.map HeaderLine.header ++ (Text.lines t).filterMap Advertisement.headerOfLine? := by
  induction ls with
  | nil => rfl
  | cons l ls ih =>
    obtain ⟨line, hline, hlines⟩ := lines_append_lineEnd l.notMem_chars l.ending
      (ls.flatMap (fun l => l.chars ++ l.ending.chars) ++ t)
    rw [List.flatMap_cons, List.append_assoc, hlines,
      List.filterMap_cons_some (l.headerOfLine?_eq hline), ih, List.map_cons, List.cons_append]

/-- The empty line holds no header. -/
lemma filterMap_last :
    (Text.lines w.last.chars).filterMap Advertisement.headerOfLine? = [] := by
  cases w.last <;> rfl

/-- What is read of an answer is read of its headers. -/
lemma parse?_text (sender : Endpoint) :
    Advertisement.parse? w.text sender =
      (Advertisement.needed? w.headers "LOCATION").bind fun location =>
        (Advertisement.needed? w.headers "USN").map fun usn =>
          ⟨location, usn, (w.headers.get? "ST").getD "", (w.headers.get? "SERVER").getD "",
            sender, w.headers⟩ := by
  obtain ⟨line, hline, hlines⟩ := lines_append_lineEnd w.first.notMem_chars w.ending
    (w.lines.flatMap (fun l => l.chars ++ l.ending.chars) ++ w.last.chars)
  have hsuccess : Advertisement.isSuccess line = true := by
    refine w.first.isSuccess_of_trim ?_
    rcases hline with rfl | rfl
    · rfl
    · exact trim_dropReturn _
  have hheaders : (Text.lines (w.lines.flatMap (fun l => l.chars ++ l.ending.chars) ++
      w.last.chars)).filterMap Advertisement.headerOfLine? = w.headers := by
    rw [filterMap_lines, filterMap_last, List.append_nil, headers]
  rw [Advertisement.parse?, text, String.toList_ofList, hlines]
  simp only [hsuccess, Bool.not_true, Bool.false_eq_true, if_false, hheaders]
  cases Advertisement.needed? w.headers "LOCATION" with
  | none => rfl
  | some location => cases Advertisement.needed? w.headers "USN" <;> rfl

end WrittenAnswer

/-- An advertisement says what some headers say. -/
structure Advertisement.Tells (a : Advertisement) (headers : Headers) : Prop where
  /-- It has exactly these headers, in order. -/
  headers_eq : a.headers = headers
  isFirst_location : headers.IsFirst "LOCATION" a.location
  isFirst_usn : headers.IsFirst "USN" a.usn
  /-- What it was searched as may be left out. -/
  st_eq : headers.IsFirst "ST" a.st ∨ headers.Lacks "ST" ∧ a.st = ""
  /-- The server may be left out. -/
  server_eq : headers.IsFirst "SERVER" a.server ∨ headers.Lacks "SERVER" ∧ a.server = ""
  /-- Under any name the first header of this name is found. -/
  header?_eq_some_iff : ∀ name value, a.header? name = some value ↔ headers.IsFirst name value
  /-- The location is found under its name in any case. -/
  header?_location : ∀ name, lower name.toList = lower "LOCATION".toList →
    a.header? name = some a.location
  /-- So is the name of the gateway. -/
  header?_usn : ∀ name, lower name.toList = lower "USN".toList → a.header? name = some a.usn
  /-- So is what it was searched as, unless it is left out. -/
  header?_st : ∀ name, lower name.toList = lower "ST".toList → (a.header? name).getD "" = a.st
  /-- So is the server, unless it is left out. -/
  header?_server : ∀ name, lower name.toList = lower "SERVER".toList →
    (a.header? name).getD "" = a.server

lemma isFirst_getD_get? (headers : Headers) (name : String) :
    headers.IsFirst name ((headers.get? name).getD "") ∨
      headers.Lacks name ∧ (headers.get? name).getD "" = "" := by
  cases hget : headers.get? name with
  | none => exact .inr ⟨Headers.get?_eq_none_iff.1 hget, rfl⟩
  | some value => exact .inl (Headers.get?_eq_some_iff.1 hget)

/-- **Answers are read as they are written.**  An answer counts exactly if its first location and
its first name are there and not empty.  Then all its headers are read as they were meant, whatever
their lines end with and whatever spaces and quotes stand around their values, and location, name,
search target and server are those of the first headers with these names, in any case. -/
theorem WrittenAnswer.parse?_tells (w : WrittenAnswer) (sender : Endpoint) :
    ((Advertisement.parse? w.text sender).isSome = true ↔
      (∃ location, location ≠ "" ∧ w.headers.IsFirst "LOCATION" location) ∧
        ∃ usn, usn ≠ "" ∧ w.headers.IsFirst "USN" usn) ∧
    ∀ a, Advertisement.parse? w.text sender = some a → a.sender = sender ∧ a.Tells w.headers := by
  rw [w.parse?_text sender]
  constructor
  · simp only [Option.isSome_iff_exists, Option.bind_eq_some_iff, Option.map_eq_some_iff,
      needed?_eq_some_iff]
    constructor
    · rintro ⟨-, location, ⟨hlocation, hlne⟩, usn, ⟨husn, hune⟩, -⟩
      exact ⟨⟨location, hlne, hlocation⟩, usn, hune, husn⟩
    · rintro ⟨⟨location, hlne, hlocation⟩, usn, hune, husn⟩
      exact ⟨_, location, ⟨hlocation, hlne⟩, usn, ⟨husn, hune⟩, rfl⟩
  · intro a ha
    simp only [Option.bind_eq_some_iff, Option.map_eq_some_iff, needed?_eq_some_iff] at ha
    obtain ⟨location, ⟨hlocation, -⟩, usn, ⟨husn, -⟩, rfl⟩ := ha
    have hget (name name' : String) (hname : lower name.toList = lower name'.toList) :
        Headers.get? w.headers name = w.headers.get? name' := Headers.get?_congr hname w.headers
    refine ⟨rfl, rfl, hlocation, husn, isFirst_getD_get? _ _, isFirst_getD_get? _ _,
      fun name value => Headers.get?_eq_some_iff, fun name hname => ?_, fun name hname => ?_,
      fun name hname => ?_, fun name hname => ?_⟩
    · exact (hget _ _ hname).trans (Headers.get?_eq_some_iff.2 hlocation)
    · exact (hget _ _ hname).trans (Headers.get?_eq_some_iff.2 husn)
    · exact congrArg (Option.getD · "") (hget _ _ hname)
    · exact congrArg (Option.getD · "") (hget _ _ hname)

/-! ### An answer in many styles -/

/-- An answer whose lines end in both ways, with a name that comes twice, quotes, spaces and an
empty header. -/
def mixedAnswer : WrittenAnswer where
  first := ⟨"1.0".toList, " all is: well\r".toList, by decide, by rintro c ⟨⟩; rfl, by decide⟩
  ending := .lineFeed
  lines := [
    ⟨"Location", "http://[::1]:80/d.xml", true, 1, 0, .returnAndLineFeed, by decide, by decide,
      by decide, by decide⟩,
    ⟨"", "", true, 0, 2, .lineFeed, by decide, by decide, by decide, by decide⟩,
    ⟨"usn", "uuid:a \"b", false, 3, 1, .lineFeed, by decide, by decide, by decide, by decide⟩,
    ⟨"USN", "uuid:c", false, 1, 0, .returnAndLineFeed, by decide, by decide, by decide,
      by decide⟩]
  last := .lineFeed

/-- The headers of the answer are found, and of the two names the first one counts. -/
theorem WrittenAnswer.parse?_mixedAnswer :
    mixedAnswer.text = "HTTP/1.0 200 all is: well\r\nLocation: \"http://[::1]:80/d.xml\"\r\n" ++
      ":\"\"  \nusn:   uuid:a \"b \nUSN: uuid:c\r\n\n" ∧
    ∃ a, Advertisement.parse? mixedAnswer.text ⟨.v4 ⟨10, 0, 0, 1⟩, 1900⟩ = some a ∧
      a.Tells mixedAnswer.headers ∧ a.header? "Usn" = some "uuid:a \"b" ∧ a.st = "" := by
  obtain ⟨hiff, htells⟩ := parse?_tells mixedAnswer ⟨.v4 ⟨10, 0, 0, 1⟩, 1900⟩
  have hlocation : mixedAnswer.headers.IsFirst "LOCATION" "http://[::1]:80/d.xml" :=
    Headers.get?_eq_some_iff.1 (by decide +kernel)
  have husn : mixedAnswer.headers.IsFirst "USN" "uuid:a \"b" :=
    Headers.get?_eq_some_iff.1 (by decide +kernel)
  obtain ⟨a, ha⟩ := Option.isSome_iff_exists.1
    (hiff.2 ⟨⟨_, by decide, hlocation⟩, _, by decide, husn⟩)
  obtain ⟨-, h⟩ := htells a ha
  have hst : Headers.get? mixedAnswer.headers "ST" = none := by decide +kernel
  refine ⟨by decide +kernel, a, ha, h, ?_, ?_⟩
  · have hname : Headers.get? mixedAnswer.headers "Usn" = some "uuid:a \"b" := by decide +kernel
    rw [Advertisement.header?, h.headers_eq, hname]
  · rw [← h.header?_st "ST" rfl, Advertisement.header?, h.headers_eq, hst, Option.getD_none]

end UpnpGateway.Discovery

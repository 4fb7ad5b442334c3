/-
# Replies as they are written

A reply begins with a line that says its status, and headers follow on lines of their own, among
which one may say the length of the body.  This file sets up such heads, with whatever else their
lines hold, and shows that status and body are read back: the body with a length whatever stands
behind it, and without one all that comes.  Bytes without an end of a head, or without a status in
their first line, are no reply.
-/
import UpnpGateway.Proofs.Http.CutReplies
import UpnpGateway.Proofs.Http.RequestLines
import UpnpGateway.Proofs.Text.Letter
import UpnpGateway.Proofs.Text.Lines

namespace UpnpGateway.Http

open UpnpGateway.Text

/-! ## Lines of bytes -/

lemma decodeUtf8_lineEnd_append (r : Bytes) :
    decodeUtf8 (lineEnd ++ r) = '\r' :: '\n' :: decodeUtf8 r :=
  decodeUtf8_encodeUtf8_append ['\r', '\n'] r

/-- What is read of bytes is cut at the end of a line. -/
lemma decodeUtf8_append_lineEnd (a r : Bytes) :
    decodeUtf8 (a ++ (lineEnd ++ r)) = decodeUtf8 a ++ '\r' :: '\n' :: decodeUtf8 r := by
  rw [← decodeUtf8_lineEnd_append]
  exact decodeUtf8_append_cons (by decide) a (10 :: r)

lemma notMem_decodeUtf8 {l : Bytes} (hl : (10 : UInt8) ∉ l) : '\n' ∉ decodeUtf8 l := by
  intro hmem
  have hwithin := utf8EncodeChar_infix_of_mem (by decide) hmem
  exact hl (hwithin.subset (List.mem_singleton.2 rfl))

/-- A line that can stand in a head. -/
def IsHeadLine (l : Bytes) : Prop := l ≠ [] ∧ (10 : UInt8) ∉ l

instance (l : Bytes) : Decidable (IsHeadLine l) := inferInstanceAs (Decidable (_ ∧ _))

lemma IsHeadLine.isLine {l : Bytes} (hl : IsHeadLine l) : IsLine l :=
  fun h => hl.2 (h.subset (by simp [lineEnd]))

/-- The lines of a row of bytes that is put together from lines. -/
lemma lines_decodeUtf8_intercalate {ls : List Bytes} (hls : ∀ l ∈ ls, IsHeadLine l) :
    lines (decodeUtf8 (List.intercalate lineEnd ls)) = ls.map decodeUtf8 := by
  induction ls with
  | nil => simp
  | cons l ls ih =>
    obtain ⟨⟨hne, hl⟩, hls⟩ := List.forall_mem_cons.1 hls
    have hl' := notMem_decodeUtf8 hl
    cases ls with
    | nil => simpa using lines_of_notMem hl' (decodeUtf8_ne_nil hne)
    | cons m ls =>
      have hreturn : '\n' ∉ decodeUtf8 l ++ ['\r'] := by simpa using hl'
      rw [List.intercalate_cons_cons, List.append_assoc, decodeUtf8_append_lineEnd,
        List.append_cons, lines_append_cons hreturn, dropReturn_concat, ih hls]
      rfl

/-! ## Lines of a head -/

/-- The first line of a reply. -/
structure StatusLine where
  /-- The version of the protocol, or whatever stands before the status. -/
  version : List Char
  version_ne_nil : version ≠ []
  isSolid_version : IsSolid version
  /-- The status. -/
  status : UInt16
  /-- The reason for the status, which is only for people to read. -/
  reason : Bytes
  notMem_reason : (10 : UInt8) ∉ reason

namespace StatusLine

variable (s : StatusLine)

/-- What stands before the reason. -/
def front : List Char := s.version ++ ' ' :: (decimal s.status.toNat ++ [' '])

/-- The bytes of the line. -/
def bytes : Bytes := encodeUtf8 s.front ++ s.reason

lemma isHeadLine_bytes : IsHeadLine s.bytes := by
  have hne : s.front ≠ [] := by simp [front]
  refine ⟨List.append_ne_nil_of_left_ne_nil (encodeUtf8_ne_nil hne) _, fun h => ?_⟩
  rcases List.mem_append.1 h with h | h
  · obtain ⟨c, hc, hc10⟩ := exists_of_mem_encodeUtf8 (by decide) h
    obtain rfl : c = '\n' := Char.toNat_inj.1 hc10
    have hversion := s.isSolid_version.notMem (c := '\n') (by decide)
    have hstatus := (IsSolid.decimal s.status.toNat).notMem (c := '\n') (by decide)
    simp [front, hversion, hstatus] at hc
  · exact s.notMem_reason h

/-- The status is the second word of the line. -/
lemma statusOf_eq {head : List Char} (h : (lines head).head? = some (decodeUtf8 s.bytes)) :
    statusOf head = .ok s.status := by
  have hwords : words (decodeUtf8 s.bytes) =
      s.version :: decimal s.status.toNat :: words (decodeUtf8 s.reason) := by
    have hline : decodeUtf8 s.bytes =
        s.version ++ ' ' :: (decimal s.status.toNat ++ ' ' :: decodeUtf8 s.reason) := by
      rw [bytes, decodeUtf8_encodeUtf8_append, front]
      simp
    rw [hline, words_append_cons s.isSolid_version s.version_ne_nil (by rfl),
      words_append_cons (IsSolid.decimal _) Nat.toDigits_ne_nil (by rfl)]
  rw [statusOf, h, Option.getD_some, hwords]
  simp

end StatusLine

/-- A line is a header with a name. -/
def IsNamed (name : String) (line : Bytes) : Prop :=
  ∃ key value, decodeUtf8 line = key ++ ':' :: value ∧ ':' ∉ key ∧
    sameLetters (trim key) name.toList = true

/-- A header is looked up by its name. -/
lemma headerValue?_eq_none_iff {name : String} {line : Bytes} :
    headerValue? name.toList (decodeUtf8 line) = none ↔ ¬ IsNamed name line := by
  constructor
  · rintro h ⟨key, value, hline, hkey, hname⟩
    rw [headerValue?, hline, cutFirst_append hkey, Option.bind_some] at h
    simp [hname] at h
  · intro h
    rw [headerValue?]
    cases hcut : cutFirst ':' (decodeUtf8 line) with
    | none => rfl
    | some p =>
      obtain ⟨hline, hkey⟩ := eq_of_cutFirst hcut
      have hname : ¬ sameLetters (trim p.1) name.toList = true :=
        fun hsame => h ⟨p.1, p.2, hline, hkey, hsame⟩
      exact if_neg hname

instance (name : String) (line : Bytes) : Decidable (IsNamed name line) :=
  decidable_of_iff _ (not_congr headerValue?_eq_none_iff |>.trans not_not)

/-- A line of a head that says nothing about the body; it need not be a header. -/
structure IsOtherLine (l : Bytes) : Prop where
  isHeadLine : IsHeadLine l
  not_chunked : ¬ IsNamed "Transfer-Encoding" l
  not_length : ¬ IsNamed "Content-Length" l

instance (l : Bytes) : Decidable (IsOtherLine l) :=
  decidable_of_iff (IsHeadLine l ∧ ¬ IsNamed "Transfer-Encoding" l ∧ ¬ IsNamed "Content-Length" l)
    ⟨fun ⟨hline, hchunked, hlength⟩ => ⟨hline, hchunked, hlength⟩,
      fun h => ⟨h.isHeadLine, h.not_chunked, h.not_length⟩⟩

/-- A line that says the length of the body. -/
structure LengthLine (n : Nat) where
  /-- The name of the header, in any case. -/
  name : List Char
  lower_name : lower name = lower "Content-Length".toList
  /-- How many spaces stand before and behind the name, and before and behind the length. -/
  spaces : Fin 4 → Nat
  /-- The length is a number of the machine. -/
  le_maxLong : n ≤ maxLong

namespace LengthLine

variable {n : Nat} (l : LengthLine n)

/-- Spaces around a text. -/
def padded (i j : Fin 4) (s : List Char) : List Char :=
  List.replicate (l.spaces i) ' ' ++ s ++ List.replicate (l.spaces j) ' '

/-- The text of the line. -/
def text : List Char := l.padded 0 1 l.name ++ ':' :: l.padded 2 3 (decimal n)

/-- The bytes of the line. -/
def bytes : Bytes := encodeUtf8 l.text

lemma trim_padded (i j : Fin 4) {s : List Char} (hs : IsSolid s) : trim (l.padded i j s) = s := by
  rw [padded, trim_spaces, trim_of_forall hs]

lemma isSolid_name : IsSolid l.name := by
  intro c hc
  have hlower : c.toLower ∈ lower "Content-Length".toList := l.lower_name ▸ List.mem_map_of_mem hc
  have hsolid : IsSolid (lower "Content-Length".toList) := by decide
  rw [← isBlank_toLower]
  exact hsolid _ hlower

lemma notMem_padded (i j : Fin 4) {s : List Char} (hs : IsSolid s) : '\n' ∉ l.padded i j s := by
  have hs' := hs.notMem (c := '\n') (by decide)
  simp [padded, hs']

lemma isHeadLine_bytes : IsHeadLine l.bytes := by
  refine ⟨encodeUtf8_ne_nil (by simp [text]), fun h => ?_⟩
  obtain ⟨c, hc, hc10⟩ := exists_of_mem_encodeUtf8 (by decide) h
  obtain rfl : c = '\n' := Char.toNat_inj.1 hc10
  have hname := l.notMem_padded 0 1 l.isSolid_name
  have hlength := l.notMem_padded 2 3 (IsSolid.decimal n)
  simp [text, hname, hlength] at hc

/-- The value of the line is the length, under its name only. -/
lemma headerValue?_eq (name : List Char) :
    headerValue? name (decodeUtf8 l.bytes) =
      if sameLetters l.name name then some (decimal n) else none := by
  have hcolon : ':' ∉ l.padded 0 1 l.name := by
    have hname : ':' ∉ l.name := by
      rw [mem_iff_of_lower_eq l.lower_name (by rfl)]
      decide
    simp [padded, hname]
  rw [bytes, decodeUtf8_encodeUtf8, headerValue?, text, cutFirst_append hcolon, Option.bind_some]
  dsimp only
  rw [l.trim_padded 0 1 l.isSolid_name, l.trim_padded 2 3 (IsSolid.decimal n)]

lemma not_chunked : ¬ IsNamed "Transfer-Encoding" l.bytes := by
  have hname : ¬ sameLetters l.name "Transfer-Encoding".toList = true := by
    rw [sameLetters_iff, l.lower_name]
    decide
  rw [← headerValue?_eq_none_iff, l.headerValue?_eq, if_neg hname]

end LengthLine

/-! ## Heads -/

/-- A head with its end: the first line, more lines and an empty one. -/
def headOf (s : StatusLine) (ls : List Bytes) : Bytes :=
  List.intercalate lineEnd (s.bytes :: ls) ++ headEnd

section Head

variable (s : StatusLine) {ls : List Bytes} (hls : ∀ l ∈ ls, IsHeadLine l)
include hls

/-- A head is found again, line by line. -/
lemma exists_cutHead?_headOf : ∃ head,
    (∀ rest, cutHead? (headOf s ls ++ rest) = some (head, rest)) ∧
      lines head = decodeUtf8 s.bytes :: ls.map decodeUtf8 := by
  have hall : ∀ l ∈ s.bytes :: ls, IsHeadLine l := List.forall_mem_cons.2 ⟨s.isHeadLine_bytes, hls⟩
  refine ⟨_, fun rest => ?_, lines_decodeUtf8_intercalate hall⟩
  have hcut := cutRun_headEnd (List.cons_ne_nil s.bytes ls)
    (fun l hl => ⟨(hall l hl).isLine, (hall l hl).1⟩) rest
  rw [cutHead?, headOf, hcut]
  rfl

end Head

section Lookup

variable {head first : List Char} {ls : List Bytes}
  (h : lines head = first :: ls.map decodeUtf8)
include h

lemma header?_eq (name : String) :
    header? head name = ls.findSome? fun l => headerValue? name.toList (decodeUtf8 l) := by
  rw [header?, h, List.drop_one, List.tail_cons, List.findSome?_map]
  rfl

lemma header?_eq_none {name : String} (hls : ∀ l ∈ ls, ¬ IsNamed name l) :
    header? head name = none := by
  rw [header?_eq h, List.findSome?_eq_none_iff]
  exact fun l hl => headerValue?_eq_none_iff.2 (hls l hl)

/-- Without a line about chunks the body has a length, or goes on to the end. -/
lemma bodyBytes_eq_take (hls : ∀ l ∈ ls, ¬ IsNamed "Transfer-Encoding" l) (rest : Bytes) :
    bodyBytes head rest = .ok (((contentLength? head).map rest.take).getD rest) := by
  have hchunked : isChunked head = false := by rw [isChunked, header?_eq_none h hls]; rfl
  rw [bodyBytes, hchunked]
  rfl

end Lookup

/-- The length is found among the other lines of a head. -/
lemma contentLength?_eq {head first : List Char} {before behind : List Bytes} {n : Nat}
    (l : LengthLine n) (h : lines head = first :: (before ++ l.bytes :: behind).map decodeUtf8)
    (hbefore : ∀ x ∈ before, ¬ IsNamed "Content-Length" x) : contentLength? head = some n := by
  have hnone : (before.findSome? fun x =>
      headerValue? "Content-Length".toList (decodeUtf8 x)) = none := by
    rw [List.findSome?_eq_none_iff]
    exact fun x hx => headerValue?_eq_none_iff.2 (hbefore x hx)
  have hname : sameLetters l.name "Content-Length".toList = true := sameLetters_iff.2 l.lower_name
  have hvalue : header? head "Content-Length" = some (decimal n) := by
    rw [header?_eq h, List.findSome?_append, hnone, Option.none_or, List.findSome?_cons,
      l.headerValue?_eq, if_pos hname]
  rw [contentLength?, hvalue, Option.bind_some, readNat?_decimal l.le_maxLong]

lemma forall_mem_insert {α : Type} {P : α → Prop} {before behind : List α} {a : α} (ha : P a)
    (h : ∀ x ∈ before ++ behind, P x) : ∀ x ∈ before ++ a :: behind, P x := by
  rw [List.forall_mem_append] at h ⊢
  exact ⟨h.1, List.forall_mem_cons.2 ⟨ha, h.2⟩⟩

/-- A body is read as far as its length goes. -/
lemma parse_headOf_of_length (s : StatusLine) {before behind : List Bytes} {body : String}
    (l : LengthLine body.utf8ByteSize) (hothers : ∀ x ∈ before ++ behind, IsOtherLine x)
    (rest : Bytes) :
    Reply.parse (headOf s (before ++ l.bytes :: behind) ++ (encodeUtf8 body.toList ++ rest)) =
      .ok ⟨s.status, body⟩ := by
  obtain ⟨head, hcut, hhead⟩ := exists_cutHead?_headOf s
    (forall_mem_insert l.isHeadLine_bytes fun x hx => (hothers x hx).isHeadLine)
  have hlength := contentLength?_eq l hhead fun x hx =>
    (hothers x (List.mem_append_left _ hx)).not_length
  have hbody := bodyBytes_eq_take hhead
    (forall_mem_insert l.not_chunked fun x hx => (hothers x hx).not_chunked)
  rw [parse_of_status (hcut _) (s.statusOf_eq (by rw [hhead]; rfl)), hbody, hlength,
    Option.map_some, Option.getD_some, ← length_encodeUtf8, List.take_left, Except.map,
    decodeUtf8_encodeUtf8, String.ofList_toList]

/-- Without a length, everything behind the head is the body. -/
lemma parse_headOf_of_others (s : StatusLine) {others : List Bytes}
    (hothers : ∀ x ∈ others, IsOtherLine x) (rest : Bytes) :
    Reply.parse (headOf s others ++ rest) = .ok ⟨s.status, String.ofList (decodeUtf8 rest)⟩ := by
  obtain ⟨head, hcut, hhead⟩ := exists_cutHead?_headOf s fun x hx => (hothers x hx).isHeadLine
  have hlength : contentLength? head = none := by
    rw [contentLength?, header?_eq_none hhead fun x hx => (hothers x hx).not_length]
    rfl
  rw [parse_of_status (hcut _) (s.statusOf_eq (by rw [hhead]; rfl)),
    bodyBytes_eq_take hhead fun x hx => (hothers x hx).not_chunked, hlength]
  rfl

/-! ## What is no reply -/

/-- The first line of a row of bytes. -/
def firstLine (raw : Bytes) : List Char := (lines (decodeUtf8 raw)).head?.getD []

/-- The first line does not go beyond the head. -/
lemma firstLine_eq {raw rest : Bytes} {head : List Char} (h : cutHead? raw = some (head, rest)) :
    firstLine raw = (lines head).head?.getD [] := by
  obtain ⟨⟨bytes, body⟩, hcut, hpair⟩ := Option.map_eq_some_iff.1 h
  obtain ⟨rfl, rfl⟩ := Prod.mk.inj hpair
  have hends : headEnd = lineEnd ++ lineEnd := rfl
  rw [firstLine, eq_of_cutRun hcut, hends, List.append_assoc, List.append_assoc,
    decodeUtf8_append_lineEnd]
  cases hfirst : cutFirst '\n' (decodeUtf8 bytes) with
  | none =>
    -- the head is one line, and its end begins with the end of that line
    have hline := cutFirst_eq_none.1 hfirst
    have hreturn : '\n' ∉ decodeUtf8 bytes ++ ['\r'] := by simpa using hline
    rw [List.append_cons, lines_append_cons hreturn, dropReturn_concat]
    by_cases hnil : decodeUtf8 bytes = []
    · rw [hnil]
      rfl
    · rw [lines_of_notMem hline hnil]
      rfl
  | some p =>
    obtain ⟨hhead, hline⟩ := eq_of_cutFirst hfirst
    rw [hhead, List.append_assoc, List.cons_append, lines_append_cons hline,
      lines_append_cons hline]
    rfl

lemma parse_of_no_headEnd {raw : Bytes} (h : ¬ headEnd <:+: raw) :
    Reply.parse raw = .error .cutHead := by
  refine parse_of_no_head ?_
  rw [cutHead?, cutRun_eq_none_iff.2 h]
  rfl

lemma parse_of_no_status {raw : Bytes} (h : headEnd <:+: raw)
    (hstatus : (words (firstLine raw))[1]?.bind readPort? = none) :
    Reply.parse raw = .error (.badStatusLine (String.ofList (firstLine raw))) := by
  cases hcut : cutHead? raw with
  | none =>
    rw [cutHead?, Option.map_eq_none_iff, cutRun_eq_none_iff] at hcut
    exact absurd h hcut
  | some p =>
    refine parse_of_bad_status hcut ?_
    rw [firstLine_eq hcut] at hstatus ⊢
    rw [statusOf, hstatus]

/-- **Replies are read as they are written.**  The status of a reply is read from its first line,
whatever the reason is; its body is what has the length that one of its lines says, whatever the
other lines say and whatever stands behind it, or else all that stands behind the head.  Bytes
without the end of a head are no reply, and neither are bytes whose first line has no status as its
second word. -/
theorem parse_headOf :
    (∀ (s : StatusLine) (before behind : List Bytes) (body : String)
      (l : LengthLine body.utf8ByteSize) (rest : Bytes),
      (∀ x ∈ before ++ behind, IsOtherLine x) →
      Reply.parse (headOf s (before ++ l.bytes :: behind) ++ (encodeUtf8 body.toList ++ rest)) =
        .ok ⟨s.status, body⟩) ∧
    (∀ (s : StatusLine) (others : List Bytes) (rest : Bytes), (∀ x ∈ others, IsOtherLine x) →
      Reply.parse (headOf s others ++ rest) =
        .ok ⟨s.status, String.ofList (decodeUtf8 rest)⟩) ∧
    (∀ raw, ¬ headEnd <:+: raw → Reply.parse raw = .error .cutHead) ∧
    ∀ raw, headEnd <:+: raw → (words (firstLine raw))[1]?.bind readPort? = none →
      Reply.parse raw = .error (.badStatusLine (String.ofList (firstLine raw))) :=
  ⟨fun s _ _ _ l rest hothers => parse_headOf_of_length s l hothers rest,
    fun s _ rest hothers => parse_headOf_of_others s hothers rest,
    fun _ => parse_of_no_headEnd, fun _ => parse_of_no_status⟩

/-! ### A reply with many lines -/

/-- A status with a reason that looks like a header. -/
def refusedLine : StatusLine :=
  ⟨"HTTP/1.1".toList, by decide, by decide, 500, encodeUtf8 "Content-Length: 1".toList, by decide⟩

/-- Lines that say nothing about the body. -/
def otherLines : List Bytes :=
  [encodeUtf8 "X-Content-Length: 3".toList, encodeUtf8 "no header at all".toList]

/-- A body that looks like the end of a head. -/
def headlikeBody : String := "\r\n\r\nContent-Length: 4\r\n\r\n"

/-- The length of the body, in a line with many spaces. -/
def spacedLine : LengthLine headlikeBody.utf8ByteSize where
  name := "content-LENGTH".toList
  lower_name := by decide
  spaces := fun i => i
  le_maxLong := by decide

/-- The body is found in a reply that is full of things that look like something else; and bytes
that lack the end of a head, or a status, are no reply. -/
theorem parse_headOf_headlikeBody :
    headOf refusedLine (otherLines ++ [spacedLine.bytes]) = encodeUtf8
      ("HTTP/1.1 500 Content-Length: 1\r\nX-Content-Length: 3\r\nno header at all\r\n" ++
        "content-LENGTH :  25   \r\n\r\n").toList ∧
    Reply.parse (headOf refusedLine (otherLines ++ [spacedLine.bytes]) ++
      (encodeUtf8 headlikeBody.toList ++ [0])) = .ok ⟨500, headlikeBody⟩ ∧
    Reply.parse (headOf refusedLine otherLines ++ [255]) = .ok ⟨500, "\uFFFD"⟩ ∧
    Reply.parse (encodeUtf8 "HTTP/1.1 200 OK\r\n".toList) = .error .cutHead ∧
    Reply.parse (encodeUtf8 "HTTP/1.1\r\n\r\n200".toList) =
      .error (.badStatusLine "HTTP/1.1") := by
  obtain ⟨hlength, hothers, hhead, hstatus⟩ := parse_headOf
  have hlines : ∀ x ∈ otherLines, IsOtherLine x := by decide +kernel
  refine ⟨by decide +kernel, ?_, ?_, ?_, ?_⟩
  · exact hlength refusedLine otherLines [] headlikeBody spacedLine [0]
      (by rwa [List.append_nil])
  · rw [hothers refusedLine otherLines [255] hlines]
    decide +kernel
  · exact hhead _ (by rw [← cutRun_eq_none_iff]; decide +kernel)
  · have hfirst : firstLine (encodeUtf8 "HTTP/1.1\r\n\r\n200".toList) = "HTTP/1.1".toList := by
      decide +kernel
    rw [hstatus _ ⟨encodeUtf8 "HTTP/1.1".toList, encodeUtf8 "200".toList, by decide⟩
      (by rw [hfirst]; decide +kernel), hfirst]
    rfl

end UpnpGateway.Http

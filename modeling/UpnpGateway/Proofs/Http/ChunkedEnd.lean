/-
# Where a body in chunks ends

Behind the last chunk there may be more lines, and the line of the last chunk may have an
extension; an empty line ends it all.  The signal to stop reading only looks at the last bytes.  It
sees the end exactly if the line before the empty one ends with a zero.  Otherwise the whole reply
has come and could be read, but reading goes on until the peer closes the connection or the time
is over.
-/
import UpnpGateway.Proofs.Http.Chunks
import UpnpGateway.Proofs.Http.CutReplies

namespace UpnpGateway.Http

open UpnpGateway.Net UpnpGateway.Text

/-! ## Bodies in chunks -/

namespace ChunkRow

/-- The bytes of a body in chunks: the row, more lines and an empty line. -/
def sent (r : ChunkRow) (trailers : List Bytes) : Bytes :=
  r.bytes ++ (trailers.flatMap (· ++ lineEnd) ++ lineEnd)

/-- The line before the empty one. -/
def finalLine (r : ChunkRow) (trailers : List Bytes) : Bytes :=
  trailers.getLast?.getD r.last.bytes

variable (r : ChunkRow) {trailers : List Bytes}

lemma last_bytes_ne_nil : r.last.bytes ≠ [] := by
  have hnumber : r.last.number ≠ [] := by
    rw [SizeLine.number]
    exact List.append_ne_nil_of_right_ne_nil _ (ne_nil_of_lower_eq_hexadecimal r.last.lower_digits)
  exact List.append_ne_nil_of_left_ne_nil (encodeUtf8_ne_nil hnumber) _

lemma finalLine_ne_nil (h : [] ∉ trailers) : r.finalLine trailers ≠ [] := by
  rw [finalLine]
  cases hlast : trailers.getLast? with
  | none => exact r.last_bytes_ne_nil
  | some t =>
    rintro rfl
    exact h (List.mem_of_getLast? hlast)

lemma exists_sent_eq (trailers : List Bytes) :
    ∃ front, r.sent trailers = front ++ r.finalLine trailers ++ (lineEnd ++ lineEnd) := by
  rcases List.eq_nil_or_concat trailers with rfl | ⟨ts, t, rfl⟩
  · exact ⟨r.chunks.flatMap Chunk.bytes, by simp [sent, bytes, finalLine]⟩
  · exact ⟨r.bytes ++ ts.flatMap (· ++ lineEnd), by simp [sent, finalLine]⟩

/-- A body ends like a last chunk exactly if its final line ends with a zero. -/
lemma lastChunk_isSuffixOf_sent (h : [] ∉ trailers) :
    lastChunk.isSuffixOf (r.sent trailers) = true ↔
      (r.finalLine trailers).getLast? = some 48 := by
  obtain ⟨front, hsent⟩ := r.exists_sent_eq trailers
  have hlast : lastChunk = [48] ++ (lineEnd ++ lineEnd) := rfl
  rw [List.isSuffixOf_iff_suffix, hsent, hlast, List.suffix_append_self_iff,
    List.singleton_suffix_iff_getLast?_eq_some, List.getLast?_append_of_ne_nil _
      (r.finalLine_ne_nil h)]

end ChunkRow

/-- A reply whose body comes in chunks, with more lines behind the last one. -/
structure IsChunkedReply (raw : Bytes) (head : List Char) (r : ChunkRow)
    (trailers : List Bytes) : Prop where
  cutHead?_eq : cutHead? raw = some (head, r.sent trailers)
  isChunked_eq : isChunked head = true
  isLine : ∀ t ∈ trailers, IsLine t ∧ t ≠ []

namespace IsChunkedReply

variable {raw : Bytes} {head : List Char} {r : ChunkRow} {trailers : List Bytes}

/-- The end is seen exactly if the final line ends with a zero. -/
lemma isComplete_iff (h : IsChunkedReply raw head r trailers) :
    isComplete raw = true ↔ (r.finalLine trailers).getLast? = some 48 := by
  have hne : [] ∉ trailers := fun hmem => (h.isLine [] hmem).2 rfl
  rw [isComplete, h.cutHead?_eq]
  dsimp only
  rw [if_pos h.isChunked_eq]
  exact r.lastChunk_isSuffixOf_sent hne

/-- The whole reply is there, whether the end is seen or not. -/
lemma parse_eq (h : IsChunkedReply raw head r trailers) :
    Reply.parse raw = (statusOf head).map (Reply.ofBytes r.content) := by
  have hbody : bodyBytes head (r.sent trailers) = .ok r.content := by
    rw [bodyBytes, if_pos h.isChunked_eq]
    exact r.dechunk_bytes_append _
  cases hs : statusOf head with
  | error e => rw [parse_of_bad_status h.cutHead?_eq hs]; rfl
  | ok code => rw [parse_of_status h.cutHead?_eq hs, hbody]; rfl

end IsChunkedReply

/-! ## Reading up to the end -/

section Receive

variable (limit : Duration) (ending : ConnectionEnd) {pieces : List Bytes} (hne : [] ∉ pieces)
  (hlen : pieces.flatten.length ≤ maxReplySize)
include hne hlen

/-- If the bytes are complete, reading has stopped at the last of them, if not before. -/
lemma exists_receive_of_isComplete (hcomplete : isComplete pieces.flatten = true) :
    ∃ got, receive limit ending [] pieces = .ok got := by
  rw [receive_eq_of_length_le hlen limit ending hne]
  cases hstop : stop? pieces with
  | some got => exact ⟨got, rfl⟩
  | none =>
    have hgoes := stop?_eq_none_iff.1 hstop pieces (List.prefix_refl pieces)
    rw [stopsReading, hcomplete, Bool.or_true] at hgoes
    cases hgoes

/-- As long as the bytes are not complete, reading goes on, and how the connection ends decides. -/
lemma receive_of_forall_not_isComplete
    (hopen : ∀ n ≤ pieces.length, isComplete (pieces.take n).flatten = false) :
    receive limit ending [] pieces = receive limit ending pieces.flatten [] := by
  have hstop : stop? pieces = none := by
    refine stop?_eq_none_iff.2 fun front hfront => ?_
    obtain ⟨back, rfl⟩ := hfront
    rw [stopsReading_of_append hlen List.flatten_append]
    simpa using hopen front.length (by simp)
  rw [receive_eq_of_length_le hlen limit ending hne, hstop]

end Receive

/-- **The end of a body in chunks is seen exactly behind a zero.**  The whole of a reply in chunks
can be read, but it counts as complete only if its final line ends with a zero: the line of the last
chunk, or the last line behind it.  Then reading stops, however the connection goes on.  Otherwise
a peer that keeps the connection open is waited for until the time is over, unless reading has
stopped before the end. -/
theorem isComplete_iff_endsWithZero {raw : Bytes} {head : List Char} {r : ChunkRow}
    {trailers : List Bytes} (h : IsChunkedReply raw head r trailers) :
    Reply.parse raw = (statusOf head).map (Reply.ofBytes r.content) ∧
    (isComplete raw = true ↔ (r.finalLine trailers).getLast? = some 48) ∧
    ∀ (limit : Duration) (pieces : List Bytes), pieces.flatten = raw → [] ∉ pieces →
      raw.length ≤ maxReplySize →
      ((r.finalLine trailers).getLast? = some 48 →
        ∀ ending, ∃ got, receive limit ending [] pieces = .ok got) ∧
      ((r.finalLine trailers).getLast? ≠ some 48 →
        (∀ n < pieces.length, isComplete (pieces.take n).flatten = false) →
        receive limit .silent [] pieces = .error (.timedOut limit)) := by
  refine ⟨h.parse_eq, h.isComplete_iff, ?_⟩
  rintro limit pieces rfl hne hlen
  constructor
  · intro hzero ending
    exact exists_receive_of_isComplete limit ending hne hlen (h.isComplete_iff.2 hzero)
  · intro hzero hbefore
    have hopen : isComplete pieces.flatten = false := by
      rwa [← Bool.not_eq_true, h.isComplete_iff]
    refine receive_of_forall_not_isComplete limit .silent hne hlen fun n hn => ?_
    rcases Nat.lt_or_ge n pieces.length with hlt | hge
    · exact hbefore n hlt
    · rwa [List.take_of_length_le hge]

/-! ### Ends that are not seen -/

/-- The head of a reply in chunks. -/
def chunkedHead : Bytes :=
  encodeUtf8 "HTTP/1.1 200 OK\r\nTransfer-Encoding: chunked\r\n\r\n".toList

/-- The row that looks like its own end, without an extension of its last chunk. -/
def plainRow : ChunkRow := { lookalikeRow with last := lookalikeRow.last.plain }

/-- A line behind the last chunk. -/
def checkLine : Bytes := encodeUtf8 "X-Check: ok".toList

lemma isChunkedReply_lookalikeRow :
    IsChunkedReply (chunkedHead ++ lookalikeRow.sent [])
      "HTTP/1.1 200 OK\r\nTransfer-Encoding: chunked".toList lookalikeRow [] where
  cutHead?_eq := by decide +kernel
  isChunked_eq := by decide +kernel
  isLine := by simp

lemma isChunkedReply_plainRow :
    IsChunkedReply (chunkedHead ++ plainRow.sent [checkLine])
      "HTTP/1.1 200 OK\r\nTransfer-Encoding: chunked".toList plainRow [checkLine] where
  cutHead?_eq := by decide +kernel
  isChunked_eq := by decide +kernel
  isLine := by decide +kernel

/-- The reply could be read, but the time runs out. -/
theorem isComplete_iff_endsWithZero_lookalikeRow :
    Reply.parse (chunkedHead ++ lookalikeRow.sent []) =
      .ok ⟨200, "0\r\n\r\n0\r\n\r\nFFFF\r\n"⟩ ∧
    receive default .silent [] [chunkedHead, lookalikeRow.sent []] =
      .error (.timedOut default) := by
  obtain ⟨hparse, -, hread⟩ := isComplete_iff_endsWithZero isChunkedReply_lookalikeRow
  constructor
  · rw [hparse]
    decide +kernel
  · refine (hread default [chunkedHead, lookalikeRow.sent []] ?_ ?_ ?_).2 ?_ ?_
    all_goals decide +kernel

/-- Not every end of a body in chunks is seen: it is missed behind an extension of the last chunk,
and behind a line that follows the last chunk. -/
theorem isComplete_misses_end :
    ¬ (∀ raw head r trailers, IsChunkedReply raw head r trailers → isComplete raw = true) ∧
    isComplete (chunkedHead ++ lookalikeRow.sent []) = false ∧
    isComplete (chunkedHead ++ plainRow.sent [checkLine]) = false := by
  have hextended : isComplete (chunkedHead ++ lookalikeRow.sent []) = false := by decide +kernel
  have htrailed : isComplete (chunkedHead ++ plainRow.sent [checkLine]) = false := by
    rw [← Bool.not_eq_true, isChunkedReply_plainRow.isComplete_iff]
    decide +kernel
  refine ⟨fun hall => ?_, hextended, htrailed⟩
  have hcomplete := hall _ _ _ _ isChunkedReply_lookalikeRow
  rw [hextended] at hcomplete
  cases hcomplete

end UpnpGateway.Http

/-
# Rows of chunks

A body can be sent in chunks.  Each chunk stands behind a line with its size, a chunk of no bytes
ends the row, and the bytes of a chunk may look like anything, such as the line of a size or the
end of the row.  This file sets up the rows as a peer writes them, with sizes in either case and
with extensions, and shows that they are read back.  A row that is cut anywhere before the line of
the last chunk is over is not taken for a shorter one.
-/
import UpnpGateway.Proofs.Http.Framing
import UpnpGateway.Proofs.Http.RequestLines
import UpnpGateway.Proofs.Text.Hexadecimal

namespace UpnpGateway.Http

open UpnpGateway.Text

/-! ## Sizes -/

/-- How the size of a chunk of `n` bytes is written. -/
structure SizeLine (n : Nat) where
  /-- How many zeros stand in front. -/
  zeros : Nat
  /-- The digits of the size, in either case. -/
  digits : List Char
  lower_digits : lower digits = hexadecimal n
  /-- What stands behind a semicolon, if there is one. -/
  extension : Option Bytes
  isLine_extension : ∀ e ∈ extension, IsLine e

namespace SizeLine

variable {n : Nat} (l : SizeLine n)

/-- The digits and the zeros in front of them. -/
def number : List Char := List.replicate l.zeros '0' ++ l.digits

/-- The bytes of the line. -/
def bytes : Bytes := encodeUtf8 l.number ++ (l.extension.map (59 :: ·)).getD []

/-- The line without its extension. -/
def plain : SizeLine n := { l with extension := none, isLine_extension := by simp }

lemma exists_digitValue?_of_mem {c : Char} (hc : c ∈ l.number) : ∃ d, digitValue? c = some d :=
  Text.exists_digitValue?_of_mem l.lower_digits l.zeros hc

lemma bytes_of_none (h : l.extension = none) : l.bytes = encodeUtf8 l.number := by
  simp [bytes, h]

lemma bytes_of_some {e : Bytes} (h : l.extension = some e) :
    l.bytes = encodeUtf8 l.number ++ 59 :: e := by
  simp [bytes, h]

/-- The line ends nowhere before its end. -/
lemma isLine_bytes : IsLine l.bytes := by
  have hnumber : (13 : UInt8) ∉ encodeUtf8 l.number := by
    intro h
    obtain ⟨c, hc, hc13⟩ := exists_of_mem_encodeUtf8 (by decide) h
    obtain ⟨d, hd⟩ := l.exists_digitValue?_of_mem hc
    obtain rfl : c = '\r' := Char.toNat_inj.1 hc13
    cases hd
  rw [IsLine, lineEnd]
  cases h : l.extension with
  | none =>
    rw [l.bytes_of_none h]
    intro hwithin
    exact hnumber (hwithin.subset (by simp))
  | some e =>
    rw [l.bytes_of_some h, pair_infix_append_left hnumber]
    have he := l.isLine_extension e h
    rw [IsLine, lineEnd] at he
    simpa [List.infix_cons_iff] using he

/-- The size is read from the line. -/
lemma chunkSize_bytes (hn : n ≤ maxLong) : chunkSize l.bytes = .ok n := by
  have hplain : ∀ c ∈ l.number, isBlank c = false ∧ c ≠ '+' ∧ c ≠ ';' := by
    intro c hc
    obtain ⟨d, hd⟩ := l.exists_digitValue?_of_mem hc
    exact plain_of_digitValue? hd
  have htake : (decodeUtf8 l.bytes).takeWhile (· != ';') = l.number := by
    have hne : ∀ c ∈ l.number, (c != ';') = true := fun c hc => by simpa using (hplain c hc).2.2
    cases h : l.extension with
    | none =>
      rw [l.bytes_of_none h, decodeUtf8_encodeUtf8, List.takeWhile_eq_self_iff]
      exact hne
    | some e =>
      have hsemicolon : (59 : UInt8) :: e = encodeUtf8 [';'] ++ e := rfl
      rw [l.bytes_of_some h, hsemicolon, decodeUtf8_encodeUtf8_append,
        decodeUtf8_encodeUtf8_append, List.takeWhile_append_of_pos hne]
      simp
  have htrim : trim l.number = l.number := trim_of_forall fun c hc => (hplain c hc).1
  rw [chunkSize, htake, htrim, number, readNat?_hexadecimal l.lower_digits l.zeros hn]

end SizeLine

/-! ## Chunks -/

/-- A chunk as it is written. -/
structure Chunk where
  /-- The bytes that the chunk holds. -/
  data : Bytes
  data_ne_nil : data ≠ []
  /-- Its size is a number of the machine. -/
  length_le : data.length ≤ maxLong
  /-- The line before them. -/
  size : SizeLine data.length

/-- A row of chunks as it is written. -/
structure ChunkRow where
  /-- The chunks that hold something. -/
  chunks : List Chunk
  /-- The line of the last chunk. -/
  last : SizeLine 0

/-- The bytes of a chunk, with its line before it and the end of a line behind it. -/
def Chunk.bytes (c : Chunk) : Bytes := c.size.bytes ++ lineEnd ++ (c.data ++ lineEnd)

namespace ChunkRow

/-- The bytes of a row up to the end of the line of the last chunk. -/
def bytes (r : ChunkRow) : Bytes := r.chunks.flatMap Chunk.bytes ++ (r.last.bytes ++ lineEnd)

/-- The bytes that the chunks hold. -/
def content (r : ChunkRow) : Bytes := r.chunks.flatMap Chunk.data

end ChunkRow

section Cut

variable {n : Nat} (l : SizeLine n)

/-- A line that has not ended yet holds no chunk. -/
lemma dechunk_of_prefix_line {part : Bytes} (h : part <+: l.bytes ++ lineEnd)
    (hlt : part.length < (l.bytes ++ lineEnd).length) : dechunk part = .error .cutChunks := by
  refine dechunk_of_no_line ?_
  -- a line in the part would be the line itself, with its end
  cases hcut : cutRun lineEnd part with
  | none => rfl
  | some p =>
    exfalso
    obtain ⟨t, ht⟩ := h
    have hwhole := cutRun_append hcut t
    have hline := l.isLine_bytes.cutRun_append []
    rw [List.append_nil] at hline
    rw [ht, hline, Option.some.injEq, Prod.mk.injEq] at hwhole
    have hpart := congrArg List.length (eq_of_cutRun hcut)
    rw [← hwhole.1] at hpart
    simp only [List.length_append] at hpart hlt
    omega

end Cut

namespace Chunk

variable (c : Chunk)

lemma cutRun_bytes_append (rest : Bytes) :
    cutRun lineEnd (c.bytes ++ rest) = some (c.size.bytes, c.data ++ lineEnd ++ rest) := by
  rw [bytes, List.append_assoc]
  exact c.size.isLine_bytes.cutRun_append _

lemma exists_chunkSize_eq : ∃ n, c.data.length = n + 1 ∧ chunkSize c.size.bytes = .ok (n + 1) := by
  obtain ⟨n, hn⟩ := Nat.exists_eq_add_one.2 (List.length_pos_iff.2 c.data_ne_nil)
  exact ⟨n, hn, (c.size.chunkSize_bytes c.length_le).trans (congrArg Except.ok hn)⟩

/-- A chunk is read, and reading goes on behind it. -/
lemma dechunk_bytes_append (rest : Bytes) :
    dechunk (c.bytes ++ rest) = (dechunk rest).map (c.data ++ ·) := by
  obtain ⟨n, hn, hsize⟩ := c.exists_chunkSize_eq
  have hle : n + 1 ≤ (c.data ++ lineEnd ++ rest).length := by
    simp only [List.length_append]
    omega
  rw [dechunk_of_chunk (c.cutRun_bytes_append rest) hsize hle, List.append_assoc, ← hn,
    List.take_left, List.drop_left]
  rfl

/-- A chunk that is cut, be it only in the end of the line behind it, is no shorter one. -/
lemma dechunk_of_prefix_bytes {part : Bytes} (h : part <+: c.bytes)
    (hlt : part.length < c.bytes.length) : dechunk part = .error .cutChunks := by
  rcases Nat.lt_or_ge part.length (c.size.bytes ++ lineEnd).length with hline | hline
  · refine dechunk_of_prefix_line c.size ?_ hline
    exact List.prefix_of_prefix_length_le h (List.prefix_append _ _) (Nat.le_of_lt hline)
  · obtain ⟨d, rfl⟩ := List.prefix_of_prefix_length_le (List.prefix_append _ _) h hline
    have hd : d <+: c.data ++ lineEnd := (List.prefix_append_right_inj _).1 h
    have hcut := c.size.isLine_bytes.cutRun_append d
    obtain ⟨n, hn, hsize⟩ := c.exists_chunkSize_eq
    rcases Nat.lt_or_ge d.length (n + 1) with hdata | hdata
    · exact dechunk_of_short hcut hsize hdata
    · -- all of the data is there, and less than the end of a line behind it
      obtain ⟨t, rfl⟩ := List.prefix_of_prefix_length_le (List.prefix_append _ _) hd
        (hn ▸ hdata : c.data.length ≤ d.length)
      have ht : t.length < 2 := by
        simp only [bytes, lineEnd, List.length_append, List.length_cons, List.length_nil] at hlt
        omega
      rw [dechunk_of_chunk hcut hsize hdata, ← hn, List.drop_left, map_eq_error]
      exact dechunk_of_length_lt_two (Nat.lt_of_le_of_lt (length_dropLineEnd_le t) ht)

end Chunk

/-! ## Rows -/

/-- A row of chunks is read as what the chunks hold, whatever stands behind it. -/
lemma dechunk_chunks_append (chunks : List Chunk) (rest : Bytes) :
    dechunk (chunks.flatMap Chunk.bytes ++ rest) =
      (dechunk rest).map (chunks.flatMap Chunk.data ++ ·) := by
  induction chunks with
  | nil => cases h : dechunk rest <;> simp [h, Except.map]
  | cons c chunks ih =>
    rw [List.flatMap_cons, List.append_assoc, c.dechunk_bytes_append, ih]
    cases dechunk rest <;> simp [Except.map]

/-- A row of chunks that is cut is no shorter one. -/
lemma dechunk_of_prefix_chunks (chunks : List Chunk) {rest part : Bytes}
    (hrest : ∀ p, p <+: rest → p.length < rest.length → dechunk p = .error .cutChunks)
    (h : part <+: chunks.flatMap Chunk.bytes ++ rest)
    (hlt : part.length < (chunks.flatMap Chunk.bytes ++ rest).length) :
    dechunk part = .error .cutChunks := by
  induction chunks generalizing part with
  | nil => exact hrest part h hlt
  | cons c chunks ih =>
    rw [List.flatMap_cons, List.append_assoc] at h hlt
    rcases Nat.lt_or_ge part.length c.bytes.length with hc | hc
    · refine c.dechunk_of_prefix_bytes ?_ hc
      exact List.prefix_of_prefix_length_le h (List.prefix_append _ _) (Nat.le_of_lt hc)
    · obtain ⟨p, rfl⟩ := List.prefix_of_prefix_length_le (List.prefix_append _ _) h hc
      rw [c.dechunk_bytes_append, map_eq_error]
      refine ih ((List.prefix_append_right_inj _).1 h) ?_
      simp only [List.length_append] at hlt ⊢
      omega

/-- What the chunks of a row hold is read, whatever stands behind the row. -/
lemma ChunkRow.dechunk_bytes_append (r : ChunkRow) (trailer : Bytes) :
    dechunk (r.bytes ++ trailer) = .ok r.content := by
  have hlast : dechunk (r.last.bytes ++ lineEnd ++ trailer) = .ok [] :=
    dechunk_of_last (r.last.isLine_bytes.cutRun_append trailer)
      (r.last.chunkSize_bytes (Nat.zero_le _))
  rw [ChunkRow.bytes, List.append_assoc, dechunk_chunks_append, hlast, Except.map,
    List.append_nil, ChunkRow.content]

/-- **Rows of chunks are read back whole or not at all.**  From the bytes of a row, whatever stands
behind them, exactly what the chunks hold is read.  If the bytes end before the line of the last
chunk is over, then there is no body. -/
theorem dechunk_row (r : ChunkRow) (trailer : Bytes) :
    dechunk (r.bytes ++ trailer) = .ok r.content ∧
    ∀ part, part <+: r.bytes ++ trailer → part.length < r.bytes.length →
      dechunk part = .error .cutChunks := by
  refine ⟨r.dechunk_bytes_append trailer, fun part hpart hlt => ?_⟩
  have hrow : part <+: r.bytes :=
    List.prefix_of_prefix_length_le hpart (List.prefix_append _ _) (Nat.le_of_lt hlt)
  exact dechunk_of_prefix_chunks r.chunks (fun p => dechunk_of_prefix_line r.last) hrow hlt

/-- Two chunks, of which the first looks like the end of a row. -/
def lookalikeRow : ChunkRow where
  chunks := [
    ⟨lastChunk, by decide, by decide,
      ⟨2, ['5'], by decide, some (encodeUtf8 "x".toList), by decide⟩⟩,
    ⟨encodeUtf8 "0\r\n\r\nFFFF\r\n".toList, by decide, by decide,
      ⟨0, ['B'], by decide, none, by simp⟩⟩]
  last := ⟨1, ['0'], by decide, some (encodeUtf8 "end".toList), by decide⟩

/-- A row that is cut within the end of its last line holds no body, and more bytes make it one. -/
theorem dechunk_row_lookalike :
    lookalikeRow.bytes = encodeUtf8
      "005;x\r\n0\r\n\r\n\r\nB\r\n0\r\n\r\nFFFF\r\n\r\n00;end\r\n".toList ∧
    dechunk lookalikeRow.bytes.dropLast = .error .cutChunks ∧
    dechunk (lookalikeRow.bytes ++ lineEnd) =
      .ok (encodeUtf8 "0\r\n\r\n0\r\n\r\nFFFF\r\n".toList) := by
  have hpart : lookalikeRow.bytes.dropLast <+: lookalikeRow.bytes ++ lineEnd :=
    (List.dropLast_prefix _).trans (List.prefix_append _ _)
  have hlt : lookalikeRow.bytes.dropLast.length < lookalikeRow.bytes.length := by decide
  obtain ⟨hwhole, hcut⟩ := dechunk_row lookalikeRow lineEnd
  exact ⟨by decide, hcut _ hpart hlt, hwhole.trans (by decide)⟩

end UpnpGateway.Http

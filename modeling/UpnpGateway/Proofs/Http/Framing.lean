/-
# When the bytes of a reply are enough

The bytes of a reply arrive in pieces, and reading stops as soon as `isComplete` says that
they are enough.  Behind a length they are: more bytes do not change the reply.  A row of
chunks is taken to be over when its bytes end like a last chunk, and a chunk may hold such
bytes itself.  The main statement says that this is the only way in which reading stops too
early, and that the reply is then the failure of a row of chunks that is cut short.
-/
import Mathlib.Data.List.Infix
import UpnpGateway.Http.Client
import UpnpGateway.Proofs.Text.Cut

namespace UpnpGateway.Http

open UpnpGateway.Net UpnpGateway.Text

lemma map_eq_error {ε α β : Type} {r : Except ε α} {f : α → β} {e : ε} :
    r.map f = .error e ↔ r = .error e := by
  cases r <;> simp [Except.map]

/-! ## One chunk at a time -/

section dechunk

variable {body line rest : Bytes} {n : Nat}

lemma dechunk_of_no_line (h : cutRun lineEnd body = none) : dechunk body = .error .cutChunks := by
  rw [dechunk]
  split
  · rfl
  · simp_all

lemma dechunk_of_bad_size {e : ReplyError} (h : cutRun lineEnd body = some (line, rest))
    (hs : chunkSize line = .error e) : dechunk body = .error e := by
  rw [dechunk]
  split <;> simp_all

/-- A chunk of no bytes ends the row. -/
lemma dechunk_of_last (h : cutRun lineEnd body = some (line, rest))
    (hs : chunkSize line = .ok 0) : dechunk body = .ok [] := by
  rw [dechunk]
  split <;> simp_all

lemma dechunk_of_short (h : cutRun lineEnd body = some (line, rest))
    (hs : chunkSize line = .ok (n + 1)) (hn : rest.length < n + 1) :
    dechunk body = .error .cutChunks := by
  rw [dechunk]
  split
  · simp_all
  · rename_i h'
    simp only [h, Option.some.injEq, Prod.mk.injEq] at h'
    obtain ⟨rfl, rfl⟩ := h'
    simp only [hs, List.length_take]
    rw [if_pos (by omega)]

/-- A whole chunk is put before what the chunks behind it hold. -/
lemma dechunk_of_chunk (h : cutRun lineEnd body = some (line, rest))
    (hs : chunkSize line = .ok (n + 1)) (hn : n + 1 ≤ rest.length) :
    dechunk body = (dechunk (dropLineEnd (rest.drop (n + 1)))).map (rest.take (n + 1) ++ ·) := by
  conv => lhs; rw [dechunk]
  split
  · simp_all
  · rename_i h'
    simp only [h, Option.some.injEq, Prod.mk.injEq] at h'
    obtain ⟨rfl, rfl⟩ := h'
    simp only [hs, List.length_take]
    rw [if_neg (by omega)]

/-- What is behind a chunk is less than what the chunk begins. -/
lemma length_dropLineEnd_lt (h : cutRun lineEnd body = some (line, rest)) (n : Nat) :
    (dropLineEnd (rest.drop n)).length < body.length := by
  have hdrop := length_dropLineEnd_le (rest.drop n)
  have hlen := congrArg List.length (eq_of_cutRun h)
  simp only [List.length_drop, List.length_append, lineEnd, List.length_cons,
    List.length_nil] at hdrop hlen
  omega

end dechunk

lemma ne_cutChunks_of_chunkSize {line : Bytes} {e : ReplyError} (h : chunkSize line = .error e) :
    e ≠ .cutChunks := by
  rw [chunkSize] at h
  split at h
  · simp at h
  · simp only [Except.error.injEq] at h
    simp [← h]

/-- Two bytes are needed to see whether a line ends. -/
lemma dropLineEnd_append {s : Bytes} (hs : 2 ≤ s.length) (t : Bytes) :
    dropLineEnd (s ++ t) = dropLineEnd s ++ t := by
  match s, hs with
  | x :: y :: s, _ =>
    by_cases h : x = 13 ∧ y = 10
    · obtain ⟨rfl, rfl⟩ := h
      rfl
    · have hd : ∀ u, dropLineEnd (x :: y :: u) = x :: y :: u := by
        intro u
        rw [dropLineEnd]
        intro r hr
        simp only [List.cons.injEq] at hr
        exact h ⟨hr.1, hr.2.1⟩
      rw [List.cons_append, List.cons_append, hd, hd]
      rfl

/-- Fewer than two bytes hold no line. -/
lemma dechunk_of_length_lt_two {s : Bytes} (hs : s.length < 2) : dechunk s = .error .cutChunks := by
  refine dechunk_of_no_line ?_
  cases h : cutRun lineEnd s with
  | none => rfl
  | some p =>
    have hlen := congrArg List.length (eq_of_cutRun h)
    simp only [lineEnd, List.length_append, List.length_cons, List.length_nil] at hlen
    omega

/-- Unless a row of chunks is cut short, the bytes behind it do not count. -/
lemma dechunk_append {body : Bytes} (h : dechunk body ≠ .error .cutChunks) (ext : Bytes) :
    dechunk (body ++ ext) = dechunk body := by
  -- one step for each chunk, by induction on the bytes that are left
  induction hm : body.length using Nat.strongRecOn generalizing body with
  | _ m ih =>
    cases hc : cutRun lineEnd body with
    | none => exact absurd (dechunk_of_no_line hc) h
    | some p =>
      obtain ⟨line, rest⟩ := p
      have hc' := cutRun_append hc ext
      cases hs : chunkSize line with
      | error e => rw [dechunk_of_bad_size hc hs, dechunk_of_bad_size hc' hs]
      | ok size =>
        cases size with
        | zero => rw [dechunk_of_last hc hs, dechunk_of_last hc' hs]
        | succ n =>
          rcases Nat.lt_or_ge rest.length (n + 1) with hn | hn
          · exact absurd (dechunk_of_short hc hs hn) h
          · have hn' : n + 1 ≤ (rest ++ ext).length := by
              rw [List.length_append]
              omega
            rw [dechunk_of_chunk hc hs hn, ne_eq, map_eq_error] at h
            -- with fewer than two bytes behind it the chunk would be the place where it is cut
            have hlen : 2 ≤ (rest.drop (n + 1)).length := by
              by_contra hlt
              apply h
              refine dechunk_of_length_lt_two (Nat.lt_of_le_of_lt (length_dropLineEnd_le _) ?_)
              omega
            have hlt := hm ▸ length_dropLineEnd_lt hc (n + 1)
            rw [dechunk_of_chunk hc' hs hn', dechunk_of_chunk hc hs hn,
              List.take_append_of_le_length hn, List.drop_append_of_le_length hn,
              dropLineEnd_append hlen, ih _ hlt h rfl]

/-- A chunk of no bytes, without the end of the row. -/
lemma dechunk_zero : dechunk [48, 13, 10] = .ok [] :=
  dechunk_of_last (by rfl : cutRun lineEnd [48, 13, 10] = some ([48], [])) (by decide +kernel)

/-- The bytes that a chunk lacks can still come. -/
lemma exists_dechunk_of_short {body line rest : Bytes} {n : Nat}
    (h : cutRun lineEnd body = some (line, rest)) (hs : chunkSize line = .ok (n + 1))
    (hn : rest.length < n + 1) : ∃ ext, dechunk (body ++ ext) ≠ .error .cutChunks := by
  let missing : Bytes := List.replicate (n + 1 - rest.length) 0
  have hlen : (rest ++ missing).length = n + 1 := by
    simp only [missing, List.length_append, List.length_replicate]
    omega
  refine ⟨missing ++ [48, 13, 10], ?_⟩
  rw [dechunk_of_chunk (cutRun_append h _) hs (by simp only [List.length_append] at *; omega),
    ← List.append_assoc, ← hlen, List.drop_left]
  simp [dropLineEnd, dechunk_zero, Except.map]

/-- What follows a chunk can still come, in such a way that the row is not cut short. -/
lemma exists_dechunk_dropLineEnd {s : Bytes}
    (h : ∃ ext, dechunk (dropLineEnd s ++ ext) ≠ .error .cutChunks) :
    ∃ ext, dechunk (dropLineEnd (s ++ ext)) ≠ .error .cutChunks := by
  match s, h with
  | [], _ => exact ⟨[13, 10, 48, 13, 10], by simp [dropLineEnd, dechunk_zero]⟩
  | [x], ⟨ext, hext⟩ =>
    by_cases hx : x = 13
    · subst hx
      exact ⟨[10, 48, 13, 10], by simp [dropLineEnd, dechunk_zero]⟩
    · have hd : ∀ u, dropLineEnd (x :: u) = x :: u := by
        intro u
        rw [dropLineEnd]
        rintro r hr
        exact hx (List.cons.inj hr).1
      rw [hd] at hext
      exact ⟨ext, by rwa [List.cons_append, hd]⟩
  | x :: y :: s, ⟨ext, hext⟩ => exact ⟨ext, by rwa [dropLineEnd_append (by simp)]⟩

/-- A row of chunks that is cut short can go on in such a way that it is not. -/
lemma exists_dechunk_append {body : Bytes} (h : dechunk body = .error .cutChunks) :
    ∃ ext, dechunk (body ++ ext) ≠ .error .cutChunks := by
  -- what is missing is the end of a line, the rest of a chunk, or something behind a chunk
  induction hm : body.length using Nat.strongRecOn generalizing body with
  | _ m ih =>
    cases hc : cutRun lineEnd body with
    | none =>
      have hc' : cutRun lineEnd (body ++ lineEnd) = some (body, []) :=
        cutRun_pair hc (fun h => absurd h (by decide)) []
      cases hs : chunkSize body with
      | error e =>
        refine ⟨lineEnd, ?_⟩
        rw [dechunk_of_bad_size hc' hs, ne_eq, Except.error.injEq]
        exact ne_cutChunks_of_chunkSize hs
      | ok size =>
        cases size with
        | zero => exact ⟨lineEnd, by rw [dechunk_of_last hc' hs]; simp⟩
        | succ n =>
          obtain ⟨ext, hext⟩ := exists_dechunk_of_short hc' hs (Nat.succ_pos n)
          exact ⟨lineEnd ++ ext, by rwa [← List.append_assoc]⟩
    | some p =>
      obtain ⟨line, rest⟩ := p
      cases hs : chunkSize line with
      | error e =>
        rw [dechunk_of_bad_size hc hs, Except.error.injEq] at h
        exact absurd h (ne_cutChunks_of_chunkSize hs)
      | ok size =>
        cases size with
        | zero => simp [dechunk_of_last hc hs] at h
        | succ n =>
          rcases Nat.lt_or_ge rest.length (n + 1) with hn | hn
          · exact exists_dechunk_of_short hc hs hn
          · rw [dechunk_of_chunk hc hs hn, map_eq_error] at h
            have hlt := hm ▸ length_dropLineEnd_lt hc (n + 1)
            obtain ⟨ext, hext⟩ := exists_dechunk_dropLineEnd (ih _ hlt h rfl)
            refine ⟨ext, ?_⟩
            have hn' : n + 1 ≤ (rest ++ ext).length := by
              rw [List.length_append]
              omega
            rwa [dechunk_of_chunk (cutRun_append hc ext) hs hn', ne_eq, map_eq_error,
              List.drop_append_of_le_length hn]

/-! ## Replies -/

lemma cutHead?_append {raw rest : Bytes} {head : List Char} (h : cutHead? raw = some (head, rest))
    (ext : Bytes) : cutHead? (raw ++ ext) = some (head, rest ++ ext) := by
  simp only [cutHead?, Option.map_eq_some_iff, Prod.mk.injEq, Prod.exists] at h ⊢
  obtain ⟨bytes, body, hcut, rfl, rfl⟩ := h
  exact ⟨bytes, body ++ ext, cutRun_append hcut ext, rfl, rfl⟩

lemma exists_cutHead?_of_isComplete {raw : Bytes} (h : isComplete raw = true) :
    ∃ head rest, cutHead? raw = some (head, rest) := by
  rw [isComplete] at h
  split at h
  · simp at h
  · exact ⟨_, _, ‹_›⟩

section parse

variable {raw rest : Bytes} {head : List Char}

lemma parse_of_bad_status {e : ReplyError} (h : cutHead? raw = some (head, rest))
    (hs : statusOf head = .error e) : Reply.parse raw = .error e := by
  simp [Reply.parse, h, hs, bind, Except.bind]

lemma parse_of_status {code : UInt16} (h : cutHead? raw = some (head, rest))
    (hs : statusOf head = .ok code) :
    Reply.parse raw =
      (bodyBytes head rest).map fun body => ⟨code, String.ofList (decodeUtf8 body)⟩ := by
  simp only [Reply.parse, h, hs, bind, Except.bind]
  cases bodyBytes head rest <;> rfl

end parse

lemma ne_cutChunks_of_statusOf {head : List Char} {e : ReplyError} (h : statusOf head = .error e) :
    e ≠ .cutChunks := by
  rw [statusOf] at h
  split at h
  · simp at h
  · simp only [Except.error.injEq] at h
    simp [← h]

/-- Once the bytes behind a head are enough, more of them change nothing, unless a row of
chunks is cut short. -/
lemma bodyBytes_append {raw rest : Bytes} {head : List Char} (hc : isComplete raw = true)
    (h : cutHead? raw = some (head, rest)) (hcut : bodyBytes head rest ≠ .error .cutChunks)
    (ext : Bytes) : bodyBytes head (rest ++ ext) = bodyBytes head rest := by
  simp only [isComplete, h] at hc
  rw [bodyBytes] at hcut
  rw [bodyBytes, bodyBytes]
  split at hcut
  · rename_i hch
    rw [if_pos hch, if_pos hch, dechunk_append hcut]
  · rename_i hch
    rw [if_neg hch, if_neg hch]
    simp only [hch, Bool.false_eq_true, ↓reduceIte] at hc
    cases hn : contentLength? head with
    | none => simp [hn] at hc
    | some n =>
      simp only [hn, Option.any_some, decide_eq_true_eq] at hc
      simp [List.take_append_of_le_length hc]

lemma exists_bodyBytes_append {rest : Bytes} {head : List Char}
    (hcut : bodyBytes head rest = .error .cutChunks) :
    ∃ ext, bodyBytes head (rest ++ ext) ≠ .error .cutChunks := by
  rw [bodyBytes] at hcut
  split at hcut
  · rename_i hch
    simpa only [bodyBytes, if_pos hch] using exists_dechunk_append hcut
  · simp at hcut

/-- The bytes of a complete reply settle it exactly if they do not end inside a chunk. -/
lemma parse_append_iff {raw : Bytes} (hc : isComplete raw = true) :
    (∀ ext, Reply.parse (raw ++ ext) = Reply.parse raw) ↔
      Reply.parse raw ≠ .error .cutChunks := by
  obtain ⟨head, rest, h⟩ := exists_cutHead?_of_isComplete hc
  have happ := cutHead?_append h
  cases hs : statusOf head with
  | error e =>
    simp only [parse_of_bad_status h hs, fun ext => parse_of_bad_status (happ ext) hs,
      implies_true, ne_eq, Except.error.injEq, true_iff]
    exact ne_cutChunks_of_statusOf hs
  | ok code =>
    rw [parse_of_status h hs, ne_eq, map_eq_error]
    simp only [fun ext => parse_of_status (happ ext) hs]
    constructor
    · intro hall hcut
      obtain ⟨ext, hext⟩ := exists_bodyBytes_append hcut
      have heq := hall ext
      rw [hcut] at heq
      exact hext (map_eq_error.1 heq)
    · intro hcut ext
      rw [bodyBytes_append hc h hcut]

/-! ## Reading piece by piece -/

/-- The failure of a reply that is too large to be read. -/
def tooLarge : TransportFailure :=
  .malformed ("response larger than " ++ String.ofList (decimal maxReplySize) ++ " bytes")

/-- One more piece is too much or complete together with what is there, or reading goes on behind
it. -/
lemma receive_cons (limit : Duration) (ending : ConnectionEnd) (raw : Bytes) {piece : Bytes}
    {pieces : List Bytes} (hne : [] ∉ piece :: pieces) :
    receive limit ending raw (piece :: pieces) =
      if maxReplySize < (raw ++ piece).length then .error tooLarge
      else if isComplete (raw ++ piece) then .ok (raw ++ piece)
      else receive limit ending (raw ++ piece) pieces := by
  have hp : piece.isEmpty = false := by
    simpa using fun h : piece = [] => hne (h ▸ List.mem_cons_self)
  rw [receive, hp, if_neg Bool.false_ne_true]
  rfl

/-- Reading does not go on behind some bytes: they are too many, or they are complete. -/
def stopsReading (raw : Bytes) : Bool := maxReplySize < raw.length || isComplete raw

/-- The bytes of some pieces with which reading stops, if it does so before the connection ends. -/
def stop? (pieces : List Bytes) : Option Bytes :=
  (pieces.inits.map List.flatten).find? stopsReading

/-- What is read is what has come when reading stops, unless that is too much; if reading does not
stop, all pieces are read, and how the connection ends decides. -/
lemma receive_eq_of_inits (limit : Duration) (ending : ConnectionEnd) {raw : Bytes}
    {pieces : List Bytes} (hne : [] ∉ pieces) (hraw : stopsReading raw = false) :
    receive limit ending raw pieces =
      match (pieces.inits.map fun front => raw ++ front.flatten).find? stopsReading with
      | some got => if maxReplySize < got.length then .error tooLarge else .ok got
      | none => receive limit ending (raw ++ pieces.flatten) [] := by
  induction pieces generalizing raw with
  | nil => simp [hraw]
  | cons piece pieces ih =>
    -- the fronts of the pieces are the empty one and those of the further pieces
    have hinits : ((piece :: pieces).inits.map fun front => raw ++ front.flatten).find?
          stopsReading =
        (pieces.inits.map fun front => (raw ++ piece) ++ front.flatten).find? stopsReading := by
      simp [hraw, Function.comp_def]
    rw [hinits, receive_cons limit ending raw hne, List.flatten_cons, ← List.append_assoc]
    cases hstop : stopsReading (raw ++ piece) with
    | false =>
      have hgoes := hstop
      rw [stopsReading, Bool.or_eq_false_iff, decide_eq_false_iff_not] at hgoes
      rw [if_neg hgoes.1, hgoes.2, if_neg Bool.false_ne_true,
        ih (fun h => hne (List.mem_cons_of_mem _ h)) hstop]
    | true =>
      have hfirst : (pieces.inits.map fun front => (raw ++ piece) ++ front.flatten).find?
          stopsReading = some (raw ++ piece) := by
        cases pieces <;> simp [hstop]
      rw [hfirst]
      dsimp only
      by_cases hsize : maxReplySize < (raw ++ piece).length
      · rw [if_pos hsize, if_pos hsize]
      · rw [stopsReading, decide_eq_false hsize, Bool.false_or] at hstop
        rw [if_neg hsize, if_neg hsize, if_pos hstop]

lemma receive_eq (limit : Duration) (ending : ConnectionEnd) {pieces : List Bytes}
    (hne : [] ∉ pieces) :
    receive limit ending [] pieces =
      match stop? pieces with
      | some got => if maxReplySize < got.length then .error tooLarge else .ok got
      | none => receive limit ending pieces.flatten [] :=
  receive_eq_of_inits limit ending hne rfl

/-- What reading stops with is the beginning of what arrives. -/
lemma exists_append_of_stop? {pieces : List Bytes} {got : Bytes} (h : stop? pieces = some got) :
    stopsReading got = true ∧ ∃ rest, pieces.flatten = got ++ rest := by
  refine ⟨List.find?_some h, ?_⟩
  obtain ⟨front, hfront, rfl⟩ := List.mem_map.1 (List.mem_of_find?_eq_some h)
  obtain ⟨back, rfl⟩ := List.mem_inits _ _ |>.1 hfront
  exact ⟨back.flatten, List.flatten_append⟩

lemma stop?_eq_none_iff {pieces : List Bytes} :
    stop? pieces = none ↔ ∀ front, front <+: pieces → stopsReading front.flatten = false := by
  simp [stop?, List.find?_eq_none]

section Room

variable {pieces : List Bytes} (hlen : pieces.flatten.length ≤ maxReplySize)
include hlen

/-- If there is room for all that arrives, only complete bytes stop the reading. -/
lemma stopsReading_of_append {got rest : Bytes} (h : pieces.flatten = got ++ rest) :
    stopsReading got = isComplete got := by
  have hsize : ¬ maxReplySize < got.length := by
    rw [h, List.length_append] at hlen
    omega
  rw [stopsReading, decide_eq_false hsize, Bool.false_or]

/-- If there is room for all that arrives, nothing that is read is too much. -/
lemma receive_eq_of_length_le (limit : Duration) (ending : ConnectionEnd) (hne : [] ∉ pieces) :
    receive limit ending [] pieces =
      match stop? pieces with
      | some got => .ok got
      | none => receive limit ending pieces.flatten [] := by
  rw [receive_eq limit ending hne]
  cases hstop : stop? pieces with
  | none => rfl
  | some got =>
    obtain ⟨-, rest, hrest⟩ := exists_append_of_stop? hstop
    rw [hrest, List.length_append] at hlen
    exact if_neg (by omega)

/-- What is read from a connection that the peer closes: all that arrives, or a beginning of it
that is complete. -/
lemma receive_closed (limit : Duration) (hne : [] ∉ pieces) :
    ∃ got rest, receive limit .closed [] pieces = .ok got ∧ pieces.flatten = got ++ rest ∧
      (rest = [] ∨ isComplete got = true) := by
  rw [receive_eq_of_length_le hlen limit .closed hne]
  cases hstop : stop? pieces with
  | none => exact ⟨pieces.flatten, [], rfl, (List.append_nil _).symm, .inl rfl⟩
  | some got =>
    obtain ⟨hstops, rest, hrest⟩ := exists_append_of_stop? hstop
    rw [stopsReading_of_append hlen hrest] at hstops
    exact ⟨got, rest, rfl, hrest, .inr hstops⟩

end Room

/-- **The signal to stop reading is right exactly outside chunks.**  Bytes that count as
complete settle the reply, whatever follows them, if and only if they do not end inside a
chunk.  So what is read from a connection that the peer closes, however the bytes come in
pieces, is the reply in all of them, unless reading stops inside a chunk. -/
theorem isComplete_settles (limit : Duration) :
    (∀ raw : Bytes, isComplete raw = true →
      ((∀ ext, Reply.parse (raw ++ ext) = Reply.parse raw) ↔
        Reply.parse raw ≠ .error .cutChunks)) ∧
    ∀ pieces : List Bytes, [] ∉ pieces → pieces.flatten.length ≤ maxReplySize →
      ∃ raw, receive limit .closed [] pieces = .ok raw ∧
        (Reply.parse raw = Reply.parse pieces.flatten ∨
          isComplete raw = true ∧ Reply.parse raw = .error .cutChunks) := by
  refine ⟨fun raw => parse_append_iff, fun pieces hne hlen => ?_⟩
  obtain ⟨got, rest, hgot, hrest, hall | hcomplete⟩ := receive_closed hlen limit hne
  · rw [hall, List.append_nil] at hrest
    exact ⟨got, hgot, .inl (by rw [hrest])⟩
  · by_cases hcut : Reply.parse got = .error .cutChunks
    · exact ⟨got, hgot, .inr ⟨hcomplete, hcut⟩⟩
    · exact ⟨got, hgot, .inl (by rw [hrest, (parse_append_iff hcomplete).2 hcut])⟩

/-- A reply with a chunk of three bytes and the last chunk. -/
def twoChunks : Bytes :=
  encodeUtf8 "HTTP/1.1 200 OK\r\nTransfer-Encoding: chunked\r\n\r\n3\r\nabc\r\n0\r\n\r\n".toList

/-- Behind the last chunk nothing counts, and a first piece that ends inside a line does not
stop the reading. -/
theorem isComplete_settles_twoChunks :
    (isComplete twoChunks = true ∧ Reply.parse twoChunks ≠ .error .cutChunks) ∧
      Reply.parse (twoChunks ++ [13, 10]) = Reply.parse twoChunks ∧
      ∃ raw, receive default .closed [] [twoChunks.take 49, twoChunks.drop 49] = .ok raw ∧
        (Reply.parse raw =
            Reply.parse ([twoChunks.take 49, twoChunks.drop 49] : List Bytes).flatten ∨
          isComplete raw = true ∧ Reply.parse raw = .error .cutChunks) := by
  have hc : isComplete twoChunks = true := by decide +kernel
  have hcut : Reply.parse twoChunks ≠ .error .cutChunks := by decide +kernel
  exact ⟨⟨hc, hcut⟩, ((isComplete_settles default).1 twoChunks hc).2 hcut [13, 10],
    (isComplete_settles default).2 [twoChunks.take 49, twoChunks.drop 49]
      (by decide +kernel) (by decide +kernel)⟩

/-- A reply whose only chunk so far is the very bytes that the last chunk ends with. -/
def lookalikeChunk : Bytes :=
  encodeUtf8 "HTTP/1.1 200 OK\r\nTransfer-Encoding: chunked\r\n\r\n5\r\n0\r\n\r\n".toList

/-- Reading stops behind such a chunk, and the reply is lost. -/
theorem isComplete_inside_chunk :
    ¬ ((∀ raw ext, isComplete raw = true → Reply.parse (raw ++ ext) = Reply.parse raw) ∨
      ∀ pieces : List Bytes, [] ∉ pieces → pieces.flatten.length ≤ maxReplySize →
        ∃ raw, receive default .closed [] pieces = .ok raw ∧
          Reply.parse raw = Reply.parse pieces.flatten) := by
  rintro (h | h)
  · have hstop := h lookalikeChunk [13, 10, 48, 13, 10, 13, 10] (by decide +kernel)
    revert hstop
    decide +kernel
  · obtain ⟨raw, hraw, hparse⟩ := h [lookalikeChunk, [13, 10, 48, 13, 10, 13, 10]]
      (by decide +kernel) (by decide +kernel)
    have hread : receive default .closed [] [lookalikeChunk, [13, 10, 48, 13, 10, 13, 10]] =
        .ok lookalikeChunk := by decide +kernel
    rw [hread, Except.ok.injEq] at hraw
    subst hraw
    revert hparse
    decide +kernel

end UpnpGateway.Http

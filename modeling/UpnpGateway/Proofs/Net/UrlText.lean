/-
# What a request takes from a URL

A request names its target by the path and the query of a URL, and its receiver by the host.
None of them has blanks in it, whatever text the URL is read from: tabs and line breaks do not
count in a URL, and other blanks are encoded in its path and in its query.
-/
import UpnpGateway.Proofs.Net.HostText

namespace UpnpGateway.Net

open UpnpGateway.Text

namespace Percent

/-- What is encoded has no blanks if the set has all controls and the space. -/
lemma isSolid_encode_of_isControl {set : Char → Bool}
    (hcontrol : ∀ c, set c = false → isControl c = false) (hspace : set ' ' = true)
    (s : List Char) : IsSolid (encode set s) := by
  refine isSolid_encode fun c _ hc => not_isBlank_of_not_isControl (hcontrol c hc) ?_
  rintro rfl
  rw [hspace] at hc
  cases hc

lemma isSolid_inPath (s : List Char) : IsSolid (encode inPath s) := by
  refine isSolid_encode_of_isControl (fun c hc => ?_) (by decide) s
  simp only [inPath, inFragment, Bool.or_eq_false_iff] at hc
  exact hc.1.1

lemma isSolid_inQuery (special : Bool) (s : List Char) : IsSolid (encode (inQuery special) s) := by
  refine isSolid_encode_of_isControl (fun c hc => ?_) (by cases special <;> decide) s
  simp only [inQuery, Bool.or_eq_false_iff] at hc
  exact hc.1.1

end Percent

namespace Url

/-! ## Walks -/

namespace Trail

/-- A walk that has written no blanks so far. -/
structure IsUnbroken (t : Trail) : Prop where
  closed : ∀ w ∈ t.closed, IsSolid w
  opened : IsSolid t.opened

namespace IsUnbroken

variable {t : Trail}

lemma root : IsUnbroken root := ⟨by simp [Trail.root, inside], .nil⟩

lemma segments (ht : t.IsUnbroken) : ∀ w ∈ t.segments, IsSolid w := by
  intro w hw
  rcases List.mem_append.1 hw with hw | hw
  · exact ht.closed w hw
  · obtain rfl := List.mem_singleton.1 hw
    exact ht.opened

lemma close (ht : t.IsUnbroken) : t.close.IsUnbroken := ⟨ht.segments, .nil⟩

lemma up (ht : t.IsUnbroken) : t.up.IsUnbroken := by
  rw [Trail.up]
  split
  · exact ht
  · exact ⟨fun w hw => ht.closed w ((List.dropLast_sublist _).subset hw), ht.opened⟩

/-- A step writes what it comes to in encoded form. -/
lemma step (ht : t.IsUnbroken) (file : Bool) (s : List Char) (ends : Bool) :
    (t.step file s ends).IsUnbroken := by
  have hfinish : ∀ {t : Trail}, t.IsUnbroken → (if ends then t.close else t).IsUnbroken := by
    intro t ht
    split
    · exact ht.close
    · exact ht
  have htext := Percent.isSolid_inPath (solid s)
  rw [Trail.step]
  -- a drive that ends without a slash is closed first
  generalize hstart : (if (file && t.closed.isEmpty) && isWrittenDrive t.opened &&
    !(solid s).isEmpty then t.close else t) = start
  have hs : start.IsUnbroken := by
    rw [← hstart]
    split
    · exact ht.close
    · exact ht
  dsimp only
  split
  · split
    · exact hs.up
    · exact hfinish hs
  · split
    · split
      · exact hs
      · exact hs.close
    · split
      · exact hfinish ⟨hs.closed, (htext.sublist (List.take_sublist _ _)).append (.cons rfl .nil)⟩
      · split
        · refine hfinish ⟨fun w hw => ?_, Percent.isSolid_inPath _⟩
          obtain rfl := List.mem_singleton.1 hw
          exact htext.sublist (List.take_sublist _ _)
        · exact hfinish ⟨hs.closed, hs.opened.append htext⟩

lemma steps (ht : t.IsUnbroken) (file : Bool) (parts : List (List Char)) :
    (t.steps file parts).IsUnbroken := by
  induction t, parts using Trail.steps.induct file with
  | case1 t => exact ht
  | case2 t s => exact ht.step file s false
  | case3 t s rest _ ih =>
    rw [Trail.steps]
    · exact ih (ht.step file s true)
    · assumption

/-- A walk writes no blanks, whatever text it goes along. -/
lemma walk (ht : t.IsUnbroken) (scheme s : List Char) : (t.walk scheme s).IsUnbroken :=
  ht.steps _ _

end IsUnbroken

end Trail

/-! ## Parts of URLs -/

/-- A URL that has no blanks in what a request takes from it, and a path from the root if its
scheme is one of the special ones. -/
structure IsUnbroken (u : Url) : Prop where
  path : IsSolid u.path.chars
  rooted : isSpecial u.scheme = true → u.path.chars.head? = some '/'
  query : ∀ q ∈ u.query, IsSolid q
  host : ∀ a ∈ u.authority, IsSolid a.host.chars

lemma isSolid_segments {parts : List (List Char)} (h : ∀ w ∈ parts, IsSolid w) :
    IsSolid (Path.segments parts).chars :=
  .flatMap fun w hw => .cons rfl (h w hw)

lemma head?_segments {parts : List (List Char)} (hne : parts ≠ []) :
    (Path.segments parts).chars.head? = some '/' := by
  obtain ⟨w, parts, rfl⟩ := List.exists_cons_of_ne_nil hne
  rfl

lemma isSolid_rooted {parts : List (List Char)} (h : ∀ w ∈ parts, IsSolid w) :
    ∀ w ∈ rooted parts, IsSolid w := by
  rw [rooted]
  split
  · intro w hw
    obtain rfl := List.mem_singleton.1 hw
    exact .nil
  · exact fun w hw => h w ((List.dropWhile_suffix _).subset hw)

lemma rooted_ne_nil (parts : List (List Char)) : rooted parts ≠ [] := by
  rw [rooted]
  split
  · simp
  · assumption

lemma isSolid_pathBehind (scheme s : List Char) : IsSolid (pathBehind scheme s).chars := by
  rw [pathBehind]
  split
  · refine isSolid_segments fun w hw => ?_
    split at hw
    · obtain rfl := List.mem_singleton.1 hw
      exact .nil
    · cases hw
  · exact isSolid_segments (Trail.IsUnbroken.root.walk scheme _).segments

lemma head?_pathBehind {scheme : List Char} (hscheme : isSpecial scheme = true) (s : List Char) :
    (pathBehind scheme s).chars.head? = some '/' := by
  rw [pathBehind]
  split
  · rw [if_pos hscheme]
    rfl
  · exact head?_segments (by simp [Trail.segments])

lemma isSolid_host_of_authority? {scheme s rest : List Char} {last : Bool} {a : Authority}
    (h : authority? scheme s last = some (a, rest)) : IsSolid a.host.chars := by
  simp only [authority?, Option.bind_eq_bind, Option.bind_eq_some_iff] at h
  obtain ⟨⟨user, password, rest'⟩, -, h⟩ := h
  dsimp only at h
  split at h
  · cases h
  · obtain ⟨host, hhost, h⟩ := Option.bind_eq_some_iff.1 h
    obtain ⟨port, -, h⟩ := Option.bind_eq_some_iff.1 h
    simp only [Option.pure_def, Option.some.injEq, Prod.mk.injEq] at h
    obtain ⟨rfl, -⟩ := h
    exact Host.isSolid_chars hhost

section Unbroken

variable {u : Url}

lemma IsUnbroken.withTail (hu : u.IsUnbroken) (query fragment : Option (List Char)) :
    (withTail u query fragment).IsUnbroken := by
  refine ⟨hu.path, hu.rooted, fun q hq => ?_, hu.host⟩
  obtain ⟨q, -, rfl⟩ := Option.map_eq_some_iff.1 hq
  exact Percent.isSolid_inQuery _ q

lemma isUnbroken_of_ofAuthority? {scheme s : List Char} {last : Bool}
    (h : ofAuthority? scheme s last = some u) : u.IsUnbroken := by
  simp only [ofAuthority?, Option.bind_eq_bind, Option.bind_eq_some_iff, Option.pure_def,
    Option.some.injEq] at h
  obtain ⟨⟨a, begun⟩, ha, rfl⟩ := h
  refine ⟨isSolid_pathBehind scheme _, fun hscheme => head?_pathBehind hscheme _, by simp,
    fun b hb => ?_⟩
  obtain rfl := Option.some.inj hb
  exact isSolid_host_of_authority? ha

lemma isUnbroken_ofTrail {a : Authority} (ha : IsSolid a.host.chars) {t : Trail}
    (ht : t.IsUnbroken) : (ofTrail a t).IsUnbroken := by
  refine ⟨isSolid_segments (isSolid_rooted ht.segments),
    fun _ => head?_segments (rooted_ne_nil _), by simp [ofTrail], fun b hb => ?_⟩
  obtain rfl := Option.some.inj hb
  exact ha

/-- What is on no host has an empty one. -/
lemma isUnbroken_walk (s : List Char) :
    (ofTrail localFile (Trail.root.walk fileScheme s)).IsUnbroken := by
  have hhost : IsSolid localFile.host.chars := .nil
  exact isUnbroken_ofTrail hhost (Trail.IsUnbroken.root.walk fileScheme s)

lemma isUnbroken_of_ofFileHost? {s : List Char} (h : ofFileHost? s = some u) : u.IsUnbroken := by
  rw [ofFileHost?] at h
  dsimp only at h
  split at h
  · obtain rfl := Option.some.inj h
    exact isUnbroken_walk s
  · split at h
    · obtain rfl := Option.some.inj h
      exact isUnbroken_walk _
    · obtain ⟨host, hhost, rfl⟩ := Option.map_eq_some_iff.1 h
      split
      · exact isUnbroken_walk _
      · refine isUnbroken_ofTrail ?_ (Trail.IsUnbroken.root.walk fileScheme _)
        split
        · exact .nil
        · exact Host.isSolid_chars hhost

lemma isUnbroken_of_ofFile? {s : List Char} (h : ofFile? none s = some u) : u.IsUnbroken := by
  rw [ofFile?] at h
  split at h
  · obtain rfl := Option.some.inj h
    exact isUnbroken_walk s
  · split at h
    · split at h
      · split at h
        · exact isUnbroken_of_ofFileHost? h
        · obtain rfl := Option.some.inj h
          exact isUnbroken_walk _
      · obtain rfl := Option.some.inj h
        exact isUnbroken_walk _
    · obtain rfl := Option.some.inj h
      exact isUnbroken_walk s

/-! ## Whole URLs -/

/-- A URL with an authority has no blanks in what a request takes from it. -/
lemma isUnbroken_of_parse? {s : String} (h : parse? s = some u) (ha : u.authority ≠ none) :
    u.IsUnbroken := by
  rw [parse?, ofChars?] at h
  dsimp only at h
  split at h
  · rename_i scheme rest _
    split at h
    · obtain ⟨v, hv, rfl⟩ := Option.map_eq_some_iff.1 h
      -- there is no base that a query could be taken from
      obtain ⟨hpath, hrooted, hquery, hhost⟩ := (isUnbroken_of_ofFile? hv).withTail
        (cutTail rest).2.1 (cutTail rest).2.2
      refine ⟨hpath, hrooted, fun q hq => hquery q ?_, hhost⟩
      simpa using hq
    · split at h
      · obtain ⟨v, hv, rfl⟩ := Option.map_eq_some_iff.1 h
        exact (isUnbroken_of_ofAuthority? hv).withTail _ _
      · split at h
        · obtain ⟨v, hv, rfl⟩ := Option.map_eq_some_iff.1 h
          exact (isUnbroken_of_ofAuthority? hv).withTail _ _
        -- without an authority, there is nothing to show
        · obtain rfl := Option.some.inj h
          exact absurd rfl ha
        · obtain rfl := Option.some.inj h
          exact absurd rfl ha
  · cases h

section Host

variable {s : String} {host : Host} (h : parse? s = some u) (hhost : u.host? = some host)
include h hhost

/-- The host and the target of a request have no blanks. -/
lemma isSolid_of_host? : IsSolid u.requestTarget ∧ IsSolid host.chars := by
  obtain ⟨a, ha, hname⟩ := Option.bind_eq_some_iff.1 hhost
  obtain rfl : a.host = host := by
    split at hname
    · cases hname
    · exact Option.some.inj hname
  have hu := isUnbroken_of_parse? h (by simp [ha])
  refine ⟨hu.path.append ?_, hu.host a ha⟩
  cases hq : u.query with
  | none => exact .nil
  | some q => exact .cons rfl (hu.query q hq)

/-- With a special scheme, the target of a request begins at the root. -/
lemma head?_requestTarget (hscheme : isSpecial u.scheme = true) :
    u.requestTarget.head? = some '/' := by
  obtain ⟨a, ha, -⟩ := Option.bind_eq_some_iff.1 hhost
  have hu := isUnbroken_of_parse? h (by simp [ha])
  rw [requestTarget, List.head?_append, hu.rooted hscheme]
  rfl

end Host

end Unbroken

end Url

/-! ## URLs of the web -/

/-- A special scheme takes no empty host. -/
lemma Host.ne_name_nil_of_ofChars? {s : List Char} {host : Host} (h : ofChars? true s = some host) :
    host ≠ .name [] := by
  rintro rfl
  rw [ofChars?.eq_def] at h
  split at h
  · rw [ofBrackets?] at h
    split at h
    · simp at h
    · cases h
  · simp only [if_true] at h
    split at h
    · cases h
    · split at h
      · cases h
      · cases h
      · rename_i ascii hne _
        split at h
        · obtain ⟨ip, -, hip⟩ := Option.map_eq_some_iff.1 h
          cases hip
        · exact hne (Host.name.inj (Option.some.inj h))

namespace Url

variable {u : Url}

lemma exists_host?_of_ofAuthority? {scheme s : List Char} {last : Bool}
    (hscheme : isSpecial scheme = true) (h : ofAuthority? scheme s last = some u) :
    ∃ host, u.host? = some host := by
  simp only [ofAuthority?, Option.bind_eq_bind, Option.bind_eq_some_iff, Option.pure_def,
    Option.some.injEq] at h
  obtain ⟨⟨a, begun⟩, ha, rfl⟩ := h
  simp only [authority?, Option.bind_eq_bind, Option.bind_eq_some_iff] at ha
  obtain ⟨⟨user, password, rest'⟩, -, ha⟩ := ha
  dsimp only at ha
  split at ha
  · cases ha
  · obtain ⟨host, hhost, ha⟩ := Option.bind_eq_some_iff.1 ha
    obtain ⟨port, -, ha⟩ := Option.bind_eq_some_iff.1 ha
    simp only [Option.pure_def, Option.some.injEq, Prod.mk.injEq] at ha
    obtain ⟨rfl, -⟩ := ha
    rw [hscheme] at hhost
    exact ⟨host, by simp [host?, Host.ne_name_nil_of_ofChars? hhost]⟩

lemma scheme_of_ofAuthority? {scheme s : List Char} {last : Bool}
    (h : ofAuthority? scheme s last = some u) : u.scheme = scheme := by
  simp only [ofAuthority?, Option.bind_eq_bind, Option.bind_eq_some_iff, Option.pure_def,
    Option.some.injEq] at h
  obtain ⟨_, -, rfl⟩ := h
  rfl

lemma scheme_of_ofFile? {s : List Char} (h : ofFile? none s = some u) : u.scheme = fileScheme := by
  rw [ofFile?] at h
  split at h
  · rw [← Option.some.inj h]
    rfl
  · split at h
    · split at h
      · split at h
        · rw [ofFileHost?] at h
          dsimp only at h
          split at h
          · rw [← Option.some.inj h]
            rfl
          · split at h
            · rw [← Option.some.inj h]
              rfl
            · obtain ⟨host, -, rfl⟩ := Option.map_eq_some_iff.1 h
              split <;> rfl
        · rw [← Option.some.inj h]
          rfl
      · rw [← Option.some.inj h]
        rfl
    · rw [← Option.some.inj h]
      rfl

/-- A URL of the web has a host. -/
lemma exists_host?_of_http {s : String} (h : parse? s = some u)
    (hscheme : u.scheme = "http".toList) : ∃ host, u.host? = some host := by
  have hspecial : ∀ {scheme}, scheme = "http".toList → isSpecial scheme = true := by
    rintro scheme rfl
    decide
  rw [parse?, ofChars?] at h
  dsimp only at h
  split at h
  · rename_i scheme rest _
    split at h
    · obtain ⟨v, hv, rfl⟩ := Option.map_eq_some_iff.1 h
      have hfile : fileScheme = "http".toList := (scheme_of_ofFile? hv).symm.trans hscheme
      exact absurd hfile (by decide)
    · split at h
      · rename_i hs
        obtain ⟨v, hv, rfl⟩ := Option.map_eq_some_iff.1 h
        obtain ⟨host, hhost⟩ := exists_host?_of_ofAuthority? hs hv
        exact ⟨host, hhost⟩
      · rename_i hs
        -- no other scheme is the one of the web
        have hother : u.scheme = scheme := by
          split at h
          · obtain ⟨v, hv, rfl⟩ := Option.map_eq_some_iff.1 h
            have hv' : v.scheme = scheme := scheme_of_ofAuthority? hv
            exact hv'
          · rw [← Option.some.inj h]
            rfl
          · rw [← Option.some.inj h]
            rfl
        exact absurd (hspecial (hother ▸ hscheme)) hs
  · cases h

end Url

end UpnpGateway.Net

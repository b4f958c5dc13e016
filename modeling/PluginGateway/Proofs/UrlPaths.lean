import PluginGateway.Proofs.UrlAuthority

/-!
# The path of a URL behind an address

A path that is written behind an address is the path of the URL that both spell together, if the
parser has nothing to change in it and the address holds nothing that ends it. `Settled` says of a
path that the parser leaves it alone.

The main statement, `parse_path`, says so for every scheme, that of files included.
-/

namespace PluginGateway.Url

/-- A path in which a parser has nothing to change: no blank is dropped from it, no dots are
resolved, nothing is encoded, and it has neither a query nor a fragment. -/
structure Settled (path : List Char) : Prop where
  /-- It begins with a slash. -/
  head : path.head? = some '/'
  /-- It does not end in a blank. -/
  ending : path.reverse.head?.all (fun c => !isTrimmed c) = true
  /-- It holds no tabs and line breaks. -/
  kept : path.filter (fun c => !isDropped c) = path
  /-- All of it is path. -/
  tail : splitTail path = (path, none, none)
  /-- As the path behind a host it is written as it is. -/
  host : ∀ kind, hostPath kind path = path
  /-- As the path of a file it is written as it is. -/
  file : filePath path = path

/-! ## Authorities without a backslash -/

/-- What is left of a text behind its host is the end of it. -/
lemma splitHost_suffix (bracketed : Bool) (s : List Char) : (splitHost bracketed s).2 <:+ s := by
  induction s generalizing bracketed with
  | nil => exact List.suffix_rfl
  | cons c rest ih =>
    rw [splitHost]
    split
    · exact List.suffix_rfl
    · exact (ih _).trans (List.suffix_cons c rest)

/-- Behind a host and a port nothing is left of a text that holds no backslash. -/
lemma rest_of_hostAndPort {kind : SchemeKind} {scheme userinfo s rest : List Char}
    {authority : Authority} (hs : '\\' ∉ s)
    (h : hostAndPort kind scheme userinfo s = .ok (authority, rest)) : rest = [] := by
  have hbehind : ((splitHost false s).2.drop 1).dropWhile (· ≠ '\\') = [] := by
    refine List.dropWhile_eq_nil_iff.mpr fun c hc => ?_
    have hmem : c ∈ s := (splitHost_suffix false s).subset (List.mem_of_mem_drop hc)
    exact decide_eq_true fun heq => hs (heq ▸ hmem)
  simp only [hostAndPort, bind, Except.bind, throw, throwThe, MonadExceptOf.throw, pure,
    Except.pure, hbehind] at h
  split at h
  · cases h
  · split at h
    · cases h
    · split at h
      · cases h
      · split at h
        · cases h
        · cases h
          rfl

/-- Behind an authority nothing is left of a text that holds no backslash. -/
lemma rest_of_authorityOf {kind : SchemeKind} {last : Bool} {scheme s rest : List Char}
    {authority : Authority} (hs : '\\' ∉ s)
    (h : authorityOf kind last scheme s = .ok (authority, rest)) : rest = [] := by
  unfold authorityOf at h
  split at h
  · exact rest_of_hostAndPort hs h
  · next user host hsplit =>
    split at h
    · cases h
    · refine rest_of_hostAndPort (fun hmem => hs ?_) h
      simp only [splitLast, Option.ite_none_left_eq_some, Option.some.injEq,
        Prod.mk.injEq] at hsplit
      obtain ⟨-, -, rfl⟩ := hsplit
      exact List.mem_reverse.mp
        ((List.takeWhile_prefix _).subset (List.mem_reverse.mp hmem))

/-! ## Paths that are left alone -/

section Settled

variable {path : List Char} (hpath : Settled path)

include hpath

/-- The slash at its head ends every authority. -/
lemma Settled.eq_cons : ∃ rest, path = '/' :: rest := by
  cases path with
  | nil => cases hpath.head
  | cons c rest => exact ⟨rest, by rw [Option.some.inj hpath.head]⟩

/-- All the parts of a URL behind an authority are spelled by the path. -/
lemma Settled.withTail {kind : SchemeKind} {scheme : List Char} {authority : Option Authority}
    {written : List Char → List Char} (hwritten : written path = path) {url : Url}
    (h : url = withTail kind scheme authority written path) :
    url.path = path ∧ url.query = none ∧ url.fragment = none := by
  subst h
  rw [Url.withTail, hpath.tail]
  exact ⟨hwritten, rfl, rfl⟩

/-- Behind a text in which no authority ends, the path is what is left. -/
lemma Settled.split {kind : SchemeKind} {host : List Char}
    (hhost : ∀ c ∈ host, endsAuthority kind c = false) :
    (host ++ path).takeWhile (fun c => !endsAuthority kind c) = host := by
  obtain ⟨rest, rfl⟩ := hpath.eq_cons
  have hslash : endsAuthority kind '/' = true := by cases kind <;> decide
  rw [List.takeWhile_append_of_pos fun c hc => by rw [hhost c hc]; rfl,
    List.takeWhile_cons_of_neg (by simp [hslash]), List.append_nil]

/-- Behind an authority without a backslash the path is the path of the URL. -/
lemma Settled.withAuthority {kind : SchemeKind} {scheme host : List Char} {url : Url}
    (hhost : ∀ c ∈ host, endsAuthority kind c = false) (hbackslash : '\\' ∉ host)
    (h : withAuthority kind scheme (host ++ path) = .ok url) :
    url.path = path ∧ url.query = none ∧ url.fragment = none := by
  obtain ⟨authority, rest, hauthority, hurl⟩ := withAuthority_eq_ok_iff.mp h
  rw [hpath.split hhost] at hauthority hurl
  obtain rfl := rest_of_authorityOf hbackslash hauthority
  rw [List.nil_append, List.drop_left] at hurl
  exact hpath.withTail (hpath.host kind) hurl

/-- Behind the host of a file that is no drive the path is the path of the URL. -/
lemma Settled.fileUrlOf {host : List Char} {url : Url}
    (hhost : ∀ c ∈ host, endsAuthority .file c = false) (hdrive : isDrive host = false)
    (h : fileUrlOf ('/' :: '/' :: (host ++ path)) = .ok url) :
    url.path = path ∧ url.query = none ∧ url.fragment = none := by
  have hslash : isSlash .file '/' = true := rfl
  simp only [Url.fileUrlOf, hslash, Bool.and_self, if_true, hpath.split hhost, hdrive,
    Bool.false_eq_true, if_false, List.drop_left] at h
  cases hauthority : fileAuthorityOf host with
  | error fault =>
    rw [hauthority] at h
    cases h
  | ok authority =>
    rw [hauthority] at h
    have hurl : url = fileUrl authority path := (Except.ok.inj h).symm
    exact hpath.withTail hpath.file hurl

end Settled

/-! ## Whole URLs -/

/-- A character of a scheme is no blank. -/
lemma marks_of_inScheme {c : Char} (hc : inScheme c = true) :
    isTrimmed c = false ∧ isDropped c = false := by
  have hblanks : ∀ n ≤ 0x20, inScheme (Char.ofNat n) = false := by decide
  have hblank : 0x20 < c.toNat := by
    by_contra hle
    have hfalse := hblanks c.toNat (by omega)
    rw [Char.ofNat_toNat, hc] at hfalse
    cases hfalse
  have hne {b : Char} (hb : b.toNat ≤ 0x20) : c ≠ b := by
    rintro rfl
    omega
  refine ⟨decide_eq_false (by omega), ?_⟩
  simp [isDropped, hne (b := '\t') (by decide), hne (b := '\n') (by decide),
    hne (b := '\r') (by decide)]

/-- Of a text that begins as a URL does and ends in a path only the tabs and line breaks in its
authority are dropped. -/
lemma Settled.cleaned {scheme path : List Char} (hpath : Settled path)
    (hscheme : ∀ c ∈ scheme, inScheme c = true) (host : List Char) :
    cleaned (scheme ++ ':' :: '/' :: '/' :: (host ++ path)) =
      scheme ++ ':' :: '/' :: '/' :: (host.filter (fun c => !isDropped c) ++ path) := by
  have hfront : (scheme ++ ':' :: '/' :: '/' :: (host ++ path)).dropWhile isTrimmed =
      scheme ++ ':' :: '/' :: '/' :: (host ++ path) := by
    rw [dropWhile_append_cons (by decide)]
    congr 1
    cases scheme with
    | nil => rfl
    | cons c scheme =>
      rw [List.dropWhile_cons_of_neg]
      simpa using (marks_of_inScheme (hscheme c List.mem_cons_self)).1
  have hback : (scheme ++ ':' :: '/' :: '/' :: (host ++ path)).reverse.dropWhile isTrimmed =
      (scheme ++ ':' :: '/' :: '/' :: (host ++ path)).reverse := by
    have hreverse : (scheme ++ ':' :: '/' :: '/' :: (host ++ path)).reverse =
        path.reverse ++ (scheme ++ ':' :: '/' :: '/' :: host).reverse := by simp
    have hending := hpath.ending
    obtain ⟨rest, hrest⟩ := hpath.eq_cons
    rw [hreverse]
    cases hlast : path.reverse with
    | nil => simp [hrest] at hlast
    | cons c more =>
      rw [hlast] at hending
      rw [List.cons_append, List.dropWhile_cons_of_neg]
      simpa using hending
  have hname : scheme.filter (fun c => !isDropped c) = scheme := by
    refine List.filter_eq_self.mpr fun c hc => ?_
    rw [(marks_of_inScheme (hscheme c hc)).2]
    rfl
  have hmarks (w : List Char) : (':' :: '/' :: '/' :: w).filter (fun c => !isDropped c) =
      ':' :: '/' :: '/' :: w.filter fun c => !isDropped c := rfl
  rw [Url.cleaned, hfront, hback, List.reverse_reverse, List.filter_append, hname, hmarks,
    List.filter_append, hpath.kept]

/-- A name in front of a colon is the scheme, if it begins with a letter. -/
lemma splitScheme_name {scheme : List Char} (hscheme : ∀ c ∈ scheme, inScheme c = true)
    (w : List Char) :
    splitScheme (scheme ++ ':' :: w) =
      if (scheme ++ [':']).head?.any Char.isAlpha then some (scheme.map Char.toLower, w)
      else none := by
  have hcolon : inScheme ':' = false := by decide
  have hhead : (scheme ++ ':' :: w).head? = (scheme ++ [':']).head? := by
    cases scheme <;> rfl
  rw [splitScheme, dropWhile_append_cons hcolon, List.dropWhile_eq_nil_iff.mpr hscheme,
    List.nil_append, hhead, List.takeWhile_append_of_pos hscheme,
    List.takeWhile_cons_of_neg (by simp [hcolon]), List.append_nil]
  rfl

/-- A character that ends no authority of the web ends none of another kind. -/
lemma endsAuthority_of_special {c : Char} (hc : endsAuthority .special c = false)
    (kind : SchemeKind) : endsAuthority kind c = false := by
  simp only [endsAuthority, isSlash, Bool.or_eq_false_iff] at hc ⊢
  obtain ⟨⟨⟨hslash, hbackslash⟩, hquery⟩, hfragment⟩ := hc
  refine ⟨⟨⟨hslash, ?_⟩, hquery⟩, hfragment⟩
  rw [Bool.and_eq_false_iff]
  exact .inl (by simpa using hbackslash)

/-- A text that ends in a digit names no drive. -/
lemma isDrive_concat (x : List Char) {d : Char} (hd : d.isDigit = true) :
    isDrive (x ++ [d]) = false := by
  have hmark : d ≠ ':' ∧ d ≠ '|' := by
    constructor <;> rintro rfl <;> exact absurd hd (by decide)
  rcases x with _ | ⟨a, _ | ⟨b, more⟩⟩
  · rfl
  · simp [isDrive, hmark]
  · simp [isDrive]

/-- Slashes in front of a host are no part of it. -/
lemma dropWhile_slashes {c : Char} (hc : endsAuthority .special c = false) (w : List Char) :
    ('/' :: '/' :: c :: w).dropWhile (isSlash .special) = c :: w := by
  have hslash : isSlash .special '/' = true := rfl
  simp only [endsAuthority, Bool.or_eq_false_iff] at hc
  rw [List.dropWhile_cons_of_pos hslash, List.dropWhile_cons_of_pos hslash,
    List.dropWhile_cons_of_neg (by simp [hc.1.1])]

/-- A path behind an address that ends in a digit is the path of the URL, if the parser leaves it
alone and nothing in the address ends it. -/
theorem parse_path {scheme x path : List Char} {d : Char} {url : Url} (hpath : Settled path)
    (hscheme : ∀ c ∈ scheme, inScheme c = true) (hx : ∀ c ∈ x, endsAuthority .special c = false)
    (hd : d.isDigit = true)
    (h : parse (scheme ++ ':' :: '/' :: '/' :: (x ++ [d] ++ path)) = .ok url) :
    url.path = path ∧ url.query = none ∧ url.fragment = none := by
  obtain ⟨-, hdropped, -, hends⟩ := marks_of_isDigit hd
  have hkept : (x ++ [d]).filter (fun c => !isDropped c) =
      x.filter (fun c => !isDropped c) ++ [d] := by simp [hdropped]
  have hdrive : isDrive ((x ++ [d]).filter fun c => !isDropped c) = false := by
    rw [hkept]
    exact isDrive_concat _ hd
  have hspecial : ∀ c ∈ (x ++ [d]).filter (fun c => !isDropped c),
      endsAuthority .special c = false := by
    intro c hc
    rcases List.mem_append.mp (List.mem_filter.mp hc).1 with hc | hc
    · exact hx c hc
    · exact List.mem_singleton.mp hc ▸ hends .special
  -- of the address the rest of the proof needs only that it ends nothing and is not empty
  obtain ⟨c, host, hhost⟩ : ∃ c host, (x ++ [d]).filter (fun c => !isDropped c) = c :: host :=
    List.exists_cons_of_ne_nil (by simp [hkept])
  rw [hhost] at hspecial hdrive
  have hbackslash : '\\' ∉ c :: host := fun hmem => absurd (hspecial _ hmem) (by decide)
  have hkind (kind : SchemeKind) : ∀ c' ∈ c :: host, endsAuthority kind c' = false :=
    fun c' hc' => endsAuthority_of_special (hspecial c' hc') kind
  rw [parse, hpath.cleaned hscheme, hhost, splitScheme_name hscheme] at h
  split_ifs at h
  · dsimp only at h
    cases hkindOf : kindOf (scheme.map Char.toLower) with
    | special =>
      simp only [hkindOf, List.cons_append,
        dropWhile_slashes (hspecial c List.mem_cons_self)] at h
      exact hpath.withAuthority hspecial hbackslash h
    | file =>
      simp only [hkindOf] at h
      exact hpath.fileUrlOf (hkind .file) hdrive h
    | other =>
      have hslashes : "//".toList.isPrefixOf ('/' :: '/' :: (c :: host ++ path)) = true := rfl
      simp only [hkindOf, hslashes, if_true] at h
      exact hpath.withAuthority (hkind .other) hbackslash h

end PluginGateway.Url

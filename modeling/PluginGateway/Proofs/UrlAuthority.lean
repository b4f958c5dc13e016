import Mathlib.Data.List.TakeWhile
import PluginGateway.Url.Parser

/-!
# What a path cannot change in a URL

A text behind an address goes on in it or ends it. `Url.Follows` says of a text that it is empty or
begins with a slash or with the mark of a query or fragment; then it ends the authority.

The main statement, `Url.parse_append`, is about addresses that hold a colon and end in a digit, as
those with a port do: whatever text follows such an address, the URL that both spell together has
the scheme and the authority that the address alone spells.
-/

namespace PluginGateway.Url

/-- The text is empty, or begins with a character that ends every authority. -/
def Follows (s : List Char) : Prop := ∀ c, s.head? = some c → c = '/' ∨ c = '?' ∨ c = '#'

/-- Two URLs have the same scheme, user information, host and port. -/
def SameAuthority (u v : Url) : Prop := u.scheme = v.scheme ∧ u.authority = v.authority

/-! ## Texts with a character that stops a search -/

section Stops

variable {p : Char → Bool} {d : Char} {x y : List Char}

/-- What is dropped from the front ends before a character that is not dropped. -/
lemma dropWhile_append_cons (hd : p d = false) :
    (x ++ d :: y).dropWhile p = x.dropWhile p ++ d :: y := by
  rw [List.dropWhile_append]
  split
  · next hx => rw [List.isEmpty_iff.mp hx, List.dropWhile_cons_of_neg (by simp [hd])]; rfl
  · rfl

/-- Where something is left of a text, more text behind it changes nothing. -/
lemma dropWhile_append_of_mem {c : Char} (hc : c ∈ x) (hp : p c = false) :
    (x ++ y).dropWhile p = x.dropWhile p ++ y ∧ (x ++ y).takeWhile p = x.takeWhile p := by
  obtain ⟨a, b, rfl⟩ := List.append_of_mem hc
  rw [List.append_assoc, List.cons_append, dropWhile_append_cons hp, dropWhile_append_cons hp,
    List.takeWhile_append, List.takeWhile_append]
  simp [hp]

end Stops

/-- A digit is no blank, no at sign, and ends no authority. -/
lemma marks_of_isDigit {d : Char} (hd : d.isDigit = true) :
    isTrimmed d = false ∧ isDropped d = false ∧ d ≠ '@' ∧
      ∀ kind, endsAuthority kind d = false := by
  have hrange : 48 ≤ d.toNat ∧ d.toNat ≤ 57 := by
    simpa [Char.isDigit, UInt32.le_iff_toNat_le] using hd
  have hne {c : Char} (hc : c.toNat < 48 ∨ 57 < c.toNat) : d ≠ c := by
    rintro rfl
    omega
  refine ⟨decide_eq_false (by omega), ?_, hne (.inr (by decide)), fun kind => ?_⟩
  · simp [isDropped, hne (c := '\t') (.inl (by decide)), hne (c := '\n') (.inl (by decide)),
      hne (c := '\r') (.inl (by decide))]
  · simp [endsAuthority, isSlash, hne (c := '/') (.inl (by decide)),
      hne (c := '\\') (.inr (by decide)), hne (c := '?') (.inr (by decide)),
      hne (c := '#') (.inl (by decide))]

/-- The character that a text begins with which follows an address is no blank, and ends every
authority. -/
lemma marks_of_follows {c : Char} {z : List Char} (h : Follows (c :: z)) :
    isTrimmed c = false ∧ isDropped c = false ∧ ∀ kind, endsAuthority kind c = true := by
  rcases h c rfl with rfl | rfl | rfl <;>
    exact ⟨by decide, by decide, fun kind => by cases kind <;> decide⟩

/-- Behind a digit nothing is lost in front of what ends the authority. -/
lemma cleaned_append (x : List Char) {d : Char} (hd : d.isDigit = true) :
    ∃ x', (':' ∈ x → ':' ∈ x') ∧ cleaned (x ++ [d]) = x' ++ [d] ∧
      ∀ z, Follows z → ∃ z', Follows z' ∧ cleaned (x ++ d :: z) = x' ++ d :: z' := by
  obtain ⟨htrimmed, hdropped, -⟩ := marks_of_isDigit hd
  have hcleaned (z : List Char) : cleaned (x ++ d :: z) =
      ((x.dropWhile isTrimmed).filter fun c => !isDropped c) ++
        d :: ((z.reverse.dropWhile isTrimmed).reverse.filter fun c => !isDropped c) := by
    unfold cleaned
    rw [dropWhile_append_cons htrimmed, List.reverse_append, List.reverse_cons, List.append_assoc,
      List.singleton_append, dropWhile_append_cons htrimmed]
    simp [hdropped]
  refine ⟨(x.dropWhile isTrimmed).filter fun c => !isDropped c, fun hcolon => ?_, hcleaned [],
    fun z hz => ⟨_, ?_, hcleaned z⟩⟩
  · refine List.mem_filter.mpr ⟨?_, by decide⟩
    rw [← List.takeWhile_append_dropWhile (p := isTrimmed) (l := x)] at hcolon
    refine (List.mem_append.mp hcolon).resolve_left fun hblank => ?_
    exact absurd (List.mem_takeWhile_imp hblank) (by decide)
  · cases z with
    | nil => exact nofun
    | cons c z =>
      obtain ⟨hc, hkept, -⟩ := marks_of_follows hz
      have hhead : (((c :: z).reverse.dropWhile isTrimmed).reverse.filter fun c => !isDropped c) =
          c :: ((z.reverse.dropWhile isTrimmed).reverse.filter fun c => !isDropped c) := by
        rw [List.reverse_cons, dropWhile_append_cons hc]
        simp [hkept]
      rw [hhead]
      exact hz

/-- The scheme is found in front of the first colon, whatever stands behind it. -/
lemma splitScheme_append {x : List Char} (hcolon : ':' ∈ x) (w : List Char) :
    splitScheme (x ++ w) = (splitScheme x).map fun r => (r.1, r.2 ++ w) := by
  obtain ⟨hdrop, htake⟩ := dropWhile_append_of_mem (y := w) (p := inScheme) hcolon (by decide)
  have hhead : (x ++ w).head? = x.head? := by
    obtain ⟨c, rest, rfl⟩ := List.exists_cons_of_ne_nil (List.ne_nil_of_mem hcolon)
    rfl
  unfold splitScheme
  rw [hdrop, htake, hhead]
  have hne : x.dropWhile inScheme ≠ [] := fun hnil =>
    absurd (List.dropWhile_eq_nil_iff.mp hnil ':' hcolon) (by decide)
  obtain ⟨c, rest, hrest⟩ := List.exists_cons_of_ne_nil hne
  rw [hrest, List.cons_append]
  by_cases hc : c = ':'
  · subst hc
    by_cases hletter : x.head?.any Char.isAlpha = true <;> simp [hletter]
  · simp [hc]

/-- An authority that does not end in an at sign is the same wherever it stands. -/
lemma authorityOf_concat (kind : SchemeKind) (scheme x : List Char) {d : Char} (hd : d ≠ '@')
    (last last' : Bool) :
    authorityOf kind last scheme (x ++ [d]) = authorityOf kind last' scheme (x ++ [d]) := by
  unfold authorityOf
  split
  · rfl
  · next user rest hsplit =>
    have hback : (x ++ [d]).reverse.takeWhile (· ≠ '@') = d :: x.reverse.takeWhile (· ≠ '@') := by
      rw [List.reverse_append, List.reverse_singleton, List.singleton_append,
        List.takeWhile_cons_of_pos (by simpa using hd)]
    simp only [splitLast, hback, Option.ite_none_left_eq_some, Option.some.injEq,
      Prod.mk.injEq] at hsplit
    obtain ⟨-, -, rfl⟩ := hsplit
    simp

/-- The URL that an authority and the rest of a text make up has that authority. -/
lemma withAuthority_eq_ok_iff {kind : SchemeKind} {scheme s : List Char} {url : Url} :
    withAuthority kind scheme s = .ok url ↔ ∃ authority rest,
      authorityOf kind (s.drop (s.takeWhile fun c => !endsAuthority kind c).length).isEmpty scheme
        (s.takeWhile fun c => !endsAuthority kind c) = .ok (authority, rest) ∧
      url = withTail kind scheme (some authority) (hostPath kind)
        (rest ++ s.drop (s.takeWhile fun c => !endsAuthority kind c).length) := by
  unfold withAuthority
  dsimp only
  cases authorityOf kind (s.drop (s.takeWhile fun c => !endsAuthority kind c).length).isEmpty scheme
    (s.takeWhile fun c => !endsAuthority kind c) with
  | error fault => exact ⟨nofun, fun ⟨_, _, h, _⟩ => nomatch h⟩
  | ok found =>
    constructor
    · intro h
      exact ⟨found.1, found.2, rfl, (Except.ok.inj h).symm⟩
    · rintro ⟨authority, rest, hfound, rfl⟩
      obtain rfl := Except.ok.inj hfound
      rfl

/-- What follows an address is no part of its authority. -/
lemma withAuthority_append {kind : SchemeKind} {scheme x z : List Char} {d : Char} {url : Url}
    (hd : d.isDigit = true) (hz : Follows z)
    (h : withAuthority kind scheme (x ++ d :: z) = .ok url) :
    ∃ address, withAuthority kind scheme (x ++ [d]) = .ok address ∧ SameAuthority url address := by
  obtain ⟨-, -, hat, hends⟩ := marks_of_isDigit hd
  obtain ⟨authority, rest, hauthority, rfl⟩ := withAuthority_eq_ok_iff.mp h
  suffices hsame : authorityOf kind ((x ++ [d]).drop
      ((x ++ [d]).takeWhile fun c => !endsAuthority kind c).length).isEmpty scheme
      ((x ++ [d]).takeWhile fun c => !endsAuthority kind c) = .ok (authority, rest) from
    ⟨_, withAuthority_eq_ok_iff.mpr ⟨authority, rest, hsame, rfl⟩, rfl, rfl⟩
  by_cases hx : ∃ c ∈ x, endsAuthority kind c = true
  · obtain ⟨c, hc, hcends⟩ := hx
    have hfront (w : List Char) : (x ++ w).takeWhile (fun c => !endsAuthority kind c) =
        x.takeWhile fun c => !endsAuthority kind c :=
      (dropWhile_append_of_mem hc (by simp [hcends])).2
    have hbehind (w : List Char) : ((x ++ d :: w).drop
        (x.takeWhile fun c => !endsAuthority kind c).length).isEmpty = false := by
      have hlength : (x.takeWhile fun c => !endsAuthority kind c).length ≤ x.length :=
        (List.takeWhile_prefix fun c => !endsAuthority kind c).length_le
      rw [List.isEmpty_eq_false_iff, Ne, List.drop_eq_nil_iff, List.length_append,
        List.length_cons]
      omega
    rw [hfront, hbehind] at hauthority ⊢
    exact hauthority
  · -- the address alone is all of the authority, and nothing behind it belongs to it
    have hplain : ∀ c ∈ x ++ [d], (!endsAuthority kind c) = true := by
      intro c hc
      rcases List.mem_append.mp hc with hc | hc
      · simpa using fun hcends => hx ⟨c, hc, hcends⟩
      · rw [List.mem_singleton.mp hc, hends kind]
        rfl
    have hfront : (x ++ d :: z).takeWhile (fun c => !endsAuthority kind c) = x ++ [d] := by
      have hnone : z.takeWhile (fun c => !endsAuthority kind c) = [] := by
        cases z with
        | nil => rfl
        | cons c z => simp [(marks_of_follows hz).2.2 kind]
      rw [← List.singleton_append, ← List.append_assoc,
        List.takeWhile_append_of_pos hplain, hnone, List.append_nil]
    rw [hfront] at hauthority
    rw [List.takeWhile_eq_self_iff.mpr hplain, ← hauthority]
    exact authorityOf_concat kind scheme x hat _ _

/-- A file's URL has the scheme of files. -/
lemma scheme_of_fileUrlOf {s : List Char} {url : Url} (h : fileUrlOf s = .ok url) :
    url.scheme = "file".toList := by
  unfold fileUrlOf at h
  split at h
  · split at h
    · dsimp only at h
      split at h
      · exact Except.ok.inj h ▸ rfl
      · generalize fileAuthorityOf _ = found at h
        cases found with
        | error fault => cases h
        | ok authority => exact Except.ok.inj h ▸ rfl
    · exact Except.ok.inj h ▸ rfl
  · exact Except.ok.inj h ▸ rfl

/-- A text behind an address that holds a colon and ends in a digit changes neither the scheme nor
the authority, if it begins as a path, a query or a fragment does. A file on a drive has no host,
whatever its URL says; its scheme is left aside. -/
theorem parse_append {x z : List Char} {d : Char} {url : Url} (hcolon : ':' ∈ x)
    (hd : d.isDigit = true) (hz : Follows z) (h : parse (x ++ d :: z) = .ok url)
    (hfile : kindOf url.scheme ≠ .file) :
    ∃ address, parse (x ++ [d]) = .ok address ∧ SameAuthority url address := by
  obtain ⟨x', hcolon', haddress, hcleaned⟩ := cleaned_append x hd
  obtain ⟨z', hz', htext⟩ := hcleaned z hz
  unfold parse at h ⊢
  rw [htext, splitScheme_append (hcolon' hcolon)] at h
  rw [haddress, splitScheme_append (hcolon' hcolon)]
  cases hscheme : splitScheme x' with
  | none =>
    rw [hscheme] at h
    cases h
  | some found =>
    obtain ⟨scheme, rest⟩ := found
    rw [hscheme] at h
    dsimp only [Option.map_some] at h ⊢
    cases hkind : kindOf scheme with
    | special =>
      have hslash : isSlash .special d = false := by
        have hends := (marks_of_isDigit hd).2.2.2 .special
        simp only [endsAuthority, Bool.or_eq_false_iff] at hends
        exact hends.1.1
      simp only [hkind, dropWhile_append_cons hslash] at h ⊢
      exact withAuthority_append hd hz' h
    | file =>
      simp only [hkind] at h
      exact absurd (scheme_of_fileUrlOf h ▸ by decide) hfile
    | other =>
      simp only [hkind] at h ⊢
      have hslash : d ≠ '/' := by
        rintro rfl
        exact absurd hd (by decide)
      have hslashes : "//".toList = ['/', '/'] := by decide
      have hbare (w : List Char) (hw : "//".toList.isPrefixOf (rest ++ d :: w) = true) :
          ∃ more, rest = '/' :: '/' :: more := by
        rw [hslashes] at hw
        rcases rest with _ | ⟨a, _ | ⟨b, more⟩⟩
        · simp [hslash.symm] at hw
        · simp [hslash.symm] at hw
        · simp only [List.cons_append, List.isPrefixOf_cons_cons, Bool.and_eq_true,
            beq_iff_eq] at hw
          exact ⟨more, by rw [← hw.1, ← hw.2.1]⟩
      by_cases hprefix : ∃ more, rest = '/' :: '/' :: more
      · obtain ⟨more, rfl⟩ := hprefix
        simp only [hslashes, List.cons_append, List.isPrefixOf, List.drop] at h ⊢
        exact withAuthority_append hd hz' h
      · have hno (w : List Char) : "//".toList.isPrefixOf (rest ++ d :: w) = false := by
          exact Bool.eq_false_iff.mpr fun hw => hprefix (hbare w hw)
        simp only [hno, Bool.false_eq_true, if_false, Except.ok.injEq] at h ⊢
        exact ⟨_, rfl, h ▸ ⟨rfl, rfl⟩⟩

end PluginGateway.Url

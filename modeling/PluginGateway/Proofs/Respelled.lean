import PluginGateway.Json.Reader
import PluginGateway.Proofs.HarmlessRuns
import PluginGateway.Proofs.JsonReaders

/-!
# Texts that differ in their strings

The `outline` of a text is its tokens with the contents of strings left out. Whether a text is a
JSON document depends on its outline alone (`exists_parse_of_outline`): the reader of documents goes
in lockstep through texts of one outline, in states that differ in what was read but not in what may
come next.

A text is `Respelled` by another if the two differ in the contents of their strings only. The
outline of a respelled text is the same (`Respelled.outline_eq`), and a harmless replacement of path
runs respells every text that is made of tokens (`Respelled.replaceRuns`).
-/

namespace PluginGateway.Json

open PluginGateway.Path

/-! ## Outlines -/

/-- The token without the contents of a string. -/
def Token.outline : Token → Token
  | .string _ => .string []
  | t => t

/-- The token without its place and the contents of a string; none where no token can be read. -/
def Lexeme.outline : Lexeme → Option Token
  | .token t _ => some t.outline
  | .broken _ _ _ => none

/-- The tokens of a text without the contents of strings. -/
def outline (text : List Char) : List (Option Token) :=
  (lexemes (fun _ => true) text).map Lexeme.outline

/-- The kind of an open array or object. -/
def Frame.outline : Frame → Frame
  | .array _ => .array []
  | .object _ _ => .object [] ""

/-- What may come next, without what was read. -/
def Expectation.outline : Expectation → Expectation
  | .nextKey _ => .nextKey []
  | .colon _ _ => .colon [] ""
  | .afterValue _ => .afterValue .null
  | e => e

/-- A place within a document, without what was read. -/
def State.outline (s : State) : State := ⟨s.frames.map Frame.outline, s.expect.outline⟩

@[simp] lemma Frame.outline_array (items : List Json) :
    (Frame.array items).outline = .array [] := rfl

@[simp] lemma Frame.outline_object (fields : List (String × Json)) (key : String) :
    (Frame.object fields key).outline = .object [] "" := rfl

@[simp] lemma Frame.outline_outline (f : Frame) : f.outline.outline = f.outline := by
  cases f <;> rfl

@[simp] lemma Frame.outline_comp_outline : Frame.outline ∘ Frame.outline = Frame.outline :=
  funext Frame.outline_outline

/-- Where a value may stand, what was read before does not matter. -/
lemma onValue_outline (s : State) (t : Token) :
    (s.onValue t).map State.outline = (s.outline.onValue t.outline).map State.outline := by
  have hlength : s.outline.frames.length = s.frames.length := List.length_map _
  cases t with
  | openObject =>
    simp only [State.onValue, Token.outline, hlength]
    split
    · simp [Except.map, State.outline, Expectation.outline]
    · rfl
  | openArray =>
    simp only [State.onValue, Token.outline, hlength]
    split
    · simp [Except.map, State.outline, Expectation.outline]
    · rfl
  | _ => simp [State.onValue, Token.outline, State.done, Except.map, State.outline,
      Expectation.outline]

/-- Behind a value, only the kind of the innermost array or object matters. -/
lemma onAfterValue_outline (frames : List Frame) (v v' : Json) (t : Token) :
    (State.onAfterValue frames v t).map State.outline =
      (State.onAfterValue (frames.map Frame.outline) v' t.outline).map State.outline := by
  cases frames with
  | nil => rfl
  | cons frame outer =>
    cases frame with
    | array items =>
      cases t <;>
        simp [State.onAfterValue, Token.outline, Except.map, State.outline, Expectation.outline]
    | object fields key =>
      cases t <;>
        simp [State.onAfterValue, Token.outline, Except.map, State.outline, Expectation.outline]

/-- A token leads from states of one outline to states of one outline. -/
theorem onToken_outline (s : State) (t : Token) :
    (s.onToken t).map State.outline = (s.outline.onToken t.outline).map State.outline := by
  have hvalue := onValue_outline s t
  obtain ⟨frames, expect⟩ := s
  cases expect with
  | value => exact hvalue
  | firstItem =>
    cases t with
    | closeArray => simp [State.onToken, State.outline, Token.outline, Expectation.outline,
        Except.map]
    | _ => exact hvalue
  | nextItem =>
    cases t with
    | closeArray => rfl
    | _ => exact hvalue
  | firstKey =>
    cases t <;> simp [State.onToken, State.outline, Token.outline, Expectation.outline,
      Except.map]
  | nextKey fields =>
    cases t <;> simp [State.onToken, State.outline, Token.outline, Expectation.outline,
      Except.map]
  | colon fields key =>
    cases t <;> simp [State.onToken, State.outline, Token.outline, Expectation.outline,
      Except.map]
  | afterValue v => exact onAfterValue_outline frames v .null t

/-- Whether the text may end does not depend on what was read. -/
lemma onEnd_outline (s : State) : (∃ v, s.onEnd = .ok v) ↔ ∃ v, s.outline.onEnd = .ok v := by
  obtain ⟨frames, expect⟩ := s
  cases expect with
  | afterValue v =>
    cases frames with
    | nil => simp [State.onEnd, State.outline, Expectation.outline]
    | cons frame outer => cases frame <;> simp [State.onEnd, State.outline, Expectation.outline]
  | _ => simp [State.onEnd, State.outline, Expectation.outline]

/-- A token that may come in a state may come in any state of the same outline. -/
lemma exists_onToken {s s' s₁ : State} {t t' : Token} (hs : s.outline = s'.outline)
    (ht : t.outline = t'.outline) (h : s.onToken t = .ok s₁) :
    ∃ s₁', s'.onToken t' = .ok s₁' ∧ s₁.outline = s₁'.outline := by
  have hstep := onToken_outline s t
  rw [hs, ht, ← onToken_outline s' t', h] at hstep
  cases hs' : s'.onToken t' with
  | error fault => simp [hs', Except.map] at hstep
  | ok s₁' =>
    refine ⟨s₁', rfl, ?_⟩
    simpa [hs', Except.map] using hstep

/-- Lexemes of one outline spell a document from states of one outline, or none. -/
lemma exists_ofLexemes {ls ls' : List Lexeme}
    (hls : ls.map Lexeme.outline = ls'.map Lexeme.outline) {s s' : State}
    (hs : s.outline = s'.outline) {v : Json} (h : ofLexemes s ls = .ok v) :
    ∃ v', ofLexemes s' ls' = .ok v' := by
  induction ls generalizing ls' s s' with
  | nil =>
    cases ls' with
    | cons l ls' => cases hls
    | nil =>
      obtain ⟨v', hv'⟩ : ∃ v', s'.onEnd = .ok v' := by
        rw [onEnd_outline, ← hs, ← onEnd_outline]
        cases hend : s.onEnd with
        | error fault => simp [ofLexemes, hend] at h
        | ok v' => exact ⟨v', rfl⟩
      exact ⟨v', by simp [ofLexemes, hv']⟩
  | cons l ls ih =>
    cases ls' with
    | nil => cases hls
    | cons l' ls' =>
      rw [List.map_cons, List.map_cons, List.cons.injEq] at hls
      cases l with
      | broken fault left stop =>
        rw [ofLexemes] at h
        split at h <;> cases h
      | token t left =>
        cases l' with
        | broken fault left' stop => cases hls.1
        | token t' left' =>
          have ht : t.outline = t'.outline := Option.some.inj hls.1
          cases hstep : s.onToken t with
          | error fault => simp [ofLexemes, hstep] at h
          | ok s₁ =>
            obtain ⟨s₁', hstep', hs₁⟩ := exists_onToken hs ht hstep
            simp only [ofLexemes, hstep] at h
            obtain ⟨v', hv'⟩ := ih hls.2 hs₁ h
            exact ⟨v', by simp only [ofLexemes, hstep', hv']⟩

/-- What is read of a text, once it is known which tokens it is made of. -/
lemma parse_eq_ok {text : String} {v : Json} :
    parse text = .ok v ↔ ofLexemes .start (lexemes (fun _ => true) text.toList) = .ok v := by
  unfold parse ofChars
  cases ofLexemes .start (lexemes (fun _ => true) text.toList) with
  | error fault => simp
  | ok v' => simp

/-- A text is a document if another text of the same outline is. -/
theorem exists_parse_of_outline {text text' : String}
    (houtline : outline text'.toList = outline text.toList) {v : Json}
    (h : parse text = .ok v) : ∃ v', parse text' = .ok v' := by
  have hstart : State.start.outline = State.start.outline := rfl
  obtain ⟨v', hv'⟩ := exists_ofLexemes houtline.symm hstart (parse_eq_ok.mp h)
  exact ⟨v', parse_eq_ok.mpr hv'⟩

/-- A document is made of tokens. -/
lemma none_not_mem_of_ofLexemes {s : State} {ls : List Lexeme} {v : Json}
    (h : ofLexemes s ls = .ok v) : none ∉ ls.map Lexeme.outline := by
  induction ls generalizing s with
  | nil => simp
  | cons l ls ih =>
    cases l with
    | broken fault left stop =>
      rw [ofLexemes] at h
      split at h <;> cases h
    | token t left =>
      cases hstep : s.onToken t with
      | error fault => simp [ofLexemes, hstep] at h
      | ok s₁ =>
        simp only [ofLexemes, hstep] at h
        rw [List.map_cons, List.mem_cons, not_or]
        exact ⟨nofun, ih h⟩

/-! ## Texts that differ in their strings -/

/-- The second text is the first one with other contents in its strings. -/
inductive Respelled : List Char → List Char → Prop
  /-- There is no string. -/
  | last {s : List Char} (hs : ∀ c ∈ s, Outside c) : Respelled s s
  /-- A string comes first, behind what is no string. -/
  | string {s raw raw' rest rest' : List Char} (hs : ∀ c ∈ s, Outside c) (hraw : Content raw)
      (hraw' : Content raw') (h : Respelled rest rest') :
    Respelled (s ++ '"' :: (raw ++ '"' :: rest)) (s ++ '"' :: (raw' ++ '"' :: rest'))

namespace Respelled

/-- What is no string may stand in front. -/
lemma append {w s s' : List Char} (hw : ∀ c ∈ w, Outside c) (h : Respelled s s') :
    Respelled (w ++ s) (w ++ s') := by
  cases h with
  | last hs => exact .last (List.forall_mem_append.mpr ⟨hw, hs⟩)
  | string hs hraw hraw' h =>
    rw [← List.append_assoc, ← List.append_assoc]
    exact .string (List.forall_mem_append.mpr ⟨hw, hs⟩) hraw hraw' h

/-- Texts that are respelled begin alike. -/
lemma head? {s s' : List Char} (h : Respelled s s') : s'.head? = s.head? := by
  cases h with
  | last hs => rfl
  | @string w _ _ _ _ hs hraw hraw' h => cases w <;> rfl

/-- A character that begins no string is the same in both texts. -/
lemma of_cons {c : Char} {s t : List Char} (hc : c ≠ '"') (h : Respelled (c :: s) t) :
    ∃ s', t = c :: s' ∧ Respelled s s' := by
  generalize htext : c :: s = text at h
  cases h with
  | last hs =>
    subst htext
    exact ⟨s, rfl, .last (List.forall_mem_cons.mp hs).2⟩
  | @string w _ _ _ _ hs hraw hraw' h =>
    cases w with
    | nil => exact absurd (List.cons.inj htext).1 hc
    | cons d w =>
      cases htext
      exact ⟨_, rfl, .string (List.forall_mem_cons.mp hs).2 hraw hraw' h⟩

/-- What begins no string is the same in both texts. -/
lemma of_append {w s t : List Char} (hw : ∀ c ∈ w, Outside c) (h : Respelled (w ++ s) t) :
    ∃ s', t = w ++ s' ∧ Respelled s s' := by
  induction w generalizing t with
  | nil => exact ⟨t, rfl, h⟩
  | cons c w ih =>
    obtain ⟨hc, hw⟩ := List.forall_mem_cons.mp hw
    obtain ⟨t, rfl, hrest⟩ := of_cons hc.1 h
    obtain ⟨s', rfl, hs'⟩ := ih hw hrest
    exact ⟨s', rfl, hs'⟩

/-- A string is a string in both texts. -/
lemma of_quote {s t : List Char} (h : Respelled ('"' :: s) t) :
    ∃ raw raw' rest rest', s = raw ++ '"' :: rest ∧ t = '"' :: (raw' ++ '"' :: rest') ∧
      Content raw ∧ Content raw' ∧ Respelled rest rest' := by
  generalize htext : '"' :: s = text at h
  cases h with
  | last hs =>
    subst htext
    exact absurd rfl (List.forall_mem_cons.mp hs).1.1
  | @string w raw raw' rest rest' hs hraw hraw' h =>
    cases w with
    | nil =>
      cases htext
      exact ⟨raw, raw', rest, rest', rfl, rfl, hraw, hraw', h⟩
    | cons d w =>
      rw [List.cons_append, List.cons.injEq] at htext
      exact absurd htext.1.symm (List.forall_mem_cons.mp hs).1.1

/-- A harmless replacement of the path runs of a respelled text respells it again. -/
theorem replaceRuns {f : List Char → Option (List Char)} (hf : Harmless f) {s s' : List Char}
    (h : Respelled s s') : Respelled s (replaceRuns f s') := by
  have hquote : endsRun '"' = true := by decide
  have houtside {w : List Char} (hw : ∀ c ∈ w, Outside c) : Path.replaceRuns f w = w :=
    replaceRuns_of_slash_not_mem fun hslash => (hw '/' hslash).2 rfl
  induction h with
  | last hs =>
    rw [houtside hs]
    exact .last hs
  | string hs hraw hraw' _ ih =>
    rw [replaceRuns_append_mark hquote, replaceRuns_append_mark hquote, houtside hs]
    exact .string hs hraw (hf.content_replaceRuns hraw') ih

end Respelled

/-! ## The tokens of respelled texts -/

/-- A blank is no token. -/
lemma outline_blank {c : Char} (hc : isBlank c = true) (rest : List Char) :
    outline (c :: rest) = outline rest := by
  rw [outline, lexemes, if_pos hc, outline]

/-- A token comes before the lexemes of what it leaves. -/
lemma lexemes_token {c : Char} (hc : ¬isBlank c = true) {rest left : List Char} {t : Token}
    (h : readToken (fun _ => true) c rest = .ok (t, left)) :
    lexemes (fun _ => true) (c :: rest) =
      .token t (rest.length + 1) :: lexemes (fun _ => true) left := by
  rw [lexemes, if_neg hc]
  split
  · next hread =>
    rw [h] at hread
    cases hread
  · next hread =>
    rw [h] at hread
    cases hread
    rfl

/-- A token comes before those of what it leaves. -/
lemma outline_token {c : Char} (hc : ¬isBlank c = true) {rest left : List Char} {t : Token}
    (h : readToken (fun _ => true) c rest = .ok (t, left)) :
    outline (c :: rest) = some t.outline :: outline left := by
  rw [outline, lexemes_token hc h]
  rfl

/-- Where no token is read, the outline has a gap. -/
lemma none_mem_outline {c : Char} (hc : ¬isBlank c = true) {rest : List Char}
    {fault : Fault × List Char} (h : readToken (fun _ => true) c rest = .error fault) :
    none ∈ outline (c :: rest) := by
  rw [outline, lexemes, if_neg hc]
  split
  · exact List.mem_cons_self
  · next hread =>
    rw [h] at hread
    cases hread

/-- A quotation mark begins a string. -/
lemma readToken_quote (rest : List Char) :
    readToken (fun _ => true) '"' rest =
      (readString rest).map fun r => (Token.string r.1, r.2) := by
  show readStringToken (fun _ => true) rest = _
  unfold readStringToken
  cases readString rest with
  | error fault => rfl
  | ok r => rfl

/-- Blanks are no marks. -/
lemma outside_of_isBlank {c : Char} (h : isBlank c = true) : Outside c := by
  simp only [isBlank, Bool.or_eq_true, beq_iff_eq] at h
  rcases h with ((rfl | rfl) | rfl) | rfl <;> decide

/-- What holds of the empty text and is kept by a blank, a string or another token in front holds of
every text that is made of tokens. -/
@[elab_as_elim]
theorem outline_induction {motive : List Char → Prop} (nil : motive [])
    (blank : ∀ c rest, isBlank c = true → motive rest → motive (c :: rest))
    (string : ∀ raw left, Content raw → motive left → motive ('"' :: (raw ++ '"' :: left)))
    (token : ∀ c taken left t, ¬isBlank c = true → (∀ d ∈ c :: taken, Outside d) →
      (∀ left', left'.head? = left.head? →
        readToken (fun _ => true) c (taken ++ left') = .ok (t, left')) →
      motive left → motive (c :: (taken ++ left)))
    {s : List Char} (h : none ∉ outline s) : motive s := by
  induction hlength : s.length using Nat.strong_induction_on generalizing s with
  | _ n ih =>
    subst hlength
    cases s with
    | nil => exact nil
    | cons c rest =>
      by_cases hc : isBlank c = true
      · rw [outline_blank hc] at h
        exact blank c rest hc (ih rest.length (Nat.lt_succ_self _) h rfl)
      · cases hread : readToken (fun _ => true) c rest with
        | error fault => exact absurd (none_mem_outline hc hread) h
        | ok r =>
          obtain ⟨t, left⟩ := r
          rw [outline_token hc hread, List.mem_cons, not_or] at h
          have hleft : motive left :=
            ih left.length (Nat.lt_succ_of_le (readToken_length hread)) h.2 rfl
          by_cases hquote : c = '"'
          · subst hquote
            rw [readToken_quote] at hread
            cases hstring : readString rest with
            | error fault => simp [hstring, Except.map] at hread
            | ok r =>
              obtain ⟨contents, left'⟩ := r
              simp only [hstring, Except.map, Except.ok.injEq, Prod.mk.injEq] at hread
              obtain ⟨-, rfl⟩ := hread
              obtain ⟨raw, rfl, hraw⟩ := content_of_readString hstring
              exact string raw left' hraw hleft
          · obtain ⟨hout, taken, rfl, htaken, hsame⟩ := readToken_takes hquote hread
            exact token c taken left t hc (List.forall_mem_cons.mpr ⟨hout, htaken⟩) hsame hleft

/-- A text that is made of tokens is a respelling of itself. -/
theorem respelled_self {s : List Char} (h : none ∉ outline s) : Respelled s s := by
  refine outline_induction ?nil ?blank ?string ?token h
  case nil => exact .last nofun
  case blank =>
    intro c rest hc ih
    exact ih.append (w := [c]) (List.forall_mem_singleton.mpr (outside_of_isBlank hc))
  case string =>
    intro raw left hraw ih
    exact .string (s := []) nofun hraw hraw ih
  case token =>
    intro c taken left t hc hout hsame ih
    exact ih.append hout

/-- The outline of a respelled text is the same. -/
theorem Respelled.outline_eq {s s' : List Char} (h : none ∉ outline s) (hs : Respelled s s') :
    outline s' = outline s := by
  suffices hall : ∀ s', Respelled s s' → outline s' = outline s from hall s' hs
  refine outline_induction ?nil ?blank ?string ?token h
  case nil =>
    intro s' hs
    rw [eq_nil_of_head? hs.head?]
  case blank =>
    intro c rest hc ih s' hs
    obtain ⟨rest', rfl, hrest⟩ := hs.of_cons (outside_of_isBlank hc).1
    rw [outline_blank hc, outline_blank hc, ih rest' hrest]
  case string =>
    intro raw left hraw ih s' hs
    obtain ⟨raw₀, raw', left₀, left', hsplit, rfl, hraw₀, hraw', hleft⟩ := hs.of_quote
    have hnone : ¬isBlank '"' = true := by decide
    have hread {raw : List Char} (hraw : Content raw) (left : List Char) : ∃ contents,
        readToken (fun _ => true) '"' (raw ++ '"' :: left) = .ok (.string contents, left) := by
      obtain ⟨contents, hstring⟩ := readString_of_content hraw left
      exact ⟨contents, by rw [readToken_quote, hstring]; rfl⟩
    -- Both ways of cutting the first text end the string at the same mark.
    obtain ⟨contents, hfirst⟩ := hread hraw left
    obtain ⟨contents₀, hfirst₀⟩ := hread hraw₀ left₀
    obtain ⟨contents', hsecond⟩ := hread hraw' left'
    rw [← hsplit, hfirst] at hfirst₀
    cases hfirst₀
    rw [outline_token hnone hsecond, outline_token hnone hfirst, ih left' hleft]
    rfl
  case token =>
    intro c taken left t hc hout hsame ih s' hs
    obtain ⟨left', rfl, hleft⟩ := hs.of_append (w := c :: taken) hout
    rw [List.cons_append, outline_token hc (hsame left' hleft.head?),
      outline_token hc (hsame left rfl), ih left' hleft]

end PluginGateway.Json

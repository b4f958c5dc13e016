import PluginGateway.Proofs.RunScan

/-!
# Path runs of a text in which path runs were replaced

The pieces of a text can be found again in the text that is made of them, as long as they are runs
and marks and no two runs are neighbours (`pieces_flatMap_text`). So if the answers to path runs are
runs themselves, the text with the answers in it has the pieces of the text, with the answers among
them (`Settles.pieces_replaceRuns`).

A function `Settles` path runs if it declines its own answers. The main statements say that it then
declines every path run of the replaced text (`Settles.eq_none_of_runAt`), and hence that a second
replacement changes nothing (`Settles.replaceRuns_replaceRuns`).
-/

namespace PluginGateway.Path

/-! ## Pieces found again -/

/-- A piece that can be found in a text: a mark, or a run that is not empty and has no marks. -/
def Piece.IsProper : Piece → Prop
  | .mark c => endsRun c = true
  | .run r => IsRun r ∧ r ≠ []

/-- The pieces of a text are proper. -/
lemma isProper_of_mem_pieces {p : Piece} {text : List Char} (h : p ∈ pieces text) :
    p.IsProper := by
  rcases piece_of_mem_pieces h with ⟨c, rfl, hc⟩ | ⟨r, rfl, hr⟩
  · exact hc
  · exact hr

/-- Proper pieces of which no two runs are neighbours are the pieces of the text that they make
up. -/
lemma pieces_flatMap_text {ps : List Piece} (hproper : ∀ p ∈ ps, p.IsProper)
    (hchain : ps.IsChain Piece.Apart) : pieces (ps.flatMap Piece.text) = ps := by
  induction ps with
  | nil => rfl
  | cons p rest ih =>
    obtain ⟨hp, hrest⟩ := List.forall_mem_cons.mp hproper
    obtain ⟨hapart, hchain'⟩ := List.isChain_cons.mp hchain
    have hfound := ih hrest hchain'
    rw [List.flatMap_cons]
    cases p with
    | mark c =>
      have hmark : endsRun c = true := hp
      rw [Piece.text, List.singleton_append, pieces_cons_mark hmark, hfound]
    | run r =>
      obtain ⟨hrun, hne⟩ : IsRun r ∧ r ≠ [] := hp
      cases rest with
      | nil =>
        rw [List.flatMap_nil, List.append_nil, Piece.text, pieces_of_isRun hrun hne]
      | cons next more =>
        cases next with
        | run r' => exact absurd (hapart (.run r') rfl) id
        | mark m =>
          have hmark : endsRun m = true := hrest (.mark m) List.mem_cons_self
          rw [List.flatMap_cons, Piece.text, List.singleton_append,
            pieces_cons_mark hmark] at hfound
          rw [List.flatMap_cons, Piece.text, Piece.text, List.singleton_append,
            pieces_append_mark hmark, pieces_of_isRun hrun hne, hfound]
          rfl

/-! ## Pieces after a replacement -/

/-- The piece that stands in a text after a replacement. -/
def Piece.after (f : List Char → Option (List Char)) (p : Piece) : Piece :=
  match p with
  | .mark c => .mark c
  | .run r => .run (Piece.replaced f (.run r))

/-- The characters of a piece after a replacement. -/
@[simp] lemma Piece.text_after (f : List Char → Option (List Char)) (p : Piece) :
    (p.after f).text = p.replaced f := by
  cases p with
  | mark c => rfl
  | run r => rfl

/-- A run after a replacement is the answer to it, or the run itself if there is none. -/
lemma Piece.replaced_run {f : List Char → Option (List Char)} {r : List Char} :
    ('/' ∈ r ∧ f r = some (Piece.replaced f (.run r))) ∨
      (Piece.replaced f (.run r) = r ∧ ('/' ∈ r → f r = none)) := by
  by_cases hslash : '/' ∈ r
  · have hrun : Piece.pathRun? (.run r) = some r := if_pos hslash
    rw [Piece.replaced, Piece.answer?, hrun, Option.bind_some]
    cases hanswer : f r with
    | none => exact .inr ⟨rfl, fun _ => rfl⟩
    | some r' => exact .inl ⟨hslash, rfl⟩
  · have hnone : Piece.pathRun? (.run r) = none := if_neg hslash
    rw [Piece.replaced, Piece.answer?, hnone, Option.bind_none]
    exact .inr ⟨rfl, fun h => absurd h hslash⟩

/-- The answers to path runs are runs that are not empty. -/
structure AnswersRuns (f : List Char → Option (List Char)) : Prop where
  /-- An answer has no marks. -/
  isRun : ∀ {r r' : List Char}, IsRun r → '/' ∈ r → f r = some r' → IsRun r'
  /-- An answer is not empty. -/
  ne_nil : ∀ {r r' : List Char}, IsRun r → '/' ∈ r → f r = some r' → r' ≠ []

section Answers

variable {f : List Char → Option (List Char)} (hf : AnswersRuns f)

include hf

/-- A proper piece is proper after a replacement. -/
lemma AnswersRuns.isProper_after {p : Piece} (hp : p.IsProper) : (p.after f).IsProper := by
  cases p with
  | mark c => exact hp
  | run r =>
    obtain ⟨hrun, hne⟩ : IsRun r ∧ r ≠ [] := hp
    rcases Piece.replaced_run (f := f) (r := r) with ⟨hslash, hanswer⟩ | ⟨hsame, -⟩
    · exact ⟨hf.isRun hrun hslash hanswer, hf.ne_nil hrun hslash hanswer⟩
    · rw [Piece.after, hsame]
      exact ⟨hrun, hne⟩

/-- The pieces of a text after a replacement are its pieces, each after the replacement. -/
lemma AnswersRuns.pieces_replaceRuns (text : List Char) :
    pieces (replaceRuns f text) = (pieces text).map (Piece.after f) := by
  have htext : replaceRuns f text = ((pieces text).map (Piece.after f)).flatMap Piece.text := by
    rw [replaceRuns_eq_flatMap, List.flatMap_map]
    exact List.flatMap_congr fun p _ => (Piece.text_after f p).symm
  have hproper : ∀ p ∈ (pieces text).map (Piece.after f), p.IsProper := by
    intro p hp
    obtain ⟨p', hp', rfl⟩ := List.mem_map.mp hp
    exact hf.isProper_after (isProper_of_mem_pieces hp')
  have hchain : ((pieces text).map (Piece.after f)).IsChain Piece.Apart := by
    rw [List.isChain_map]
    refine (isChain_pieces text).imp fun p q hapart => ?_
    cases p with
    | mark c => trivial
    | run r =>
      cases q with
      | mark c => trivial
      | run r' => exact hapart
  rw [htext, pieces_flatMap_text hproper hchain]

end Answers

/-! ## Layouts after a replacement -/

/-- If the answers to path runs are path runs, the layout of some pieces after a replacement is
their layout with the answers in it. -/
lemma layout_map_after {f : List Char → Option (List Char)}
    (hslash : ∀ {r r' : List Char}, f r = some r' → '/' ∈ r') (gap : List Char)
    (ps : List Piece) :
    layout gap (ps.map (Piece.after f)) =
      ((layout gap ps).1.map fun part => (part.1, (f part.2).getD part.2), (layout gap ps).2) := by
  induction ps generalizing gap with
  | nil => rfl
  | cons p rest ih =>
    rw [List.map_cons, layout, layout]
    cases hp : p.pathRun? with
    | none =>
      have hsame : p.after f = p := by
        cases p with
        | mark c => rfl
        | run r =>
          rw [Piece.after, Piece.replaced, Piece.answer?, hp]
          rfl
      rw [hsame, hp]
      exact ih _
    | some run =>
      obtain ⟨rfl, hrun⟩ := pathRun?_eq_some_iff.mp hp
      have hafter : Piece.pathRun? (Piece.after f (.run run)) = some ((f run).getD run) := by
        refine pathRun?_eq_some_iff.mpr ⟨?_, ?_⟩
        · rw [Piece.after, Piece.replaced, Piece.answer?, hp]
          rfl
        · cases hanswer : f run with
          | none => exact hrun
          | some run' => exact hslash hanswer
      rw [hafter]
      dsimp only
      rw [ih []]
      rfl

/-! ## Functions that decline their own answers -/

/-- The answers to path runs are runs that are not empty, and they are declined in their turn. -/
structure Settles (f : List Char → Option (List Char)) : Prop extends AnswersRuns f where
  /-- An answer is declined, if it is a path run. -/
  declined : ∀ {r r' : List Char}, IsRun r → '/' ∈ r → f r = some r' → '/' ∈ r' → f r' = none

section Settles

variable {f : List Char → Option (List Char)} (hf : Settles f)

include hf

/-- A path run among the pieces of a replaced text is declined. -/
lemma Settles.eq_none_of_mem_pieces {text run : List Char}
    (h : .run run ∈ pieces (replaceRuns f text)) (hslash : '/' ∈ run) : f run = none := by
  rw [hf.pieces_replaceRuns] at h
  obtain ⟨p, hp, hafter⟩ := List.mem_map.mp h
  cases p with
  | mark c => cases hafter
  | run r =>
    obtain rfl : Piece.replaced f (.run r) = run := Piece.run.inj hafter
    obtain ⟨hrun, -⟩ : IsRun r ∧ r ≠ [] := isProper_of_mem_pieces hp
    rcases Piece.replaced_run (f := f) (r := r) with ⟨hr, hanswer⟩ | ⟨hsame, hnone⟩
    · exact hf.declined hrun hr hanswer hslash
    · rw [hsame] at hslash ⊢
      exact hnone hslash

/-- A path run of a replaced text is declined. -/
theorem Settles.eq_none_of_runAt {text before run after : List Char}
    (h : RunAt (replaceRuns f text) before run after) : f run = none := by
  have hmem : .run run ∈ pieces (replaceRuns f text) := by
    rw [h.pieces_eq]
    simp
  exact hf.eq_none_of_mem_pieces hmem h.slash

/-- A second replacement changes nothing. -/
theorem Settles.replaceRuns_replaceRuns (text : List Char) :
    replaceRuns f (replaceRuns f text) = replaceRuns f text := by
  refine replaceRuns_eq_self fun p hp => ?_
  cases p with
  | mark c => rfl
  | run run =>
    rcases Piece.replaced_run (f := f) (r := run) with ⟨hslash, hanswer⟩ | ⟨hsame, -⟩
    · have hnone : f run = none := hf.eq_none_of_mem_pieces hp hslash
      rw [hnone] at hanswer
      cases hanswer
    · exact hsame

end Settles

end PluginGateway.Path

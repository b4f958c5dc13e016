import Mathlib.Data.List.Chain
import PluginGateway.Proofs.History
import PluginGateway.Proofs.PathRuns

/-!
# Path runs at their places

`RunAt` says without any search what a path run is and where it stands: it holds a slash and no
mark, and a mark or an end of the text is next to it on either side. `Layout` lists the path runs of
a text from left to right, each behind the gap in front of it, so that gaps and runs together are
the text.

The main statement, `replaceRuns?_layout`, is about the search for runs, which hands over one run
after the other and goes on with the answer, whatever state the answers depend on. It says that
every text has a layout, that exactly its runs are handed over, in their order, and that the outcome
is the text with the accepted runs replaced where they stand and the gaps and all other runs left as
they are.
-/

namespace PluginGateway.Path

/-- A path run stands in the text, between the text before it and the text after it: it has no
marks, it holds a slash, and it is as long as it can be. -/
structure RunAt (text before run after : List Char) : Prop where
  /-- The three texts make up the whole. -/
  parts : text = before ++ run ++ after
  /-- The run has no marks. -/
  isRun : IsRun run
  /-- The run holds a slash. -/
  slash : '/' ∈ run
  /-- If anything stands before the run, it ends in a mark. -/
  opened : ∀ c, before.getLast? = some c → endsRun c = true
  /-- If anything stands after the run, it begins with a mark. -/
  closed : ∀ c, after.head? = some c → endsRun c = true

/-- The text of gaps and runs, each run behind its gap. -/
def laid (parts : List (List Char × List Char)) : List Char := parts.flatMap fun p => p.1 ++ p.2

/-- The path runs of a text from left to right, each with the gap in front of it, and the gap behind
the last one: at the places where these runs stand, and nowhere else, a path run stands. -/
structure Layout (text : List Char) (parts : List (List Char × List Char)) (last : List Char) :
    Prop where
  /-- Gaps and runs make up the text. -/
  text_eq : text = laid parts ++ last
  /-- The runs are the path runs of the text. -/
  runAt_iff : ∀ before run after, RunAt text before run after ↔
    ∃ earlier gap later, parts = earlier ++ (gap, run) :: later ∧
      before = laid earlier ++ gap ∧ after = laid later ++ last

/-! ## Pieces and their neighbours -/

/-- One of two pieces is a mark. -/
def Piece.Apart : Piece → Piece → Prop
  | .run _, .run _ => False
  | _, _ => True

/-- Of two neighbouring pieces one is a mark. -/
lemma isChain_pieces (text : List Char) : (pieces text).IsChain Piece.Apart := by
  induction text with
  | nil => exact .nil
  | cons c rest ih =>
    rw [pieces]
    split
    · exact List.isChain_cons.mpr ⟨fun p _ => trivial, ih⟩
    · split
      · next text more h =>
        rw [h] at ih
        obtain ⟨hfirst, hmore⟩ := List.isChain_cons.mp ih
        refine List.isChain_cons.mpr ⟨fun p hp => ?_, hmore⟩
        cases p with
        | run text' => exact hfirst (.run text') hp
        | mark m => trivial
      · next hmore =>
        refine List.isChain_cons.mpr ⟨fun p hp => ?_, ih⟩
        cases p with
        | run text =>
          obtain ⟨more, h⟩ := List.head?_eq_some_iff.mp hp
          exact hmore text more h
        | mark c => trivial

/-- The pieces of a text are marks and texts without marks. -/
lemma piece_of_mem_pieces {p : Piece} {text : List Char} (h : p ∈ pieces text) :
    (∃ c, p = .mark c ∧ endsRun c = true) ∨ ∃ run, p = .run run ∧ IsRun run ∧ run ≠ [] := by
  induction text generalizing p with
  | nil => cases h
  | cons c rest ih =>
    rw [pieces] at h
    split at h
    · next hc =>
      rcases List.mem_cons.mp h with rfl | h
      · exact .inl ⟨c, rfl, hc⟩
      · exact ih h
    · next hc =>
      have hc' : endsRun c = false := by simpa using hc
      split at h
      · next text more hpieces =>
        rcases List.mem_cons.mp h with rfl | h
        · rcases ih (hpieces ▸ List.mem_cons_self) with ⟨m, hm, -⟩ | ⟨run, hrun, hisRun, -⟩
          · cases hm
          · cases hrun
            exact .inr ⟨_, rfl, List.forall_mem_cons.mpr ⟨hc', hisRun⟩, List.cons_ne_nil _ _⟩
        · exact ih (hpieces ▸ List.mem_cons_of_mem _ h)
      · rcases List.mem_cons.mp h with rfl | h
        · refine .inr ⟨_, rfl, fun d hd => ?_, List.cons_ne_nil _ _⟩
          rw [List.mem_singleton.mp hd]
          exact hc'
        · exact ih h

/-- A path run stands where one of the pieces is that run. -/
lemma runAt_of_pieces {text run : List Char} {earlier later : List Piece}
    (h : pieces text = earlier ++ .run run :: later) (hslash : '/' ∈ run) :
    RunAt text (earlier.flatMap Piece.text) run (later.flatMap Piece.text) := by
  have hmem {p : Piece} (hp : p ∈ earlier ∨ p ∈ later) : p ∈ pieces text := by
    rw [h]
    rcases hp with hp | hp <;> simp [hp]
  have hchain := h ▸ isChain_pieces text
  obtain ⟨-, hrest, hbefore⟩ := List.isChain_append.mp hchain
  obtain ⟨hafter, -⟩ := List.isChain_cons.mp hrest
  refine ⟨?_, ?_, hslash, ?_, ?_⟩
  · rw [← text_pieces text, h]
    simp [Piece.text]
  · have hrun : Piece.run run ∈ pieces text := by simp [h]
    rcases piece_of_mem_pieces hrun with ⟨c, hc, -⟩ | ⟨run', hrun', hisRun, -⟩
    · cases hc
    · cases hrun'
      exact hisRun
  · intro c hc
    rcases List.eq_nil_or_concat' earlier with rfl | ⟨front, p, rfl⟩
    · cases hc
    · -- the piece before the run is a mark, since no two runs are neighbours
      rcases piece_of_mem_pieces (hmem (.inl (by simp : p ∈ front ++ [p]))) with
        ⟨m, rfl, hm⟩ | ⟨run', rfl, -⟩
      · simp only [List.flatMap_append, List.flatMap_cons, List.flatMap_nil, Piece.text,
          List.append_nil, List.getLast?_concat, Option.some.injEq] at hc
        exact hc ▸ hm
      · exact absurd (hbefore (.run run') (by simp) (.run run) (by simp)) id
  · intro c hc
    cases later with
    | nil => cases hc
    | cons p more =>
      rcases piece_of_mem_pieces (hmem (.inr List.mem_cons_self)) with
        ⟨m, rfl, hm⟩ | ⟨run', rfl, -⟩
      · simp only [List.flatMap_cons, Piece.text, List.singleton_append, List.head?_cons,
          Option.some.injEq] at hc
        exact hc ▸ hm
      · exact absurd (hafter (.run run') rfl) id

/-- Where a path run stands, one of the pieces is that run. -/
lemma RunAt.pieces_eq {text before run after : List Char} (h : RunAt text before run after) :
    pieces text = pieces before ++ .run run :: pieces after := by
  have hrun : pieces (run ++ after) = .run run :: pieces after := by
    have hne : run ≠ [] := List.ne_nil_of_mem h.slash
    cases hafter : after with
    | nil => rw [List.append_nil, pieces_of_isRun h.isRun hne]; rfl
    | cons m more =>
      have hm : endsRun m = true := h.closed m (by rw [hafter]; rfl)
      rw [pieces_append_mark hm, pieces_of_isRun h.isRun hne, pieces_cons_mark hm]
      rfl
  rw [h.parts, List.append_assoc]
  rcases List.eq_nil_or_concat' before with hbefore | ⟨front, m, hbefore⟩
  · rw [hbefore, List.nil_append, hrun]
    rfl
  · have hm : endsRun m = true := h.opened m (by simp [hbefore])
    have hfront : pieces (front ++ [m]) = pieces front ++ [.mark m] :=
      pieces_append_mark hm front []
    rw [hbefore, List.append_assoc, List.singleton_append,
      pieces_append_mark hm, hrun, hfront, List.append_assoc]
    rfl

/-! ## The layout of a text -/

/-- The path runs among some pieces, each with the gap in front of it, and the gap behind the last
one; the first gap begins with the text given. -/
def layout : List Char → List Piece → List (List Char × List Char) × List Char
  | gap, [] => ([], gap)
  | gap, p :: rest =>
    match p.pathRun? with
    | none => layout (gap ++ p.text) rest
    | some run => ((gap, run) :: (layout [] rest).1, (layout [] rest).2)

/-- Gaps and runs are the text of the pieces. -/
lemma laid_layout (gap : List Char) (ps : List Piece) :
    laid (layout gap ps).1 ++ (layout gap ps).2 = gap ++ ps.flatMap Piece.text := by
  induction ps generalizing gap with
  | nil => simp [layout, laid]
  | cons p rest ih =>
    rw [layout]
    split
    · rw [ih, List.append_assoc]
      rfl
    · next run hp =>
      obtain ⟨rfl, -⟩ := pathRun?_eq_some_iff.mp hp
      have hrest := ih []
      simp only [laid, List.nil_append, List.flatMap_cons, List.append_assoc, Piece.text]
        at hrest ⊢
      rw [hrest]

/-- The runs of a layout are the path runs among the pieces. -/
lemma mem_layout_iff (gap : List Char) (ps : List Piece) (before run after : List Char) :
    (∃ earlier gap' later, (layout gap ps).1 = earlier ++ (gap', run) :: later ∧
      before = laid earlier ++ gap' ∧ after = laid later ++ (layout gap ps).2) ↔
    ∃ earlier later, ps = earlier ++ .run run :: later ∧ '/' ∈ run ∧
      before = gap ++ earlier.flatMap Piece.text ∧ after = later.flatMap Piece.text := by
  induction ps generalizing gap before with
  | nil => simp [layout]
  | cons p rest ih =>
    rw [layout]
    split
    · next hp =>
      rw [ih]
      constructor
      · rintro ⟨earlier, later, rfl, hslash, rfl, rfl⟩
        exact ⟨p :: earlier, later, rfl, hslash, by simp, rfl⟩
      · rintro ⟨earlier, later, hps, hslash, rfl, rfl⟩
        cases earlier with
        | nil =>
          obtain ⟨rfl, rfl⟩ := List.cons.inj hps
          rw [pathRun?_eq_some_iff.mpr ⟨rfl, hslash⟩] at hp
          cases hp
        | cons p' earlier =>
          obtain ⟨rfl, rfl⟩ := List.cons.inj hps
          exact ⟨earlier, later, rfl, hslash, by simp, rfl⟩
    · next first hp =>
      obtain ⟨rfl, hfirst⟩ := pathRun?_eq_some_iff.mp hp
      have hlast : laid (layout [] rest).1 ++ (layout [] rest).2 = rest.flatMap Piece.text := by
        simpa using laid_layout [] rest
      constructor
      · rintro ⟨earlier, gap', later, hparts, rfl, rfl⟩
        cases earlier with
        | nil =>
          obtain ⟨hhead, rfl⟩ := List.cons.inj hparts
          cases hhead
          exact ⟨[], rest, rfl, hfirst, by simp [laid], hlast⟩
        | cons part earlier =>
          obtain ⟨rfl, htail⟩ := List.cons.inj hparts
          obtain ⟨earlier', later', rfl, hslash, hbefore, hafter⟩ :=
            (ih [] _).mp ⟨earlier, gap', later, htail, rfl, rfl⟩
          refine ⟨.run first :: earlier', later', rfl, hslash, ?_, hafter⟩
          simp only [laid, List.flatMap_cons, Piece.text, List.append_assoc] at hbefore ⊢
          rw [hbefore, List.nil_append]
      · rintro ⟨earlier, later, hps, hslash, rfl, rfl⟩
        cases earlier with
        | nil =>
          obtain ⟨hhead, rfl⟩ := List.cons.inj hps
          cases hhead
          exact ⟨[], gap, _, rfl, by simp [laid], hlast.symm⟩
        | cons p' earlier =>
          obtain ⟨rfl, htail⟩ := List.cons.inj hps
          obtain ⟨earlier', gap', later', hparts, hbefore, hafter⟩ :=
            (ih [] _).mpr ⟨earlier, later, htail, hslash, rfl, rfl⟩
          refine ⟨(gap, first) :: earlier', gap', later', by rw [hparts]; rfl, ?_, hafter⟩
          simp only [laid, List.flatMap_cons, Piece.text, List.append_assoc, List.nil_append]
            at hbefore ⊢
          rw [hbefore]

/-- The path runs among the pieces of a text are its path runs at their places. -/
lemma layout_pieces (text : List Char) :
    Layout text (layout [] (pieces text)).1 (layout [] (pieces text)).2 where
  text_eq := by rw [laid_layout, List.nil_append, text_pieces]
  runAt_iff := by
    intro before run after
    rw [mem_layout_iff]
    constructor
    · intro h
      exact ⟨pieces before, pieces after, h.pieces_eq, h.slash,
        by rw [text_pieces, List.nil_append], (text_pieces after).symm⟩
    · rintro ⟨earlier, later, hpieces, hslash, rfl, rfl⟩
      exact runAt_of_pieces hpieces hslash

/-! ## Handing over the runs -/

/-- The text of gaps and runs with each run replaced by the answer to it, if there is one. -/
def relaid (parts : List (List Char × List Char)) (answers : List (Option (List Char))) :
    List Char :=
  (parts.zip answers).flatMap fun e => e.1.1 ++ e.2.getD e.1.2

section Callback

variable {σ : Type} (handle : (run : List Char) → σ → Option (List Char) × σ)

/-- The runs handed over are those of the layout. -/
lemma history_offeringFrom (written gap : List Char) (accepted : Bool) (ps : List Piece) (s : σ) :
    ((offeringFrom written accepted ps).history handle s).map Sigma.fst =
      (layout gap ps).1.map Prod.snd := by
  induction ps generalizing written gap accepted s with
  | nil => rfl
  | cons p rest ih =>
    rw [offeringFrom, layout]
    cases p.pathRun? with
    | none => exact ih _ _ _ _
    | some run =>
      rw [Program.history, List.map_cons, List.map_cons]
      rcases handle run s with ⟨_ | answer, s'⟩
      · exact congrArg _ (ih _ _ _ _)
      · exact congrArg _ (ih _ _ _ _)

/-- The search ends without a text exactly if no run was accepted. -/
lemma run_offeringFrom_eq_none_iff (written : List Char) (accepted : Bool) (ps : List Piece)
    (s : σ) :
    ((offeringFrom written accepted ps).run handle s).1 = none ↔
      accepted = false ∧
        ∀ e ∈ (offeringFrom written accepted ps).history handle s, e.2 = none := by
  induction ps generalizing written accepted s with
  | nil => cases accepted <;> simp [offeringFrom]
  | cons p rest ih =>
    rw [offeringFrom]
    cases p.pathRun? with
    | none => exact ih _ _ _
    | some run =>
      rw [Program.run, Program.history, List.forall_mem_cons]
      rcases handle run s with ⟨_ | answer, s'⟩
      · simpa using ih (run.reverse ++ written) accepted s'
      · simpa using ih (answer.reverse ++ written) true s'

/-- A text that the search ends in is what stands in front of the first gap and, behind it, the
layout with the answers put in. -/
lemma run_offeringFrom_eq_some (front gap : List Char) (accepted : Bool) (ps : List Piece) (s : σ)
    {out : List Char}
    (h : ((offeringFrom (front ++ gap).reverse accepted ps).run handle s).1 = some out) :
    out = front ++ (relaid (layout gap ps).1
      (((offeringFrom (front ++ gap).reverse accepted ps).history handle s).map Sigma.snd) ++
        (layout gap ps).2) := by
  induction ps generalizing front gap accepted s with
  | nil =>
    cases accepted with
    | false => cases h
    | true => simpa [offeringFrom, layout, relaid] using h.symm
  | cons p rest ih =>
    -- what is written in the place of a run stands in front of the next gap, which is empty yet
    have hwritten (text : List Char) :
        text.reverse ++ (front ++ gap).reverse = ((front ++ gap ++ text) ++ []).reverse := by
      simp
    rw [offeringFrom] at h ⊢
    rw [layout]
    cases hp : p.pathRun? with
    | none =>
      have hgap : p.text.reverse ++ (front ++ gap).reverse =
          (front ++ (gap ++ p.text)).reverse := by
        simp
      simp only [hp, hgap] at h ⊢
      exact ih front (gap ++ p.text) accepted s h
    | some run =>
      simp only [hp] at h ⊢
      rw [Program.run] at h
      rw [Program.history, List.map_cons]
      rcases hanswer : handle run s with ⟨_ | answer, s'⟩
      · simp only [hanswer, hwritten run] at h ⊢
        rw [ih (front ++ gap ++ run) [] accepted s' h]
        simp [relaid]
      · simp only [hanswer, hwritten answer] at h ⊢
        rw [ih (front ++ gap ++ answer) [] true s' h]
        simp [relaid]

end Callback

/-- A function that keeps no state answers each run by itself. -/
lemma history_offeringFrom_pure (f : List Char → Option (List Char)) (written gap : List Char)
    (accepted : Bool) (ps : List Piece) :
    ((offeringFrom written accepted ps).history (fun run s => (f run, s)) ()).map Sigma.snd =
      (layout gap ps).1.map fun part => f part.2 := by
  induction ps generalizing written gap accepted with
  | nil => rfl
  | cons p rest ih =>
    rw [offeringFrom, layout]
    cases p.pathRun? with
    | none => exact ih _ _ _
    | some run =>
      rw [Program.history, List.map_cons, List.map_cons]
      rcases f run with _ | answer
      · exact congrArg _ (ih _ _ _)
      · exact congrArg _ (ih _ _ _)

/-- Every text has a layout, and the search for its path runs follows it: exactly the runs of the
layout are handed over, from left to right and each once; there is no outcome exactly if none of
them is accepted; and otherwise the outcome is the text with the accepted runs replaced where they
stand, the gaps and all other runs left as they are. The replacement of runs is this search for a
function that keeps no state. -/
theorem replaceRuns?_layout (text : List Char) :
    ∃ parts last, Layout text parts last ∧
      (∀ {σ : Type} (handle : (run : List Char) → σ → Option (List Char) × σ) (s : σ),
        ((offering text).history handle s).map Sigma.fst = parts.map Prod.snd ∧
        (((offering text).run handle s).1 = none ↔
          ∀ e ∈ (offering text).history handle s, e.2 = none) ∧
        ∀ out, ((offering text).run handle s).1 = some out →
          out = relaid parts (((offering text).history handle s).map Sigma.snd) ++ last) ∧
      ∀ f, replaceRuns? f text = ((offering text).run (fun run s => (f run, s)) ()).1 ∧
        (replaceRuns? f text = none ↔ ∀ part ∈ parts, f part.2 = none) ∧
        ∀ out, replaceRuns? f text = some out →
          out = relaid parts (parts.map fun part => f part.2) ++ last := by
  have hsome {σ : Type} (handle : (run : List Char) → σ → Option (List Char) × σ) (s : σ)
      {out : List Char} (h : ((offering text).run handle s).1 = some out) :
      out = relaid (layout [] (pieces text)).1 (((offering text).history handle s).map Sigma.snd) ++
        (layout [] (pieces text)).2 :=
    run_offeringFrom_eq_some handle [] [] false (pieces text) s h
  have hnone {σ : Type} (handle : (run : List Char) → σ → Option (List Char) × σ) (s : σ) :
      ((offering text).run handle s).1 = none ↔
        ∀ e ∈ (offering text).history handle s, e.2 = none := by
    simpa [offering] using run_offeringFrom_eq_none_iff handle [] false (pieces text) s
  refine ⟨(layout [] (pieces text)).1, (layout [] (pieces text)).2, layout_pieces text,
    fun handle s => ⟨history_offeringFrom .., hnone handle s, fun out h => hsome handle s h⟩,
    fun f => ?_⟩
  have hanswers : ((offering text).history (fun run s => (f run, s)) ()).map Sigma.snd =
      (layout [] (pieces text)).1.map fun part => f part.2 :=
    history_offeringFrom_pure f [] [] false (pieces text)
  refine ⟨rfl, ?_, fun out h => ?_⟩
  · have hall : (∀ answer ∈ ((offering text).history (fun run s => (f run, s)) ()).map Sigma.snd,
        answer = none) ↔ ∀ part ∈ (layout [] (pieces text)).1, f part.2 = none := by
      rw [hanswers, List.forall_mem_map]
    rw [List.forall_mem_map] at hall
    exact (hnone _ ()).trans hall
  · have hout := hsome (fun run s => (f run, s)) () h
    rwa [hanswers] at hout

end PluginGateway.Path

import Mathlib.Data.List.Basic
import Mathlib.Data.List.TakeWhile
import Mathlib.Tactic.Common
import PluginGateway.Path.Conversion
import PluginGateway.Text.Utf8

/-!
# Replacements in path runs, part by part

A replacement of the path runs of a text can be carried out part by part, as long as the parts meet
at marks (`replaceRuns_append_mark`); a text without marks is replaced as a whole if it holds a
slash (`replaceRuns_of_isRun`). The other statements are about the segments of a text without marks:
it has no query or fragment, and it is put together from segments without marks.
-/

namespace PluginGateway.Path

/-- A text without marks: none of its characters ends a run. -/
def IsRun (text : List Char) : Prop := ∀ c ∈ text, endsRun c = false

instance (text : List Char) : Decidable (IsRun text) :=
  List.decidableBAll (fun c => endsRun c = false) text

/-! ## Pieces -/

/-- A mark is a piece of its own. -/
lemma pieces_cons_mark {m : Char} (hm : endsRun m = true) (rest : List Char) :
    pieces (m :: rest) = .mark m :: pieces rest := by
  rw [pieces, if_pos hm]

/-- Texts that meet at a mark are cut each on its own. -/
lemma pieces_append_mark {m : Char} (hm : endsRun m = true) (a b : List Char) :
    pieces (a ++ m :: b) = pieces a ++ .mark m :: pieces b := by
  induction a with
  | nil => exact pieces_cons_mark hm b
  | cons c a ih =>
    rw [List.cons_append, pieces, pieces, ih]
    split
    · rfl
    · cases pieces a with
      | nil => rfl
      | cons piece more => cases piece <;> rfl

/-- A text without marks is one piece. -/
lemma pieces_of_isRun {r : List Char} (hr : IsRun r) (hne : r ≠ []) : pieces r = [.run r] := by
  induction r with
  | nil => exact absurd rfl hne
  | cons c r ih =>
    have hc : endsRun c = false := hr c List.mem_cons_self
    rw [pieces, if_neg (by simp [hc])]
    cases r with
    | nil => rfl
    | cons d r => rw [ih (fun x hx => hr x (List.mem_cons_of_mem _ hx)) (by simp)]

/-! ## Replacements -/

variable {f : List Char → Option (List Char)}

/-- A piece that is a path run is a run with a slash. -/
lemma pathRun?_eq_some_iff {p : Piece} {run : List Char} :
    p.pathRun? = some run ↔ p = .run run ∧ '/' ∈ run := by
  cases p with
  | mark c => simp [Piece.pathRun?]
  | run text =>
    simp only [Piece.pathRun?, Option.ite_none_right_eq_some, Option.some.injEq, Piece.run.injEq]
    constructor
    · rintro ⟨h, rfl⟩
      exact ⟨rfl, h⟩
    · rintro ⟨rfl, h⟩
      exact ⟨h, rfl⟩

/-- The answer of a function to the piece, if it is a path run and the function accepts it. -/
def Piece.answer? (f : List Char → Option (List Char)) (p : Piece) : Option (List Char) :=
  p.pathRun?.bind f

/-- The piece after the function had its say: the answer if there is one, the characters otherwise.
-/
def Piece.replaced (f : List Char → Option (List Char)) (p : Piece) : List Char :=
  (p.answer? f).getD p.text

/-- With a function that answers each run by itself, the search puts the answers behind what was
written before. -/
lemma run_offeringFrom_pure (f : List Char → Option (List Char)) (written : List Char)
    (accepted : Bool) (ps : List Piece) :
    ((offeringFrom written accepted ps).run (fun run s => (f run, s)) ()).1 =
      if accepted || ps.any fun p => (p.answer? f).isSome then
        some (written.reverse ++ ps.flatMap (Piece.replaced f))
      else none := by
  induction ps generalizing written accepted with
  | nil => simp [offeringFrom]
  | cons p rest ih =>
    rw [offeringFrom]
    split
    · next hp =>
      have hsame : p.answer? f = none := by rw [Piece.answer?, hp, Option.bind_none]
      simp [ih, hsame, Piece.replaced]
    · next run hp =>
      have hanswer : p.answer? f = f run := by rw [Piece.answer?, hp, Option.bind_some]
      obtain ⟨rfl, -⟩ := pathRun?_eq_some_iff.mp hp
      rw [Program.run]
      cases hrun : f run with
      | none => simp [ih, hanswer, hrun, Piece.replaced, Piece.text]
      | some answer => simp [ih, hanswer, hrun, Piece.replaced]

/-- A replacement goes through the pieces one by one. -/
lemma replaceRuns_eq_flatMap (f : List Char → Option (List Char)) (text : List Char) :
    replaceRuns f text = (pieces text).flatMap (Piece.replaced f) := by
  rw [replaceRuns, replaceRuns?, offering, run_offeringFrom_pure]
  split
  · rfl
  · next hnone =>
    have hsame : ∀ p ∈ pieces text, Piece.replaced f p = p.text := by
      intro p hp
      have hp' : p.answer? f = none := by
        simp only [Bool.false_or, List.any_eq_true, not_exists, not_and] at hnone
        simpa using hnone p hp
      rw [Piece.replaced, hp', Option.getD_none]
    rw [List.flatMap_congr hsame, text_pieces, Option.getD_none]

/-- Nothing is replaced in the empty text. -/
@[simp] lemma replaceRuns_nil (f : List Char → Option (List Char)) : replaceRuns f [] = [] := rfl

/-- Texts that meet at a mark are replaced each on its own. -/
lemma replaceRuns_append_mark {m : Char} (hm : endsRun m = true) (a b : List Char) :
    replaceRuns f (a ++ m :: b) = replaceRuns f a ++ m :: replaceRuns f b := by
  simp only [replaceRuns_eq_flatMap, pieces_append_mark hm, List.flatMap_append,
    List.flatMap_cons]
  rfl

/-- A mark stays. -/
lemma replaceRuns_cons_mark {m : Char} (hm : endsRun m = true) (rest : List Char) :
    replaceRuns f (m :: rest) = m :: replaceRuns f rest :=
  replaceRuns_append_mark hm [] rest

/-- A text without marks is replaced as a whole if it holds a slash. -/
lemma replaceRuns_of_isRun {r : List Char} (hr : IsRun r) :
    replaceRuns f r = if '/' ∈ r then (f r).getD r else r := by
  by_cases hne : r = []
  · subst hne
    rfl
  · rw [replaceRuns_eq_flatMap, pieces_of_isRun hr hne]
    by_cases hslash : '/' ∈ r
    · simp [Piece.replaced, Piece.answer?, Piece.pathRun?, Piece.text, hslash]
    · simp [Piece.replaced, Piece.answer?, Piece.pathRun?, Piece.text, hslash]

/-- A text no piece of which changes does not change. -/
lemma replaceRuns_eq_self {text : List Char}
    (h : ∀ p ∈ pieces text, Piece.replaced f p = p.text) : replaceRuns f text = text := by
  rw [replaceRuns_eq_flatMap, List.flatMap_congr h, text_pieces]

/-- A text without slashes holds no path run. -/
lemma replaceRuns_of_slash_not_mem {text : List Char} (h : '/' ∉ text) :
    replaceRuns f text = text := by
  refine replaceRuns_eq_self fun p hp => ?_
  have hslash : '/' ∉ p.text := fun hmem =>
    h (text_pieces text ▸ List.mem_flatMap.mpr ⟨p, hp, hmem⟩)
  cases p with
  | mark c => rfl
  | run r =>
    have hnone : Piece.pathRun? (.run r) = none := if_neg hslash
    rw [Piece.replaced, Piece.answer?, hnone, Option.bind_none, Option.getD_none]

/-- A function that accepts nothing changes nothing. -/
lemma replaceRuns_of_forall_none (hf : ∀ r, f r = none) (text : List Char) :
    replaceRuns f text = text := by
  refine replaceRuns_eq_self fun p _ => ?_
  have hanswer : p.answer? f = none := by
    unfold Piece.answer?
    cases p.pathRun? with
    | none => rfl
    | some r => exact hf r
  rw [Piece.replaced, hanswer, Option.getD_none]

/-- A table without rules accepts nothing. -/
lemma replace?_of_isEmpty {t : Table} (h : t.isEmpty = true) (uri : List Char) :
    t.replace? uri = none := by
  have hrules : t.rules = [] := List.isEmpty_iff.mp h
  have hfrom (path : List Segment) : t.replaceFrom? 0 path = none := by
    induction path with
    | nil => rfl
    | cons s rest ih => simp [Table.replaceFrom?, Table.ruleAt?, hrules, ih]
  simp [Table.replace?, Table.replaceSegments?, hfrom]

/-- A body that is a text becomes a text with its path runs replaced. -/
lemma fromUTF8?_northBody (t : Conversion) {body : ByteArray} {text : String}
    (h : String.fromUTF8? body = some text) :
    String.fromUTF8? (t.northBody body) =
      some (String.ofList (replaceRuns t.north.replace? text.toList)) := by
  unfold Conversion.northBody
  by_cases hempty : t.north.isEmpty = true
  · rw [if_pos hempty, replaceRuns_of_forall_none (replace?_of_isEmpty hempty),
      String.ofList_toList]
    exact h
  · rw [if_neg hempty, h]
    dsimp only [Conversion.northText?, replaceRuns]
    cases replaceRuns? t.north.replace? text.toList with
    | none => exact h.trans (congrArg some String.ofList_toList.symm)
    | some out => exact Text.fromUTF8?_toUTF8 (String.ofList out)

/-- A body that is no text is kept. -/
lemma northBody_of_fromUTF8?_eq_none {t : Conversion} {body : ByteArray}
    (h : String.fromUTF8? body = none) : t.northBody body = body := by
  unfold Conversion.northBody
  rw [h]
  exact ite_self body

/-- A body that is a text is read as that text. -/
lemma lossy_of_fromUTF8? {body : ByteArray} {text : String}
    (h : String.fromUTF8? body = some text) : Text.lossy body = text := by
  rw [Text.lossy, h]

/-! ## Segments of a text without marks -/

/-- A query or fragment begins with a mark. -/
lemma endsRun_of_opensTail {c : Char} (h : opensTail c = true) : endsRun c = true := by
  simp only [opensTail, Bool.or_eq_true, beq_iff_eq] at h
  rcases h with rfl | rfl <;> decide

/-- A text without marks is all path. -/
lemma beforeTail_of_isRun {r : List Char} (hr : IsRun r) : beforeTail r = r := by
  refine List.takeWhile_eq_self_iff.mpr fun c hc => ?_
  cases h : opensTail c with
  | false => rfl
  | true => exact absurd (endsRun_of_opensTail h) (by simp [hr c hc])

/-- A text without marks has neither query nor fragment. -/
lemma tail_of_isRun {r : List Char} (hr : IsRun r) : tail r = [] := by
  have h := beforeTail_append_tail r
  rw [beforeTail_of_isRun hr] at h
  simpa using h

/-- The characters of a path are slashes and those of its segments. -/
lemma mem_joined {c : Char} {path : List Segment} (h : c ∈ joined path) :
    c = '/' ∨ ∃ s ∈ path, c ∈ s := by
  unfold joined at h
  induction path with
  | nil => simp [Text.join] at h
  | cons s more ih =>
    cases more with
    | nil => exact .inr ⟨s, List.mem_cons_self, by simpa [Text.join] using h⟩
    | cons t more =>
      rw [Text.join, List.mem_append, List.mem_cons] at h
      rcases h with h | h | h
      · exact .inr ⟨s, List.mem_cons_self, h⟩
      · exact .inl h
      · rcases ih h with h | ⟨u, hu, hc⟩
        · exact .inl h
        · exact .inr ⟨u, List.mem_cons_of_mem _ hu, hc⟩

/-- A path of segments without marks has no marks. -/
lemma isRun_joined {path : List Segment} (h : ∀ s ∈ path, IsRun s) : IsRun (joined path) := by
  intro c hc
  rcases mem_joined hc with rfl | ⟨s, hs, hcs⟩
  · decide
  · exact h s hs c hcs

/-- The characters of a segment are characters of the path. -/
lemma mem_of_mem_segments {c : Char} {p : List Char} {s : Segment} (hs : s ∈ segments p)
    (hc : c ∈ s) : c ∈ p := by
  unfold segments at hs
  induction p generalizing s with
  | nil => simp_all [Text.split]
  | cons d rest ih =>
    rw [Text.split] at hs
    cases hrest : Text.split '/' rest with
    | nil => exact absurd hrest (Text.split_ne_nil '/' rest)
    | cons t more =>
      rw [hrest] at hs ih
      by_cases hd : d = '/'
      · simp only [hd, if_true] at hs
        rcases List.mem_cons.mp hs with rfl | hs
        · cases hc
        · exact List.mem_cons_of_mem _ (ih hs hc)
      · simp only [hd, if_false] at hs
        rcases List.mem_cons.mp hs with rfl | hs
        · rcases List.mem_cons.mp hc with rfl | hc
          · exact List.mem_cons_self
          · exact List.mem_cons_of_mem _ (ih List.mem_cons_self hc)
        · exact List.mem_cons_of_mem _ (ih (List.mem_cons_of_mem _ hs) hc)

/-- The segments of a text without marks have none. -/
lemma isRun_of_mem_segments {p : List Char} (hp : IsRun p) {s : Segment} (hs : s ∈ segments p) :
    IsRun s := fun c hc => hp c (mem_of_mem_segments hs hc)

/-- No segment holds a slash. -/
lemma slash_not_mem_of_mem_segments {p : List Char} {s : Segment} (hs : s ∈ segments p) :
    '/' ∉ s := Text.not_mem_of_mem_split hs

/-- There is at least one segment. -/
lemma segments_ne_nil (p : List Char) : segments p ≠ [] := Text.split_ne_nil '/' p

/-- A path of two segments or more holds a slash. -/
lemma slash_mem_joined (s t : Segment) (path : List Segment) : '/' ∈ joined (s :: t :: path) := by
  simp [joined, Text.join]

/-- A text with a slash has two segments or more. -/
lemma exists_segments_of_slash_mem {p : List Char} (h : '/' ∈ p) :
    ∃ s t path, segments p = s :: t :: path := by
  cases hp : segments p with
  | nil => exact absurd hp (segments_ne_nil p)
  | cons s more =>
    cases more with
    | nil =>
      have hps : p = s := by
        have := joined_segments p
        rw [hp] at this
        exact this.symm
      have hs : s ∈ segments p := hp ▸ List.mem_cons_self
      exact absurd (hps ▸ h) (slash_not_mem_of_mem_segments hs)
    | cons t path => exact ⟨s, t, path, rfl⟩

end PluginGateway.Path

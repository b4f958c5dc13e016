import PluginGateway.Program
import PluginGateway.Text.Basic

/-!
# Path runs within a text

A body is searched for paths without being understood: blanks, quotation marks, brackets and a few
other marks end a run, and a longest stretch of other characters that holds a slash is taken for a
path. `pieces` cuts a text into such stretches and the single marks between them, and
`text_pieces` says that nothing is lost.

The search for runs is a program, `offering`: it hands over one path run after the other, goes on
with what is answered to each, and puts the answers in place of the runs that were accepted.
`replaceRuns?` carries it out with a function that answers each run by itself.
-/

namespace PluginGateway.Path

/-- The marks that end a run besides blanks: quotation, the start of a query or fragment, list and
markup punctuation. -/
def runMarks : List Char :=
  ['"', '\'', '\\', '?', '#', ',', ';', '(', ')', '<', '>', '[', ']', '{', '}']

/-- A run ends before this character. -/
def endsRun (c : Char) : Bool := Text.isBlank c || runMarks.contains c

/-- A part of a text: a longest stretch of characters that end no run, or one character that does.
-/
inductive Piece where
  /-- A longest stretch of characters that end no run. -/
  | run (text : List Char)
  /-- A character that ends a run. -/
  | mark (c : Char)
  deriving DecidableEq

namespace Piece

/-- The characters of the piece. -/
def text : Piece → List Char
  | run text => text
  | mark c => [c]

/-- The piece as a path run: a stretch that holds a slash. -/
def pathRun? : Piece → Option (List Char)
  | run text => if '/' ∈ text then some text else none
  | mark _ => none

end Piece

/-- The text cut into longest stretches and the marks between them. -/
def pieces : List Char → List Piece
  | [] => []
  | c :: rest =>
    if endsRun c then
      .mark c :: pieces rest
    else
      match pieces rest with
      | .run text :: more => .run (c :: text) :: more
      | more => .run [c] :: more

/-- The path runs of a text, from left to right. -/
def pathRuns (text : List Char) : List (List Char) := (pieces text).filterMap Piece.pathRun?

/-- A program that hands over path runs and goes on with what is answered to each: a text to put in
its place, or nothing. -/
abbrev Offering (α : Type) : Type := Program (List Char) (fun _ => Option (List Char)) α

/-- The search through some pieces, with what has been written so far, last character first, and
whether a run was accepted. A path run is handed over, and the answer is written in its place; a run
to which nothing is answered is written as it is, like any other piece. -/
def offeringFrom (written : List Char) (accepted : Bool) :
    List Piece → Offering (Option (List Char))
  | [] => .done (if accepted then some written.reverse else none)
  | p :: rest =>
    match p.pathRun? with
    | none => offeringFrom (p.text.reverse ++ written) accepted rest
    | some run => .ask run fun
      | none => offeringFrom (run.reverse ++ written) accepted rest
      | some answer => offeringFrom (answer.reverse ++ written) true rest

/-- The path runs of a text are handed over, and the accepted ones replaced. -/
def offering (text : List Char) : Offering (Option (List Char)) :=
  offeringFrom [] false (pieces text)

/-- The text with every path run that the function accepts replaced by its answer, or none if it
accepts none of them. -/
def replaceRuns? (f : List Char → Option (List Char)) (text : List Char) : Option (List Char) :=
  ((offering text).run (fun run s => (f run, s)) ()).1

/-- The text with every accepted path run replaced, unchanged if none is accepted. -/
def replaceRuns (f : List Char → Option (List Char)) (text : List Char) : List Char :=
  (replaceRuns? f text).getD text

/-- The pieces of a text, written one after another, are the text. -/
theorem text_pieces (text : List Char) : (pieces text).flatMap Piece.text = text := by
  induction text with
  | nil => rfl
  | cons c rest ih =>
    rw [pieces]
    split
    · simp [Piece.text, ih]
    · split
      · next h => rw [h] at ih; simpa [Piece.text] using ih
      · simp [Piece.text, ih]

end PluginGateway.Path

import PluginGateway.Text.Basic

/-!
# Tables of segment replacements

A table replaces runs of consecutive path segments by other runs. A `Rule` has a source run, which
is never empty, and a target run, which may be. A `Table` keeps its rules with the longer sources
first and, among sources of one length, in the order in which they were given, so that the first
rule matching at a position is the one to apply. `Table.replace?` walks a path from the left: at
each position it applies that rule, goes on behind the run it replaced, and copies a segment where
no rule matches. The tail of the URI stays as it is.
-/

namespace PluginGateway.Path

/-! ## Path segments

A path is read as the list of its segments, the pieces between slashes, empty ones included. A query
or fragment is no part of the path: `beforeTail` and `tail` set it aside, and
`beforeTail_append_tail` says that they lose nothing.
-/

/-- A piece of a path between two slashes. -/
abbrev Segment := List Char

/-- The segments of a path. -/
def segments (path : List Char) : List Segment := Text.split '/' path

/-- The path with the segments given. -/
def joined (path : List Segment) : List Char := Text.join '/' path

/-- The segments of a path that hold at least one character. -/
def properSegments (path : List Char) : List Segment :=
  (segments path).filter fun s => !s.isEmpty

/-- A query or a fragment begins with this character. -/
def opensTail (c : Char) : Bool := c == '?' || c == '#'

/-- The path of a URI, up to its first `?` or `#`. -/
def beforeTail (uri : List Char) : List Char := uri.takeWhile fun c => !opensTail c

/-- The query and fragment of a URI, from its first `?` or `#` on. -/
def tail (uri : List Char) : List Char := uri.dropWhile fun c => !opensTail c

theorem beforeTail_append_tail (uri : List Char) : beforeTail uri ++ tail uri = uri :=
  List.takeWhile_append_dropWhile

/-- A path is put together from its segments. -/
theorem joined_segments (path : List Char) : joined (segments path) = path :=
  Text.join_split '/' path

/-- Slash-free segments are found again in the path put together from them. -/
theorem segments_joined {path : List Segment} (hne : path ≠ []) (h : ∀ s ∈ path, '/' ∉ s) :
    segments (joined path) = path :=
  Text.split_join hne h

/-! ## Tables -/

/-- One replacement: the run `first :: more` of segments becomes `target`. -/
structure Rule where
  /-- The first segment of the source run. -/
  first : Segment
  /-- The other segments of the source run. -/
  more : List Segment
  /-- The run written in its place. -/
  target : List Segment
  deriving DecidableEq

namespace Rule

/-- The run of segments that the rule replaces. -/
def source (r : Rule) : List Segment := r.first :: r.more

/-- The rule for a pair of texts, each cut at its slashes; none if the source has no segment. -/
def ofPair? (pair : List Char × List Char) : Option Rule :=
  match properSegments pair.1 with
  | [] => none
  | first :: more => some ⟨first, more, properSegments pair.2⟩

/-- The rule's source run stands at the head of the list. -/
def Matches (r : Rule) (path : List Segment) : Bool := r.source.isPrefixOf path

theorem source_ne_nil (r : Rule) : r.source ≠ [] := by simp [source]

end Rule

/-- Rules in the order in which they are tried. -/
structure Table where
  /-- The rules, those with longer sources first. -/
  rules : List Rule
  deriving DecidableEq

namespace Table

/-- The rule put before the first rule whose source is not longer. -/
def place (r : Rule) : List Rule → List Rule
  | [] => [r]
  | q :: rest => if q.source.length ≤ r.source.length then r :: q :: rest else q :: place r rest

/-- The table of the given pairs; a pair whose source has no segment is left out. -/
def ofPairs (pairs : List (List Char × List Char)) : Table :=
  ⟨(pairs.filterMap Rule.ofPair?).foldr place []⟩

/-- The table without rules. -/
def empty : Table := ⟨[]⟩

/-- The table has no rule. -/
def isEmpty (t : Table) : Bool := t.rules.isEmpty

/-- The rule to apply at the head of the list, if one matches there. -/
def ruleAt? (t : Table) (path : List Segment) : Option Rule :=
  t.rules.find? fun r => r.Matches path

/-- The segments after the replacements, or none if no rule matched. The number counts the segments
at the head that belong to a run already replaced. -/
def replaceFrom? (t : Table) : Nat → List Segment → Option (List Segment)
  | _, [] => none
  | skip + 1, _ :: rest => replaceFrom? t skip rest
  | 0, s :: rest =>
    match t.ruleAt? (s :: rest) with
    | none => (replaceFrom? t 0 rest).map (s :: ·)
    | some r =>
      some (r.target ++ (replaceFrom? t r.more.length rest).getD (rest.drop r.more.length))

/-- The segments of a whole path after the replacements, or none if no rule matched. -/
def replaceSegments? (t : Table) (path : List Segment) : Option (List Segment) :=
  t.replaceFrom? 0 path

/-- The URI after the replacements in its path, its tail kept, or none if no rule matched. -/
def replace? (t : Table) (uri : List Char) : Option (List Char) :=
  (t.replaceSegments? (segments (beforeTail uri))).map fun path => joined path ++ tail uri

/-- The URI after the replacements in its path, unchanged if no rule matched. -/
def apply (t : Table) (uri : List Char) : List Char := (t.replace? uri).getD uri

end Table

end PluginGateway.Path

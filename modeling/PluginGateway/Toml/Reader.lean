import PluginGateway.Toml.Basic
import PluginGateway.Toml.Word

/-!
# Reading TOML documents

A document is a list of statements, one to a line: headers, and keys with their values.
`statements?` cuts a text into them, and `parse?` builds the table that they describe. A text that
is no TOML document is answered by none.
-/

namespace PluginGateway.Toml

/-- The text without the blanks at its head. -/
def skipBlanks (s : List Char) : List Char := s.dropWhile isLineBlank

/-- A character of a key that needs no marks around it. -/
def isBareKeyChar (c : Char) : Bool := c.isAlphanum || c == '_' || c == '-'

/-- One part of a key and what follows it. -/
def readKeyPart (s : List Char) : Option (String × List Char) :=
  match readLineText? s with
  | some (part, rest) => some (String.ofList part, rest)
  | none =>
    let part := s.takeWhile isBareKeyChar
    if part.isEmpty then none else some (String.ofList part, s.dropWhile isBareKeyChar)

/-- The parts of a key, at most so many, with dots between them, and what follows the blanks behind
the key. -/
def readKeyParts : Nat → List Char → Option (List String × List Char)
  | 0, _ => none
  | limit + 1, s => do
    let (part, rest) ← readKeyPart (skipBlanks s)
    match skipBlanks rest with
    | '.' :: rest =>
      let (parts, rest) ← readKeyParts limit rest
      return (part :: parts, rest)
    | rest => return ([part], rest)

/-- A key and what follows the blanks behind it. -/
def readKey (s : List Char) : Option (List String × List Char) := readKeyParts depthLimit s

/-- The path to a key's table and the last part of the key. -/
def splitKey (parts : List String) : List String × String := (parts.dropLast, parts.getLastD "")

/-- The text without the blanks, comments and line breaks at its head. -/
def skipFiller (s : List Char) : List Char :=
  match s with
  | [] => []
  | '\r' :: '\n' :: rest => skipFiller rest
  | '#' :: rest => skipFiller (rest.dropWhile isTextChar)
  | c :: rest => if isLineBlank c || c == '\n' then skipFiller rest else c :: rest
termination_by s.length
decreasing_by
  · simp only [List.length_cons]; omega
  · have := (List.dropWhile_suffix (l := rest) isTextChar).length_le
    simp only [List.length_cons]
    omega
  · simp only [List.length_cons]; omega

/-- A reader of one kind of thing: the thing and what follows it. -/
abbrev Reading (α : Type) : Type := List Char → Option (α × List Char)

/-- The items of an array whose bracket was read. -/
def readItems (item : Reading Value) (s : List Char) : Option (List Value × List Char) :=
  match skipFiller s with
  | ']' :: rest => some ([], rest)
  | inner =>
    match item inner with
    | none => none
    | some (v, rest) =>
      match skipFiller rest with
      | ']' :: rest => some ([v], rest)
      | ',' :: rest =>
        if rest.length < s.length then
          (readItems item rest).map fun r => (v :: r.1, r.2)
        else none
      | _ => none
termination_by s.length

/-- A key, the equals sign, and a value. -/
def readAssignment (value : Reading Value) : Reading (List String × Value) := fun s =>
  match readKey s with
  | some (key, '=' :: rest) => (value (skipBlanks rest)).map fun r => ((key, r.1), r.2)
  | _ => none

/-- The entries of an inline table, from the first one on. -/
def readEntries (value : Reading Value) (s : List Char) :
    Option (List (List String × Value) × List Char) :=
  match readAssignment value s with
  | none => none
  | some (entry, rest) =>
    match skipBlanks rest with
    | '\x7d' :: rest => some ([entry], rest)
    | ',' :: rest =>
      if rest.length < s.length then
        (readEntries value rest).map fun r => (entry :: r.1, r.2)
      else none
    | _ => none
termination_by s.length

/-- The table of the entries of an inline table. -/
def inlineTable? (entries : List (List String × Value)) : Option Value :=
  (entries.foldlM (fun t e => Tree.assignAlong (splitKey e.1).1 (splitKey e.1).2 e.2 t)
    Tree.emptyTable).map Tree.toValue

/-- A value in which brackets are nested no deeper than the limit. -/
def readValue : Nat → Reading Value
  | limit, '[' :: rest =>
    match limit with
    | 0 => none
    | limit + 1 => (readItems (readValue limit) rest).map fun r => (.array r.1, r.2)
  | limit, '\x7b' :: rest =>
    match limit with
    | 0 => none
    | limit + 1 =>
      match skipBlanks rest with
      | '\x7d' :: rest => some (.table [], rest)
      | rest =>
        match readEntries (readValue limit) rest with
        | none => none
        | some (entries, rest) => (inlineTable? entries).map fun t => (t, rest)
  | _, s =>
    match readText? s with
    | some (text, rest) => some (.text (String.ofList text), rest)
    | none => (Word.value? (Word.take s).1).map fun v => (v, (Word.take s).2)

/-- A line of a document. -/
inductive Statement where
  /-- A header of a table. -/
  | header (key : List String)
  /-- A header of a table within an array of tables. -/
  | itemHeader (key : List String)
  /-- A key with its value. -/
  | assignment (key : List String) (v : Value)

/-- What follows a line that ends here, perhaps with a comment. -/
def afterLine? (s : List Char) : Option (List Char) :=
  let rest := match skipBlanks s with
    | '#' :: rest => rest.dropWhile isTextChar
    | rest => rest
  if rest.isEmpty then some [] else afterBreak? rest

/-- One statement and what follows it on its line. -/
def readStatement : Reading Statement := fun s =>
  match s with
  | '[' :: '[' :: rest =>
    match readKey rest with
    | some (key, ']' :: ']' :: rest) => some (.itemHeader key, rest)
    | _ => none
  | '[' :: rest =>
    match readKey rest with
    | some (key, ']' :: rest) => some (.header key, rest)
    | _ => none
  | s => (readAssignment (readValue depthLimit) s).map fun r => (.assignment r.1.1 r.1.2, r.2)

/-- The statements of a text. -/
def statements? (s : List Char) : Option (List Statement) :=
  match skipFiller s with
  | [] => some []
  | start =>
    match readStatement start with
    | none => none
    | some (statement, rest) =>
      match afterLine? rest with
      | none => none
      | some rest =>
        if rest.length < s.length then (statements? rest).map fun more => statement :: more
        else none
termination_by s.length

/-- A document under construction: what is there so far, and the table that the last header made. -/
structure Draft where
  /-- The document so far. -/
  tree : Tree
  /-- The key of the last header. -/
  current : List String

namespace Draft

/-- The draft of an empty document. -/
def empty : Draft := ⟨.emptyTable, []⟩

/-- The draft with a statement carried out, unless it may not stand here. -/
def add (d : Draft) : Statement → Option Draft
  | .header key =>
    (d.tree.along false (Tree.openTable (splitKey key).2) (splitKey key).1).map fun t => ⟨t, key⟩
  | .itemHeader key =>
    (d.tree.along false (Tree.openItem (splitKey key).2) (splitKey key).1).map fun t => ⟨t, key⟩
  | .assignment key v =>
    (d.tree.along false
      (fun origin entries =>
        Tree.assignAlong (splitKey key).1 (splitKey key).2 v (.table origin entries))
      d.current).map fun t => ⟨t, d.current⟩

end Draft

/-- The table that a document describes; none if the text is no TOML document. -/
def parse? (text : String) : Option (List (String × Value)) :=
  let s := match text.toList with
    | '\ufeff' :: rest => rest
    | s => s
  match statements? s with
  | none => none
  | some statements =>
    match statements.foldlM Draft.add Draft.empty with
    | some ⟨.table _ entries, _⟩ => some (Tree.entryValues entries)
    | _ => none

end PluginGateway.Toml

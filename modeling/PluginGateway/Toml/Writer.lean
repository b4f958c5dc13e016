import PluginGateway.Text.Basic
import PluginGateway.Toml.Text

/-!
# Writing TOML documents

A document is written with one header for each table, the values of a table below its header and its
tables behind it, and an empty line between two tables. A table that holds nothing but tables needs
no header of its own. Strings and keys are written in the plainest form that can hold them.
-/

namespace PluginGateway.Toml

/-- The length of the longest stretch of a character. -/
def longestRun (mark : Char) : List Char → Nat → Nat
  | [], current => current
  | c :: rest, current =>
    if c == mark then longestRun mark rest (current + 1) else max current (longestRun mark rest 0)

/-- A control character that only an escape can write, the tab and the line feed apart. -/
def needsEscape (c : Char) : Bool :=
  (c.toNat < 32 && c != '\t' && c != '\n') || c.toNat == 127

/-- What a string holds, as far as its written form depends on it. -/
structure Traits where
  /-- A control character. -/
  control : Bool
  /-- A backslash. -/
  backslash : Bool
  /-- A line feed. -/
  lineFeed : Bool
  /-- The longest stretch of quotation marks. -/
  quotes : Nat
  /-- The longest stretch of apostrophes. -/
  apostrophes : Nat

/-- The traits of a string. -/
def traitsOf (s : List Char) : Traits where
  control := s.any needsEscape
  backslash := s.contains '\\'
  lineFeed := s.contains '\n'
  quotes := longestRun '"' s 0
  apostrophes := longestRun '\'' s 0

/-- A character between quotation marks. -/
def escaped (c : Char) : List Char :=
  match c with
  | '"' => ['\\', '"']
  | '\\' => ['\\', '\\']
  | '\x08' => ['\\', 'b']
  | '\t' => ['\\', 't']
  | '\n' => ['\\', 'n']
  | '\x0c' => ['\\', 'f']
  | '\r' => ['\\', 'r']
  | c =>
    if needsEscape c then
      ['\\', 'u', '0', '0', (Nat.digitChar (c.toNat / 16)).toUpper,
        (Nat.digitChar (c.toNat % 16)).toUpper]
    else [c]

/-- The characters between three quotation marks; `marks` of them stand directly before. Line feeds
stay, and of three marks in a row the third is escaped. -/
def escapedLines : Nat → List Char → List Char
  | _, [] => []
  | marks, '"' :: rest =>
    if marks < 2 then '"' :: escapedLines (marks + 1) rest else '\\' :: '"' :: escapedLines 0 rest
  | _, '\n' :: rest => '\n' :: escapedLines 0 rest
  | _, c :: rest => escaped c ++ escapedLines 0 rest

/-- A string between quotation marks. -/
def basicText (s : List Char) : List Char := '"' :: s.flatMap escaped ++ ['"']

/-- A string between apostrophes. -/
def literalText (s : List Char) : List Char := '\'' :: s ++ ['\'']

/-- The line break with which a string of several lines begins. -/
def leadBreak (t : Traits) : List Char := if t.lineFeed then ['\n'] else []

/-- A string between three quotation marks. -/
def multiBasicText (s : List Char) : List Char :=
  "\"\"\"".toList ++ leadBreak (traitsOf s) ++ escapedLines 0 s ++ "\"\"\"".toList

/-- A string between three apostrophes. -/
def multiLiteralText (s : List Char) : List Char :=
  "'''".toList ++ leadBreak (traitsOf s) ++ s ++ "'''".toList

/-- A string in the plainest form that can hold it. -/
def writtenText (s : List Char) : List Char :=
  let t := traitsOf s
  if !t.control && !t.backslash && t.quotes == 0 && !t.lineFeed then basicText s
  else if !t.control && t.apostrophes == 0 && !t.lineFeed then literalText s
  else if !t.control && !t.backslash && t.quotes ≤ 2 then multiBasicText s
  else if !t.control && t.apostrophes ≤ 2 then multiLiteralText s
  else if t.lineFeed then multiBasicText s
  else basicText s

/-- A part of a key in the plainest form that can hold it. -/
def writtenKey (key : String) : List Char :=
  let s := key.toList
  let t := traitsOf s
  if !s.isEmpty && s.all fun c => c.isAlphanum || c == '_' || c == '-' then s
  else if !t.control && !t.lineFeed && !t.backslash && t.quotes == 0 then basicText s
  else if !t.control && !t.lineFeed && t.apostrophes == 0 then literalText s
  else basicText s

mutual

/-- A value on one line. -/
def writtenValue : Value → List Char
  | .text s => writtenText s.toList
  | .integer n => (toString n).toList
  | .float x => x.pointed.toList
  | .flag b => (toString b).toList
  | .moment m => m.toList
  | .array items => '[' :: writtenItems items ++ [']']
  | .table entries => "\x7b ".toList ++ writtenEntries entries ++ " \x7d".toList

/-- Items separated by commas. -/
def writtenItems : List Value → List Char
  | [] => []
  | [v] => writtenValue v
  | v :: w :: rest => writtenValue v ++ ", ".toList ++ writtenItems (w :: rest)

/-- Entries separated by commas. -/
def writtenEntries : List (String × Value) → List Char
  | [] => []
  | [(key, v)] => writtenKey key ++ " = ".toList ++ writtenValue v
  | (key, v) :: e :: rest =>
    writtenKey key ++ " = ".toList ++ writtenValue v ++ ", ".toList ++ writtenEntries (e :: rest)

end

/-- The value is a table. -/
def Value.isTable : Value → Bool
  | .table _ => true
  | _ => false

/-- The lines of the values of a table. -/
def valueLines (entries : List (String × Value)) : List (List Char) :=
  (entries.filter fun e => !e.2.isTable).map fun e =>
    writtenKey e.1 ++ " = ".toList ++ writtenValue e.2

/-- A header. -/
def writtenHeader (path : List String) : List Char :=
  '[' :: Text.join '.' (path.map writtenKey) ++ [']']

/-- The lines of a table without those of the tables in it. A table that holds nothing but tables
has none, nor has the document an own header. -/
def ownLines (path : List String) (entries : List (String × Value)) : List (List Char) :=
  if path.isEmpty then valueLines entries
  else if !entries.isEmpty && entries.all fun e => e.2.isTable then []
  else writtenHeader path :: valueLines entries

mutual

/-- The blocks of lines of a table at a path and the tables in it. -/
def blocks (path : List String) : Value → List (List (List Char))
  | .table entries => ownLines path entries :: entryBlocks path entries
  | _ => []

/-- The blocks of lines of the tables among some entries. -/
def entryBlocks (path : List String) : List (String × Value) → List (List (List Char))
  | [] => []
  | (key, v) :: rest => blocks (path ++ [key]) v ++ entryBlocks path rest

end

/-- A document in writing. -/
def written (entries : List (String × Value)) : String :=
  let parts := ((blocks [] (.table entries)).filter fun b => !b.isEmpty).map fun b =>
    b.flatMap fun line => line ++ ['\n']
  String.ofList (Text.join '\n' parts)

end PluginGateway.Toml

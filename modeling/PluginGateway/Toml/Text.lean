import PluginGateway.Text.Basic
import PluginGateway.Toml.Basic

/-!
# Strings in TOML

Strings come in four forms. Between quotation marks escapes are read; between apostrophes every
character stands for itself. Either form may span lines, between three marks. Each reader begins
behind the opening mark and answers the contents and what follows the closing mark, or none where
the text is no string. A line break is read as a line feed, however it is written.
-/

namespace PluginGateway.Toml

/-- A character that a comment or a string may hold besides line breaks: no control but the tab. -/
def isTextChar (c : Char) : Bool := c == '\t' || (32 ≤ c.toNat && c.toNat != 127)

/-- The number that a fixed count of hexadecimal digits spells, and what follows them. -/
def readHex : Nat → Nat → List Char → Option (Nat × List Char)
  | 0, n, rest => some (n, rest)
  | _ + 1, _, [] => none
  | count + 1, n, c :: rest => (Text.hexValue? c).bind fun d => readHex count (16 * n + d) rest

/-- The character of a code point given in hexadecimal digits. -/
def readCodePoint (count : Nat) (s : List Char) : Option (Char × List Char) :=
  match readHex count 0 s with
  | some (n, rest) => if n.isValidChar then some (Char.ofNat n, rest) else none
  | none => none

/-- The character of an escape whose backslash was read. -/
def readEscape : List Char → Option (Char × List Char)
  | 'b' :: rest => some ('\x08', rest)
  | 't' :: rest => some ('\t', rest)
  | 'n' :: rest => some ('\n', rest)
  | 'f' :: rest => some ('\x0c', rest)
  | 'r' :: rest => some ('\r', rest)
  | '"' :: rest => some ('"', rest)
  | '\\' :: rest => some ('\\', rest)
  | 'u' :: rest => readCodePoint 4 rest
  | 'U' :: rest => readCodePoint 8 rest
  | _ => none

/-- A string between quotation marks on one line. -/
def readBasic : List Char → Option (List Char × List Char)
  | [] => none
  | '"' :: rest => some ([], rest)
  | '\\' :: rest =>
    match readEscape rest with
    | none => none
    | some (c, after) =>
      if after.length ≤ rest.length then (readBasic after).map fun r => (c :: r.1, r.2) else none
  | c :: rest => if isTextChar c then (readBasic rest).map fun r => (c :: r.1, r.2) else none
termination_by s => s.length

/-- A string between apostrophes on one line. -/
def readLiteral : List Char → Option (List Char × List Char)
  | [] => none
  | '\'' :: rest => some ([], rest)
  | c :: rest => if isTextChar c then (readLiteral rest).map fun r => (c :: r.1, r.2) else none

/-- A blank within a line. -/
def isLineBlank (c : Char) : Bool := c == ' ' || c == '\t'

/-- What follows a line break at the head of a text. -/
def afterBreak? : List Char → Option (List Char)
  | '\n' :: rest => some rest
  | '\r' :: '\n' :: rest => some rest
  | _ => none

/-- The text without the blanks and line breaks at its head. -/
def skipSpace : List Char → List Char
  | '\r' :: '\n' :: rest => skipSpace rest
  | c :: rest => if isLineBlank c || c == '\n' then skipSpace rest else c :: rest
  | [] => []

/-- The text behind a break that a backslash hides, if one follows. -/
def hiddenBreak? (s : List Char) : Option (List Char) :=
  (afterBreak? (s.dropWhile isLineBlank)).map skipSpace

/-- The marks that belong to the contents where a string ends with more than three of them. -/
def closingMarks (mark : Char) (s : List Char) : List Char × List Char :=
  let extra := min 2 (s.takeWhile (· == mark)).length
  (s.take extra, s.drop extra)

/-- A string between three quotation marks. -/
def readMultiBasic : List Char → Option (List Char × List Char)
  | [] => none
  | '"' :: '"' :: '"' :: rest => some (closingMarks '"' rest)
  | '\\' :: rest =>
    match hiddenBreak? rest with
    | some after => if after.length ≤ rest.length then readMultiBasic after else none
    | none =>
      match readEscape rest with
      | none => none
      | some (c, after) =>
        if after.length ≤ rest.length then (readMultiBasic after).map fun r => (c :: r.1, r.2)
        else none
  | '\r' :: '\n' :: rest => (readMultiBasic rest).map fun r => ('\n' :: r.1, r.2)
  | c :: rest =>
    if isTextChar c || c == '\n' then (readMultiBasic rest).map fun r => (c :: r.1, r.2) else none
termination_by s => s.length

/-- A string between three apostrophes. -/
def readMultiLiteral : List Char → Option (List Char × List Char)
  | [] => none
  | '\'' :: '\'' :: '\'' :: rest => some (closingMarks '\'' rest)
  | '\r' :: '\n' :: rest => (readMultiLiteral rest).map fun r => ('\n' :: r.1, r.2)
  | c :: rest =>
    if isTextChar c || c == '\n' then (readMultiLiteral rest).map fun r => (c :: r.1, r.2)
    else none

/-- A text without a line break at its head. -/
def dropBreak (s : List Char) : List Char := (afterBreak? s).getD s

/-- A string on one line, from its opening mark on. -/
def readLineText? : List Char → Option (List Char × List Char)
  | '"' :: rest => readBasic rest
  | '\'' :: rest => readLiteral rest
  | _ => none

/-- A string in any form, from its opening mark on. -/
def readText? : List Char → Option (List Char × List Char)
  | '"' :: '"' :: '"' :: rest => readMultiBasic (dropBreak rest)
  | '\'' :: '\'' :: '\'' :: rest => readMultiLiteral (dropBreak rest)
  | s => readLineText? s

end PluginGateway.Toml

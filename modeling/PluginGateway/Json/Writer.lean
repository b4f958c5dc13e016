import PluginGateway.Json.Basic
import PluginGateway.Number.Shortest

/-!
# Writing JSON documents

`compact` writes a document without blanks; `pretty` puts every item and field on a line of its own,
indented by two blanks for each level. Strings escape the quotation mark, the backslash and control
characters, and nothing else; a double is written with the fewest digits that read back, and always
with a point or an exponent.
-/

namespace PluginGateway.Json

/-- A tie goes to the even digit, doubles from `1e-5` up to `1e16` are written positionally, and an
integer ends in `.0`. -/
def doubleLayout : DecimalLayout := ⟨.toEven, -5, 16, ".0".toList⟩

/-- A hexadecimal digit. -/
def hexDigit (n : Nat) : Char := Nat.digitChar n

/-- A character as it stands in a string. -/
def escaped (c : Char) : List Char :=
  match c with
  | '"' => ['\\', '"']
  | '\\' => ['\\', '\\']
  | '\x08' => ['\\', 'b']
  | '\x0c' => ['\\', 'f']
  | '\n' => ['\\', 'n']
  | '\r' => ['\\', 'r']
  | '\t' => ['\\', 't']
  | c =>
    if c.toNat < 0x20 then
      ['\\', 'u', '0', '0', hexDigit (c.toNat / 16), hexDigit (c.toNat % 16)]
    else [c]

/-- A string between quotation marks. -/
def quoted (s : List Char) : List Char := '"' :: s.flatMap escaped ++ ['"']

/-- A number. -/
def Number.written : Json.Number → List Char
  | .natural n => Nat.toDigits 10 n
  | .negative n => '-' :: Nat.toDigits 10 n
  | .double x => x.written doubleLayout

mutual

/-- A document without blanks. -/
def compactChars : Json → List Char
  | null => "null".toList
  | bool true => "true".toList
  | bool false => "false".toList
  | number n => n.written
  | string s => quoted s.toList
  | array items => '[' :: compactItems items ++ [']']
  | object fields => '{' :: compactFields fields ++ ['}']

/-- Items separated by commas. -/
def compactItems : List Json → List Char
  | [] => []
  | [v] => compactChars v
  | v :: w :: rest => compactChars v ++ ',' :: compactItems (w :: rest)

/-- Fields separated by commas. -/
def compactFields : List (String × Json) → List Char
  | [] => []
  | [(k, v)] => quoted k.toList ++ ':' :: compactChars v
  | (k, v) :: f :: rest =>
    quoted k.toList ++ ':' :: compactChars v ++ ',' :: compactFields (f :: rest)

end

/-- A new line, indented to a level. -/
def newLine (level : Nat) : List Char := '\n' :: List.replicate (2 * level) ' '

mutual

/-- A document with every item and field on a line of its own, from a level of indentation on. -/
def prettyChars (level : Nat) : Json → List Char
  | array [] => ['[', ']']
  | array (v :: rest) => '[' :: prettyItems (level + 1) (v :: rest) ++ newLine level ++ [']']
  | object [] => ['{', '}']
  | object (f :: rest) => '{' :: prettyFields (level + 1) (f :: rest) ++ newLine level ++ ['}']
  | null => "null".toList
  | bool true => "true".toList
  | bool false => "false".toList
  | number n => n.written
  | string s => quoted s.toList

/-- Items on lines of their own. -/
def prettyItems (level : Nat) : List Json → List Char
  | [] => []
  | [v] => newLine level ++ prettyChars level v
  | v :: w :: rest => newLine level ++ prettyChars level v ++ ',' :: prettyItems level (w :: rest)

/-- Fields on lines of their own. -/
def prettyFields (level : Nat) : List (String × Json) → List Char
  | [] => []
  | [(k, v)] => newLine level ++ quoted k.toList ++ ':' :: ' ' :: prettyChars level v
  | (k, v) :: f :: rest =>
    newLine level ++ quoted k.toList ++ ':' :: ' ' :: prettyChars level v
      ++ ',' :: prettyFields level (f :: rest)

end

/-- A document without blanks. -/
def compact (v : Json) : String := String.ofList (compactChars v)

/-- A document laid out on lines. -/
def pretty (v : Json) : String := String.ofList (prettyChars 0 v)

end PluginGateway.Json

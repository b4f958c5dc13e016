import PluginGateway.Config.Setting
import PluginGateway.Text.Basic
import PluginGateway.Toml.Text

/-!
# Settings from the environment

A variable whose name begins with `REDFLY_`, in letters of any case, overrides the setting that the
rest of its name leads to: two underscores or a point lead into a table, letters count as small
ones, and blanks at either end do not count. Its value is read as a truth value, a number, a quoted
text, a list or a table, where it is one as a whole, and as the text that it is otherwise.
-/

namespace PluginGateway

/-- The variables of a process with their values. -/
abbrev Environment : Type := List (String × String)

namespace Environment

/-- A blank between the parts of a value. -/
def isSpace (c : Char) : Bool := c == ' ' || c == '\t' || c == '\n' || c == '\x0c' || c == '\r'

/-- The text without the blanks at its head. -/
def skipSpace (s : List Char) : List Char := s.dropWhile isSpace

/-- A character at which a plain value ends. -/
def isSeparator (c : Char) : Bool := [',', '\x7b', '\x7d', '[', ']'].contains c

/-- A character of a key in a table. -/
def isKeyChar (c : Char) : Bool := c.isAlphanum || c == '_' || c == '-'

/-- The natural number that some digits spell, perhaps with a plus sign. -/
def natural? (s : List Char) : Option Nat :=
  let digits := match s with
    | '+' :: rest => rest
    | s => s
  let n := DecimalText.digitsValue digits
  if !digits.isEmpty && digits.all Char.isDigit && n < Nat.pow 2 64 then some n else none

/-- The integer that some digits with a minus sign spell. -/
def negative? : List Char → Option Int
  | '-' :: digits =>
    let n := DecimalText.digitsValue digits
    if !digits.isEmpty && digits.all Char.isDigit && n ≤ Nat.pow 2 63 then some (-(n : Int))
    else none
  | _ => none

/-- The number that a numeral with a point spells. -/
def float? (s : List Char) : Option Double :=
  let (negative, magnitude) := DecimalText.splitSign s
  match DecimalText.ofChars? Char.isDigit magnitude with
  | some d =>
    match d.fraction with
    | some fraction =>
      if d.whole.isEmpty && fraction.isEmpty then none else some (d.value negative)
    | none => none
  | none => none

/-- The setting that a plain value stands for. -/
def plain (s : List Char) : Setting :=
  match float? s, natural? s, negative? s with
  | some x, _, _ => .float x
  | none, some n, _ => .unsigned n
  | none, none, some n => .signed n
  | none, none, none => .text (String.ofList s)

/-- A reader of one kind of thing: the thing and what follows it. -/
abbrev Reading (α : Type) : Type := List Char → Option (α × List Char)

/-- Things with commas between them, up to a closing bracket; a comma may stand behind the last. -/
def readUntil {α : Type} (close : Char) (item : Reading α) (s : List Char) :
    Option (List α × List Char) :=
  if s.head? = some close then some ([], s.tail)
  else
    match item s with
    | some (a, ',' :: rest) =>
      if rest.length < s.length then
        (readUntil close item rest).map fun r => (a :: r.1, r.2)
      else none
    | some (a, c :: rest) => if c = close then some ([a], rest) else none
    | _ => none
termination_by s.length

/-- A key in marks, or one of letters, figures, hyphens and underscores. -/
def readKey : Reading (List Char)
  | '"' :: rest => Toml.readBasic rest
  | s =>
    let key := s.takeWhile isKeyChar
    if key.isEmpty then none else some (key, s.dropWhile isKeyChar)

/-- A key, the equals sign, and a value. -/
def readEntry (value : Reading Setting) : Reading (String × Setting) := fun s =>
  (readKey (skipSpace s)).bind fun (key, rest) =>
    match skipSpace rest with
    | '=' :: rest => (value rest).map fun r => ((String.ofList key, r.1), r.2)
    | _ => none

/-- The text behind a word, if it begins with the word. -/
def behind? (word : String) (s : List Char) : Option (List Char) :=
  if word.toList.isPrefixOf s then some (s.drop word.toList.length) else none

/-- A value that is neither in brackets nor in marks. -/
def readBare (s : List Char) : Setting × List Char :=
  match behind? "true" s, behind? "false" s with
  | some rest, _ => (.flag true, rest)
  | none, some rest => (.flag false, rest)
  | none, none =>
    (plain (Text.trim (s.takeWhile fun c => !isSeparator c)), s.dropWhile fun c => !isSeparator c)

/-- A value with the blanks around it; brackets are nested no deeper than the limit. -/
def readValue : Nat → Reading Setting
  | 0, _ => none
  | limit + 1, s =>
    let result : Option (Setting × List Char) := match skipSpace s with
      | '\x7b' :: rest =>
        (readUntil '\x7d' (readEntry (readValue limit)) rest).map fun r =>
          (Setting.ofEntries r.1, r.2)
      | '[' :: rest => (readUntil ']' (readValue limit) rest).map fun r => (.list r.1, r.2)
      | '"' :: rest => (Toml.readBasic rest).map fun r => (.text (String.ofList r.1), r.2)
      | '\'' :: c :: '\'' :: rest => some (.text (String.ofList [c]), rest)
      | '\'' :: _ => none
      | rest => some (readBare rest)
    result.map fun r => (r.1, skipSpace r.2)

/-- The setting that a value stands for. -/
def valueOf (text : String) : Setting :=
  match readValue (text.toList.length + 1) text.toList with
  | some (s, []) => s
  | _ => .text text

/-- How the names of the variables that override settings begin. -/
def marker : List Char := "REDFLY_".toList

/-- The text with dots in place of each two underscores. -/
def dotted : List Char → List Char
  | '_' :: '_' :: rest => '.' :: dotted rest
  | c :: rest => c :: dotted rest
  | [] => []

/-- The keys that lead to the setting that a variable overrides, if it overrides one. A name in
which a key is empty leads nowhere. -/
def path? (name : String) : Option (List String) :=
  let name := Text.trim name.toList
  if Text.sameIgnoringCase (name.take marker.length) marker then
    let keys := Text.split '.' (Text.lowerAscii (Text.trim (dotted (name.drop marker.length))))
    if keys.any List.isEmpty then none else some (keys.map String.ofList)
  else none

/-- A setting behind the keys that lead to it. -/
def nested : List String → Setting → Setting
  | [], s => s
  | key :: path, s => .table [(key, nested path s)]

/-- The settings of the environment. -/
def settings (env : Environment) : Setting :=
  env.foldl (fun s v =>
    match path? v.1 with
    | some path => s.merge (nested path (valueOf v.2))
    | none => s) (.table [])

/-- The value of a variable. -/
def get? (env : Environment) (name : String) : Option String := env.lookup name

end Environment

end PluginGateway

import PluginGateway.Text.Composition
import PluginGateway.Text.Direction
import PluginGateway.Text.Property
import PluginGateway.Url.Mapping
import PluginGateway.Url.Punycode

/-!
# Domain names

A domain name is brought to a form in ASCII. Its characters are replaced by those they stand for and
composed, the full stops among them part it into labels, and each label is written in ASCII. The
processing is that of internationalized domain names in which the length and the hyphens of a label
do not matter.
-/

namespace PluginGateway.Url

/-! ## Labels of a domain name

A label of a domain name has two forms: the characters that it shows, and the form in ASCII in which
it is written. They differ where a character is not in ASCII; such a label is written in Punycode
behind `xn--`. A label that begins so has to be in Punycode, and what it stands for has to be what
the processing of a domain name could have produced.

No label begins with a mark, and the two invisible joiners stand only where a script needs them. In
a domain name with characters written from right to left, every label keeps to one direction.
-/

/-- A label of a domain name. -/
structure Label where
  /-- The characters that the label shows. -/
  shown : List Char
  /-- The form in ASCII. -/
  written : List Char
  deriving DecidableEq, Repr

namespace Label

/-! ### Characters -/

/-- Characters that a domain name may not hold, besides blanks and controls. -/
def forbiddenMarks : List Char :=
  ['%', '#', '/', ':', '<', '>', '?', '@', '[', '\\', ']', '^', '|']

/-- A label may not hold this character of ASCII. -/
def isForbidden (c : Char) : Bool :=
  c.toNat ≤ 0x20 || c == '\x7f' || forbiddenMarks.contains c

/-- The character is one of ASCII. -/
def isAscii (c : Char) : Bool := decide (c.toNat < 0x80)

/-! ### Joiners -/

/-- The joiner and the non-joiner, which leave no mark of their own. -/
def isJoiner (c : Char) : Bool := c == '\u200c' || c == '\u200d'

/-- The first character that counts between letters satisfies a condition. -/
def meets (p : Nat → Bool) (s : List Char) : Bool :=
  match s.dropWhile fun c => Text.isTransparent c.toNat with
  | c :: _ => p c.toNat
  | [] => false

/-- A joiner may stand behind a virama, and a non-joiner also between two letters that would join.
The characters in front come last one first. -/
def joinerFits (before : List Char) (joiner : Char) (behind : List Char) : Bool :=
  match before with
  | [] => false
  | c :: _ =>
    Text.combiningClass c.toNat == 9 ||
      (joiner == '\u200c' && meets Text.joinsNext before && meets Text.joinsPrevious behind)

/-- Every joiner may stand where it stands; the characters in front come last one first. -/
def joinersFit : List Char → List Char → Bool
  | _, [] => true
  | before, c :: behind =>
    (!isJoiner c || joinerFits before c behind) && joinersFit (c :: before) behind

/-! ### Validity -/

/-- How many characters a label beyond ASCII may have. -/
def longest : Nat := 1000

/-- The label does not begin with a mark, its joiners fit, and it is not too long. -/
def isValid (s : List Char) : Bool :=
  !(s.head?.any fun c => Text.isMark c.toNat) && joinersFit [] s && s.length ≤ longest

/-- How many characters may stand behind `xn--`. -/
def longestCode : Nat := 2000

/-- What `xn--` with a code behind it stands for. -/
def decoded? (code : List Char) : Option (List Char) :=
  if code.getLast?.all (· == '-') || longestCode < code.length || !code.all isAscii then none
  else
    (Punycode.decode? code).filter fun s =>
      s.all (fun c => mapped? c == some [c]) && Text.composed s == s && isValid s

/-- How a label in Punycode begins. -/
def punycodeMark : List Char := "xn--".toList

/-- The label that characters in their final form make up. -/
def ofChars? (s : List Char) : Option Label :=
  if s.any isForbidden then none
  else if punycodeMark.isPrefixOf s then
    (decoded? (s.drop punycodeMark.length)).map fun shown => ⟨shown, s⟩
  else if s.all isAscii then some ⟨s, s⟩
  else if isValid s then some ⟨s, punycodeMark ++ Punycode.encode s⟩
  else none

/-! ### Direction -/

/-- Some character of the label is written from right to left. -/
def hasRightward (l : Label) : Bool := l.shown.any fun c => Text.isRightward c.toNat

/-- Directions that may occur in a label that begins with a letter from left to right. -/
def fitsLeft : Text.Direction → Bool
  | .left | .europeanNumber | .neutral | .mark => true
  | _ => false

/-- Directions that may occur in a label that begins with a letter from right to left. -/
def fitsRight : Text.Direction → Bool
  | .right | .arabicNumber | .europeanNumber | .neutral | .mark => true
  | _ => false

/-- Directions at which a label may end, marks apart, if it begins with one of the letters. -/
def fitsEnd (first : Text.Direction) : Text.Direction → Bool
  | .left => first = .left
  | .right | .arabicNumber => first = .right
  | .europeanNumber => true
  | _ => false

/-- The directions of a label, the last one first, behind that of its first character. -/
def keepsFrom (first : Text.Direction) (back : List Text.Direction) : Bool :=
  match back.dropWhile (· == .mark) with
  | [] => true
  | last :: rest =>
    fitsEnd first last && rest.all (if first = .left then fitsLeft else fitsRight) &&
      !((last :: rest).contains .arabicNumber && (last :: rest).contains .europeanNumber)

/-- The label keeps to the direction of its first letter. A number in it is of one kind. -/
def keepsDirection (l : Label) : Bool :=
  match l.shown.map fun c => Text.directionOf c.toNat with
  | [] => true
  | first :: rest => (first == .left || first == .right) && keepsFrom first rest.reverse

end Label

end PluginGateway.Url

namespace PluginGateway.Url.Domain

/-! ## Domain names -/

/-- The labels of a domain name, if it has only such labels. -/
def labels? (domain : List Char) : Option (List Label) := do
  let characters ← domain.mapM mapped?
  (Text.split '.' (Text.composed characters.flatten)).mapM Label.ofChars?

/-- In a domain name with a character written from right to left every label keeps its direction. -/
def keepsDirection (labels : List Label) : Bool :=
  !labels.any Label.hasRightward || labels.all Label.keepsDirection

/-- The form of a domain name in ASCII. -/
def toAscii? (domain : List Char) : Option (List Char) :=
  ((labels? domain).filter keepsDirection).map fun labels =>
    Text.join '.' (labels.map Label.written)

end PluginGateway.Url.Domain

import PluginGateway.Text.Basic
import PluginGateway.Text.Utf8

/-!
# Percent encoding

A character that a part of a URL may not hold is written as the bytes of its UTF-8 form, each as a
percent sign and two hexadecimal digits. Which characters these are depends on the part: the sets
grow from `inControls` to `inUserinfo`, and every set holds all characters beyond ASCII.
-/

namespace PluginGateway.Url

/-- Characters encoded everywhere: controls and whatever is not ASCII. -/
def inControls (c : Char) : Bool := c.toNat < 0x20 || 0x7F ≤ c.toNat

/-- Characters encoded in a fragment. -/
def inFragment (c : Char) : Bool := inControls c || [' ', '"', '<', '>', '\x60'].contains c

/-- Characters encoded in a query. -/
def inQuery (c : Char) : Bool := inControls c || [' ', '"', '#', '<', '>'].contains c

/-- Characters encoded in the query of a scheme with a host. -/
def inSpecialQuery (c : Char) : Bool := inQuery c || c == '\''

/-- Characters encoded in a path. -/
def inPath (c : Char) : Bool := inFragment c || ['#', '?', '{', '}'].contains c

/-- Characters encoded in a user name or password. -/
def inUserinfo (c : Char) : Bool :=
  inPath c || ['/', ':', ';', '=', '@', '[', '\\', ']', '^', '|'].contains c

/-- A hexadecimal digit in upper case. -/
def upperHexDigit (n : Nat) : Char := (Nat.digitChar n).toUpper

/-- A byte as a percent sign and two digits. -/
def encodeByte (b : UInt8) : List Char :=
  ['%', upperHexDigit (b.toNat / 16), upperHexDigit (b.toNat % 16)]

/-- A character, encoded if the set holds it. -/
def encodeChar (inSet : Char → Bool) (c : Char) : List Char :=
  if inSet c then (String.ofList [c]).toUTF8.data.toList.flatMap encodeByte else [c]

/-- A text with the characters of the set encoded. -/
def encode (inSet : Char → Bool) (s : List Char) : List Char := s.flatMap (encodeChar inSet)

/-- The bytes of a text in which a percent sign with two digits behind it stands for a byte. -/
def decodeBytes : List Char → List UInt8
  | '%' :: a :: b :: rest =>
    match Text.hexValue? a, Text.hexValue? b with
    | some x, some y => (x * 16 + y).toUInt8 :: decodeBytes rest
    | _, _ => '%'.toNat.toUInt8 :: decodeBytes (a :: b :: rest)
  | c :: rest => (String.ofList [c]).toUTF8.data.toList ++ decodeBytes rest
  | [] => []

/-- The text that the decoded bytes spell, if they spell one. -/
def decode? (s : List Char) : Option (List Char) :=
  (String.fromUTF8? ⟨(decodeBytes s).toArray⟩).map String.toList

end PluginGateway.Url

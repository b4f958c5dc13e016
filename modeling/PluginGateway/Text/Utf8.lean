/-!
# Decoding UTF-8

A byte string may fail to be the UTF-8 form of a text. `lossy` reads any byte string as a text, with
the replacement character in place of each longest stretch of bytes that begins a character and does
not finish it; a byte string that is a text is read as that text. `fault?` finds the first place
where a byte string stops being a text.
-/

namespace PluginGateway.Text

/-- What the bytes at the head of a byte string are. -/
inductive Scalar where
  /-- A character with this code point, and the bytes behind it. -/
  | char (codePoint : Nat) (rest : List UInt8)
  /-- Bytes that cannot be continued to a character, and the bytes behind them. -/
  | bad (rest : List UInt8)
  /-- The beginning of a character that the end of the byte string cuts off. -/
  | cut

/-- The bytes behind the first one of a character: `need` more of them, the first between `low` and
`high`, the others between `0x80` and `0xBF`. -/
def readContinuation : Nat → Nat → Nat → Nat → List UInt8 → Scalar
  | 0, _, _, acc, rest => .char acc rest
  | _ + 1, _, _, _, [] => .cut
  | need + 1, low, high, acc, b :: rest =>
    if low ≤ b.toNat ∧ b.toNat ≤ high then
      readContinuation need 0x80 0xBF (acc * 64 + b.toNat % 64) rest
    else .bad (b :: rest)

/-- The character that begins with the byte `b`. -/
def readScalar (b : UInt8) (rest : List UInt8) : Scalar :=
  let n := b.toNat
  if n < 0x80 then .char n rest
  else if n < 0xC2 then .bad rest
  else if n < 0xE0 then readContinuation 1 0x80 0xBF (n % 32) rest
  else if n = 0xE0 then readContinuation 2 0xA0 0xBF 0 rest
  else if n = 0xED then readContinuation 2 0x80 0x9F 13 rest
  else if n < 0xF0 then readContinuation 2 0x80 0xBF (n % 16) rest
  else if n = 0xF0 then readContinuation 3 0x90 0xBF 0 rest
  else if n < 0xF4 then readContinuation 3 0x80 0xBF (n % 8) rest
  else if n = 0xF4 then readContinuation 3 0x80 0x8F 4 rest
  else .bad rest

/-- The bytes behind the head of a byte string. -/
def Scalar.rest : Scalar → List UInt8
  | char _ rest => rest
  | bad rest => rest
  | cut => []

theorem readContinuation_length (need low high acc : Nat) (s : List UInt8) :
    (readContinuation need low high acc s).rest.length ≤ s.length := by
  induction need generalizing low high acc s with
  | zero => simp [readContinuation, Scalar.rest]
  | succ need ih =>
    cases s with
    | nil => simp [readContinuation, Scalar.rest]
    | cons b s =>
      rw [readContinuation]
      split
      · exact Nat.le_succ_of_le (ih _ _ _ _)
      · simp [Scalar.rest]

theorem readScalar_length (b : UInt8) (s : List UInt8) :
    (readScalar b s).rest.length ≤ s.length := by
  simp only [readScalar]
  repeat' split
  all_goals first
    | exact readContinuation_length _ _ _ _ _
    | simp [Scalar.rest]

/-- The character written where bytes are no character. -/
def replacement : Char := '\ufffd'

/-- The character of what stands at the head of a byte string. -/
def Scalar.toChar : Scalar → Char
  | char n _ => Char.ofNat n
  | _ => replacement

/-- The characters of any bytes. -/
def lossyChars (bytes : List UInt8) : List Char :=
  match bytes with
  | [] => []
  | b :: rest => (readScalar b rest).toChar :: lossyChars (readScalar b rest).rest
termination_by bytes.length
decreasing_by
  have := readScalar_length b rest
  simp only [List.length_cons]
  omega

/-- The text of any byte string. -/
def lossy (bytes : ByteArray) : String :=
  match String.fromUTF8? bytes with
  | some text => text
  | none => String.ofList (lossyChars bytes.data.toList)

/-- A text is found in its bytes. -/
theorem fromUTF8?_toUTF8 (text : String) : String.fromUTF8? text.toUTF8 = some text := by
  unfold String.fromUTF8?
  exact dif_pos text.isValidUTF8

/-- Bytes that are read as a text are the bytes of that text. -/
theorem toUTF8_of_fromUTF8? {bytes : ByteArray} {text : String}
    (h : String.fromUTF8? bytes = some text) : bytes = text.toUTF8 := by
  unfold String.fromUTF8? at h
  split at h
  · next hvalid =>
    obtain rfl := Option.some.inj h
    rfl
  · cases h

/-- The first place where a byte string stops being a text. -/
structure Utf8Fault where
  /-- How many bytes stand before it. -/
  index : Nat
  /-- How many bytes are no character; none if the byte string ends within a character. -/
  length : Option Nat

/-- The first fault of some bytes, of which `index` bytes were found sound. -/
def faultFrom? (index : Nat) (bytes : List UInt8) : Option Utf8Fault :=
  match bytes with
  | [] => none
  | b :: rest =>
    match readScalar b rest, readScalar_length b rest with
    | .char _ left, _ => faultFrom? (index + (rest.length + 1 - left.length)) left
    | .bad left, _ => some ⟨index, some (rest.length + 1 - left.length)⟩
    | .cut, _ => some ⟨index, none⟩
termination_by bytes.length
decreasing_by
  simp only [Scalar.rest] at *
  simp only [List.length_cons]
  omega

/-- The first fault of a byte string. -/
def fault? (bytes : ByteArray) : Option Utf8Fault := faultFrom? 0 bytes.data.toList

/-- The wording of a fault. -/
def Utf8Fault.message (f : Utf8Fault) : String :=
  match f.length with
  | some n =>
    "invalid utf-8 sequence of " ++ toString n ++ " bytes from index " ++ toString f.index
  | none => "incomplete utf-8 byte sequence from index " ++ toString f.index

/-- The text of a byte string, or the fault that it is none. -/
def decode (bytes : ByteArray) : Except Utf8Fault String :=
  match String.fromUTF8? bytes with
  | some text => .ok text
  | none => .error ((fault? bytes).getD ⟨0, none⟩)

end PluginGateway.Text

import PluginGateway.Keyed
import PluginGateway.Json.Token

/-!
# Reading JSON documents

A document is read by going through its tokens once. `Reader.step` takes one lexeme in a `State`:
the arrays and objects that are open, innermost first, and what may come next. Reading fails at the
first lexeme that may not come, and no more than `depthLimit` arrays and objects may be open at
once.

`parse` reads a text and `parseBytes` a byte string. Where a text is refused, the place is counted
in bytes: the fault is looked for again in the image of the text that has one character for each
byte.
-/

namespace PluginGateway.Json

/-- How many arrays and objects may be open at once. -/
def depthLimit : Nat := 127

/-- An array or object whose end was not yet seen. -/
inductive Frame where
  /-- An array with the items read so far, the last one first. -/
  | array (items : List Json)
  /-- An object with the fields read so far and the key whose value is being read. -/
  | object (fields : List (String × Json)) (key : String)

/-- What may come next. -/
inductive Expectation where
  /-- A value. -/
  | value
  /-- A value, as the first item of an array, or the array's end. -/
  | firstItem
  /-- A value, as an item behind a comma. -/
  | nextItem
  /-- A key, or the end of the object. -/
  | firstKey
  /-- A key behind a comma, in an object with the fields given. -/
  | nextKey (fields : List (String × Json))
  /-- The colon behind a key. -/
  | colon (fields : List (String × Json)) (key : String)
  /-- What follows a value: a comma, the end of an array or object, or the end of the text. -/
  | afterValue (v : Json)

/-- A place within a document. -/
structure State where
  /-- The open arrays and objects, innermost first. -/
  frames : List Frame
  /-- What may come next. -/
  expect : Expectation

namespace State

/-- The beginning of a document. -/
def start : State := ⟨[], .value⟩

/-- A value was read. -/
def done (s : State) (v : Json) : State := { s with expect := .afterValue v }

/-- A token where a value may stand: a scalar is the value, a bracket opens an array or object. -/
def onValue (s : State) (t : Token) : Except Fault State :=
  match t with
  | .null => .ok (s.done .null)
  | .bool b => .ok (s.done (.bool b))
  | .number n => .ok (s.done (.number n))
  | .string cs => .ok (s.done (.string (String.ofList cs)))
  | .openArray =>
    if s.frames.length < depthLimit then .ok ⟨.array [] :: s.frames, .firstItem⟩
    else .error .tooDeep
  | .openObject =>
    if s.frames.length < depthLimit then .ok ⟨.object [] "" :: s.frames, .firstKey⟩
    else .error .tooDeep
  | _ => .error .expectedValue

/-- A token behind a value, within the frames given. -/
def onAfterValue (frames : List Frame) (v : Json) (t : Token) : Except Fault State :=
  match frames, t with
  | [], _ => .error .trailingCharacters
  | .array items :: outer, .closeArray => .ok ⟨outer, .afterValue (.array (v :: items).reverse)⟩
  | .array items :: outer, .comma => .ok ⟨.array (v :: items) :: outer, .nextItem⟩
  | .array _ :: _, _ => .error .expectedCommaOrBracket
  | .object fields key :: outer, .closeObject =>
    .ok ⟨outer, .afterValue (.object (Keyed.put key v fields))⟩
  | .object fields key :: outer, .comma => .ok ⟨outer, .nextKey (Keyed.put key v fields)⟩
  | .object _ _ :: _, _ => .error .expectedCommaOrBrace

/-- One token further, or the fault that the token may not come here. -/
def onToken (s : State) (t : Token) : Except Fault State :=
  match s.expect with
  | .value => s.onValue t
  | .firstItem =>
    match t with
    | .closeArray => .ok ⟨s.frames.drop 1, .afterValue (.array [])⟩
    | t => s.onValue t
  | .nextItem =>
    match t with
    | .closeArray => .error .trailingComma
    | t => s.onValue t
  | .firstKey =>
    match t with
    | .closeObject => .ok ⟨s.frames.drop 1, .afterValue (.object [])⟩
    | .string cs => .ok ⟨s.frames.drop 1, .colon [] (String.ofList cs)⟩
    | _ => .error .keyNotString
  | .nextKey fields =>
    match t with
    | .closeObject => .error .trailingComma
    | .string cs => .ok ⟨s.frames, .colon fields (String.ofList cs)⟩
    | _ => .error .keyNotString
  | .colon fields key =>
    match t with
    | .colon => .ok ⟨.object fields key :: s.frames, .value⟩
    | _ => .error .expectedColon
  | .afterValue v => onAfterValue s.frames v t

/-- The fault of characters that are no token, given what is wrong with them: where a value or a key
may not stand, it is their presence; a key that is no string is a fault as such. -/
def onBroken (s : State) (quoted : Bool) (f : Fault) : Option Fault :=
  match s.expect with
  | .value | .firstItem | .nextItem => some f
  | .firstKey | .nextKey _ => if quoted then some f else none
  | .colon _ _ | .afterValue _ => none

/-- The fault of a lexeme that may not come here, whatever it is. -/
def misplaced (s : State) : Fault :=
  match s.expect with
  | .value | .firstItem | .nextItem => .expectedValue
  | .firstKey | .nextKey _ => .keyNotString
  | .colon _ _ => .expectedColon
  | .afterValue _ =>
    match s.frames with
    | [] => .trailingCharacters
    | .array _ :: _ => .expectedCommaOrBracket
    | .object _ _ :: _ => .expectedCommaOrBrace

/-- The document, or the fault that the text ends here. -/
def onEnd (s : State) : Except Fault Json :=
  match s.expect with
  | .value | .nextItem | .nextKey _ => .error .endInValue
  | .firstItem => .error .endInArray
  | .firstKey | .colon _ _ => .error .endInObject
  | .afterValue v =>
    match s.frames with
    | [] => .ok v
    | .array _ :: _ => .error .endInArray
    | .object _ _ :: _ => .error .endInObject

end State

/-- A fault begins inside a string. -/
def Fault.isOfString : Fault → Bool
  | .endInString | .invalidEscape | .endOfHexEscape | .loneSurrogate | .controlCharacter
  | .invalidUnicode => true
  | _ => false

/-- The document that the lexemes spell from a state on, or a fault and the number of characters
left where it was noticed. -/
def ofLexemes : State → List Lexeme → Except (Fault × Nat) Json
  | s, [] =>
    match s.onEnd with
    | .ok v => .ok v
    | .error f => .error (f, 0)
  | s, .broken f left stop :: _ =>
    match s.onBroken f.isOfString f with
    | some f => .error (f, stop)
    | none => .error (s.misplaced, left - 1)
  | s, .token t left :: rest =>
    match s.onToken t with
    | .ok s => ofLexemes s rest
    | .error f => .error (f, left - 1)

/-- The document that a list of characters spells. -/
def ofChars (sound : List Char → Bool) (s : List Char) : Except (Fault × Nat) Json :=
  ofLexemes .start (lexemes sound s)

/-- One character for each byte. -/
def byteImage (bytes : ByteArray) : List Char := bytes.data.toList.map fun b => Char.ofNat b.toNat

/-- The bytes of an image spell a text. -/
def soundImage (image : List Char) : Bool :=
  (String.fromUTF8? ⟨(image.map fun c => c.toNat.toUInt8).toArray⟩).isSome

/-- The line and column reached when `left` of the bytes are left. -/
def placeOf (image : List Char) (left : Nat) : Nat × Nat :=
  let seen := image.take (image.length - left)
  (1 + seen.count '\n', (seen.reverse.takeWhile (· ≠ '\n')).length)

/-- The fault of a byte string, with its place. -/
def faultOf (bytes : ByteArray) : SyntaxError :=
  let image := byteImage bytes
  match ofChars soundImage image with
  | .ok _ => ⟨.expectedValue, 1, 0⟩
  | .error (f, left) => ⟨f, (placeOf image left).1, (placeOf image left).2⟩

/-- The document of a text. -/
def parse (text : String) : Except SyntaxError Json :=
  match ofChars (fun _ => true) text.toList with
  | .ok v => .ok v
  | .error _ => .error (faultOf text.toUTF8)

/-- The document of a byte string. -/
def parseBytes (bytes : ByteArray) : Except SyntaxError Json :=
  match String.fromUTF8? bytes with
  | some text => parse text
  | none => .error (faultOf bytes)

end PluginGateway.Json

import PluginGateway.Json.Scan

/-!
# The tokens of a JSON text

`lexemes` cuts a text into tokens, each with the number of characters that were left where it began.
Where no token can be read the list ends with a `broken` lexeme, which remembers the fault and where
reading stopped. Nothing is said here about the order of tokens.
-/

namespace PluginGateway.Json

/-- A token of a JSON text. -/
inductive Token where
  | openObject
  | closeObject
  | openArray
  | closeArray
  | colon
  | comma
  | null
  | bool (b : Bool)
  | number (n : Json.Number)
  | string (s : List Char)
  deriving DecidableEq, Repr

/-- A token with its place, or the place where no token could be read. Places are counted in
characters left. -/
inductive Lexeme where
  /-- A token that begins where `left` characters are left. -/
  | token (t : Token) (left : Nat)
  /-- Characters that begin where `left` are left and are no token; reading stopped at `stop`. -/
  | broken (fault : Fault) (left stop : Nat)
  deriving DecidableEq, Repr

/-- The blanks between tokens. -/
def isBlank (c : Char) : Bool := c == ' ' || c == '\n' || c == '\t' || c == '\r'

/-- The rest of a literal whose first letter was read. -/
def readLiteral (t : Token) : List Char → List Char → Reading Token
  | [], s => .ok (t, s)
  | _ :: _, [] => .error (.endInValue, [])
  | c :: more, d :: rest =>
    if c = d then readLiteral t more rest else .error (.expectedLiteral, rest)

/-- The string token whose opening quotation mark was read. The characters between the marks have to
be `sound`. -/
def readStringToken (sound : List Char → Bool) (s : List Char) : Reading Token :=
  match readString s with
  | .error e => .error e
  | .ok (contents, rest) =>
    if sound (s.take (s.length - rest.length - 1)) then .ok (.string contents, rest)
    else .error (.invalidUnicode, rest)

/-- The token that begins with the character `c`, which the characters `rest` follow. -/
def readToken (sound : List Char → Bool) (c : Char) (rest : List Char) : Reading Token :=
  match c with
  | '{' => .ok (.openObject, rest)
  | '}' => .ok (.closeObject, rest)
  | '[' => .ok (.openArray, rest)
  | ']' => .ok (.closeArray, rest)
  | ':' => .ok (.colon, rest)
  | ',' => .ok (.comma, rest)
  | 'n' => readLiteral .null "ull".toList rest
  | 't' => readLiteral (.bool true) "rue".toList rest
  | 'f' => readLiteral (.bool false) "alse".toList rest
  | '"' => readStringToken sound rest
  | '-' => (readNumber true rest).map fun r => (.number r.1, r.2)
  | _ =>
    if c.isDigit then (readNumber false (c :: rest)).map fun r => (.number r.1, r.2)
    else .error (.expectedValue, rest)

theorem readLiteral_length {t u : Token} {word s rest : List Char}
    (h : readLiteral t word s = .ok (u, rest)) : rest.length ≤ s.length := by
  induction word generalizing s with
  | nil =>
    simp only [readLiteral, Except.ok.injEq, Prod.mk.injEq] at h
    simp [h.2]
  | cons c more ih =>
    cases s with
    | nil => simp [readLiteral] at h
    | cons d s =>
      simp only [readLiteral] at h
      split at h
      · exact Nat.le_succ_of_le (ih h)
      · simp at h

theorem readStringToken_length {sound : List Char → Bool} {s rest : List Char} {t : Token}
    (h : readStringToken sound s = .ok (t, rest)) : rest.length < s.length := by
  unfold readStringToken at h
  split at h
  · simp at h
  · next hx =>
    have := readString_length hx
    split at h
    · simp only [Except.ok.injEq, Prod.mk.injEq] at h
      obtain ⟨-, rfl⟩ := h
      exact this
    · simp at h

theorem readToken_length {sound : List Char → Bool} {c : Char} {s rest : List Char} {t : Token}
    (h : readToken sound c s = .ok (t, rest)) : rest.length ≤ s.length := by
  unfold readToken at h
  split at h
  case h_7 | h_8 | h_9 => exact readLiteral_length h
  case h_10 => exact Nat.le_of_lt (readStringToken_length h)
  case h_11 =>
    cases hn : readNumber true s with
    | error e => simp [hn, Except.map] at h
    | ok r =>
      obtain ⟨x, left⟩ := r
      have := readNumber_length hn
      simp only [hn, Except.map, Except.ok.injEq, Prod.mk.injEq] at h
      obtain ⟨-, rfl⟩ := h
      omega
  case h_12 =>
    split at h
    · cases hn : readNumber false (c :: s) with
      | error e => simp [hn, Except.map] at h
      | ok r =>
        obtain ⟨x, left⟩ := r
        have := readNumber_length hn
        simp only [hn, Except.map, Except.ok.injEq, Prod.mk.injEq] at h
        obtain ⟨-, rfl⟩ := h
        simp only [List.length_cons] at this
        omega
    · simp at h
  all_goals
    simp only [Except.ok.injEq, Prod.mk.injEq] at h
    obtain ⟨-, rfl⟩ := h
    exact Nat.le_refl _

/-- The text cut into tokens, up to its end or to the first place where no token can be read. -/
def lexemes (sound : List Char → Bool) (s : List Char) : List Lexeme :=
  match s with
  | [] => []
  | c :: rest =>
    if isBlank c then lexemes sound rest
    else
      match h : readToken sound c rest with
      | .error (f, unread) => [.broken f (rest.length + 1) unread.length]
      | .ok (t, left) => .token t (rest.length + 1) :: lexemes sound left
termination_by s.length
decreasing_by
  · simp
  · have := readToken_length h
    simp only [List.length_cons]
    omega

end PluginGateway.Json

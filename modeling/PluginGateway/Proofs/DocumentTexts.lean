import PluginGateway.Proofs.Respelled

/-!
# The texts in a document

A document holds texts: its strings and the keys of its objects, at any depth. `EveryText` says of a
property that all of them have it. The main statement, `everyText_of_parse`, is about documents
without escapes: there every text stands between two quotation marks, as it is.
-/

namespace PluginGateway.Json

/-- The strings of the value and the keys of its objects have the property, at any depth. -/
inductive EveryText (P : String → Prop) : Json → Prop
  /-- The literal `null`. -/
  | null : EveryText P .null
  /-- A truth value. -/
  | bool (b : Bool) : EveryText P (.bool b)
  /-- A number. -/
  | number (n : Json.Number) : EveryText P (.number n)
  /-- A string with the property. -/
  | string (t : String) (h : P t) : EveryText P (.string t)
  /-- A list of values whose texts have the property. -/
  | array (items : List Json) (h : ∀ v ∈ items, EveryText P v) : EveryText P (.array items)
  /-- Fields whose keys have the property, as have the texts of their values. -/
  | object (fields : List (String × Json)) (hkeys : ∀ field ∈ fields, P field.1)
    (h : ∀ field ∈ fields, EveryText P field.2) : EveryText P (.object fields)

/-- The texts read so far in an open array or object have the property. -/
def Frame.EveryText (P : String → Prop) : Frame → Prop
  | .array items => Json.EveryText P (.array items)
  | .object fields key => Json.EveryText P (.object fields) ∧ P key

/-- The texts in what was read last have the property. -/
def Expectation.EveryText (P : String → Prop) : Expectation → Prop
  | .nextKey fields => Json.EveryText P (.object fields)
  | .colon fields key => Json.EveryText P (.object fields) ∧ P key
  | .afterValue v => Json.EveryText P v
  | _ => True

/-- The texts read so far have the property. -/
structure State.EveryText (P : String → Prop) (s : State) : Prop where
  /-- Those in the open arrays and objects. -/
  frames : ∀ f ∈ s.frames, f.EveryText P
  /-- Those in what was read last. -/
  expect : s.expect.EveryText P

section Reader

variable {P : String → Prop}

/-! ## The reader of documents -/

/-- An array without items has no texts. -/
lemma everyText_array_nil : EveryText P (.array []) := .array [] nofun

/-- An object without fields has no texts. -/
lemma everyText_object_nil : EveryText P (.object []) := .object [] nofun nofun

/-- A field put among others has the texts of its key and of its value. -/
lemma everyText_put {key : String} (hkey : P key) {v : Json} (hv : EveryText P v)
    {fields : List (String × Json)} (h : EveryText P (.object fields)) :
    EveryText P (.object (Keyed.put key v fields)) := by
  obtain ⟨hkeys, hvalues⟩ :
      (∀ field ∈ fields, P field.1) ∧ ∀ field ∈ fields, EveryText P field.2 := by
    cases h with
    | object _ hkeys hvalues => exact ⟨hkeys, hvalues⟩
  refine .object _ (fun field hfield => ?_) fun field hfield => ?_
  · rcases Keyed.mem_of_mem_put hfield with rfl | hfield
    · exact hkey
    · exact hkeys field hfield
  · rcases Keyed.mem_of_mem_put hfield with rfl | hfield
    · exact hv
    · exact hvalues field hfield

/-- An item put in front of others, the last one first. -/
lemma everyText_items_cons {v : Json} (hv : EveryText P v) {items : List Json}
    (h : EveryText P (.array items)) : EveryText P (.array (v :: items)) := by
  cases h with
  | array _ hitems => exact .array _ (List.forall_mem_cons.mpr ⟨hv, hitems⟩)

/-- Items in another order. -/
lemma everyText_items_reverse {items : List Json} (h : EveryText P (.array items)) :
    EveryText P (.array items.reverse) := by
  cases h with
  | array _ hitems => exact .array _ fun v hv => hitems v (List.mem_reverse.mp hv)

/-- A token where a value may stand brings no text but its own. An object that was just opened has
the empty text for a key. -/
lemma State.EveryText.onValue (hempty : P "") {s s' : State} (hs : s.EveryText P) {t : Token}
    (ht : ∀ cs, t = .string cs → P (String.ofList cs)) (h : s.onValue t = .ok s') :
    s'.EveryText P := by
  cases t with
  | null => cases h; exact ⟨hs.frames, .null⟩
  | bool b => cases h; exact ⟨hs.frames, .bool b⟩
  | number n => cases h; exact ⟨hs.frames, .number n⟩
  | string cs => cases h; exact ⟨hs.frames, .string _ (ht cs rfl)⟩
  | openArray =>
    simp only [State.onValue] at h
    split at h
    · cases h
      exact ⟨List.forall_mem_cons.mpr ⟨everyText_array_nil, hs.frames⟩, trivial⟩
    · cases h
  | openObject =>
    simp only [State.onValue] at h
    split at h
    · cases h
      exact ⟨List.forall_mem_cons.mpr ⟨⟨everyText_object_nil, hempty⟩, hs.frames⟩, trivial⟩
    · cases h
  | closeObject => cases h
  | closeArray => cases h
  | colon => cases h
  | comma => cases h

/-- A token behind a value brings no text. -/
lemma everyText_onAfterValue {frames : List Frame} (hframes : ∀ f ∈ frames, f.EveryText P)
    {v : Json} (hv : EveryText P v) {t : Token} {s' : State}
    (h : State.onAfterValue frames v t = .ok s') : s'.EveryText P := by
  cases frames with
  | nil => cases h
  | cons frame outer =>
    obtain ⟨hframe, houter⟩ := List.forall_mem_cons.mp hframes
    cases frame with
    | array items =>
      cases t with
      | closeArray =>
        cases h
        exact ⟨houter, everyText_items_reverse (everyText_items_cons hv hframe)⟩
      | comma =>
        cases h
        exact ⟨List.forall_mem_cons.mpr ⟨everyText_items_cons hv hframe, houter⟩, trivial⟩
      | _ => cases h
    | object fields key =>
      obtain ⟨hfields, hkey⟩ := hframe
      cases t with
      | closeObject =>
        cases h
        exact ⟨houter, everyText_put hkey hv hfields⟩
      | comma =>
        cases h
        exact ⟨houter, everyText_put hkey hv hfields⟩
      | _ => cases h

/-- A token brings no text but its own. -/
lemma State.EveryText.onToken (hempty : P "") {s s' : State} (hs : s.EveryText P) {t : Token}
    (ht : ∀ cs, t = .string cs → P (String.ofList cs)) (h : s.onToken t = .ok s') :
    s'.EveryText P := by
  obtain ⟨frames, expect⟩ := s
  obtain ⟨hframes, hexpect⟩ := hs
  have hdrop : ∀ f ∈ frames.drop 1, f.EveryText P := fun f hf =>
    hframes f (List.mem_of_mem_drop hf)
  cases expect with
  | value => exact State.EveryText.onValue hempty ⟨hframes, trivial⟩ ht h
  | firstItem =>
    cases t with
    | closeArray => cases h; exact ⟨hdrop, everyText_array_nil⟩
    | _ => exact State.EveryText.onValue hempty ⟨hframes, trivial⟩ ht h
  | nextItem =>
    cases t with
    | closeArray => cases h
    | _ => exact State.EveryText.onValue hempty ⟨hframes, trivial⟩ ht h
  | firstKey =>
    cases t with
    | closeObject => cases h; exact ⟨hdrop, everyText_object_nil⟩
    | string cs => cases h; exact ⟨hdrop, everyText_object_nil, ht cs rfl⟩
    | _ => cases h
  | nextKey fields =>
    cases t with
    | string cs => cases h; exact ⟨hframes, hexpect, ht cs rfl⟩
    | _ => cases h
  | colon fields key =>
    cases t with
    | colon => cases h; exact ⟨List.forall_mem_cons.mpr ⟨hexpect, hframes⟩, trivial⟩
    | _ => cases h
  | afterValue v => exact everyText_onAfterValue hframes hexpect h

/-- A document has no texts but those that were read. -/
lemma State.EveryText.onEnd {s : State} (hs : s.EveryText P) {v : Json} (h : s.onEnd = .ok v) :
    Json.EveryText P v := by
  obtain ⟨frames, expect⟩ := s
  cases expect with
  | afterValue v' =>
    simp only [State.onEnd] at h
    split at h <;> cases h
    exact hs.expect
  | _ => cases h

/-- A document has no texts but those of its tokens. -/
theorem everyText_of_ofLexemes (hempty : P "") {s : State} (hs : s.EveryText P) {ls : List Lexeme}
    (hls : ∀ cs left, .token (.string cs) left ∈ ls → P (String.ofList cs)) {v : Json}
    (h : ofLexemes s ls = .ok v) : EveryText P v := by
  induction ls generalizing s with
  | nil =>
    rw [ofLexemes] at h
    split at h
    · next hend => cases h; exact hs.onEnd hend
    · cases h
  | cons l ls ih =>
    cases l with
    | broken fault left stop =>
      rw [ofLexemes] at h
      split at h <;> cases h
    | token t left =>
      cases hstep : s.onToken t with
      | error fault => simp [ofLexemes, hstep] at h
      | ok s₁ =>
        simp only [ofLexemes, hstep] at h
        refine ih (hs.onToken hempty (fun cs ht => ?_) hstep) (fun cs left hmem => ?_) h
        · exact hls cs left (ht ▸ List.mem_cons_self)
        · exact hls cs left (List.mem_cons_of_mem _ hmem)

end Reader

/-! ## Texts without escapes -/

/-- A string without escapes is read as it is. -/
lemma readString_of_no_escape {raw : List Char} (h : Content raw) (hescape : '\\' ∉ raw)
    (rest : List Char) : readString (raw ++ '"' :: rest) = .ok (raw, rest) := by
  induction h with
  | nil => rw [List.nil_append, readString]
  | unescaped c hc _ ih =>
    exact readString_unescaped hc (ih fun hmem => hescape (List.mem_cons_of_mem c hmem))
  | letter c hc _ _ => exact absurd List.mem_cons_self hescape
  | codePoint digits n hhex hn _ _ => exact absurd List.mem_cons_self hescape
  | pair high low n m hhigh hlow hn hm _ _ => exact absurd List.mem_cons_self hescape

/-- A literal is read as the token that it is for. -/
lemma eq_of_readLiteral {t u : Token} {word s left : List Char}
    (h : readLiteral t word s = .ok (u, left)) : u = t := by
  induction word generalizing s with
  | nil => cases h; rfl
  | cons c more ih =>
    cases s with
    | nil => cases h
    | cons d rest =>
      rw [readLiteral] at h
      split at h
      · exact ih h
      · cases h

/-- A number is read as a number. -/
lemma isNumber_of_map {reading : Reading Json.Number} {t : Token} {left : List Char}
    (h : (reading.map fun r => (Token.number r.1, r.2)) = .ok (t, left)) : ∃ n, t = .number n := by
  cases reading with
  | error fault => cases h
  | ok r => cases h; exact ⟨r.1, rfl⟩

/-- A string begins with a quotation mark. -/
lemma eq_quote_of_readToken {sound : List Char → Bool} {c : Char} {rest cs left : List Char}
    (h : readToken sound c rest = .ok (.string cs, left)) : c = '"' := by
  unfold readToken at h
  split at h
  case h_10 => rfl
  case h_7 | h_8 | h_9 => cases eq_of_readLiteral h
  case h_11 =>
    obtain ⟨n, hn⟩ := isNumber_of_map h
    cases hn
  case h_12 =>
    split at h
    · obtain ⟨n, hn⟩ := isNumber_of_map h
      cases hn
    · cases h
  all_goals cases h

/-- The text stands between two quotation marks. -/
def Quoted (text cs : List Char) : Prop :=
  ∃ before after, text = before ++ '"' :: (cs ++ '"' :: after)

/-- What stands between two quotation marks of a text stands there in a longer text, too. -/
lemma Quoted.append {text cs : List Char} (h : Quoted text cs) (front : List Char) :
    Quoted (front ++ text) cs := by
  obtain ⟨before, after, rfl⟩ := h
  exact ⟨front ++ before, after, by rw [List.append_assoc]⟩

/-- In a text without escapes that is made of tokens, the contents of every string stand between two
quotation marks. -/
lemma quoted_of_mem_lexemes {text : List Char} (h : none ∉ outline text) (hescape : '\\' ∉ text)
    {cs : List Char} {left : Nat}
    (hmem : .token (.string cs) left ∈ lexemes (fun _ => true) text) : Quoted text cs := by
  refine outline_induction (motive := fun text => '\\' ∉ text →
    .token (.string cs) left ∈ lexemes (fun _ => true) text → Quoted text cs)
    ?nil ?blank ?string ?token h hescape hmem
  case nil =>
    intro _ hmem
    rw [lexemes] at hmem
    cases hmem
  case blank =>
    intro c rest hc ih hescape hmem
    rw [lexemes, if_pos hc] at hmem
    exact (ih (fun h => hescape (List.mem_cons_of_mem c h)) hmem).append [c]
  case string =>
    intro raw rest hraw ih hescape hmem
    have hread : readToken (fun _ => true) '"' (raw ++ '"' :: rest) = .ok (.string raw, rest) := by
      rw [readToken_quote, readString_of_no_escape hraw fun h => hescape (by simp [h])]
      rfl
    rw [lexemes_token (by decide) hread] at hmem
    rcases List.mem_cons.mp hmem with hfirst | hlater
    · cases hfirst
      exact ⟨[], rest, rfl⟩
    · have hquoted := (ih (fun h => hescape (by simp [h])) hlater).append ('"' :: (raw ++ ['"']))
      simpa using hquoted
  case token =>
    intro c taken rest t hc hout hsame ih hescape hmem
    rw [lexemes_token hc (hsame rest rfl)] at hmem
    rcases List.mem_cons.mp hmem with hfirst | hlater
    · cases hfirst
      have hquote : c = '"' := eq_quote_of_readToken (hsame rest rfl)
      exact absurd hquote (hout c List.mem_cons_self).1
    · exact (ih (fun h => hescape (by simp [h])) hlater).append (c :: taken)

/-- In a document without escapes, a property that the empty text has, and everything that stands
between two quotation marks, is one that all texts of the document have. -/
theorem everyText_of_parse {P : String → Prop} (hempty : P "") {text : String}
    (hescape : '\\' ∉ text.toList)
    (hquoted : ∀ cs, Quoted text.toList cs → P (String.ofList cs)) {v : Json}
    (h : parse text = .ok v) : EveryText P v := by
  have hlexemes := parse_eq_ok.mp h
  refine everyText_of_ofLexemes hempty (s := .start) ⟨nofun, trivial⟩ (fun cs left hmem => ?_)
    hlexemes
  exact hquoted cs (quoted_of_mem_lexemes (none_not_mem_of_ofLexemes hlexemes) hescape hmem)

end PluginGateway.Json

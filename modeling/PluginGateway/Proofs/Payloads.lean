import PluginGateway.Keyed
import PluginGateway.Proofs.Results
import PluginGateway.Resource.Payload

/-!
# Which documents are payloads

A payload is described by its properties: `Accepts` says which fields make one up, and `document`
which document they come to. `Spells` says which fields a JSON value spells: an object its own, and
an array those that pair the properties with its items in order of declaration. Nothing of this
mentions how a document is read, nor the faults of one that is refused.

The main statement, `check_eq_ok_iff`, says that the documents that are accepted are those that
spell a payload, and that each is answered by the document of its fields; `posts_self` says that
such a document is accepted again and comes to itself.
-/

namespace PluginGateway

namespace PropertyKind

/-- A value is one for a property of the kind. -/
inductive Fits : PropertyKind → Json → Prop
  /-- A string that must be given. -/
  | requiredText (s : String) : Fits .requiredText (.string s)
  /-- A string that may be left out. -/
  | optionalText (s : String) : Fits .optionalText (.string s)
  /-- A string that may be left out is null. -/
  | null : Fits .optionalText .null
  /-- A truth value. -/
  | flag (b : Bool) : Fits .flag (.bool b)

end PropertyKind

namespace Payload

/-- The value given, unless it is null. -/
def nonNull : Json → Option Json
  | .null => none
  | v => some v

/-- The value that is passed on for a property, of the value given: a null counts as left out, and
a truth value that is left out is true. -/
def passedOn (kind : PropertyKind) : Option Json → Option Json
  | some v => nonNull v
  | none => if kind = .flag then some (.bool true) else none

/-- The properties of a payload with their kinds, in order of declaration. -/
abbrev Properties : Type := List (String × PropertyKind)

/-- Fields make up a payload. -/
structure Accepts (properties : Properties) (fields : List (String × Json)) : Prop where
  /-- Every field is a property and has a value for it. -/
  fits : ∀ name v, (name, v) ∈ fields → ∃ kind, (name, kind) ∈ properties ∧ kind.Fits v
  /-- Every property that must be given is. -/
  required : ∀ name, (name, .requiredText) ∈ properties → ∃ v, (name, v) ∈ fields

/-- The fields that a JSON value spells. -/
inductive Spells (properties : Properties) : Json → List (String × Json) → Prop
  /-- An object spells its own. -/
  | object (fields : List (String × Json)) : Spells properties (.object fields) fields
  /-- The items of an array are the values of the properties in order of declaration; trailing
  properties may be left out. -/
  | array (items : List Json) (hlength : items.length ≤ properties.length) :
    Spells properties (.array items) ((properties.map Prod.fst).zip items)

/-- The document that fields come to: their values in order of declaration. -/
def document (properties : Properties) (fields : List (String × Json)) : Json :=
  .object (properties.filterMap fun p =>
    (passedOn p.2 (fields.lookup p.1)).map fun v => (p.1, v))

/-- A JSON value is a payload, and comes to a document. -/
def Posts (properties : Properties) (v posted : Json) : Prop :=
  ∃ fields, Spells properties v fields ∧ Accepts properties fields ∧
    posted = document properties fields

/-! ## Single properties -/

/-- A value is read for a property exactly if it is one for it. -/
lemma readProperty_eq_ok_iff {kind : PropertyKind} {v : Json} {value : Option Json} :
    readProperty kind v = .ok value ↔ kind.Fits v ∧ value = nonNull v := by
  constructor
  · intro h
    cases kind <;> cases v <;> cases h <;> exact ⟨by constructor, rfl⟩
  · rintro ⟨hfits, rfl⟩
    cases hfits <;> rfl

/-- A property may be left out exactly if it is no string that must be given. -/
lemma absentProperty_eq_ok_iff {kind : PropertyKind} {fault : PayloadFault}
    {value : Option Json} :
    absentProperty kind fault = .ok value ↔
      kind ≠ .requiredText ∧ value = passedOn kind none := by
  cases kind <;> simp [absentProperty, passedOn, eq_comm]

section Values

variable {kind : PropertyKind} {v? : Option Json} (hfits : ∀ v, v? = some v → kind.Fits v)

include hfits

/-- What is passed on for a property is passed on again. -/
lemma passedOn_passedOn : passedOn kind (passedOn kind v?) = passedOn kind v? := by
  cases v? with
  | none => cases kind <;> rfl
  | some v => cases hfits v rfl <;> rfl

/-- What is passed on for a property is a value for it. -/
lemma fits_of_passedOn {w : Json} (h : passedOn kind v? = some w) : kind.Fits w := by
  cases v? with
  | none =>
    cases kind with
    | requiredText => cases h
    | optionalText => cases h
    | flag =>
      cases h
      exact .flag true
  | some v =>
    have hv : kind.Fits v := hfits v rfl
    have hsame : nonNull v = some w := h
    unfold nonNull at hsame
    split at hsame
    · cases hsame
    · exact Option.some.inj hsame ▸ hv

end Values

/-! ## Objects -/

/-- The fields of an object are read exactly if each is a property with a value for it. -/
lemma readFields_eq_ok_iff {shape : PayloadShape} (hnames : (shape.properties.map Prod.fst).Nodup)
    {fields : List (String × Json)} {given : List (String × Option Json)} :
    readFields shape fields = .ok given ↔
      (∀ name v, (name, v) ∈ fields → ∃ kind, (name, kind) ∈ shape.properties ∧ kind.Fits v) ∧
        given = fields.map fun f => (f.1, nonNull f.2) := by
  induction fields generalizing given with
  | nil => simp [readFields, eq_comm]
  | cons f rest ih =>
    obtain ⟨name, v⟩ := f
    have hcons : readFields shape ((name, v) :: rest) = .ok given ↔
        (∃ kind, shape.properties.lookup name = some kind ∧ kind.Fits v) ∧
          ∃ more, readFields shape rest = .ok more ∧ given = (name, nonNull v) :: more := by
      rw [readFields]
      cases shape.properties.lookup name with
      | none => simp
      | some kind =>
        simp only [bind_eq_ok_iff, readProperty_eq_ok_iff, pure, Except.pure, Except.ok.injEq,
          Option.some.injEq, exists_eq_left']
        constructor
        · rintro ⟨value, ⟨hfits, rfl⟩, more, hmore, rfl⟩
          exact ⟨hfits, more, hmore, rfl⟩
        · rintro ⟨hfits, more, hmore, rfl⟩
          exact ⟨_, ⟨hfits, rfl⟩, more, hmore, rfl⟩
    simp only [hcons, Keyed.lookup_eq_some_iff hnames, ih, List.map_cons]
    constructor
    · rintro ⟨hfits, more, ⟨hrest, rfl⟩, rfl⟩
      refine ⟨?_, rfl⟩
      intro name' v' hmem
      rcases List.mem_cons.mp hmem with heq | hmem
      · cases heq
        exact hfits
      · exact hrest name' v' hmem
    · rintro ⟨hall, rfl⟩
      refine ⟨hall name v List.mem_cons_self, _, ⟨?_, rfl⟩, rfl⟩
      exact fun name' v' hmem => hall name' v' (List.mem_cons_of_mem _ hmem)

/-- The properties are completed exactly if all are given that must be. -/
lemma completed_eq_ok_iff {properties : Properties} {given values : List (String × Option Json)} :
    completed given properties = .ok values ↔
      (∀ name, (name, .requiredText) ∈ properties → given.lookup name ≠ none) ∧
        values = properties.map fun p => (p.1, (given.lookup p.1).getD (passedOn p.2 none)) := by
  induction properties generalizing values with
  | nil =>
    have hnil : completed given [] = .ok [] := rfl
    simp [hnil, eq_comm (a := [])]
  | cons p rest ih =>
    obtain ⟨name, kind⟩ := p
    have hcons : completed given ((name, kind) :: rest) = .ok values ↔
        (kind = .requiredText → given.lookup name ≠ none) ∧
          ∃ more, completed given rest = .ok more ∧
            values = (name, (given.lookup name).getD (passedOn kind none)) :: more := by
      rw [completed]
      cases given.lookup name with
      | none =>
        simp only [bind_eq_ok_iff, absentProperty_eq_ok_iff, pure, Except.pure, Except.ok.injEq]
        constructor
        · rintro ⟨value, ⟨hkind, rfl⟩, more, hmore, rfl⟩
          exact ⟨fun hrequired => absurd hrequired hkind, more, hmore, rfl⟩
        · rintro ⟨hkind, more, hmore, rfl⟩
          exact ⟨_, ⟨fun hrequired => hkind hrequired rfl, rfl⟩, more, hmore, rfl⟩
      | some value =>
        simp only [bind_eq_ok_iff, pure, Except.pure, Except.ok.injEq]
        constructor
        · rintro ⟨value', rfl, more, hmore, rfl⟩
          exact ⟨fun _ => Option.some_ne_none value, more, hmore, rfl⟩
        · rintro ⟨-, more, hmore, rfl⟩
          exact ⟨value, rfl, more, hmore, rfl⟩
    rw [hcons]
    constructor
    · rintro ⟨hkind, more, hmore, rfl⟩
      obtain ⟨hrest, rfl⟩ := ih.mp hmore
      refine ⟨?_, rfl⟩
      intro name' hmem
      rcases List.mem_cons.mp hmem with heq | hmem
      · cases heq
        exact hkind rfl
      · exact hrest name' hmem
    · rintro ⟨hall, rfl⟩
      have hrest : ∀ name, (name, .requiredText) ∈ rest → given.lookup name ≠ none :=
        fun name hmem => hall name (List.mem_cons_of_mem _ hmem)
      refine ⟨?_, _, ih.mpr ⟨hrest, rfl⟩, rfl⟩
      rintro rfl
      exact hall name List.mem_cons_self

/-- A key is found exactly if an entry has it. -/
lemma lookup_ne_none_iff {ν : Type} {entries : List (String × ν)} {key : String} :
    entries.lookup key ≠ none ↔ ∃ value, (key, value) ∈ entries := by
  rw [Ne, List.lookup_eq_none_iff]
  constructor
  · intro h
    by_contra hnone
    refine h fun e he => ?_
    have hne : key ≠ e.1 := by
      rintro rfl
      exact hnone ⟨e.2, he⟩
    simpa using hne
  · rintro ⟨value, hmem⟩ h
    simpa using h _ hmem

/-- What is found among values that are changed one by one. -/
lemma lookup_map_values {ν μ : Type} (f : ν → μ) (entries : List (String × ν)) (key : String) :
    (entries.map fun e => (e.1, f e.2)).lookup key = (entries.lookup key).map f := by
  induction entries with
  | nil => rfl
  | cons e rest ih =>
    rw [List.map_cons, List.lookup_cons, List.lookup_cons, ih]
    cases key == e.1 <;> rfl

/-- The properties with what is passed on for each. -/
def passed (properties : Properties) (fields : List (String × Json)) :
    List (String × Option Json) :=
  properties.map fun p => (p.1, passedOn p.2 (fields.lookup p.1))

/-- An object gives the properties exactly if its fields make up a payload. -/
lemma properties_object_eq_ok_iff {shape : PayloadShape}
    (hnames : (shape.properties.map Prod.fst).Nodup) {fields : List (String × Json)}
    {values : List (String × Option Json)} :
    properties shape (.object fields) = .ok values ↔
      Accepts shape.properties fields ∧ values = passed shape.properties fields := by
  have hvalue (p : String × PropertyKind) :
      ((fields.map fun f => (f.1, nonNull f.2)).lookup p.1).getD (passedOn p.2 none) =
        passedOn p.2 (fields.lookup p.1) := by
    rw [lookup_map_values]
    cases fields.lookup p.1 <;> rfl
  have hgiven (name : String) :
      (fields.map fun f => (f.1, nonNull f.2)).lookup name ≠ none ↔
        ∃ v, (name, v) ∈ fields := by
    rw [lookup_map_values, Ne, Option.map_eq_none_iff]
    exact lookup_ne_none_iff
  simp only [properties, bind_eq_ok_iff, readFields_eq_ok_iff hnames, completed_eq_ok_iff]
  constructor
  · rintro ⟨given, ⟨hfits, rfl⟩, hrequired, rfl⟩
    refine ⟨⟨hfits, fun name hmem => (hgiven name).mp (hrequired name hmem)⟩, ?_⟩
    simp only [passed, hvalue]
  · rintro ⟨⟨hfits, hrequired⟩, rfl⟩
    refine ⟨_, ⟨hfits, rfl⟩, fun name hmem => (hgiven name).mpr (hrequired name hmem), ?_⟩
    simp only [passed, hvalue]

/-! ## Arrays -/

section Arrays

variable {name : String} {kind : PropertyKind} {rest : Properties}

/-- Without fields a payload is made up exactly if no property must be given. -/
lemma accepts_cons_nil_iff :
    Accepts ((name, kind) :: rest) [] ↔ kind ≠ .requiredText ∧ Accepts rest [] := by
  constructor
  · rintro ⟨-, hrequired⟩
    constructor
    · rintro rfl
      obtain ⟨v, hmem⟩ := hrequired name List.mem_cons_self
      cases hmem
    · constructor
      · exact nofun
      · intro name' hmem
        exact hrequired name' (List.mem_cons_of_mem _ hmem)
  · rintro ⟨hkind, -, hrequired⟩
    constructor
    · exact nofun
    · intro name' hmem
      rcases List.mem_cons.mp hmem with heq | hmem
      · cases heq
        exact absurd rfl hkind
      · exact hrequired name' hmem

/-- A payload is made up by a field for the first property and fields for the others. -/
lemma accepts_cons_cons_iff (hname : name ∉ rest.map Prod.fst) {v : Json}
    {fields : List (String × Json)} (hfields : ∀ f ∈ fields, f.1 ∈ rest.map Prod.fst) :
    Accepts ((name, kind) :: rest) ((name, v) :: fields) ↔ kind.Fits v ∧ Accepts rest fields := by
  constructor
  · rintro ⟨hfits, hrequired⟩
    refine ⟨?_, ?_, ?_⟩
    · obtain ⟨kind', hmem, hv⟩ := hfits name v List.mem_cons_self
      rcases List.mem_cons.mp hmem with heq | hmem
      · cases heq
        exact hv
      · exact absurd (List.mem_map_of_mem hmem) hname
    · intro name' v' hmem
      obtain ⟨kind', hmem', hv⟩ := hfits name' v' (List.mem_cons_of_mem _ hmem)
      rcases List.mem_cons.mp hmem' with heq | hmem'
      · cases heq
        exact absurd (hfields _ hmem) hname
      · exact ⟨kind', hmem', hv⟩
    · intro name' hmem
      obtain ⟨v', hmem'⟩ := hrequired name' (List.mem_cons_of_mem _ hmem)
      rcases List.mem_cons.mp hmem' with heq | hmem'
      · cases heq
        exact absurd (List.mem_map_of_mem hmem) hname
      · exact ⟨v', hmem'⟩
  · rintro ⟨hv, hfits, hrequired⟩
    constructor
    · intro name' v' hmem
      rcases List.mem_cons.mp hmem with heq | hmem
      · cases heq
        exact ⟨kind, List.mem_cons_self, hv⟩
      · obtain ⟨kind', hmem', hv'⟩ := hfits name' v' hmem
        exact ⟨kind', List.mem_cons_of_mem _ hmem', hv'⟩
    · intro name' hmem
      rcases List.mem_cons.mp hmem with heq | hmem
      · cases heq
        exact ⟨v, List.mem_cons_self⟩
      · obtain ⟨v', hmem'⟩ := hrequired name' hmem
        exact ⟨v', List.mem_cons_of_mem _ hmem'⟩

/-- A field for the first property does not matter for the others. -/
lemma passed_cons_cons (hname : name ∉ rest.map Prod.fst) (v : Json)
    (fields : List (String × Json)) :
    passed ((name, kind) :: rest) ((name, v) :: fields) =
      (name, nonNull v) :: passed rest fields := by
  have hself : ((name, v) :: fields).lookup name = some v := by simp
  have hothers : ∀ p ∈ rest, ((name, v) :: fields).lookup p.1 = fields.lookup p.1 := by
    intro p hp
    have hne : (p.1 == name) = false := by
      rw [beq_eq_false_iff_ne]
      rintro rfl
      exact hname (List.mem_map_of_mem hp)
    rw [List.lookup_cons, hne]
  rw [passed, List.map_cons, hself]
  exact congrArg (List.cons _) (List.map_congr_left fun p hp => by rw [hothers p hp])

end Arrays

/-- Items give the properties exactly if they are not too many and the fields that they spell make
up a payload. -/
lemma readItems_eq_ok_iff {shape : PayloadShape} {length index : Nat} {properties : Properties}
    (hnames : (properties.map Prod.fst).Nodup) {items : List Json}
    {values : List (String × Option Json)} :
    readItems shape length index properties items = .ok values ↔
      items.length ≤ properties.length ∧
        Accepts properties ((properties.map Prod.fst).zip items) ∧
        values = passed properties ((properties.map Prod.fst).zip items) := by
  induction properties generalizing index items values with
  | nil =>
    cases items with
    | nil =>
      have hnil : readItems shape length index [] [] = .ok [] := rfl
      have haccepts : Accepts [] [] := ⟨nofun, nofun⟩
      simp [hnil, haccepts, passed, eq_comm]
    | cons v items =>
      have herror : readItems shape length index [] (v :: items) =
        .error (.invalidLength length "fewer elements in array") := rfl
      simp [herror]
  | cons p rest ih =>
    obtain ⟨name, kind⟩ := p
    rw [List.map_cons, List.nodup_cons] at hnames
    obtain ⟨hname, hrest⟩ := hnames
    cases items with
    | nil =>
      rw [readItems, List.zip_nil_right, accepts_cons_nil_iff]
      simp only [bind_eq_ok_iff, absentProperty_eq_ok_iff, ih hrest, List.zip_nil_right, pure,
        Except.pure, Except.ok.injEq]
      constructor
      · rintro ⟨_, ⟨hkind, rfl⟩, _, ⟨-, haccepts, rfl⟩, rfl⟩
        exact ⟨Nat.zero_le _, ⟨hkind, haccepts⟩, rfl⟩
      · rintro ⟨-, ⟨hkind, haccepts⟩, rfl⟩
        exact ⟨_, ⟨hkind, rfl⟩, _, ⟨Nat.zero_le _, haccepts, rfl⟩, rfl⟩
    | cons v items =>
      have hfields : ∀ f ∈ (rest.map Prod.fst).zip items, f.1 ∈ rest.map Prod.fst :=
        fun f hf => (List.of_mem_zip hf).1
      rw [readItems, List.map_cons, List.zip_cons_cons, accepts_cons_cons_iff hname hfields,
        passed_cons_cons hname, List.length_cons, List.length_cons, Nat.succ_le_succ_iff]
      simp only [bind_eq_ok_iff, readProperty_eq_ok_iff, ih hrest, pure, Except.pure,
        Except.ok.injEq]
      constructor
      · rintro ⟨_, ⟨hv, rfl⟩, _, ⟨hlength, haccepts, rfl⟩, rfl⟩
        exact ⟨hlength, ⟨hv, haccepts⟩, rfl⟩
      · rintro ⟨hlength, ⟨hv, haccepts⟩, rfl⟩
        exact ⟨_, ⟨hv, rfl⟩, _, ⟨hlength, haccepts, rfl⟩, rfl⟩

/-! ## Documents -/

section Documents

variable {shape : PayloadShape} (hnames : (shape.properties.map Prod.fst).Nodup)

include hnames

/-- A JSON value is accepted exactly if it is a payload, and is answered by the document that it
comes to. -/
theorem check_eq_ok_iff {v posted : Json} :
    check shape v = .ok posted ↔ Posts shape.properties v posted := by
  have hdocument (fields : List (String × Json)) :
      toJson (passed shape.properties fields) = document shape.properties fields := by
    rw [toJson, passed, document, List.filterMap_map]
    rfl
  rw [check, map_eq_ok_iff, Posts]
  constructor
  · rintro ⟨values, hvalues, rfl⟩
    cases v with
    | object fields =>
      obtain ⟨haccepts, rfl⟩ := (properties_object_eq_ok_iff hnames).mp hvalues
      exact ⟨fields, .object fields, haccepts, hdocument fields⟩
    | array items =>
      obtain ⟨hlength, haccepts, rfl⟩ := (readItems_eq_ok_iff hnames).mp hvalues
      exact ⟨_, .array items hlength, haccepts, hdocument _⟩
    | null => cases hvalues
    | bool b => cases hvalues
    | number n => cases hvalues
    | string s => cases hvalues
  · rintro ⟨fields, hspells, haccepts, rfl⟩
    refine ⟨passed shape.properties fields, ?_, hdocument fields⟩
    cases hspells with
    | object fields => exact (properties_object_eq_ok_iff hnames).mpr ⟨haccepts, rfl⟩
    | array items hlength => exact (readItems_eq_ok_iff hnames).mpr ⟨hlength, haccepts, rfl⟩

end Documents

/-- What is found among the fields that a choice of values gives to some properties. -/
lemma lookup_filterMap {properties : Properties} (hnames : (properties.map Prod.fst).Nodup)
    (g : String × PropertyKind → Option Json) {p : String × PropertyKind} (hp : p ∈ properties) :
    (properties.filterMap fun p => (g p).map fun v => (p.1, v)).lookup p.1 = g p := by
  induction properties with
  | nil => cases hp
  | cons q rest ih =>
    rw [List.map_cons, List.nodup_cons] at hnames
    have hkeys : q.1 ∉ (rest.filterMap fun p => (g p).map fun v => (p.1, v)).map Prod.fst := by
      intro hmem
      obtain ⟨e, he, hname⟩ := List.mem_map.mp hmem
      obtain ⟨p, hp, hvalue⟩ := List.mem_filterMap.mp he
      obtain ⟨v, -, rfl⟩ := Option.map_eq_some_iff.mp hvalue
      exact hnames.1 (hname ▸ List.mem_map_of_mem hp)
    rw [List.filterMap_cons]
    rcases List.mem_cons.mp hp with rfl | hp
    · cases hvalue : g p with
      | none => exact Keyed.lookup_of_not_mem hkeys
      | some v => simp
    · have hne : (p.1 == q.1) = false := by
        rw [beq_eq_false_iff_ne]
        intro heq
        exact hnames.1 (heq ▸ List.mem_map_of_mem hp)
      cases g q with
      | none => exact ih hnames.2 hp
      | some v =>
        rw [Option.map_some, List.lookup_cons, hne]
        exact ih hnames.2 hp

/-- The document of a payload is a payload, and comes to itself. -/
theorem posts_self {properties : Properties} (hnames : (properties.map Prod.fst).Nodup)
    {v posted : Json} (h : Posts properties v posted) : Posts properties posted posted := by
  obtain ⟨fields, -, haccepts, rfl⟩ := h
  have hfits {p : String × PropertyKind} (hp : p ∈ properties) :
      ∀ v, fields.lookup p.1 = some v → p.2.Fits v := by
    intro v hv
    obtain ⟨earlier, later, hsplit, -⟩ := List.lookup_eq_some_iff.mp hv
    obtain ⟨kind, hkind, hv⟩ := haccepts.fits p.1 v (by simp [hsplit])
    exact Keyed.eq_of_mem hnames hkind hp ▸ hv
  have hvalue {p : String × PropertyKind} (hp : p ∈ properties) :
      passedOn p.2 ((properties.filterMap fun p =>
        (passedOn p.2 (fields.lookup p.1)).map fun v => (p.1, v)).lookup p.1) =
          passedOn p.2 (fields.lookup p.1) := by
    rw [lookup_filterMap hnames (fun p => passedOn p.2 (fields.lookup p.1)) hp]
    exact passedOn_passedOn (hfits hp)
  refine ⟨_, .object _, ?_, ?_⟩
  · constructor
    · intro name w hmem
      obtain ⟨p, hp, hvalue⟩ := List.mem_filterMap.mp hmem
      obtain ⟨v, hv, heq⟩ := Option.map_eq_some_iff.mp hvalue
      obtain ⟨rfl, rfl⟩ := Prod.mk.inj heq
      exact ⟨p.2, hp, fits_of_passedOn (hfits hp) hv⟩
    · intro name hp
      obtain ⟨v, hv⟩ := Option.ne_none_iff_exists'.mp
        (lookup_ne_none_iff.mpr (haccepts.required name hp))
      have hgiven : passedOn .requiredText (fields.lookup name) = some v := by
        rw [hv]
        cases hfits hp v hv
        rfl
      refine ⟨v, List.mem_filterMap.mpr ⟨_, hp, ?_⟩⟩
      rw [hgiven]
      rfl
  · refine congrArg Json.object (List.filterMap_congr fun p hp => ?_)
    rw [hvalue hp]

end Payload

end PluginGateway

import StorageGateway.Adapter.Conversion

/-!
# What records are read from

When a value is read, as a member of a record or on its own, the document can be told from it.
-/

namespace StorageGateway

namespace Json

theorem bind_eq_ok_iff {ε α β : Type} {first : Except ε α} {next : α → Except ε β} {b : β} :
    first >>= next = .ok b ↔ ∃ a, first = .ok a ∧ next a = .ok b := by
  constructor
  · intro h
    cases first with
    | error e => cases h
    | ok a => exact ⟨a, rfl, h⟩
  · rintro ⟨a, rfl, h⟩
    exact h

theorem map_eq_ok_iff {ε α β : Type} {f : α → β} {first : Except ε α} {b : β} :
    first.map f = .ok b ↔ ∃ a, first = .ok a ∧ f a = b := by
  cases first with
  | error e => simp [Except.map]
  | ok a => simp [Except.map]

/-! ## Basic shapes -/

theorem Document.refuse_ne_ok {α : Type} (document : Document) (expected : String) (a : α) :
    document.refuse expected ≠ .ok a := by
  intro h
  obtain ⟨found, -, h⟩ := bind_eq_ok_iff.mp h
  cases h

namespace Reader

variable {origin : Origin} {document : Document}

theorem string_eq_ok_iff {s : String} :
    string origin document = .ok s ↔ document = .string (some s) := by
  constructor
  · intro h
    unfold string at h
    split at h
    · cases h
      rfl
    · exact absurd h (document.refuse_ne_ok _ _)
  · rintro rfl
    rfl

theorem integer_eq_ok_iff {width : Text.Width} {i : Int} :
    integer width origin document = .ok i ↔
      document = .number (some (.int i)) ∧ width.holds i = true := by
  constructor
  · intro h
    unfold integer at h
    split at h
    · split at h
      · cases h
        exact ⟨rfl, ‹_›⟩
      · cases h
    · exact absurd h (document.refuse_ne_ok _ _)
  · rintro ⟨rfl, hholds⟩
    simp [integer, hholds]

theorem holds_iff {width : Text.Width} {i : Int} :
    width.holds i = true ↔ width.least ≤ i ∧ i ≤ width.greatest := by
  rw [Text.Width.holds, Bool.and_eq_true, decide_eq_true_iff, decide_eq_true_iff]

theorem holds_u16_iff {i : Int} :
    (Text.Width.unsigned 16).holds i = true ↔ 0 ≤ i ∧ i ≤ 65535 := holds_iff

theorem holds_u32_iff {i : Int} :
    (Text.Width.unsigned 32).holds i = true ↔ 0 ≤ i ∧ i ≤ 4294967295 := holds_iff

theorem holds_i64_iff {i : Int} :
    (Text.Width.signed 64).holds i = true ↔
      -9223372036854775808 ≤ i ∧ i ≤ 9223372036854775807 := holds_iff

theorem u16_eq_ok_iff {n : UInt16} :
    u16 origin document = .ok n ↔ document = .number (some (.int n.toNat)) := by
  unfold u16
  simp only [map_eq_ok_iff, integer_eq_ok_iff, holds_u16_iff]
  constructor
  · rintro ⟨i, ⟨rfl, hleast, hgreatest⟩, rfl⟩
    have hi : (UInt16.ofNat i.toNat).toNat = i.toNat :=
      UInt16.toNat_ofNat_of_lt' (by simp only [UInt16.size]; omega)
    rw [hi, Int.toNat_of_nonneg hleast]
  · rintro rfl
    have hn := n.toNat_lt
    exact ⟨n.toNat, ⟨rfl, by omega, by omega⟩, by simp⟩

theorem u32_eq_ok_iff {n : UInt32} :
    u32 origin document = .ok n ↔ document = .number (some (.int n.toNat)) := by
  unfold u32
  simp only [map_eq_ok_iff, integer_eq_ok_iff, holds_u32_iff]
  constructor
  · rintro ⟨i, ⟨rfl, hleast, hgreatest⟩, rfl⟩
    have hi : (UInt32.ofNat i.toNat).toNat = i.toNat :=
      UInt32.toNat_ofNat_of_lt' (by simp only [UInt32.size]; omega)
    rw [hi, Int.toNat_of_nonneg hleast]
  · rintro rfl
    have hn := n.toNat_lt
    exact ⟨n.toNat, ⟨rfl, by omega, by omega⟩, by simp⟩

theorem string_ofJson_eq_ok_iff {value : Json} {s : String} :
    string.ofJson value = .ok s ↔ value = .string s := by
  constructor
  · intro h
    have hdocument := string_eq_ok_iff.mp h
    cases value <;> cases hdocument
    rfl
  · rintro rfl
    rfl

@[simp]
theorem bool_toDocument (b : Bool) : bool origin (Json.bool b).toDocument = .ok b := rfl

@[simp]
theorem string_toDocument (s : String) : string origin (Json.string s).toDocument = .ok s := rfl

@[simp]
theorem u32_toDocument (n : UInt32) : u32 origin (Json.nat n.toNat).toDocument = .ok n :=
  u32_eq_ok_iff.mpr rfl

theorem u32_ofJson_eq_ok_iff {value : Json} {n : UInt32} :
    u32.ofJson value = .ok n ↔ value = .nat n.toNat := by
  constructor
  · intro h
    have hdocument := u32_eq_ok_iff.mp h
    cases value <;> cases hdocument
    rfl
  · rintro rfl
    exact u32_toDocument n

end Reader

/-! ## Fields -/

namespace Fields

variable {α β : Type} {f : Fields (α → β)} {g : α → β} {x : Fields α} {name : String}
  {read : Reader α} {value : α} {origin : Origin} {members : List (String × Document)}
  {expected : String} {taken : Nat} {items rest : List Document}

@[simp]
theorem names_map : (g <$> x).names = x.names := rfl

@[simp]
theorem names_seq : (f <*> x).names = f.names ++ x.names := rfl

@[simp]
theorem names_required : (required name read).names = [name] := rfl

@[simp]
theorem names_defaulted : (defaulted name read value).names = [name] := rfl

@[simp]
theorem names_optional : (optional name read).names = [name] := rfl

@[simp]
theorem examine_map (other : String) : (g <$> x).examine other = x.examine other := rfl

@[simp]
theorem examine_seq (other : String) :
    (f <*> x).examine other =
      if f.names.contains other then f.examine other else x.examine other := rfl

@[simp]
theorem examine_required_eq_ok_iff {other : String} {document : Document} :
    (required name read).examine other origin document = .ok () ↔
      ∃ a, read origin document = .ok a := by
  simp [required, single, map_eq_ok_iff]

@[simp]
theorem examine_defaulted_eq_ok_iff {other : String} {document : Document} :
    (defaulted name read value).examine other origin document = .ok () ↔
      ∃ a, read origin document = .ok a := by
  simp [defaulted, single, map_eq_ok_iff]

@[simp]
theorem examine_optional_eq_ok_iff {other : String} {document : Document} :
    (optional name read).examine other origin document = .ok () ↔
      ∃ a, read.optional origin document = .ok a := by
  simp [optional, single, map_eq_ok_iff]

@[simp]
theorem ofMembers_map_eq_ok_iff {b : β} :
    (g <$> x).ofMembers origin members = .ok b ↔
      ∃ a, x.ofMembers origin members = .ok a ∧ g a = b := by
  show (apply (none g) x).ofMembers origin members = .ok b ↔ _
  simp [apply, none, bind_eq_ok_iff]

@[simp]
theorem ofMembers_seq_eq_ok_iff {b : β} :
    (f <*> x).ofMembers origin members = .ok b ↔
      ∃ h a, f.ofMembers origin members = .ok h ∧ x.ofMembers origin members = .ok a ∧
        h a = b := by
  show (apply f x).ofMembers origin members = .ok b ↔ _
  simp [apply, bind_eq_ok_iff]

@[simp]
theorem ofMembers_required_eq_ok_iff {a : α} :
    (required name read).ofMembers origin members = .ok a ↔
      ∃ document, members.lookup name = some document ∧ read origin document = .ok a := by
  simp only [required, single]
  cases members.lookup name <;> simp

@[simp]
theorem ofMembers_defaulted_eq_ok_iff {a : α} :
    (defaulted name read value).ofMembers origin members = .ok a ↔
      (∃ document, members.lookup name = some document ∧ read origin document = .ok a) ∨
        members.lookup name = .none ∧ value = a := by
  simp only [defaulted, single]
  cases members.lookup name <;> simp

@[simp]
theorem ofMembers_optional_eq_ok_iff {a : Option α} :
    (optional name read).ofMembers origin members = .ok a ↔
      (∃ document, members.lookup name = some document ∧
        read.optional origin document = .ok a) ∨ members.lookup name = .none ∧ .none = a := by
  simp only [optional, single]
  cases members.lookup name <;> simp

@[simp]
theorem ofItems_map_eq_ok_iff {b : β} :
    (g <$> x).ofItems expected origin taken items = .ok (b, rest) ↔
      ∃ a, x.ofItems expected origin taken items = .ok (a, rest) ∧ g a = b := by
  show (apply (none g) x).ofItems expected origin taken items = .ok (b, rest) ↔ _
  simp [apply, none, bind_eq_ok_iff]

@[simp]
theorem ofItems_seq_eq_ok_iff {b : β} :
    (f <*> x).ofItems expected origin taken items = .ok (b, rest) ↔
      ∃ h a between, f.ofItems expected origin taken items = .ok (h, between) ∧
        x.ofItems expected origin (taken + f.names.length) between = .ok (a, rest) ∧
        h a = b := by
  show (apply f x).ofItems expected origin taken items = .ok (b, rest) ↔ _
  simp only [apply, bind_eq_ok_iff, Prod.exists, Except.ok.injEq, Prod.mk.injEq]
  constructor
  · rintro ⟨h, between, hf, a, after, hx, rfl, rfl⟩
    exact ⟨h, a, between, hf, hx, rfl⟩
  · rintro ⟨h, a, between, hf, hx, rfl⟩
    exact ⟨h, between, hf, a, rest, hx, rfl, rfl⟩

@[simp]
theorem ofItems_required_eq_ok_iff {a : α} :
    (required name read).ofItems expected origin taken items = .ok (a, rest) ↔
      ∃ document, items = document :: rest ∧ read origin document = .ok a := by
  cases items with
  | nil => simp [required, single]
  | cons item after =>
    simp only [required, single, bind_eq_ok_iff, Except.ok.injEq, Prod.mk.injEq, List.cons.injEq]
    constructor
    · rintro ⟨a, hread, rfl, rfl⟩
      exact ⟨item, ⟨rfl, rfl⟩, hread⟩
    · rintro ⟨document, ⟨rfl, rfl⟩, hread⟩
      exact ⟨a, hread, rfl, rfl⟩

end Fields

/-! ## Members and items -/

/-- What stands under a name in an object or at a position in an array. -/
def field? (name : String) (position : Nat) : Json → Option Json
  | .object members => members.lookup name
  | .array items => items[position]?
  | _ => none

theorem itemDocuments_eq_map (items : List Json) : itemDocuments items = items.map toDocument := by
  induction items with
  | nil => rfl
  | cons item items ih => simp [itemDocuments, ih]

theorem lookup_memberDocuments (members : List (String × Json)) (name : String) :
    (memberDocuments members).lookup (some name) = (members.lookup name).map toDocument := by
  induction members with
  | nil => rfl
  | cons m members ih =>
    obtain ⟨other, value⟩ := m
    rw [memberDocuments, memberDocument, List.lookup_cons, List.lookup_cons, ih]
    by_cases h : name = other
    · simp [h]
    · have hb : (name == other) = false := by simpa using h
      simp [hb]

/-- Members that are skipped hide none that is kept. -/
theorem lookup_of_examineMembers {names : List String} {examine : String → Reader Unit}
    {origin : Origin} {kept result : List (String × Document)}
    {members : List (Option String × Document)}
    (h : examineMembers names examine origin kept members = .ok result) {name : String}
    (hname : name ∈ names) :
    result.lookup name = (kept.lookup name).or (members.lookup (some name)) := by
  induction members generalizing kept with
  | nil =>
    cases h
    simp
  | cons m members ih =>
    obtain ⟨_ | other, document⟩ := m
    · cases h
    rw [examineMembers] at h
    -- What has been kept counts first, and it cannot be kept twice: that would be refused.
    by_cases hother : other ∈ names
    · rw [if_pos (by simpa using hother)] at h
      split at h
      · cases h
      · rename_i hfresh
        obtain ⟨-, -, hrest⟩ := bind_eq_ok_iff.mp h
        rw [ih hrest, List.lookup_append, List.lookup_cons (a := some name)]
        by_cases hsame : name = other
        · subst hsame
          have hkept : kept.lookup name = none := Option.not_isSome_iff_eq_none.mp hfresh
          simp [hkept]
        · have hb : (name == other) = false := by simpa using hsame
          simp [hb, List.lookup_cons]
    · rw [if_neg (by simpa using hother)] at h
      split at h
      · have hb : (name == other) = false := by
          simpa using fun heq : name = other => hother (heq ▸ hname)
        rw [ih h, List.lookup_cons (a := some name)]
        simp [hb]
      · cases h

theorem lookup_eq_none_of_not_mem {β : Type} {members : List (String × β)} {name : String}
    (h : name ∉ members.map (·.1)) : members.lookup name = none := by
  rw [List.lookup_eq_none_iff]
  intro m hm
  simpa using fun heq : name = m.1 => h (heq ▸ List.mem_map_of_mem hm)

/-- Members under the names of fields that can be read are all kept. -/
theorem examineMembers_of_forall {names : List String} {examine : String → Reader Unit}
    {origin : Origin} {members : List (String × Json)}
    (hmembers : ∀ m ∈ members, m.1 ∈ names ∧ examine m.1 origin m.2.toDocument = .ok ())
    (kept : List (String × Document))
    (hnodup : (kept.map (·.1) ++ members.map (·.1)).Nodup) :
    examineMembers names examine origin kept (memberDocuments members) =
      .ok (kept ++ members.map fun m => (m.1, m.2.toDocument)) := by
  induction members generalizing kept with
  | nil => simp [memberDocuments, examineMembers]
  | cons m members ih =>
    obtain ⟨name, value⟩ := m
    obtain ⟨⟨hname, hexamine⟩, hrest⟩ := List.forall_mem_cons.mp hmembers
    have hfresh : name ∉ kept.map (·.1) := fun hin =>
      (List.nodup_append.mp hnodup).2.2 name hin name (by simp) rfl
    have hkept : (kept.lookup name).isSome = false := by
      rw [lookup_eq_none_of_not_mem hfresh]
      rfl
    rw [memberDocuments, memberDocument, examineMembers, if_pos (by simpa using hname), hkept,
      hexamine]
    show examineMembers names examine origin (kept ++ [(name, value.toDocument)])
      (memberDocuments members) = _
    rw [ih hrest _ (by simpa using hnodup), List.map_cons, List.append_assoc]
    rfl

namespace Reader

variable {α : Type} {record : String} {fields : Fields α} {a : α}

theorem record_object_eq_ok_iff {members : List (String × Json)} :
    (Reader.record record fields).ofJson (.object members) = .ok a ↔
      ∃ kept, examineMembers fields.names fields.examine .value [] (memberDocuments members) =
        .ok kept ∧ fields.ofMembers .value kept = .ok a := by
  show (do
    let kept ← examineMembers fields.names fields.examine .value [] (memberDocuments members)
    fields.ofMembers .value kept) = .ok a ↔ _
  exact bind_eq_ok_iff

theorem record_array_eq_ok_iff {items : List Json} :
    (Reader.record record fields).ofJson (.array items) = .ok a ↔
      fields.ofItems (recordName record fields.names.length) .value 0 (items.map toDocument) =
        .ok (a, []) := by
  rw [← itemDocuments_eq_map]
  constructor
  · intro h
    obtain ⟨inner, hinner, h⟩ := bind_eq_ok_iff.mp h
    cases hinner
    obtain ⟨⟨value, rest⟩, hitems, h⟩ := bind_eq_ok_iff.mp h
    cases rest with
    | nil =>
      cases h
      exact hitems
    | cons item rest => cases h
  · intro h
    exact bind_eq_ok_iff.mpr ⟨.value, rfl, bind_eq_ok_iff.mpr ⟨(a, []), h, rfl⟩⟩

/-- A record is read from an object or from an array. -/
theorem exists_of_record {params : Json}
    (h : (Reader.record record fields).ofJson params = .ok a) :
    (∃ members, params = .object members) ∨ ∃ items, params = .array items := by
  cases params with
  | object members => exact .inl ⟨members, rfl⟩
  | array items => exact .inr ⟨items, rfl⟩
  | _ => exact absurd h (Document.refuse_ne_ok _ _ _)

theorem record_of_entered {members : List (String × Json)} {origin inner : Origin}
    (henter : origin.enter = .ok inner)
    (hmembers : ∀ m ∈ members,
      m.1 ∈ fields.names ∧ fields.examine m.1 inner m.2.toDocument = .ok ())
    (hnodup : (members.map (·.1)).Nodup) :
    Reader.record record fields origin (Json.object members).toDocument =
      fields.ofMembers inner (members.map fun m => (m.1, m.2.toDocument)) := by
  have hkept := examineMembers_of_forall hmembers [] (by simpa using hnodup)
  show (do
    let inner ← origin.enter
    let kept ← examineMembers fields.names fields.examine inner [] (memberDocuments members)
    fields.ofMembers inner kept) = _
  rw [henter]
  show (do
    let kept ← examineMembers fields.names fields.examine inner [] (memberDocuments members)
    fields.ofMembers inner kept) = _
  rw [hkept]
  rfl

theorem record_of_members {members : List (String × Json)}
    (hmembers : ∀ m ∈ members,
      m.1 ∈ fields.names ∧ fields.examine m.1 .value m.2.toDocument = .ok ())
    (hnodup : (members.map (·.1)).Nodup) :
    (Reader.record record fields).ofJson (.object members) =
      fields.ofMembers .value (members.map fun m => (m.1, m.2.toDocument)) :=
  record_of_entered rfl hmembers hnodup

/-! ## Records whose fields are all required -/

theorem exists_of_lookup_kept {members : List (String × Json)} {kept : List (String × Document)}
    (hkept : examineMembers fields.names fields.examine .value [] (memberDocuments members) =
      .ok kept) {name : String} (hname : name ∈ fields.names) {document : Document}
    (h : kept.lookup name = some document) :
    ∃ x, members.lookup name = some x ∧ x.toDocument = document := by
  rw [lookup_of_examineMembers hkept hname, List.lookup_nil, Option.none_or,
    lookup_memberDocuments] at h
  exact Option.map_eq_some_iff.mp h

section
variable {first second third : String} {β γ ρ : Type} {readFirst : Reader α}
  {readSecond : Reader β} {readThird : Reader γ} {params : Json} {r : ρ}

theorem exists_of_read_one
    (h : (Reader.record record (.required first readFirst)).ofJson params = .ok a) :
    ∃ x, params.field? first 0 = some x ∧ readFirst.ofJson x = .ok a := by
  rcases exists_of_record h with ⟨members, rfl⟩ | ⟨items, rfl⟩
  · obtain ⟨kept, hkept, hread⟩ := record_object_eq_ok_iff.mp h
    obtain ⟨document, hlookup, hread⟩ := Fields.ofMembers_required_eq_ok_iff.mp hread
    obtain ⟨x, hx, rfl⟩ := exists_of_lookup_kept hkept (by simp) hlookup
    exact ⟨x, hx, hread⟩
  · have hitems := record_array_eq_ok_iff.mp h
    obtain ⟨document, hitems, hread⟩ := Fields.ofItems_required_eq_ok_iff.mp hitems
    obtain ⟨x, rfl, rfl⟩ := List.map_eq_singleton_iff.mp hitems
    exact ⟨x, rfl, hread⟩

/-- The first of the fields that a record starts with. -/
theorem exists_of_read_first {make : α → β → ρ} {more : Fields β}
    (h : (Reader.record record (make <$> .required first readFirst <*> more)).ofJson params =
      .ok r) :
    ∃ x a b, params.field? first 0 = some x ∧ readFirst.ofJson x = .ok a ∧ make a b = r := by
  rcases exists_of_record h with ⟨members, rfl⟩ | ⟨items, rfl⟩
  · obtain ⟨kept, hkept, hread⟩ := record_object_eq_ok_iff.mp h
    simp only [Fields.ofMembers_seq_eq_ok_iff, Fields.ofMembers_map_eq_ok_iff,
      Fields.ofMembers_required_eq_ok_iff] at hread
    obtain ⟨_, b, ⟨a, ⟨dx, hdx, ha⟩, rfl⟩, -, rfl⟩ := hread
    obtain ⟨x, hx, rfl⟩ := exists_of_lookup_kept hkept (by simp) hdx
    exact ⟨x, a, b, hx, ha, rfl⟩
  · have hitems := record_array_eq_ok_iff.mp h
    simp only [Fields.ofItems_seq_eq_ok_iff, Fields.ofItems_map_eq_ok_iff,
      Fields.ofItems_required_eq_ok_iff] at hitems
    obtain ⟨_, b, _, ⟨a, ⟨dx, hitems, ha⟩, rfl⟩, -, rfl⟩ := hitems
    obtain ⟨x, rest, rfl, rfl, -⟩ := List.map_eq_cons_iff.mp hitems
    exact ⟨x, a, b, rfl, ha, rfl⟩

theorem exists_of_read_two {make : α → β → ρ}
    (h : (Reader.record record
      (make <$> .required first readFirst <*> .required second readSecond)).ofJson params = .ok r) :
    ∃ x y a b, params.field? first 0 = some x ∧ params.field? second 1 = some y ∧
      readFirst.ofJson x = .ok a ∧ readSecond.ofJson y = .ok b ∧ make a b = r := by
  rcases exists_of_record h with ⟨members, rfl⟩ | ⟨items, rfl⟩
  · obtain ⟨kept, hkept, hread⟩ := record_object_eq_ok_iff.mp h
    simp only [Fields.ofMembers_seq_eq_ok_iff, Fields.ofMembers_map_eq_ok_iff,
      Fields.ofMembers_required_eq_ok_iff] at hread
    obtain ⟨_, b, ⟨a, ⟨dx, hdx, ha⟩, rfl⟩, ⟨dy, hdy, hb⟩, rfl⟩ := hread
    obtain ⟨x, hx, rfl⟩ := exists_of_lookup_kept hkept (by simp) hdx
    obtain ⟨y, hy, rfl⟩ := exists_of_lookup_kept hkept (by simp) hdy
    exact ⟨x, y, a, b, hx, hy, ha, hb, rfl⟩
  · have hitems := record_array_eq_ok_iff.mp h
    simp only [Fields.ofItems_seq_eq_ok_iff, Fields.ofItems_map_eq_ok_iff,
      Fields.ofItems_required_eq_ok_iff] at hitems
    obtain ⟨_, b, _, ⟨a, ⟨dx, hitems, ha⟩, rfl⟩, ⟨dy, rfl, hb⟩, rfl⟩ := hitems
    obtain ⟨x, rest, rfl, rfl, hrest⟩ := List.map_eq_cons_iff.mp hitems
    obtain ⟨y, rfl, rfl⟩ := List.map_eq_singleton_iff.mp hrest
    exact ⟨x, y, a, b, rfl, rfl, ha, hb, rfl⟩

theorem exists_of_read_three {make : α → β → γ → ρ}
    (h : (Reader.record record (make <$> .required first readFirst <*>
      .required second readSecond <*> .required third readThird)).ofJson params = .ok r) :
    ∃ x y z a b c, params.field? first 0 = some x ∧ params.field? second 1 = some y ∧
      params.field? third 2 = some z ∧ readFirst.ofJson x = .ok a ∧ readSecond.ofJson y = .ok b ∧
      readThird.ofJson z = .ok c ∧ make a b c = r := by
  rcases exists_of_record h with ⟨members, rfl⟩ | ⟨items, rfl⟩
  · obtain ⟨kept, hkept, hread⟩ := record_object_eq_ok_iff.mp h
    simp only [Fields.ofMembers_seq_eq_ok_iff, Fields.ofMembers_map_eq_ok_iff,
      Fields.ofMembers_required_eq_ok_iff] at hread
    obtain ⟨_, c, ⟨_, b, ⟨a, ⟨dx, hdx, ha⟩, rfl⟩, ⟨dy, hdy, hb⟩, rfl⟩, ⟨dz, hdz, hc⟩, rfl⟩ := hread
    obtain ⟨x, hx, rfl⟩ := exists_of_lookup_kept hkept (by simp) hdx
    obtain ⟨y, hy, rfl⟩ := exists_of_lookup_kept hkept (by simp) hdy
    obtain ⟨z, hz, rfl⟩ := exists_of_lookup_kept hkept (by simp) hdz
    exact ⟨x, y, z, a, b, c, hx, hy, hz, ha, hb, hc, rfl⟩
  · have hitems := record_array_eq_ok_iff.mp h
    simp only [Fields.ofItems_seq_eq_ok_iff, Fields.ofItems_map_eq_ok_iff,
      Fields.ofItems_required_eq_ok_iff] at hitems
    obtain ⟨_, c, _, ⟨_, b, _, ⟨a, ⟨dx, hitems, ha⟩, rfl⟩, ⟨dy, rfl, hb⟩, rfl⟩, ⟨dz, rfl, hc⟩,
      rfl⟩ := hitems
    obtain ⟨x, rest, rfl, rfl, hrest⟩ := List.map_eq_cons_iff.mp hitems
    obtain ⟨y, last, rfl, rfl, hlast⟩ := List.map_eq_cons_iff.mp hrest
    obtain ⟨z, rfl, rfl⟩ := List.map_eq_singleton_iff.mp hlast
    exact ⟨x, y, z, a, b, c, rfl, rfl, rfl, ha, hb, hc, rfl⟩

end

end Reader

end Json

/-! ## Schemas -/

/-- A schema reads what it writes. -/
def Schema.ReadsBack {α : Type} (schema : Schema α) : Prop :=
  ∀ a, schema.read.ofJson (schema.write a) = .ok a

theorem Schema.ReadsBack.toDocument {α : Type} {schema : Schema α} (h : schema.ReadsBack) (a : α) :
    schema.read .value (schema.write a).toDocument = .ok a := h a

theorem Schema.ReadsBack.single {α : Type} {value : Schema α} (h : value.ReadsBack)
    (record field : String) : (Schema.single record field value).ReadsBack := by
  intro a
  refine (Json.Reader.record_of_members ?_ ?_).trans ?_
  · simp [h.toDocument a]
  · simp
  · simp [h.toDocument a]

theorem Conversion.structural_eq_ok {α β : Type} {source : Schema α} {target : Schema β} {a : α}
    {b : β} (hback : target.ReadsBack) (hwrite : source.write a = target.write b) :
    Conversion.structural source target a = .ok b := by
  simp only [structural, throughJson, Schema.writer, hwrite, hback b]

end StorageGateway

import StorageGateway.Proofs.Json.Relations

/-!
# Readers that read as much where it matters

A reader with a narrower range reads less than one with a wider range, but it reads whatever the
wider one reads as something within its own range. This is put together along the fields of a
record, where what is within the range is known of the whole record only. A narrower field is
examined before that is known; so what has been examined is told by what the record has become.
-/

namespace StorageGateway.Json

/-- Whatever the first one reads as something fit the other one reads as well, as something
related. -/
def Reader.LeadsWhen {α β : Type} (P : α → Prop) (R : α → β → Prop) (read : Reader α)
    (other : Reader β) : Prop :=
  ∀ origin document a, read origin document = .ok a → P a →
    ∃ b, other origin document = .ok b ∧ R a b

/-- The same of fields. -/
structure Fields.LeadsWhen {α β : Type} (P : α → Prop) (R : α → β → Prop) (fields : Fields α)
    (others : Fields β) : Prop where
  names : fields.names = others.names
  ofMembers : ∀ origin members a, fields.ofMembers origin members = .ok a → P a →
    ∃ b, others.ofMembers origin members = .ok b ∧ R a b
  ofItems : ∀ expected wanted origin taken items a rest,
    fields.ofItems expected origin taken items = .ok (a, rest) → P a →
    ∃ b, others.ofItems wanted origin taken items = .ok (b, rest) ∧ R a b

/-- What fields are taken from passes their examination. -/
def Fields.Examines {α : Type} (fields : Fields α) : Prop :=
  ∀ origin members a, fields.ofMembers origin members = .ok a → ∀ name ∈ fields.names,
    ∀ document, members.lookup name = some document → fields.examine name origin document = .ok ()

namespace Reader

variable {α β : Type} {P : α → Prop} {R : α → β → Prop} {read : Reader α} {other : Reader β}

theorem Leads.when (h : Leads R read other) (P : α → Prop) : LeadsWhen P R read other :=
  fun origin document a hread _ => h origin document a hread

theorem u32_leads_u16 :
    LeadsWhen (fun n => n.toNat ≤ 65535) (fun n m => n = m.toUInt32) u32 u16 := by
  intro origin document n hread hfits
  have hsame : n.toUInt16.toNat = n.toNat := by
    rw [UInt32.toNat_toUInt16]
    omega
  refine ⟨n.toUInt16, ?_, ?_⟩
  · rw [u16_eq_ok_iff, hsame]
    exact u32_eq_ok_iff.mp hread
  · show n = n.toUInt16.toUInt32
    rw [← UInt32.toNat_inj, UInt16.toNat_toUInt32, hsame]

end Reader

namespace Fields

/-! ## Examination -/

section
variable {α β : Type} {x : Fields α} {read : Reader α}

theorem examines_single (name : String) (read : Reader α) (unnamed named : Option α) :
    Examines (single name read unnamed named) := by
  intro origin members a hread other hother document hlookup
  obtain rfl := List.mem_singleton.mp hother
  simp only [single, hlookup] at hread
  exact map_eq_ok_iff.mpr ⟨a, hread, rfl⟩

theorem Examines.map (h : Examines x) (g : α → β) : Examines (g <$> x) := by
  intro origin members b hread name hname document hlookup
  obtain ⟨a, ha, -⟩ := ofMembers_map_eq_ok_iff.mp hread
  exact h origin members a ha name hname document hlookup

theorem Examines.seq {f : Fields (α → β)} (hf : Examines f) (h : Examines x) :
    Examines (f <*> x) := by
  intro origin members b hread name hname document hlookup
  obtain ⟨g, a, hg, ha, -⟩ := ofMembers_seq_eq_ok_iff.mp hread
  rw [examine_seq]
  split
  · exact hf origin members g hg name (by simpa using ‹f.names.contains name = true›) document
      hlookup
  · rw [names_seq, List.mem_append] at hname
    have hx : name ∈ x.names := hname.resolve_left (by simpa using ‹¬f.names.contains name = true›)
    exact h origin members a ha name hx document hlookup

end

/-! ## Fields that lead to others -/

section
variable {α α' β β' : Type} {P : α → Prop} {R : α → α' → Prop} {Q : β → Prop} {S : β → β' → Prop}
  {x : Fields α} {y : Fields α'} {read : Reader α} {other : Reader α'}

theorem Leads.when (h : Leads R x y) (P : α → Prop) : LeadsWhen P R x y where
  names := h.names
  ofMembers origin members a hread _ := h.ofMembers origin members a hread
  ofItems expected wanted origin taken items a rest hread _ :=
    h.ofItems expected wanted origin taken items a rest hread

theorem leadsWhen_required (name : String) (h : Reader.LeadsWhen P R read other) :
    LeadsWhen P R (required name read) (required name other) where
  names := rfl
  ofMembers origin members a hread hfit := by
    obtain ⟨document, hlookup, hread⟩ := ofMembers_required_eq_ok_iff.mp hread
    obtain ⟨b, hb, hab⟩ := h origin document a hread hfit
    exact ⟨b, ofMembers_required_eq_ok_iff.mpr ⟨document, hlookup, hb⟩, hab⟩
  ofItems expected wanted origin taken items a rest hread hfit := by
    obtain ⟨document, hitems, hread⟩ := ofItems_required_eq_ok_iff.mp hread
    obtain ⟨b, hb, hab⟩ := h origin document a hread hfit
    exact ⟨b, ofItems_required_eq_ok_iff.mpr ⟨document, hitems, hb⟩, hab⟩

theorem LeadsWhen.map {g : α → β} {k : α' → β'} (h : LeadsWhen P R x y)
    (hfit : ∀ a, Q (g a) → P a) (hg : ∀ a b, R a b → S (g a) (k b)) :
    LeadsWhen Q S (g <$> x) (k <$> y) where
  names := h.names
  ofMembers origin members b hread hb := by
    obtain ⟨a, ha, rfl⟩ := ofMembers_map_eq_ok_iff.mp hread
    obtain ⟨c, hc, hac⟩ := h.ofMembers origin members a ha (hfit a hb)
    exact ⟨k c, ofMembers_map_eq_ok_iff.mpr ⟨c, hc, rfl⟩, hg a c hac⟩
  ofItems expected wanted origin taken items b rest hread hb := by
    obtain ⟨a, ha, rfl⟩ := ofItems_map_eq_ok_iff.mp hread
    obtain ⟨c, hc, hac⟩ := h.ofItems expected wanted origin taken items a rest ha (hfit a hb)
    exact ⟨k c, ofItems_map_eq_ok_iff.mpr ⟨c, hc, rfl⟩, hg a c hac⟩

/-- The function is fit when it can give anything fit, and only then is its argument asked about. -/
theorem LeadsWhen.seq {f : Fields (α → β)} {k : Fields (α' → β')}
    {T : (α → β) → (α' → β') → Prop} (hf : LeadsWhen (fun g => ∃ a, Q (g a)) T f k)
    (h : LeadsWhen P R x y) (hfit : ∀ g g' a, T g g' → Q (g a) → P a)
    (hg : ∀ g g' a b, T g g' → R a b → S (g a) (g' b)) : LeadsWhen Q S (f <*> x) (k <*> y) where
  names := by rw [names_seq, names_seq, hf.names, h.names]
  ofMembers origin members b hread hb := by
    obtain ⟨g, a, hfunction, ha, rfl⟩ := ofMembers_seq_eq_ok_iff.mp hread
    obtain ⟨g', hg', hgg⟩ := hf.ofMembers origin members g hfunction ⟨a, hb⟩
    obtain ⟨c, hc, hac⟩ := h.ofMembers origin members a ha (hfit g g' a hgg hb)
    exact ⟨g' c, ofMembers_seq_eq_ok_iff.mpr ⟨g', c, hg', hc, rfl⟩, hg g g' a c hgg hac⟩
  ofItems expected wanted origin taken items b rest hread hb := by
    obtain ⟨g, a, between, hfunction, ha, rfl⟩ := ofItems_seq_eq_ok_iff.mp hread
    obtain ⟨g', hg', hgg⟩ :=
      hf.ofItems expected wanted origin taken items g between hfunction ⟨a, hb⟩
    obtain ⟨c, hc, hac⟩ := h.ofItems expected wanted origin _ between a rest ha
      (hfit g g' a hgg hb)
    refine ⟨g' c, ofItems_seq_eq_ok_iff.mpr ⟨g', c, between, hg', ?_, rfl⟩, hg g g' a c hgg hac⟩
    rw [← hf.names]
    exact hc

/-- A field that reads alike behind fields that decide what is fit. -/
theorem LeadsWhen.seq_leads {f : Fields (α → β)} {k : Fields (α' → β')}
    (hf : LeadsWhen (fun g => ∃ a, Q (g a)) (fun g g' => ∀ a b, R a b → S (g a) (g' b)) f k)
    (h : Leads R x y) : LeadsWhen Q S (f <*> x) (k <*> y) :=
  hf.seq (h.when fun _ => True) (fun _ _ _ _ _ => trivial) fun _ _ a b hgg hab => hgg a b hab

end

end Fields

/-! ## Records -/

/-- Members are kept alike by another examination that all of the kept ones pass. -/
theorem examineMembers_of_kept {names : List String} {examine examine' : String → Reader Unit}
    {origin : Origin} {members : List (Option String × Document)}
    {kept result : List (String × Document)}
    (h : examineMembers names examine origin kept members = .ok result)
    (hexamine : ∀ name ∈ names, ∀ document, result.lookup name = some document →
      examine' name origin document = .ok ()) :
    examineMembers names examine' origin kept members = .ok result := by
  induction members generalizing kept with
  | nil => exact h
  | cons m members ih =>
    obtain ⟨_ | name, document⟩ := m
    · cases h
    rw [examineMembers] at h ⊢
    by_cases hname : name ∈ names
    · rw [if_pos (by simpa using hname)] at h ⊢
      split at h
      · cases h
      · rename_i hfresh
        obtain ⟨-, -, hrest⟩ := bind_eq_ok_iff.mp h
        have hnone : kept.lookup name = none := Option.not_isSome_iff_eq_none.mp hfresh
        have hlookup : result.lookup name = some document := by
          rw [lookup_of_examineMembers hrest hname, List.lookup_append, hnone]
          simp
        rw [if_neg hfresh]
        exact bind_eq_ok_iff.mpr ⟨(), hexamine name hname document hlookup, ih hrest⟩
    · rw [if_neg (by simpa using hname)] at h ⊢
      split at h
      · rw [if_pos ‹_›]
        exact ih h
      · cases h

theorem Reader.leadsWhen_record {α β : Type} {P : α → Prop} {R : α → β → Prop}
    {fields : Fields α} {others : Fields β} (record record' : String)
    (h : Fields.LeadsWhen P R fields others) (hexamines : others.Examines) :
    LeadsWhen P R (Reader.record record fields) (Reader.record record' others) := by
  intro origin document a hread hfit
  cases document with
  | object members =>
    obtain ⟨inner, hinner, hread⟩ := bind_eq_ok_iff.mp hread
    obtain ⟨kept, hkept, hread⟩ := bind_eq_ok_iff.mp hread
    obtain ⟨b, hb, hab⟩ := h.ofMembers inner kept a hread hfit
    have hexamined : ∀ name ∈ fields.names, ∀ document, kept.lookup name = some document →
        others.examine name inner document = .ok () :=
      fun name hname => hexamines inner kept b hb name (h.names ▸ hname)
    refine ⟨b, bind_eq_ok_iff.mpr ⟨inner, hinner, bind_eq_ok_iff.mpr ⟨kept, ?_, hb⟩⟩, hab⟩
    rw [← h.names]
    exact examineMembers_of_kept hkept hexamined
  | array items =>
    obtain ⟨inner, hinner, hread⟩ := bind_eq_ok_iff.mp hread
    obtain ⟨⟨value, rest⟩, hitems, hread⟩ := bind_eq_ok_iff.mp hread
    cases rest with
    | cons item rest => cases hread
    | nil =>
      cases hread
      obtain ⟨b, hb, hab⟩ := h.ofItems _ (recordName record' others.names.length) inner 0 items _ _
        hitems hfit
      refine ⟨b, ?_, hab⟩
      exact bind_eq_ok_iff.mpr ⟨inner, hinner, bind_eq_ok_iff.mpr ⟨(b, []), hb, rfl⟩⟩
  | _ => exact absurd hread (Document.refuse_ne_ok _ _ _)

end StorageGateway.Json

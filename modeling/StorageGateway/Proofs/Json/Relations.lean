import StorageGateway.Proofs.Json.Records

/-!
# Readers that read more than others

Two readers are related when one of them reads whatever the other one reads, as something that is
related to it. Fields are related when those that they are made of are, and so are records, whatever
they are called.
-/

namespace StorageGateway.Json

/-- Whatever the first one reads the other one reads as well, as something related. -/
def Reader.Leads {α β : Type} (R : α → β → Prop) (read : Reader α) (other : Reader β) : Prop :=
  ∀ origin document a, read origin document = .ok a →
    ∃ b, other origin document = .ok b ∧ R a b

/-- The same of fields. -/
structure Fields.Leads {α β : Type} (R : α → β → Prop) (fields : Fields α) (others : Fields β) :
    Prop where
  names : fields.names = others.names
  examine : ∀ name origin document, fields.examine name origin document = .ok () →
    others.examine name origin document = .ok ()
  ofMembers : ∀ origin members a, fields.ofMembers origin members = .ok a →
    ∃ b, others.ofMembers origin members = .ok b ∧ R a b
  ofItems : ∀ expected wanted origin taken items a rest,
    fields.ofItems expected origin taken items = .ok (a, rest) →
    ∃ b, others.ofItems wanted origin taken items = .ok (b, rest) ∧ R a b

namespace Reader

variable {α β : Type} {R : α → β → Prop} {read : Reader α} {other : Reader β}

theorem Leads.refl (read : Reader α) : Leads Eq read read :=
  fun _ _ a h => ⟨a, h, rfl⟩

theorem u16_leads_u32 : Leads (fun n m => m = n.toUInt32) u16 u32 := by
  intro origin document n h
  refine ⟨n.toUInt32, ?_, rfl⟩
  rw [u32_eq_ok_iff, UInt16.toNat_toUInt32]
  exact u16_eq_ok_iff.mp h

end Reader

namespace Fields

variable {α α' β β' : Type} {R : α → α' → Prop} {S : β → β' → Prop} {x : Fields α} {y : Fields α'}
  {read : Reader α} {other : Reader α'}

theorem leads_single (name : String) (h : Reader.Leads R read other) {unnamed named : Option α}
    {unnamed' named' : Option α'}
    (hunnamed : ∀ a, unnamed = some a → ∃ b, unnamed' = some b ∧ R a b)
    (hnamed : ∀ a, named = some a → ∃ b, named' = some b ∧ R a b) :
    Leads R (single name read unnamed named) (single name other unnamed' named') where
  names := rfl
  examine _ origin document hread := by
    obtain ⟨a, ha, -⟩ := map_eq_ok_iff.mp hread
    obtain ⟨b, hb, -⟩ := h origin document a ha
    exact map_eq_ok_iff.mpr ⟨b, hb, rfl⟩
  ofMembers origin members a hread := by
    simp only [single] at hread ⊢
    cases hlookup : members.lookup name with
    | some document =>
      rw [hlookup] at hread
      exact h origin document a hread
    | none =>
      rw [hlookup] at hread
      cases named with
      | none => cases hread
      | some value =>
        cases hread
        obtain ⟨b, rfl, hab⟩ := hnamed _ rfl
        exact ⟨b, rfl, hab⟩
  ofItems expected wanted origin taken items a rest hread := by
    simp only [single] at hread ⊢
    cases items with
    | cons item after =>
      obtain ⟨value, hitem, hread⟩ := bind_eq_ok_iff.mp hread
      cases hread
      obtain ⟨b, hb, hab⟩ := h origin item a hitem
      exact ⟨b, by simp [hb, bind_eq_ok_iff], hab⟩
    | nil =>
      cases unnamed with
      | none => cases hread
      | some value =>
        cases hread
        obtain ⟨b, rfl, hab⟩ := hunnamed _ rfl
        exact ⟨b, rfl, hab⟩

theorem leads_required (name : String) (h : Reader.Leads R read other) :
    Leads R (required name read) (required name other) :=
  leads_single name h (fun _ hnone => by cases hnone) fun _ hnone => by cases hnone

theorem leads_defaulted (name : String) (h : Reader.Leads R read other) {value : α} {value' : α'}
    (hvalue : R value value') :
    Leads R (defaulted name read value) (defaulted name other value') := by
  refine leads_single name h ?_ ?_
  · rintro _ ⟨⟩
    exact ⟨value', rfl, hvalue⟩
  · rintro _ ⟨⟩
    exact ⟨value', rfl, hvalue⟩

theorem Leads.map {g : α → β} {k : α' → β'} (h : Leads R x y)
    (hg : ∀ a b, R a b → S (g a) (k b)) : Leads S (g <$> x) (k <$> y) where
  names := h.names
  examine name origin document hread := h.examine name origin document hread
  ofMembers origin members b hread := by
    obtain ⟨a, ha, rfl⟩ := ofMembers_map_eq_ok_iff.mp hread
    obtain ⟨c, hc, hac⟩ := h.ofMembers origin members a ha
    exact ⟨k c, ofMembers_map_eq_ok_iff.mpr ⟨c, hc, rfl⟩, hg a c hac⟩
  ofItems expected wanted origin taken items b rest hread := by
    obtain ⟨a, ha, rfl⟩ := ofItems_map_eq_ok_iff.mp hread
    obtain ⟨c, hc, hac⟩ := h.ofItems expected wanted origin taken items a rest ha
    exact ⟨k c, ofItems_map_eq_ok_iff.mpr ⟨c, hc, rfl⟩, hg a c hac⟩

theorem Leads.seq {f : Fields (α → β)} {k : Fields (α' → β')}
    (hf : Leads (fun g g' => ∀ a b, R a b → S (g a) (g' b)) f k) (h : Leads R x y) :
    Leads S (f <*> x) (k <*> y) where
  names := by rw [names_seq, names_seq, hf.names, h.names]
  examine name origin document hread := by
    rw [examine_seq, hf.names] at hread
    rw [examine_seq]
    split
    · rw [if_pos ‹_›] at hread
      exact hf.examine name origin document hread
    · rw [if_neg ‹_›] at hread
      exact h.examine name origin document hread
  ofMembers origin members b hread := by
    obtain ⟨g, a, hg, ha, rfl⟩ := ofMembers_seq_eq_ok_iff.mp hread
    obtain ⟨g', hg', hgg⟩ := hf.ofMembers origin members g hg
    obtain ⟨c, hc, hac⟩ := h.ofMembers origin members a ha
    exact ⟨g' c, ofMembers_seq_eq_ok_iff.mpr ⟨g', c, hg', hc, rfl⟩, hgg a c hac⟩
  ofItems expected wanted origin taken items b rest hread := by
    obtain ⟨g, a, between, hg, ha, rfl⟩ := ofItems_seq_eq_ok_iff.mp hread
    obtain ⟨g', hg', hgg⟩ := hf.ofItems expected wanted origin taken items g between hg
    obtain ⟨c, hc, hac⟩ := h.ofItems expected wanted origin _ between a rest ha
    refine ⟨g' c, ofItems_seq_eq_ok_iff.mpr ⟨g', c, between, hg', ?_, rfl⟩, hgg a c hac⟩
    rw [← hf.names]
    exact hc

theorem Leads.examineMembers (h : Leads R x y) {origin : Origin}
    {members : List (Option String × Document)} {kept result : List (String × Document)}
    (hread : examineMembers x.names x.examine origin kept members = .ok result) :
    Json.examineMembers y.names y.examine origin kept members = .ok result := by
  induction members generalizing kept with
  | nil => exact hread
  | cons m members ih =>
    obtain ⟨_ | name, document⟩ := m
    · cases hread
    rw [Json.examineMembers, h.names] at hread
    rw [Json.examineMembers]
    split
    · rw [if_pos ‹_›] at hread
      split
      · rw [if_pos ‹_›] at hread
        cases hread
      · rw [if_neg ‹_›] at hread
        obtain ⟨_, hexamine, hrest⟩ := bind_eq_ok_iff.mp hread
        refine bind_eq_ok_iff.mpr ⟨(), h.examine name origin document hexamine, ?_⟩
        exact ih (h.names ▸ hrest)
    · rw [if_neg ‹_›] at hread
      split
      · rw [if_pos ‹_›] at hread
        exact ih (h.names ▸ hread)
      · rw [if_neg ‹_›] at hread
        cases hread

end Fields

/-- Records are read alike when their fields are, under whatever names for the records. -/
theorem Reader.leads_record {α β : Type} {R : α → β → Prop} {fields : Fields α}
    {others : Fields β} (record record' : String) (h : Fields.Leads R fields others) :
    Leads R (Reader.record record fields) (Reader.record record' others) := by
  intro origin document a hread
  cases document with
  | object members =>
    obtain ⟨inner, hinner, hread⟩ := bind_eq_ok_iff.mp hread
    obtain ⟨kept, hkept, hread⟩ := bind_eq_ok_iff.mp hread
    obtain ⟨b, hb, hab⟩ := h.ofMembers inner kept a hread
    refine ⟨b, ?_, hab⟩
    exact bind_eq_ok_iff.mpr ⟨inner, hinner,
      bind_eq_ok_iff.mpr ⟨kept, h.examineMembers hkept, hb⟩⟩
  | array items =>
    obtain ⟨inner, hinner, hread⟩ := bind_eq_ok_iff.mp hread
    obtain ⟨⟨value, rest⟩, hitems, hread⟩ := bind_eq_ok_iff.mp hread
    cases rest with
    | cons item rest => cases hread
    | nil =>
      cases hread
      obtain ⟨b, hb, hab⟩ := h.ofItems _ (recordName record' others.names.length) inner 0 items _ _
        hitems
      refine ⟨b, ?_, hab⟩
      exact bind_eq_ok_iff.mpr ⟨inner, hinner, bind_eq_ok_iff.mpr ⟨(b, []), hb, rfl⟩⟩
  | _ => exact absurd hread (Document.refuse_ne_ok _ _ _)

/-- Records with the same single field. -/
theorem Reader.leads_single {α : Type} (record record' field : String) (value : Schema α) :
    Leads Eq (Schema.single record field value).read (Schema.single record' field value).read :=
  leads_record record record' (Fields.leads_required field (.refl value.read))

end StorageGateway.Json

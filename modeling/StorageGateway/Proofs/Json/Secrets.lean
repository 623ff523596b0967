import Mathlib.Data.List.Forall2
import StorageGateway.Proofs.Json.Records

/-!
# Reading documents that differ in secrets

Two documents are alike when they differ in nothing but the texts of members under certain names. A
record that only takes such a member as a text is read from both of them or from neither, and when
it is not, for the same reason.
-/

namespace StorageGateway

/-- Two outcomes with the same error, or with values that are related. -/
inductive Agree {ε α β : Type} (R : α → β → Prop) : Except ε α → Except ε β → Prop where
  | ok {a : α} {b : β} (related : R a b) : Agree R (.ok a) (.ok b)
  | error (e : ε) : Agree R (.error e) (.error e)

namespace Agree

variable {ε α β α' β' : Type} {R : α → β → Prop} {S : α' → β' → Prop}

theorem refl (outcome : Except ε α) : Agree Eq outcome outcome := by
  cases outcome with
  | ok a => exact .ok rfl
  | error e => exact .error e

theorem eq {outcome other : Except ε α} (h : Agree Eq outcome other) : outcome = other := by
  cases h with
  | ok hsame => rw [hsame]
  | error e => rfl

theorem of_ok {a : α} {b : β} {outcome : Except ε α} {other : Except ε β}
    (h : Agree R outcome other) (hleft : outcome = .ok a) (hright : other = .ok b) : R a b := by
  cases h with
  | ok hab =>
    cases hleft
    cases hright
    exact hab
  | error e => cases hleft

theorem bind {first : Except ε α} {first' : Except ε β} (h : Agree R first first')
    {next : α → Except ε α'} {next' : β → Except ε β'}
    (hnext : ∀ a b, R a b → Agree S (next a) (next' b)) :
    Agree S (first >>= next) (first' >>= next') := by
  cases h with
  | ok hab => exact hnext _ _ hab
  | error e => exact .error e

/-- What is known of each of the values is added to how they are related. -/
theorem and {outcome : Except ε α} {other : Except ε β} (h : Agree R outcome other)
    {P : α → Prop} {Q : β → Prop} (hleft : ∀ a, outcome = .ok a → P a)
    (hright : ∀ b, other = .ok b → Q b) :
    Agree (fun a b => R a b ∧ P a ∧ Q b) outcome other := by
  cases h with
  | ok hab => exact .ok ⟨hab, hleft _ rfl, hright _ rfl⟩
  | error e => exact .error e

end Agree

namespace Json

/-! ## Alike members -/

/-- What stands under a name in two places: the same, or texts if the name is one of the secrets. -/
inductive Alike (secrets : List String) (name : String) : Document → Document → Prop where
  | same (document : Document) : Alike secrets name document document
  | texts (secret : name ∈ secrets) (text other : String) :
      Alike secrets name (.string (some text)) (.string (some other))

/-- Members under the same names, with what is alike. -/
def MembersAlike (secrets : List String) :
    List (String × Document) → List (String × Document) → Prop :=
  List.Forall₂ fun m m' => m.1 = m'.1 ∧ Alike secrets m.1 m.2 m'.2

/-- Members of JSON objects that differ in the texts of secrets only. -/
def DifferIn (secrets : List String) : List (String × Json) → List (String × Json) → Prop :=
  List.Forall₂ fun m m' => m.1 = m'.1 ∧
    (m.2 = m'.2 ∨ m.1 ∈ secrets ∧ ∃ text other, m.2 = .string text ∧ m'.2 = .string other)

section

variable {secrets : List String} {name : String}

theorem DifferIn.of_subset {more : List String} {members members' : List (String × Json)}
    (h : DifferIn secrets members members') (hsecrets : secrets ⊆ more) :
    DifferIn more members members' :=
  List.Forall₂.imp (fun _ _ hm => ⟨hm.1, hm.2.imp_right (·.imp_left (hsecrets ·))⟩) h

theorem DifferIn.lookup_eq {members members' : List (String × Json)}
    (h : DifferIn secrets members members') (hopen : name ∉ secrets) :
    members.lookup name = members'.lookup name := by
  unfold DifferIn at h
  induction h with
  | nil => rfl
  | @cons m m' members members' hm hrest ih =>
    obtain ⟨first, value⟩ := m
    obtain ⟨first', value'⟩ := m'
    obtain ⟨rfl, hvalue⟩ := hm
    by_cases hsame : name = first
    · subst hsame
      rcases hvalue with heq | ⟨hsecret, -⟩
      · obtain rfl : value = value' := heq
        simp
      · exact absurd hsecret hopen
    · have hb : (name == first) = false := by simpa using hsame
      simpa only [List.lookup_cons, hb] using ih

theorem Alike.eq_of_not_secret {document other : Document} (h : Alike secrets name document other)
    (hopen : name ∉ secrets) : document = other := by
  cases h with
  | same => rfl
  | texts hsecret => exact absurd hsecret hopen

/-- What can be read as a text on one side can be on the other. -/
theorem Alike.string {document other : Document} (h : Alike secrets name document other)
    (origin : Origin) :
    Agree (fun _ _ => True) (Reader.string origin document) (Reader.string origin other) := by
  cases h with
  | same =>
    cases Reader.string origin document with
    | ok text => exact .ok trivial
    | error refusal => exact .error refusal
  | texts => exact .ok trivial

theorem MembersAlike.lookup {members others : List (String × Document)}
    (h : MembersAlike secrets members others) (name : String) :
    members.lookup name = none ∧ others.lookup name = none ∨
      ∃ document other, members.lookup name = some document ∧ others.lookup name = some other ∧
        Alike secrets name document other := by
  unfold MembersAlike at h
  induction h with
  | nil => exact .inl ⟨rfl, rfl⟩
  | @cons m m' members others hm hrest ih =>
    obtain ⟨first, document⟩ := m
    obtain ⟨first', other⟩ := m'
    obtain ⟨rfl, halike⟩ := hm
    by_cases hsame : name = first
    · subst hsame
      exact .inr ⟨document, other, by simp, by simp, halike⟩
    · have hb : (name == first) = false := by simpa using hsame
      simpa only [List.lookup_cons, hb] using ih

end

/-! ## Fields -/

/-- Fields that are taken from alike members as values that are related, or refused for the same
reason. -/
structure Fields.Agrees {α β : Type} (secrets : List String) (R : α → β → Prop)
    (fields : Fields α) (others : Fields β) : Prop where
  names : fields.names = others.names
  examine : ∀ name ∈ fields.names, ∀ origin document other, Alike secrets name document other →
    fields.examine name origin document = others.examine name origin other
  ofMembers : ∀ origin members members', MembersAlike secrets members members' →
    Agree R (fields.ofMembers origin members) (others.ofMembers origin members')

namespace Fields

variable {α β α' β' : Type} {secrets : List String} {R : α → α' → Prop} {S : β → β' → Prop}

/-- A field that is no secret, which is taken alike because it is the same. -/
theorem agrees_open {name : String} (hopen : name ∉ secrets) (read : Reader α)
    (unnamed named : Option α) :
    Agrees secrets Eq (single name read unnamed named) (single name read unnamed named) where
  names := rfl
  examine other hother origin document document' halike := by
    obtain rfl : other = name := List.mem_singleton.mp hother
    rw [halike.eq_of_not_secret hopen]
  ofMembers origin members members' halike := by
    have hlookup : members.lookup name = members'.lookup name := by
      rcases halike.lookup name with ⟨hnone, hnone'⟩ | ⟨document, document', hd, hd', halike⟩
      · rw [hnone, hnone']
      · rw [hd, hd', halike.eq_of_not_secret hopen]
    simp only [single, hlookup]
    exact .refl _

theorem agrees_required_open {name : String} (hopen : name ∉ secrets) (read : Reader α) :
    Agrees secrets Eq (required name read) (required name read) :=
  agrees_open hopen read _ _

theorem agrees_defaulted_open {name : String} (hopen : name ∉ secrets) (read : Reader α)
    (value : α) : Agrees secrets Eq (defaulted name read value) (defaulted name read value) :=
  agrees_open hopen read _ _

/-- A field that may be a secret, and is only taken as a text. -/
theorem agrees_text (name : String) (unnamed named : Option String) :
    Agrees secrets (fun _ _ => True) (single name Reader.string unnamed named)
      (single name Reader.string unnamed named) where
  names := rfl
  examine other _ origin document document' halike := by
    have hread := halike.string origin
    simp only [single]
    cases hread' : Reader.string origin document with
    | ok text =>
      rw [hread'] at hread
      generalize Reader.string origin document' = outcome at hread
      cases hread
      rfl
    | error refusal =>
      rw [hread'] at hread
      generalize Reader.string origin document' = outcome at hread
      cases hread
      rfl
  ofMembers origin members members' halike := by
    simp only [single]
    rcases halike.lookup name with ⟨hnone, hnone'⟩ | ⟨document, document', hd, hd', halike⟩
    · rw [hnone, hnone']
      cases named with
      | none => exact .error _
      | some value => exact .ok trivial
    · rw [hd, hd']
      exact halike.string origin

theorem Agrees.map {g : α → β} {g' : α' → β'} {x : Fields α} {x' : Fields α'}
    (h : Agrees secrets R x x') (hg : ∀ a b, R a b → S (g a) (g' b)) :
    Agrees secrets S (g <$> x) (g' <$> x') where
  names := h.names
  examine := h.examine
  ofMembers origin members members' halike :=
    (h.ofMembers origin members members' halike).bind fun a b hab => .ok (hg a b hab)

theorem Agrees.seq {f : Fields (α → β)} {f' : Fields (α' → β')} {x : Fields α} {x' : Fields α'}
    (hf : Agrees secrets (fun g g' => ∀ a b, R a b → S (g a) (g' b)) f f')
    (hx : Agrees secrets R x x') : Agrees secrets S (f <*> x) (f' <*> x') where
  names := by rw [names_seq, names_seq, hf.names, hx.names]
  examine name hname origin document other halike := by
    rw [examine_seq, examine_seq, ← hf.names]
    by_cases hfirst : name ∈ f.names
    · have hcontains : f.names.contains name = true := by simpa using hfirst
      rw [if_pos hcontains, if_pos hcontains]
      exact hf.examine name hfirst origin document other halike
    · have hcontains : ¬ f.names.contains name = true := by simpa using hfirst
      have hrest : name ∈ x.names := (List.mem_append.mp hname).resolve_left hfirst
      rw [if_neg hcontains, if_neg hcontains]
      exact hx.examine name hrest origin document other halike
  ofMembers origin members members' halike :=
    (hf.ofMembers origin members members' halike).bind fun g g' hg =>
      (hx.ofMembers origin members members' halike).bind fun a b hab => .ok (hg a b hab)

theorem Agrees.examineMembers {x : Fields α} {x' : Fields α'} (h : Agrees secrets R x x')
    (origin : Origin) {members members' : List (String × Json)}
    (hmembers : DifferIn secrets members members') {kept kept' : List (String × Document)}
    (hkept : MembersAlike secrets kept kept') :
    Agree (MembersAlike secrets)
      (examineMembers x.names x.examine origin kept (memberDocuments members))
      (examineMembers x'.names x'.examine origin kept' (memberDocuments members')) := by
  unfold DifferIn at hmembers
  induction hmembers generalizing kept kept' with
  | nil => exact .ok hkept
  | @cons m m' members members' hm hrest ih =>
    obtain ⟨name, value⟩ := m
    obtain ⟨name', value'⟩ := m'
    obtain ⟨rfl, hvalue⟩ := hm
    have halike : Alike secrets name value.toDocument value'.toDocument := by
      rcases hvalue with hsame | ⟨hsecret, text, other, htext, hother⟩
      · obtain rfl : value = value' := hsame
        exact .same _
      · obtain rfl : value = .string text := htext
        obtain rfl : value' = .string other := hother
        exact .texts hsecret text other
    simp only [memberDocuments, memberDocument, Json.examineMembers]
    rw [← h.names]
    by_cases hname : name ∈ x.names
    · have hcontains : x.names.contains name = true := by simpa using hname
      rw [if_pos hcontains, if_pos hcontains]
      have hkeptAlike : MembersAlike secrets (kept ++ [(name, value.toDocument)])
          (kept' ++ [(name, value'.toDocument)]) :=
        List.rel_append hkept (.cons ⟨rfl, halike⟩ .nil)
      have hexamine := h.examine name hname origin _ _ halike
      have hgo := ih hkeptAlike
      rw [← h.names] at hgo
      rcases hkept.lookup name with ⟨hnone, hnone'⟩ | ⟨document, document', hd, hd', -⟩
      · rw [hnone, hnone', hexamine]
        exact (Agree.refl _).bind fun _ _ _ => hgo
      · rw [hd, hd']
        exact .error _
    · have hcontains : ¬ x.names.contains name = true := by simpa using hname
      rw [if_neg hcontains, if_neg hcontains]
      have hskippable : value.toDocument.skippable = value'.toDocument.skippable := by
        generalize value.toDocument = document at halike
        generalize value'.toDocument = document' at halike
        cases halike with
        | same => rfl
        | texts => rfl
      have hgo := ih hkept
      rw [← h.names] at hgo
      rw [hskippable]
      split
      · exact hgo
      · exact .error _

end Fields

/-- Records are read from objects that differ in secrets only as values that are related, or refused
for the same reason. -/
theorem Reader.agree_record {α β : Type} {secrets : List String} {R : α → β → Prop}
    {fields : Fields α} {others : Fields β} (name : String)
    (h : Fields.Agrees secrets R fields others) {members members' : List (String × Json)}
    (hmembers : DifferIn secrets members members') :
    Agree R ((Reader.record name fields).ofJson (.object members))
      ((Reader.record name others).ofJson (.object members')) :=
  (h.examineMembers .value hmembers .nil).bind fun kept kept' hkept =>
    h.ofMembers .value kept kept' hkept

end Json

end StorageGateway

import Mathlib.Order.Basic
import StorageGateway.Json.Reader
import StorageGateway.Proofs.Json.Tokens
import StorageGateway.Proofs.Table

/-!
# Layouts of a value

A value can be laid out as a text in many ways: its members in any order, with blanks or without,
and its strings and numbers spelled as one likes. All of these texts hold the value, and it is read
from them as far as its depth allows.
-/

namespace StorageGateway.Json

/-- A value is built from its items or from the values of its members. -/
@[elab_as_elim]
theorem induct {motive : Json → Prop} (null : motive .null) (bool : ∀ b, motive (.bool b))
    (number : ∀ n, motive (.number n)) (string : ∀ s, motive (.string s))
    (array : ∀ items, (∀ item ∈ items, motive item) → motive (.array items))
    (object : ∀ members, (∀ m ∈ members, motive m.2) → motive (.object members))
    (value : Json) : motive value :=
  @Json.rec motive (fun items => ∀ item ∈ items, motive item)
    (fun members => ∀ m ∈ members, motive m.2) (fun m => motive m.2)
    null bool number string array object
    (List.forall_mem_nil _) (fun _ _ hitem hitems => List.forall_mem_cons.mpr ⟨hitem, hitems⟩)
    (List.forall_mem_nil _) (fun _ _ hm hmembers => List.forall_mem_cons.mpr ⟨hm, hmembers⟩)
    (fun _ _ h => h) value

/-! ## The tokens of a value -/

mutual

/-- The tokens of a value. -/
def tokens : Json → List Token
  | .null => [.null]
  | .bool b => [.bool b]
  | .number n => [.number (some n)]
  | .string s => [.string (some s)]
  | .array items => .openArray :: itemTokens items
  | .object members => .openObject :: memberTokens members
termination_by structural value => value

/-- The tokens of the items of an array and of its closing bracket. -/
def itemTokens : List Json → List Token
  | [] => [.closeArray]
  | [item] => tokens item ++ [.closeArray]
  | item :: items => tokens item ++ .comma :: itemTokens items
termination_by structural items => items

/-- The tokens of the members of an object and of its closing brace. -/
def memberTokens : List (String × Json) → List Token
  | [] => [.closeObject]
  | [m] => oneMemberTokens m ++ [.closeObject]
  | m :: members => oneMemberTokens m ++ .comma :: memberTokens members
termination_by structural members => members

/-- The tokens of one member. -/
def oneMemberTokens : String × Json → List Token
  | (name, value) => .string (some name) :: .colon :: tokens value
termination_by structural m => m

end

/-! ## From tokens to the document -/

/-- The tokens of a value are read as the value, whatever follows, in two steps for each of them. -/
def Builds (value : Json) : Prop :=
  ∀ fuel rest, 2 * value.tokens.length ≤ fuel →
    Document.readValue fuel (value.tokens ++ rest) = (value.toDocument, rest)

theorem readItems_itemTokens {items : List Json} (hne : items ≠ [])
    (h : ∀ item ∈ items, Builds item) (fuel : Nat) (rest : List Token)
    (hfuel : 2 * (itemTokens items).length ≤ fuel) :
    Document.readItems fuel (itemTokens items ++ rest) = (itemDocuments items, rest) := by
  induction items generalizing fuel with
  | nil => exact absurd rfl hne
  | cons item items ih =>
    have hitem := h item List.mem_cons_self
    cases items with
    | nil =>
      have htokens : itemTokens [item] = item.tokens ++ [.closeArray] := rfl
      rw [htokens, List.length_append, List.length_singleton] at hfuel
      obtain ⟨fuel, rfl⟩ : ∃ left, fuel = left + 1 := ⟨fuel - 1, by omega⟩
      rw [htokens, List.append_assoc, Document.readItems, hitem fuel _ (by omega)]
      rfl
    | cons next items =>
      have htokens : itemTokens (item :: next :: items) =
          item.tokens ++ .comma :: itemTokens (next :: items) := rfl
      rw [htokens, List.length_append, List.length_cons] at hfuel
      obtain ⟨fuel, rfl⟩ : ∃ left, fuel = left + 1 := ⟨fuel - 1, by omega⟩
      have hothers := ih (List.cons_ne_nil _ _)
        (fun other hother => h other (List.mem_cons_of_mem _ hother)) fuel (by omega)
      rw [htokens, List.append_assoc, Document.readItems, hitem fuel _ (by omega)]
      dsimp only [List.cons_append]
      rw [hothers]
      rfl

theorem readMembers_memberTokens {members : List (String × Json)} (hne : members ≠ [])
    (h : ∀ m ∈ members, Builds m.2) (fuel : Nat) (rest : List Token)
    (hfuel : 2 * (memberTokens members).length ≤ fuel) :
    Document.readMembers fuel (memberTokens members ++ rest) = (memberDocuments members, rest) := by
  induction members generalizing fuel with
  | nil => exact absurd rfl hne
  | cons m members ih =>
    obtain ⟨name, value⟩ := m
    have hvalue : Builds value := h (name, value) List.mem_cons_self
    cases members with
    | nil =>
      have htokens : memberTokens [(name, value)] =
          .string (some name) :: .colon :: (value.tokens ++ [.closeObject]) := rfl
      rw [htokens, List.length_cons, List.length_cons, List.length_append, List.length_singleton]
        at hfuel
      obtain ⟨fuel, rfl⟩ : ∃ left, fuel = left + 1 := ⟨fuel - 1, by omega⟩
      rw [htokens, List.cons_append, List.cons_append, List.append_assoc, Document.readMembers,
        hvalue fuel _ (by omega)]
      rfl
    | cons next members =>
      have htokens : memberTokens ((name, value) :: next :: members) =
          .string (some name) :: .colon ::
            (value.tokens ++ .comma :: memberTokens (next :: members)) := rfl
      rw [htokens, List.length_cons, List.length_cons, List.length_append, List.length_cons]
        at hfuel
      obtain ⟨fuel, rfl⟩ : ∃ left, fuel = left + 1 := ⟨fuel - 1, by omega⟩
      have hothers := ih (List.cons_ne_nil _ _)
        (fun other hother => h other (List.mem_cons_of_mem _ hother)) fuel (by omega)
      rw [htokens, List.cons_append, List.cons_append, List.append_assoc, Document.readMembers,
        hvalue fuel _ (by omega)]
      dsimp only [List.cons_append]
      rw [hothers]
      rfl

/-- No value begins with a closing bracket. -/
theorem exists_tokens (value : Json) :
    ∃ token others, value.tokens = token :: others ∧ token ≠ .closeArray := by
  cases value <;> exact ⟨_, _, rfl, fun h => by cases h⟩

theorem exists_itemTokens (item : Json) (items : List Json) :
    ∃ token others, itemTokens (item :: items) = token :: others ∧ token ≠ .closeArray := by
  obtain ⟨token, others, htokens, hne⟩ := item.exists_tokens
  cases items with
  | nil =>
    have hitem : itemTokens [item] = item.tokens ++ [.closeArray] := rfl
    exact ⟨token, others ++ [.closeArray], by rw [hitem, htokens]; rfl, hne⟩
  | cons next items =>
    have hitem : itemTokens (item :: next :: items) =
      item.tokens ++ .comma :: itemTokens (next :: items) := rfl
    exact ⟨token, others ++ .comma :: itemTokens (next :: items), by rw [hitem, htokens]; rfl, hne⟩

theorem readValue_openArray {token : Token} (hne : token ≠ .closeArray) (fuel : Nat)
    (others : List Token) :
    Document.readValue (fuel + 1) (.openArray :: token :: others) =
      (.array (Document.readItems fuel (token :: others)).1,
        (Document.readItems fuel (token :: others)).2) := by
  cases token with
  | closeArray => exact absurd rfl hne
  | _ => rfl

theorem builds_of_token {value : Json} {token : Token} (htokens : value.tokens = [token])
    (hread : ∀ fuel rest, Document.readValue (fuel + 1) (token :: rest) =
      (value.toDocument, rest)) : Builds value := by
  intro fuel rest hfuel
  rw [htokens, List.length_singleton] at hfuel
  obtain ⟨fuel, rfl⟩ : ∃ left, fuel = left + 1 := ⟨fuel - 1, by omega⟩
  rw [htokens]
  exact hread fuel rest

theorem builds_array {items : List Json} (h : ∀ item ∈ items, Builds item) :
    Builds (.array items) := by
  intro fuel rest hfuel
  have htokens : (Json.array items).tokens = .openArray :: itemTokens items := rfl
  rw [htokens, List.length_cons] at hfuel
  obtain ⟨fuel, rfl⟩ : ∃ left, fuel = left + 1 := ⟨fuel - 1, by omega⟩
  rw [htokens]
  cases items with
  | nil => rfl
  | cons item items =>
    have hitems := readItems_itemTokens (List.cons_ne_nil item items) h fuel rest (by omega)
    obtain ⟨token, others, hbegin, hne⟩ := exists_itemTokens item items
    rw [hbegin] at hitems ⊢
    rw [List.cons_append, List.cons_append, readValue_openArray hne, ← List.cons_append, hitems]
    rfl

theorem builds_object {members : List (String × Json)} (h : ∀ m ∈ members, Builds m.2) :
    Builds (.object members) := by
  intro fuel rest hfuel
  have htokens : (Json.object members).tokens = .openObject :: memberTokens members := rfl
  rw [htokens, List.length_cons] at hfuel
  obtain ⟨fuel, rfl⟩ : ∃ left, fuel = left + 1 := ⟨fuel - 1, by omega⟩
  rw [htokens]
  cases members with
  | nil => rfl
  | cons m members =>
    have hmembers := readMembers_memberTokens (List.cons_ne_nil m members) h fuel rest (by omega)
    obtain ⟨others, hbegin⟩ : ∃ others, memberTokens (m :: members) =
        .string (some m.1) :: others := by
      obtain ⟨name, value⟩ := m
      cases members <;> exact ⟨_, rfl⟩
    have hopen : Document.readValue (fuel + 1)
        (.openObject :: (memberTokens (m :: members) ++ rest)) =
        (.object (Document.readMembers fuel (memberTokens (m :: members) ++ rest)).1,
          (Document.readMembers fuel (memberTokens (m :: members) ++ rest)).2) := by
      rw [hbegin]
      rfl
    rw [List.cons_append, hopen, hmembers]
    rfl

theorem builds (value : Json) : Builds value := by
  induction value using Json.induct with
  | null => exact builds_of_token rfl fun _ _ => rfl
  | bool b => exact builds_of_token rfl fun _ _ => rfl
  | number n => exact builds_of_token rfl fun _ _ => rfl
  | string s => exact builds_of_token rfl fun _ _ => rfl
  | array items ih => exact builds_array ih
  | object members ih => exact builds_object ih

/-- The document of a text that spells the tokens of a value is the value, and nothing follows. -/
theorem ofText_of_spaced {value : Json} {text : List Char} (h : Token.Spaced value.tokens text) :
    Document.ofText (text.map some) = (value.toDocument, true) := by
  have hread := value.builds (2 * value.tokens.length + 1) [] (by omega)
  rw [List.append_nil] at hread
  rw [Document.ofText, h.ofText]
  dsimp only
  rw [hread]
  rfl

/-- Whatever is read from such a text is read from the value itself, to the depth that texts
have. -/
theorem ofGlyphs_of_spaced {α : Type} {value : Json} {text : List Char}
    (h : Token.Spaced value.tokens text) (read : Reader α) :
    read.ofGlyphs (text.map some) = read (.text greatestDepth) value.toDocument := by
  rw [Reader.ofGlyphs, ofText_of_spaced h]
  dsimp only
  cases read (.text greatestDepth) value.toDocument <;> rfl

/-- A value can be skipped wherever it stands. -/
theorem skippable_toDocument (value : Json) : value.toDocument.skippable = true := by
  induction value using Json.induct with
  | array items ih =>
    rw [toDocument, Document.skippable]
    induction items with
    | nil => rfl
    | cons item items others =>
      obtain ⟨hitem, hitems⟩ := List.forall_mem_cons.mp ih
      rw [itemDocuments, Document.skippableItems, hitem, others hitems]
      rfl
  | object members ih =>
    rw [toDocument, Document.skippable]
    induction members with
    | nil => rfl
    | cons m members others =>
      obtain ⟨hvalue, hmembers⟩ := List.forall_mem_cons.mp ih
      rw [memberDocuments, memberDocument, Document.skippableMembers, Document.skippableMember,
        hvalue, others hmembers]
      rfl
  | _ => rfl

/-! ## Depth and order -/

mutual

/-- How many arrays and objects are entered on the longest way into a value. -/
def depth : Json → Nat
  | .array items => itemsDepth items + 1
  | .object members => membersDepth members + 1
  | _ => 0
termination_by structural value => value

/-- The greatest depth of the items of an array. -/
def itemsDepth : List Json → Nat
  | [] => 0
  | item :: items => max (depth item) (itemsDepth items)
termination_by structural items => items

/-- The greatest depth of the values of members. -/
def membersDepth : List (String × Json) → Nat
  | [] => 0
  | m :: members => max (memberDepth m) (membersDepth members)
termination_by structural members => members

/-- The depth of the value of a member. -/
def memberDepth : String × Json → Nat
  | (_, value) => depth value
termination_by structural m => m

end

mutual

/-- A value with the members of its objects in the order of their names. -/
def sorted : Json → Json
  | .array items => .array (sortedItems items)
  | .object members => ofMembers (sortedMembers members)
  | value => value
termination_by structural value => value

/-- Items with their members in order. -/
def sortedItems : List Json → List Json
  | [] => []
  | item :: items => sorted item :: sortedItems items
termination_by structural items => items

/-- Members whose values have their members in order. -/
def sortedMembers : List (String × Json) → List (String × Json)
  | [] => []
  | m :: members => sortedMember m :: sortedMembers members
termination_by structural members => members

/-- A member whose value has its members in order. -/
def sortedMember : String × Json → String × Json
  | (name, value) => (name, sorted value)
termination_by structural m => m

end

theorem sortedItems_eq (items : List Json) : sortedItems items = items.map sorted := by
  induction items with
  | nil => rfl
  | cons item items ih => rw [sortedItems, ih, List.map_cons]

theorem sortedMembers_eq (members : List (String × Json)) :
    sortedMembers members = Table.mapValues sorted members := by
  induction members with
  | nil => rfl
  | cons m members ih =>
    obtain ⟨name, value⟩ := m
    rw [sortedMembers, sortedMember, ih]
    rfl

theorem itemsDepth_le_iff {items : List Json} {room : Nat} :
    itemsDepth items ≤ room ↔ ∀ item ∈ items, item.depth ≤ room := by
  induction items with
  | nil => simp [itemsDepth]
  | cons item items ih => rw [itemsDepth, Nat.max_le, ih, List.forall_mem_cons]

theorem membersDepth_le_iff {members : List (String × Json)} {room : Nat} :
    membersDepth members ≤ room ↔ ∀ m ∈ members, m.2.depth ≤ room := by
  induction members with
  | nil => simp [membersDepth]
  | cons m members ih =>
    obtain ⟨name, value⟩ := m
    rw [membersDepth, memberDepth, Nat.max_le, ih, List.forall_mem_cons]

/-- A result of something that is so deep, if there is room for it. -/
def ifRoom {α : Type} (depth room : Nat) (result : α) : Except Refusal α :=
  if depth ≤ room then .ok result else .error .malformed

theorem ifRoom_of_le {α : Type} {depth room : Nat} (h : depth ≤ room) (result : α) :
    ifRoom depth room result = .ok result := if_pos h

theorem ifRoom_of_lt {α : Type} {depth room : Nat} (h : room < depth) (result : α) :
    ifRoom depth room result = .error .malformed := if_neg (Nat.not_le.mpr h)

theorem ifRoom_map {α β : Type} (depth room : Nat) (a : α) (f : α → β) :
    (ifRoom depth room a >>= fun a => .ok (f a)) = ifRoom depth room (f a) := by
  unfold ifRoom
  split <;> rfl

/-- There is room for two things side by side when there is for the deeper one. -/
theorem ifRoom_max {α β γ : Type} (first second room : Nat) (a : α) (b : β) (f : α → β → γ) :
    (ifRoom first room a >>= fun a => ifRoom second room b >>= fun b => .ok (f a b)) =
      ifRoom (max first second) room (f a b) := by
  rcases Nat.lt_or_ge room first with hfirst | hfirst
  · rw [ifRoom_of_lt hfirst, ifRoom_of_lt (Nat.lt_of_lt_of_le hfirst (Nat.le_max_left ..))]
    rfl
  · rw [ifRoom_of_le hfirst]
    show (ifRoom second room b >>= fun b => .ok (f a b)) = _
    rw [ifRoom_map, ifRoom, ifRoom]
    simp [hfirst]

/-- What is in an array or object has one less to go. -/
theorem ifRoom_enter {α β : Type} {depth : Nat} {a : α} {read : Origin → Except Refusal α}
    (h : ∀ room, read (.text room) = ifRoom depth room a) (room : Nat) (f : α → β) :
    ((Origin.text room).enter >>= fun inner => read inner >>= fun a => .ok (f a)) =
      ifRoom (depth + 1) room (f a) := by
  cases room with
  | zero => rfl
  | succ room =>
    show (read (.text room) >>= fun a => .ok (f a)) = _
    rw [h, ifRoom_map, ifRoom, ifRoom]
    simp

/-- A value is read with its members in order if there is room for it. -/
def ReadsInOrder (value : Json) : Prop :=
  ∀ room, Reader.any value.toDocument (.text room) = ifRoom value.depth room value.sorted

theorem anyItems_itemDocuments {items : List Json} (h : ∀ item ∈ items, ReadsInOrder item)
    (room : Nat) : Reader.anyItems (itemDocuments items) (.text room) =
      ifRoom (itemsDepth items) room (sortedItems items) := by
  induction items with
  | nil => rfl
  | cons item items ih =>
    obtain ⟨hitem, hitems⟩ := List.forall_mem_cons.mp h
    rw [itemDocuments, Reader.anyItems, hitem room, ih hitems]
    exact ifRoom_max item.depth (itemsDepth items) room _ _ List.cons

theorem anyMembers_memberDocuments {members : List (String × Json)}
    (h : ∀ m ∈ members, ReadsInOrder m.2) (room : Nat) :
    Reader.anyMembers (memberDocuments members) (.text room) =
      ifRoom (membersDepth members) room (sortedMembers members) := by
  induction members with
  | nil => rfl
  | cons m members ih =>
    obtain ⟨name, value⟩ := m
    obtain ⟨hvalue, hmembers⟩ := List.forall_mem_cons.mp h
    have hmember : Reader.anyMember (some name, value.toDocument) (.text room) =
        ifRoom value.depth room (name, value.sorted) := by
      rw [← ifRoom_map value.depth room value.sorted, ← hvalue room]
      rfl
    rw [memberDocuments, memberDocument, Reader.anyMembers, hmember, ih hmembers]
    exact ifRoom_max value.depth (membersDepth members) room _ _ List.cons

theorem readsInOrder (value : Json) : ReadsInOrder value := by
  induction value using Json.induct with
  | null => exact fun _ => rfl
  | bool b => exact fun _ => rfl
  | number n => exact fun _ => rfl
  | string s => exact fun _ => rfl
  | array items ih => exact fun room => ifRoom_enter (anyItems_itemDocuments ih) room Json.array
  | object members ih =>
    exact fun room => ifRoom_enter (anyMembers_memberDocuments ih) room Json.ofMembers

/-! ## Texts of a value -/

/-- No object lists a name twice. -/
inductive HasDistinctNames : Json → Prop
  | null : HasDistinctNames .null
  | bool (b : Bool) : HasDistinctNames (.bool b)
  | number (n : JsonNumber) : HasDistinctNames (.number n)
  | string (s : String) : HasDistinctNames (.string s)
  | array {items : List Json} (h : ∀ item ∈ items, HasDistinctNames item) :
      HasDistinctNames (.array items)
  | object {members : List (String × Json)} (hnames : (members.map (·.1)).Nodup)
      (h : ∀ m ∈ members, HasDistinctNames m.2) : HasDistinctNames (.object members)

/-- No member is lost, so no depth is. -/
theorem HasDistinctNames.depth_sorted {value : Json} (h : HasDistinctNames value) :
    value.sorted.depth = value.depth := by
  induction h with
  | null => rfl
  | bool b => rfl
  | number n => rfl
  | string s => rfl
  | @array items h ih =>
    refine congrArg (· + 1) (eq_of_forall_ge_iff fun room => ?_)
    rw [sortedItems_eq, itemsDepth_le_iff, itemsDepth_le_iff, List.forall_mem_map]
    exact forall₂_congr fun item hitem => by rw [ih item hitem]
  | @object members hnames h ih =>
    have hkept : ((Table.mapValues sorted members).map (·.1)).Nodup := by
      rw [Table.mapValues, List.map_map]
      exact hnames
    refine congrArg (· + 1) (eq_of_forall_ge_iff fun room => ?_)
    rw [sortedMembers_eq, membersDepth_le_iff, membersDepth_le_iff]
    simp only [Table.mem_ofEntries_iff_of_nodup hkept]
    rw [Table.mapValues, List.forall_mem_map]
    exact forall₂_congr fun m hm => by rw [ih m hm]

/-- A text holds a value: it spells the tokens of a tree that has the members of the value in any
order. -/
def Spells (value : Json) (text : List Char) : Prop :=
  ∃ tree, HasDistinctNames tree ∧ tree.sorted = value ∧ Token.Spaced tree.tokens text

theorem Spells.ne_nil {value : Json} {text : List Char} (h : Spells value text) : text ≠ [] := by
  obtain ⟨tree, -, -, hspaced⟩ := h
  exact hspaced.ne_nil

theorem Spells.solid {value : Json} {text : List Char} (h : Spells value text) :
    Text.Solid text := by
  obtain ⟨tree, -, -, hspaced⟩ := h
  exact hspaced.solid

/-- Whatever text holds a value, the value is read from it if it is not too deep. -/
theorem Spells.ofGlyphs {value : Json} {text : List Char} (h : Spells value text) :
    Reader.json.ofGlyphs (text.map some) = ifRoom value.depth greatestDepth value := by
  obtain ⟨tree, hnames, rfl, hspaced⟩ := h
  rw [ofGlyphs_of_spaced hspaced Reader.json, hnames.depth_sorted]
  exact tree.readsInOrder greatestDepth

end StorageGateway.Json

import StorageGateway.Proofs.Json.Layouts

/-!
# Values are read back from their texts

The text that is printed for a value holds it, so whatever is read from the text is read from the
value itself, to the depth that texts have. A value of no greater depth, whose objects are sorted,
is so read back as it is.
-/

namespace StorageGateway.Json

open Token (Spaced Spelled)

/-- A value all of whose numbers read back. -/
inductive Legible : Json → Prop
  | null : Legible .null
  | bool (b : Bool) : Legible (.bool b)
  | number {n : JsonNumber} (h : NumberReadsBack n) : Legible (.number n)
  | string (s : String) : Legible (.string s)
  | array {items : List Json} (h : ∀ item ∈ items, Legible item) : Legible (.array items)
  | object {members : List (String × Json)} (h : ∀ m ∈ members, Legible m.2) :
      Legible (.object members)

/-! ## Printed tokens -/

theorem spelled_printNumber {n : JsonNumber} (h : NumberReadsBack n) :
    Spelled (.number (some n)) (printNumber n) := by
  obtain ⟨first, others, hprint, hnext⟩ := h
  rw [hprint]
  rcases Token.next_eq_number_iff.mp hnext with ⟨rfl, m, hread, hvalue⟩ | ⟨-, m, hread, hvalue⟩
  · obtain ⟨hsign, hspelled⟩ := Token.spelled_of_numeral hread
    have hnumber := Spelled.number hspelled
    rwa [hvalue, hsign] at hnumber
  · rw [← List.map_cons] at hread
    obtain ⟨hsign, hspelled⟩ := Token.spelled_of_numeral hread
    have hnumber := Spelled.number hspelled
    rwa [hvalue, hsign] at hnumber

theorem spaced_printItems {items : List Json}
    (h : ∀ item ∈ items, Spaced item.tokens item.print) :
    Spaced (itemTokens items) (printItems items) := by
  induction items with
  | nil => exact .one .closeArray
  | cons item items ih =>
    have hitem := h item List.mem_cons_self
    have hothers := ih fun other hother => h other (List.mem_cons_of_mem _ hother)
    cases items with
    | nil => exact hitem.append_sign (.one .closeArray) rfl
    | cons next items =>
      exact hitem.append_sign (.cons .comma (fun _ hcomma => by cases hcomma) hothers) rfl

theorem spaced_printMember {name : String} {value : Json} (h : Spaced value.tokens value.print) :
    Spaced (oneMemberTokens (name, value)) (printMember (name, value)) :=
  (Spaced.one (Token.spelled_printString name)).append_sign
    (.cons .colon (fun _ hcolon => by cases hcolon) h) rfl

theorem spaced_printMembers {members : List (String × Json)}
    (h : ∀ m ∈ members, Spaced m.2.tokens m.2.print) :
    Spaced (memberTokens members) (printMembers members) := by
  induction members with
  | nil => exact .one .closeObject
  | cons m members ih =>
    have hmember : Spaced (oneMemberTokens m) (printMember m) :=
      spaced_printMember (h m List.mem_cons_self)
    have hothers := ih fun other hother => h other (List.mem_cons_of_mem _ hother)
    cases members with
    | nil => exact hmember.append_sign (.one .closeObject) rfl
    | cons next members =>
      exact hmember.append_sign (.cons .comma (fun _ hcomma => by cases hcomma) hothers) rfl

/-- The text of a value spells its tokens. -/
theorem Legible.spaced {value : Json} (h : value.Legible) : Spaced value.tokens value.print := by
  induction h with
  | null => exact .one .null
  | bool b =>
    cases b with
    | true => exact .one .yes
    | false => exact .one .no
  | number h => exact .one (spelled_printNumber h)
  | string s => exact .one (Token.spelled_printString s)
  | array h ih => exact .cons .openArray (fun _ hopen => by cases hopen) (spaced_printItems ih)
  | object h ih => exact .cons .openObject (fun _ hopen => by cases hopen) (spaced_printMembers ih)

/-! ## From text to the value -/

/-- Whatever is read from the bytes of a value's text is read from the value itself, to the depth
that texts have. -/
theorem Reader.ofBytes_render {α : Type} {value : Json} (h : value.Legible) (read : Reader α) :
    read.ofBytes (Text.Utf8.encode value.render) = read (.text greatestDepth) value.toDocument := by
  rw [Reader.ofBytes, Text.Utf8.glyphs_encode, render, String.toList_ofList,
    ofGlyphs_of_spaced h.spaced]

/-- A value as texts hold it: its objects list their members in the order of their names, its
numbers read back, and so many arrays and objects may be entered. -/
inductive Readable : Nat → Json → Prop
  | null (room : Nat) : Readable room .null
  | bool (room : Nat) (b : Bool) : Readable room (.bool b)
  | number {n : JsonNumber} (room : Nat) (h : NumberReadsBack n) : Readable room (.number n)
  | string (room : Nat) (s : String) : Readable room (.string s)
  | array {room : Nat} {items : List Json} (h : ∀ item ∈ items, Readable room item) :
      Readable (room + 1) (.array items)
  | object {room : Nat} {members : List (String × Json)} (hsorted : Table.Sorted members)
      (h : ∀ m ∈ members, Readable room m.2) : Readable (room + 1) (.object members)

theorem Readable.legible {room : Nat} {value : Json} (h : Readable room value) : value.Legible := by
  induction h with
  | null room => exact .null
  | bool room b => exact .bool b
  | number room h => exact .number h
  | string room s => exact .string s
  | array h ih => exact .array ih
  | object hsorted h ih => exact .object ih

theorem Readable.mono {room : Nat} {value : Json} (h : Readable room value) {room' : Nat}
    (hroom : room ≤ room') : Readable room' value := by
  induction h generalizing room' with
  | null room => exact .null room'
  | bool room b => exact .bool room' b
  | number room h => exact .number room' h
  | string room s => exact .string room' s
  | array h ih =>
    obtain ⟨room', rfl⟩ : ∃ left, room' = left + 1 := ⟨room' - 1, by omega⟩
    exact .array fun item hitem => ih item hitem (by omega)
  | object hsorted h ih =>
    obtain ⟨room', rfl⟩ : ∃ left, room' = left + 1 := ⟨room' - 1, by omega⟩
    exact .object hsorted fun m hm => ih m hm (by omega)

theorem Readable.depth_le {room : Nat} {value : Json} (h : Readable room value) :
    value.depth ≤ room := by
  induction h with
  | null room => exact Nat.zero_le room
  | bool room b => exact Nat.zero_le room
  | number room h => exact Nat.zero_le room
  | string room s => exact Nat.zero_le room
  | array h ih => exact Nat.succ_le_succ (itemsDepth_le_iff.mpr ih)
  | object hsorted h ih => exact Nat.succ_le_succ (membersDepth_le_iff.mpr ih)

theorem Readable.sorted_eq {room : Nat} {value : Json} (h : Readable room value) :
    value.sorted = value := by
  induction h with
  | null room => rfl
  | bool room b => rfl
  | number room h => rfl
  | string room s => rfl
  | array h ih =>
    rw [sorted, sortedItems_eq, List.map_congr_left ih, List.map_id']
  | @object room members hsorted h ih =>
    have hsame : Table.mapValues sorted members = members.map id :=
      List.map_congr_left fun m hm => Prod.ext rfl (ih m hm)
    rw [sorted, sortedMembers_eq, hsame, List.map_id, ofMembers, hsorted.ofEntries_eq]

/-- A value as texts hold it is read as it is. -/
theorem Readable.any {room : Nat} {value : Json} (h : Readable room value) :
    Reader.any value.toDocument (.text room) = .ok value := by
  rw [value.readsInOrder, h.sorted_eq, ifRoom_of_le h.depth_le]

theorem Readable.hasDistinctNames {room : Nat} {value : Json} (h : Readable room value) :
    value.HasDistinctNames := by
  induction h with
  | null room => exact .null
  | bool room b => exact .bool b
  | number room h => exact .number _
  | string room s => exact .string s
  | array h ih => exact .array ih
  | object hsorted h ih => exact .object hsorted.nodup ih

/-- The text that is printed for a value is one of those that hold it. -/
theorem Readable.spells {room : Nat} {value : Json} (h : Readable room value) :
    Spells value value.print :=
  ⟨value, h.hasDistinctNames, h.sorted_eq, h.legible.spaced⟩

end StorageGateway.Json

import StorageGateway.Files.Tree

/-!
# What is where after a change

One lemma for each change of a file tree: what is at each place afterwards.
-/

namespace StorageGateway

theorem lookup_filter_fst {α β : Type} [BEq α] [LawfulBEq α] (keep : α → Bool) (l : List (α × β))
    (a : α) :
    (l.filter fun entry => keep entry.1).lookup a = if keep a then l.lookup a else none := by
  induction l with
  | nil => simp
  | cons entry l ih =>
    obtain ⟨b, node⟩ := entry
    by_cases hab : a = b
    · subst hab
      by_cases hkeep : keep a <;> simp [hkeep, ih]
    · have hne : (a == b) = false := by simpa using hab
      by_cases hkeep : keep b <;> simp [hkeep, List.lookup_cons, hne, ih]

/-- What comes of one step after another comes of the second one, which has what the first one
gave. -/
theorem exists_of_bind_eq_ok {ε α β : Type} {first : Except ε α} {next : α → Except ε β} {b : β}
    (h : first >>= next = .ok b) : ∃ a, first = .ok a ∧ next a = .ok b := by
  cases first with
  | ok a => exact ⟨a, rfl, h⟩
  | error e => cases h

/-- What neither of two steps gives up with, they do not give up with one after the other. -/
theorem bind_ne_error {ε α β : Type} {first : Except ε α} {next : α → Except ε β} {e : ε}
    (hfirst : first ≠ .error e) (hnext : ∀ a, next a ≠ .error e) : first >>= next ≠ .error e := by
  cases first with
  | ok a => exact hnext a
  | error other => exact fun h => hfirst (by cases h; rfl)

namespace FileTree

/-- What is at a place other than the root directory is listed. -/
theorem mem_entries_of_node? {tree : FileTree} {place : Place} {node : Node} (hne : place ≠ [])
    (h : tree.node? place = some node) : (place, node) ∈ tree.entries := by
  cases place with
  | nil => exact absurd rfl hne
  | cons name names =>
    obtain ⟨before, after, hentries, -⟩ := List.lookup_eq_some_iff.mp h
    rw [hentries]
    simp

theorem node?_put (tree : FileTree) {place : Place} (hne : place ≠ []) (node : Node)
    (other : Place) :
    (tree.put place node).node? other = if other = place then some node else tree.node? other := by
  cases other with
  | nil => rw [if_neg (Ne.symm hne)]; rfl
  | cons name names =>
    by_cases h : name :: names = place
    · simp [node?, put, h]
    · have hb : ((name :: names) == place) = false := by simpa using h
      rw [if_neg h, node?, put, List.lookup_cons, hb,
        lookup_filter_fst (fun a => a != place)]
      simp [node?, h]

theorem node?_erase (tree : FileTree) {place : Place} (hne : place ≠ []) (other : Place) :
    (tree.erase place).node? other = if other = place then none else tree.node? other := by
  cases other with
  | nil => rw [if_neg (Ne.symm hne)]; rfl
  | cons name names =>
    rw [node?, erase, lookup_filter_fst (fun a => a != place)]
    by_cases h : name :: names = place <;> simp [node?, h]

theorem node?_eraseBelow (tree : FileTree) {place : Place} (hne : place ≠ []) (other : Place) :
    (tree.eraseBelow place).node? other = if place <+: other then none else tree.node? other := by
  cases other with
  | nil => rw [if_neg (by simpa using hne)]; rfl
  | cons name names =>
    rw [node?, eraseBelow, lookup_filter_fst (fun a => !place.isPrefixOf a)]
    have hbegins : place.isPrefixOf (name :: names) = true ↔ place <+: name :: names := by simp
    by_cases h : place <+: name :: names
    · simp [h, hbegins.mpr h]
    · have hb : place.isPrefixOf (name :: names) = false := by
        rw [← Bool.not_eq_true]
        exact mt hbegins.mp h
      simp [node?, h, hb]

end FileTree

end StorageGateway

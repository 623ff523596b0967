import StorageGateway.Endpoint.Registry
import Mathlib.Data.List.Nodup

/-!
# The registry lists what has been entered

A registry keeps its endpoints twice, as a list and as a set of what tells them apart. Whatever is
entered, on its own or together with others, and whether all of it is taken or not, the set holds
just the keys of the list, no key is in the list twice, and the list is what has been entered with
success, in that order.
-/

namespace StorageGateway.Endpoint

open Host

/-! ## Entering one endpoint -/

namespace Registry

variable {σ : Type} {registry larger : Registry σ} {descriptor : Descriptor σ}

/-- The list and the set of a registry agree: every endpoint has a group with a name and a key of
its own, and the set holds just these keys. -/
structure Consistent (registry : Registry σ) : Prop where
  distinct : (registry.descriptors.map Descriptor.key).Nodup
  named : ∀ descriptor ∈ registry.descriptors, descriptor.group ≠ ""
  seen_iff : ∀ key, key ∈ registry.seen ↔ key ∈ registry.descriptors.map Descriptor.key

/-- An endpoint can be entered: its group has a name, and no endpoint has its key. -/
def Admits (registry : Registry σ) (descriptor : Descriptor σ) : Prop :=
  descriptor.group ≠ "" ∧ descriptor.key ∉ registry.descriptors.map Descriptor.key

theorem consistent_empty : Consistent ({} : Registry σ) :=
  ⟨List.nodup_nil, List.forall_mem_nil _, fun _ => iff_of_false Std.HashSet.not_mem_empty (by simp)⟩

theorem Consistent.insert_of_admits (h : registry.Consistent)
    (hadmits : registry.Admits descriptor) :
    registry.insert descriptor =
      .ok ⟨registry.descriptors ++ [descriptor], registry.seen.insert descriptor.key⟩ := by
  have hname : ¬ descriptor.group.isEmpty = true := by simpa using hadmits.1
  have hnew : ¬ registry.seen.contains descriptor.key = true :=
    fun hseen => hadmits.2 ((h.seen_iff _).mp (Std.HashSet.mem_iff_contains.mpr hseen))
  rw [insert, if_neg hname, if_neg hnew]

theorem Consistent.insert_of_not_admits (h : registry.Consistent)
    (hadmits : ¬ registry.Admits descriptor) :
    ∃ fault, registry.insert descriptor = .error fault := by
  by_cases hname : descriptor.group.isEmpty = true
  · rw [insert, if_pos hname]
    exact ⟨_, rfl⟩
  · have hseen : registry.seen.contains descriptor.key = true := by
      refine Std.HashSet.mem_iff_contains.mp ((h.seen_iff _).mpr ?_)
      by_contra hnew
      exact hadmits ⟨by simpa using hname, hnew⟩
    rw [insert, if_neg hname, if_pos hseen]
    exact ⟨_, rfl⟩

theorem Consistent.exists_insert_iff (h : registry.Consistent) :
    (∃ larger, registry.insert descriptor = .ok larger) ↔ registry.Admits descriptor := by
  refine ⟨fun ⟨larger, hinsert⟩ => ?_, fun hadmits => ⟨_, h.insert_of_admits hadmits⟩⟩
  by_contra hadmits
  obtain ⟨fault, hfails⟩ := h.insert_of_not_admits hadmits
  rw [hfails] at hinsert
  cases hinsert

/-- What comes of an endpoint that is entered. -/
theorem Consistent.insert (h : registry.Consistent)
    (hinsert : registry.insert descriptor = .ok larger) :
    larger.Consistent ∧ larger.descriptors = registry.descriptors ++ [descriptor] := by
  have hadmits := h.exists_insert_iff.mp ⟨larger, hinsert⟩
  rw [h.insert_of_admits hadmits] at hinsert
  cases hinsert
  refine ⟨⟨?_, ?_, ?_⟩, rfl⟩
  · rw [List.map_append, List.nodup_append_comm]
    exact List.nodup_cons.mpr ⟨hadmits.2, h.distinct⟩
  · intro other hother
    rcases List.mem_append.mp hother with hold | hnew
    · exact h.named other hold
    · rw [List.mem_singleton.mp hnew]
      exact hadmits.1
  · intro key
    rw [Std.HashSet.mem_insert, h.seen_iff, List.map_append, List.mem_append, beq_iff_eq,
      List.map_singleton, List.mem_singleton, or_comm, eq_comm]

/-! ## Entering several endpoints -/

/-- Those of some endpoints that are entered one after the other: the first one that is turned away
and all behind it are not. -/
def taken (registry : Registry σ) : List (Descriptor σ) → List (Descriptor σ)
  | [] => []
  | descriptor :: rest =>
    match registry.insert descriptor with
    | .ok larger => descriptor :: larger.taken rest
    | .error _ => []

/-- What has come of entering endpoints one after the other: either all have been entered, or those
before one that is turned away. -/
inductive Entered (offered taken : List (Descriptor σ)) (after : Registry σ) :
    Except Fault Unit → Prop
  | all (h : offered = taken) : Entered offered taken after (.ok ())
  | upTo (rejected : Descriptor σ) (rest : List (Descriptor σ)) (fault : Fault)
      (h : offered = taken ++ rejected :: rest)
      (hrejected : after.insert rejected = .error fault) :
      Entered offered taken after (.error fault)

theorem Entered.cons {offered taken : List (Descriptor σ)} {after : Registry σ}
    {answer : Except Fault Unit} (h : Entered offered taken after answer)
    (descriptor : Descriptor σ) :
    Entered (descriptor :: offered) (descriptor :: taken) after answer := by
  cases h with
  | all h => exact .all (congrArg _ h)
  | upTo rejected rest fault h hrejected =>
    exact .upTo rejected rest fault (congrArg _ h) hrejected

theorem Consistent.extend (h : registry.Consistent) (offered : List (Descriptor σ)) :
    (registry.extend offered).2.Consistent ∧
      (registry.extend offered).2.descriptors = registry.descriptors ++ registry.taken offered ∧
      Entered offered (registry.taken offered) (registry.extend offered).2
        (registry.extend offered).1 := by
  induction offered generalizing registry with
  | nil => exact ⟨h, (List.append_nil _).symm, .all rfl⟩
  | cons descriptor rest ih =>
    rw [Registry.extend, taken]
    cases hinsert : registry.insert descriptor with
    | ok larger =>
      obtain ⟨hlarger, hlist⟩ := h.insert hinsert
      obtain ⟨hafter, hdescriptors, hentered⟩ := ih hlarger
      refine ⟨hafter, ?_, hentered.cons descriptor⟩
      rw [hdescriptors, hlist, List.append_assoc]
      rfl
    | error fault =>
      exact ⟨h, (List.append_nil _).symm, .upTo descriptor rest fault rfl hinsert⟩

/-- Endpoints that can be told apart are all entered. -/
theorem Consistent.extend_of_distinct (h : registry.Consistent) {offered : List (Descriptor σ)}
    (hnamed : ∀ descriptor ∈ offered, descriptor.group ≠ "")
    (hdistinct : ((registry.descriptors ++ offered).map Descriptor.key).Nodup) :
    (registry.extend offered).1 = .ok () ∧
      (registry.extend offered).2.descriptors = registry.descriptors ++ offered := by
  induction offered generalizing registry with
  | nil => exact ⟨rfl, (List.append_nil _).symm⟩
  | cons descriptor rest ih =>
    obtain ⟨hname, hrest⟩ := List.forall_mem_cons.mp hnamed
    have hadmits : registry.Admits descriptor := by
      refine ⟨hname, fun hmem => ?_⟩
      rw [List.map_append, List.nodup_append] at hdistinct
      exact hdistinct.2.2 _ hmem _ List.mem_cons_self rfl
    obtain ⟨larger, hinsert⟩ := h.exists_insert_iff.mpr hadmits
    obtain ⟨hlarger, hlist⟩ := h.insert hinsert
    have hstill : ((larger.descriptors ++ rest).map Descriptor.key).Nodup := by
      rwa [hlist, List.append_assoc]
    obtain ⟨hok, hall⟩ := ih hlarger hrest hstill
    rw [Registry.extend, hinsert]
    refine ⟨hok, hall.trans ?_⟩
    rw [hlist, List.append_assoc]
    rfl

theorem extend_append (registry : Registry σ) (first second : List (Descriptor σ)) :
    registry.extend (first ++ second) =
      match registry.extend first with
      | (.ok (), larger) => larger.extend second
      | (.error fault, larger) => (.error fault, larger) := by
  induction first generalizing registry with
  | nil => rfl
  | cons descriptor first ih =>
    rw [List.cons_append, Registry.extend, Registry.extend]
    cases registry.insert descriptor with
    | ok larger => exact ih larger
    | error fault => rfl

/-! ## Entering groups -/

theorem mem_allGroups (group : Group) : group ∈ Group.all := by
  cases group <;> decide

/-- The endpoints of those groups that are included. -/
def endpointsOf (roots : Roots) (included : String → Bool) (groups : List Group) :
    List (Descriptor Machine) :=
  groups.flatMap fun group =>
    if included group.name then (group.adapters roots).map .ofAdapter else []

theorem registerGroups_eq_extend (roots : Roots) (included : String → Bool)
    (registry : Registry Machine) (groups : List Group) :
    registry.registerGroups roots included groups =
      registry.extend (endpointsOf roots included groups) := by
  induction groups generalizing registry with
  | nil => rfl
  | cons group groups ih =>
    rw [registerGroups, endpointsOf, List.flatMap_cons]
    by_cases hincluded : included group.name = true
    · rw [if_pos hincluded, if_pos hincluded, extend_append]
      rcases registry.extend ((group.adapters roots).map .ofAdapter) with ⟨fault | ⟨⟩, larger⟩
      · rfl
      · exact ih larger
    · rw [if_neg hincluded, if_neg hincluded, List.nil_append, ih]
      rfl

theorem endpointsOf_sublist (roots : Roots) (included : String → Bool) (groups : List Group) :
    (endpointsOf roots included groups).Sublist (endpointsOf roots (fun _ => true) groups) := by
  induction groups with
  | nil => exact .slnil
  | cons group groups ih =>
    rw [endpointsOf, endpointsOf, List.flatMap_cons, List.flatMap_cons]
    refine List.Sublist.append ?_ ih
    split
    · exact List.Sublist.refl _
    · exact List.nil_sublist _

/-- What tells the endpoints of all groups apart does not depend on the roots. -/
theorem map_key_endpointsOf (roots : Roots) :
    (endpointsOf roots (fun _ => true) Group.all).map Descriptor.key =
      Group.all.flatMap fun group => group.versions.map fun version => (group.name, version) := rfl

theorem named_endpointsOf (roots : Roots) (included : String → Bool) :
    ∀ descriptor ∈ endpointsOf roots included Group.all, descriptor.group ≠ "" := by
  have hnames : ∀ key ∈ Group.all.flatMap fun group => group.versions.map fun version =>
      (group.name, version), key.1 ≠ "" := by decide
  intro descriptor hdescriptor
  have hmem := (endpointsOf_sublist roots included Group.all).subset hdescriptor
  have hkey := List.mem_map_of_mem (f := Descriptor.key) hmem
  rw [map_key_endpointsOf] at hkey
  exact hnames _ hkey

theorem distinct_endpointsOf (roots : Roots) (included : String → Bool) :
    ((endpointsOf roots included Group.all).map Descriptor.key).Nodup := by
  have hall : ((endpointsOf roots (fun _ => true) Group.all).map Descriptor.key).Nodup := by
    rw [map_key_endpointsOf]
    decide
  exact hall.sublist ((endpointsOf_sublist roots included Group.all).map _)

theorem mem_endpointsOf_iff {roots : Roots} {included : String → Bool}
    {descriptor : Descriptor Machine} :
    descriptor ∈ endpointsOf roots included Group.all ↔ ∃ group : Group,
      included group.name = true ∧
        ∃ adapter ∈ group.adapters roots, .ofAdapter adapter = descriptor := by
  rw [endpointsOf, List.mem_flatMap]
  refine exists_congr fun group => ?_
  by_cases hincluded : included group.name = true
  · rw [if_pos hincluded, List.mem_map, and_iff_right (mem_allGroups group),
      and_iff_right hincluded]
  · rw [if_neg hincluded]
    exact iff_of_false (fun h => List.not_mem_nil h.2) fun h => hincluded h.1

/-- All endpoints of the groups that are included are entered. -/
theorem exists_registerAll (roots : Roots) (included : String → Bool) :
    ∃ registry, registerAll {} roots included = (.ok (), registry) ∧
      registry.descriptors = endpointsOf roots included Group.all := by
  obtain ⟨hok, hall⟩ := consistent_empty.extend_of_distinct (named_endpointsOf roots included)
    (distinct_endpointsOf roots included)
  refine ⟨_, ?_, hall⟩
  rw [registerAll, registerGroups_eq_extend]
  exact Prod.ext hok rfl

end Registry

/-! ## Any calls in any order -/

/-- A call on a registry. -/
inductive Registration where
  /-- Enters one endpoint. -/
  | one (descriptor : Descriptor Machine)
  /-- Enters several endpoints, one after the other. -/
  | several (descriptors : List (Descriptor Machine))
  /-- Enters the endpoints of all groups that are included. -/
  | groups (roots : Roots) (included : String → Bool)

namespace Registration

/-- The endpoints that a call is about. -/
def offered : Registration → List (Descriptor Machine)
  | .one descriptor => [descriptor]
  | .several descriptors => descriptors
  | .groups roots included => Registry.endpointsOf roots included Group.all

/-- Makes a call: the answer, and the registry afterwards. -/
def perform (registry : Registry Machine) : Registration → Except Fault Unit × Registry Machine
  | .one descriptor =>
    match registry.insert descriptor with
    | .ok larger => (.ok (), larger)
    | .error fault => (.error fault, registry)
  | .several descriptors => registry.extend descriptors
  | .groups roots included => registry.registerAll roots included

/-- Makes calls one after the other, whatever is answered. -/
def run (registry : Registry Machine) (calls : List Registration) : Registry Machine :=
  calls.foldl (fun registry call => (call.perform registry).2) registry

/-- What is entered with success in the course of calls. -/
def entered (registry : Registry Machine) : List Registration → List (Descriptor Machine)
  | [] => []
  | call :: calls => registry.taken call.offered ++ entered (call.perform registry).2 calls

theorem perform_eq_extend (registry : Registry Machine) (call : Registration) :
    call.perform registry = registry.extend call.offered := by
  cases call with
  | one descriptor =>
    rw [perform, offered, Registry.extend]
    cases registry.insert descriptor <;> rfl
  | several descriptors => rfl
  | groups roots included => exact Registry.registerGroups_eq_extend roots included registry _

theorem consistent_run {registry : Registry Machine} (h : registry.Consistent)
    (calls : List Registration) :
    (run registry calls).Consistent ∧
      (run registry calls).descriptors = registry.descriptors ++ entered registry calls := by
  induction calls generalizing registry with
  | nil => exact ⟨h, (List.append_nil _).symm⟩
  | cons call calls ih =>
    obtain ⟨hnext, hlist, -⟩ := h.extend call.offered
    rw [← perform_eq_extend] at hnext hlist
    obtain ⟨hrun, hdescriptors⟩ := ih hnext
    refine ⟨hrun, ?_⟩
    rw [entered, ← List.append_assoc, ← hlist]
    exact hdescriptors

theorem perform_one_eq_ok_iff (registry : Registry Machine) (descriptor : Descriptor Machine) :
    (perform registry (.one descriptor)).1 = .ok () ↔
      ∃ larger, registry.insert descriptor = .ok larger := by
  rw [perform]
  cases registry.insert descriptor with
  | ok larger => exact ⟨fun _ => ⟨larger, rfl⟩, fun _ => rfl⟩
  | error fault => exact ⟨fun h => (by cases h), fun ⟨_, h⟩ => (by cases h)⟩

theorem perform_one_of_ne_ok {registry : Registry Machine} {descriptor : Descriptor Machine}
    (h : (perform registry (.one descriptor)).1 ≠ .ok ()) :
    (perform registry (.one descriptor)).2 = registry := by
  rw [perform] at h ⊢
  cases hinsert : registry.insert descriptor with
  | ok larger =>
    rw [hinsert] at h
    exact absurd rfl h
  | error fault => rfl

/-- Whatever calls have been made on a new registry, its list and its set agree
(`Registry.Consistent`), and the list is what has been `entered` with success. It enters an endpoint
exactly when the group has a name and the key is new, and is left as it is otherwise; of several
endpoints it enters those before the first one that it turns away (`Registry.taken`). -/
theorem registry_lists_what_was_entered (calls : List Registration) :
    (run {} calls).Consistent ∧
    (run {} calls).descriptors = entered {} calls ∧
    (∀ group, (run {} calls).versionsOf group =
      ((entered {} calls).filter (·.group == group)).map Descriptor.version) ∧
    (∀ descriptor,
      ((perform (run {} calls) (.one descriptor)).1 = .ok () ↔
        descriptor.group ≠ "" ∧ descriptor.key ∉ (entered {} calls).map Descriptor.key) ∧
      ((perform (run {} calls) (.one descriptor)).1 ≠ .ok () →
        (perform (run {} calls) (.one descriptor)).2 = run {} calls)) ∧
    ∀ call : Registration,
      (call.perform (run {} calls)).2.descriptors =
        entered {} calls ++ (run {} calls).taken call.offered ∧
      Registry.Entered call.offered ((run {} calls).taken call.offered)
        (call.perform (run {} calls)).2 (call.perform (run {} calls)).1 := by
  obtain ⟨hconsistent, hlist⟩ := consistent_run Registry.consistent_empty calls
  have hlist : (run {} calls).descriptors = entered {} calls := hlist
  refine ⟨hconsistent, hlist, fun group => ?_, fun descriptor => ⟨?_, perform_one_of_ne_ok⟩,
    fun call => ?_⟩
  · rw [← hlist]
    rfl
  · rw [perform_one_eq_ok_iff, hconsistent.exists_insert_iff, Registry.Admits, hlist]
  · obtain ⟨-, hdescriptors, hentered⟩ := hconsistent.extend call.offered
    rw [← hlist, perform_eq_extend]
    exact ⟨hdescriptors, hentered⟩

end Registration

end StorageGateway.Endpoint

import Mathlib.Data.List.Induction
import StorageGateway.Proofs.Path.Names

/-!
# Paths are admitted by their names

Where a text leads is told by a walk over the names between its slashes. Reading a path takes that
walk, so a path is admitted by where it leads and by nothing else in its text.
-/

namespace StorageGateway

namespace Path

/-! ## Walks -/

/-- Where names lead that are followed one after the other from the root. -/
inductive Walk : List String → List String → Prop where
  /-- No name leads to the root. -/
  | start : Walk [] []
  /-- A name that is empty or `.` leads nowhere else. -/
  | stays {pieces names : List String} {piece : String} (h : Walk pieces names)
    (hpiece : piece = "" ∨ piece = ".") : Walk (pieces ++ [piece]) names
  /-- The name `..` takes back the last name; at the root there is none. -/
  | up {pieces names : List String} (h : Walk pieces names) :
    Walk (pieces ++ [".."]) names.dropLast
  /-- Any other name leads further down. -/
  | down {pieces names : List String} {piece : String} (h : Walk pieces names)
    (hpiece : piece ≠ "" ∧ piece ≠ "." ∧ piece ≠ "..") : Walk (pieces ++ [piece]) (names ++ [piece])

/-- Where a text leads: it is cut at its slashes, and the pieces are followed. -/
def Leads (text : String) (names : List String) : Prop :=
  ∃ pieces : List String, (∀ piece ∈ pieces, '/' ∉ piece.toList) ∧
    "/".intercalate pieces = text ∧ Walk pieces names

/-- A text that starts at the root. -/
def Rooted (text : String) : Prop := ∃ below, text = "/" ++ below

theorem isAbsoluteText_iff {text : String} : isAbsoluteText text = true ↔ Rooted text := by
  rw [isAbsoluteText, beq_iff_eq, List.head?_eq_some_iff]
  constructor
  · rintro ⟨below, h⟩
    refine ⟨String.ofList below, String.toList_injective ?_⟩
    simp [h]
  · rintro ⟨below, rfl⟩
    exact ⟨below.toList, by simp⟩

/-! ## Reading takes the walk -/

theorem resolve_append (kept pieces more : List String) :
    resolve kept (pieces ++ more) = resolve (resolve kept pieces).reverse more := by
  induction pieces generalizing kept with
  | nil => simp [resolve]
  | cons piece pieces ih =>
    rw [List.cons_append, resolve, resolve]
    split
    · exact ih kept
    · split
      · exact ih kept.tail
      · exact ih (piece :: kept)

theorem resolve_stays {piece : String} (h : piece = "" ∨ piece = ".") (kept more : List String) :
    resolve kept (piece :: more) = resolve kept more := by
  rw [resolve, if_pos h]

theorem resolve_up (kept more : List String) :
    resolve kept (".." :: more) = resolve kept.tail more := by
  rw [resolve, if_neg (by decide), if_pos rfl]

theorem resolve_down {piece : String} (h : piece ≠ "" ∧ piece ≠ "." ∧ piece ≠ "..")
    (kept more : List String) :
    resolve kept (piece :: more) = resolve (piece :: kept) more := by
  rw [resolve, if_neg (not_or.mpr ⟨h.1, h.2.1⟩), if_neg h.2.2]

theorem walk_resolve (pieces : List String) : Walk pieces (resolve [] pieces) := by
  induction pieces using List.reverseRecOn with
  | nil => exact .start
  | append_singleton pieces piece ih =>
    rw [resolve_append]
    by_cases hstays : piece = "" ∨ piece = "."
    · rw [resolve_stays hstays, resolve, List.reverse_reverse]
      exact ih.stays hstays
    by_cases hup : piece = ".."
    · subst hup
      rw [resolve_up, resolve, List.tail_reverse, List.reverse_reverse]
      exact ih.up
    · obtain ⟨hempty, hhere⟩ := not_or.mp hstays
      rw [resolve_down ⟨hempty, hhere, hup⟩, resolve, List.reverse_cons, List.reverse_reverse]
      exact ih.down ⟨hempty, hhere, hup⟩

theorem Walk.resolve_eq {pieces names : List String} (h : Walk pieces names) :
    resolve [] pieces = names := by
  induction h with
  | start => rfl
  | stays h hpiece ih =>
    rw [resolve_append, ih, resolve_stays hpiece, resolve, List.reverse_reverse]
  | up h ih => rw [resolve_append, ih, resolve_up, resolve, List.tail_reverse, List.reverse_reverse]
  | down h hpiece ih =>
    rw [resolve_append, ih, resolve_down hpiece, resolve, List.reverse_cons, List.reverse_reverse]

theorem walk_iff {pieces names : List String} : Walk pieces names ↔ resolve [] pieces = names :=
  ⟨Walk.resolve_eq, fun h => h ▸ walk_resolve pieces⟩

theorem intercalate_components (text : String) : "/".intercalate (components text) = text := by
  apply String.toList_injective
  rw [String.toList_intercalate, components, List.map_map, Text.splitOn_eq]
  have hpieces : (String.toList ∘ String.ofList) = id := funext fun piece => String.toList_ofList
  rw [hpieces, List.map_id]
  exact List.intercalate_splitOn _

/-- The pieces that a text is cut into are the only ones without a slash that make it up. -/
theorem components_intercalate {pieces : List String} (h : ∀ piece ∈ pieces, '/' ∉ piece.toList)
    (hne : pieces ≠ []) : components ("/".intercalate pieces) = pieces := by
  have hpieces : ∀ piece ∈ pieces.map String.toList, '/' ∉ piece := by
    intro piece hpiece
    obtain ⟨name, hname, rfl⟩ := List.mem_map.mp hpiece
    exact h name hname
  have hsplit := Text.splitOn_intercalate hpieces (by simpa using hne)
  have htext : ("/".intercalate pieces).toList = ['/'].intercalate (pieces.map String.toList) := by
    simp
  rw [components, htext, hsplit]
  simp

/-- Reading a text gives where it leads. -/
theorem leads_iff {text : String} {names : List String} :
    Leads text names ↔ (ofText text).names = names := by
  constructor
  · rintro ⟨pieces, hslash, rfl, hwalk⟩
    show resolve [] (components ("/".intercalate pieces)) = names
    cases pieces with
    | nil =>
      have hnothing : resolve [] (components ("/".intercalate [])) = [] := by decide
      rw [hnothing]
      exact hwalk.resolve_eq
    | cons piece pieces =>
      rw [components_intercalate hslash (List.cons_ne_nil _ _)]
      exact hwalk.resolve_eq
  · intro h
    exact ⟨components text, fun _ => no_slash_of_mem_components, intercalate_components text,
      walk_iff.mpr h⟩

/-! ## Texts without detours -/

/-- Names whose text cannot be written shorter: it is free of `.`, `..` and doubled slashes, and
leads to these very names. -/
structure Plain (names : List String) : Prop where
  isName : ∀ name ∈ names, IsName name
  rooted : Rooted (text ⟨true, names⟩)
  single : ¬ "//".toList <:+: (text ⟨true, names⟩).toList
  leads : Leads (text ⟨true, names⟩) names

theorem resolve_of_forall {names : List String} (h : ∀ name ∈ names, IsName name)
    (kept : List String) : resolve kept names = kept.reverse ++ names := by
  induction names generalizing kept with
  | nil => rw [resolve, List.append_nil]
  | cons name names ih =>
    obtain ⟨hname, hothers⟩ := List.forall_mem_cons.mp h
    rw [resolve_down ⟨hname.ne_empty, hname.ne_here, hname.ne_up⟩, ih hothers, List.reverse_cons,
      List.append_assoc]
    rfl

/-- Between two slashes in a row is an empty name. -/
theorem components_of_doubled (front back : List Char) :
    components (String.ofList (front ++ "//".toList ++ back)) =
      components (String.ofList front) ++ "" :: components (String.ofList back) := by
  have hchars : front ++ "//".toList ++ back = front ++ '/' :: ([] ++ '/' :: back) := by simp
  rw [hchars, components_append_slash, components_append_slash]
  rfl

theorem components_ne_nil (text : String) : components text ≠ [] := by
  rw [components, Text.splitOn_eq]
  simp

theorem no_doubled_slash {names : List String} (h : ∀ name ∈ names, IsName name) :
    ¬ "//".toList <:+: (text ⟨true, names⟩).toList := by
  rintro ⟨front, back, hdoubled⟩
  by_cases hne : names = []
  · rw [hne] at hdoubled
    have hlength := congrArg List.length hdoubled
    simp [text] at hlength
    omega
  · have hpieces := components_of_doubled front back
    rw [hdoubled, String.ofList_toList, components_text h hne] at hpieces
    -- The first piece is empty too, but it is not the one between the slashes.
    cases hfront : components (String.ofList front) with
    | nil => exact components_ne_nil _ hfront
    | cons first pieces =>
      rw [hfront, List.cons_append] at hpieces
      have hmem : "" ∈ names := by
        rw [(List.cons.inj hpieces).2]
        simp
      exact (h "" hmem).ne_empty rfl

theorem names_ofText_text {names : List String} (h : ∀ name ∈ names, IsName name) :
    (ofText (text ⟨true, names⟩)).names = names := by
  show resolve [] (components (text ⟨true, names⟩)) = names
  by_cases hne : names = []
  · rw [hne]
    decide
  · rw [components_text h hne, resolve_stays (.inl rfl), resolve_of_forall h]
    rfl

theorem plain_of_forall {names : List String} (h : ∀ name ∈ names, IsName name) : Plain names :=
  ⟨h, isAbsoluteText_iff.mp (isAbsoluteText_text names), no_doubled_slash h,
    leads_iff.mpr (names_ofText_text h)⟩

theorem Leads.plain {text : String} {names : List String} (h : Leads text names) : Plain names := by
  rw [leads_iff] at h
  exact plain_of_forall fun name hname => isName_of_mem_ofText (h.symm ▸ hname)

/-! ## Detours -/

/-- What may stand behind a slash without leading anywhere else. -/
inductive Idle : String → Prop where
  /-- Another slash. -/
  | slash : Idle "/"
  /-- A directory itself. -/
  | here : Idle "./"
  /-- Something in a directory, and back. -/
  | detour {name : String} (h : IsName name) : Idle (name ++ "/../")

/-- A text with something in it that leads nowhere else. -/
inductive Lengthens : String → String → Prop where
  /-- It stands where a name begins, or where the text ends with a slash. -/
  | behind {inserted : String} (front back : String) (h : Idle inserted) :
    Lengthens (front ++ "/" ++ back) (front ++ "/" ++ inserted ++ back)
  /-- It is a slash at the end. -/
  | atEnd (text : String) : Lengthens text (text ++ "/")

theorem components_slash (front back : String) :
    components (front ++ "/" ++ back) = components front ++ components back := by
  have hchars : front ++ "/" ++ back = String.ofList (front.toList ++ '/' :: back.toList) := by
    apply String.toList_injective
    simp
  rw [hchars, components_append_slash, String.ofList_toList, String.ofList_toList]

/-- The pieces of something that leads nowhere else are dropped again. -/
theorem Idle.resolve_eq {inserted : String} (h : Idle inserted) (front back : String) :
    resolve [] (components (front ++ "/" ++ inserted ++ back)) =
      resolve [] (components (front ++ "/" ++ back)) := by
  have hback : resolve [] (components (front ++ "/" ++ back)) =
      resolve (resolve [] (components front)).reverse (components back) := by
    rw [components_slash, resolve_append]
  rw [hback]
  cases h with
  | slash =>
    have htext : front ++ "/" ++ "/" ++ back = front ++ "/" ++ ("" ++ "/" ++ back) := by
      apply String.toList_injective
      simp
    have hempty : components "" = [""] := by decide
    rw [htext, components_slash, components_slash, resolve_append, hempty, List.singleton_append,
      resolve_stays (.inl rfl)]
  | here =>
    have htext : front ++ "/" ++ "./" ++ back = front ++ "/" ++ ("." ++ "/" ++ back) := by
      apply String.toList_injective
      simp
    have hhere : components "." = ["."] := by decide
    rw [htext, components_slash, components_slash, resolve_append, hhere, List.singleton_append,
      resolve_stays (.inr rfl)]
  | @detour name hname =>
    have htext : front ++ "/" ++ (name ++ "/../") ++ back =
        front ++ "/" ++ (name ++ "/" ++ (".." ++ "/" ++ back)) := by
      apply String.toList_injective
      simp
    have hup : components ".." = [".."] := by decide
    rw [htext, components_slash, components_slash, components_slash, resolve_append, hup,
      components_of_isName hname, List.singleton_append, List.singleton_append,
      resolve_down ⟨hname.ne_empty, hname.ne_here, hname.ne_up⟩, resolve_up]
    rfl

theorem Lengthens.names_eq {text longer : String} (h : Lengthens text longer) :
    (ofText longer).names = (ofText text).names := by
  cases h with
  | behind front back h => exact h.resolve_eq front back
  | atEnd =>
    have htext : text ++ "/" = text ++ "/" ++ "" := (String.append_empty).symm
    have hempty : components "" = [""] := by decide
    show resolve [] (components (text ++ "/")) = resolve [] (components text)
    rw [htext, components_slash, resolve_append, hempty, resolve_stays (.inl rfl), resolve,
      List.reverse_reverse]

theorem Lengthens.rooted {text longer : String} (h : Lengthens text longer)
    (hrooted : Rooted text) : Rooted longer := by
  rw [← isAbsoluteText_iff, isAbsoluteText] at hrooted ⊢
  cases h with
  | @behind inserted front back h =>
    cases hfront : front.toList with
    | nil => simp [hfront]
    | cons first others =>
      simp only [String.toList_append, hfront, List.cons_append, List.head?_cons] at hrooted ⊢
      exact hrooted
  | atEnd =>
    cases htext : text.toList with
    | nil => simp [htext]
    | cons first others =>
      simp only [String.toList_append, htext, List.cons_append, List.head?_cons] at hrooted ⊢
      exact hrooted

end Path

namespace Roots

open StorageGateway.Path (Leads Rooted Plain Lengthens)

theorem rootNames_of_rooted {text : String} (h : Rooted text) :
    rootNames text = .ok (Path.ofText text).names :=
  if_pos (Path.isAbsoluteText_iff.mpr h)

theorem rootNames_of_not_rooted {text : String} (h : ¬ Rooted text) :
    rootNames text =
      .error (.configuration ("Path root must be absolute: " ++ (Path.ofText text).text)) :=
  if_neg fun habsolute => h (Path.isAbsoluteText_iff.mp habsolute)

theorem make_of_rooted {kubelet plugin : String} (hkubelet : Rooted kubelet)
    (hplugin : Rooted plugin) :
    make kubelet plugin = .ok ⟨(Path.ofText kubelet).names, (Path.ofText plugin).names⟩ := by
  unfold make
  rw [rootNames_of_rooted hkubelet, rootNames_of_rooted hplugin]
  rfl

theorem make_of_not_rooted {kubelet plugin : String} (h : ¬ (Rooted kubelet ∧ Rooted plugin)) :
    ∃ message, make kubelet plugin = .error (.configuration message) := by
  unfold make
  by_cases hkubelet : Rooted kubelet
  · rw [rootNames_of_rooted hkubelet, rootNames_of_not_rooted fun hplugin => h ⟨hkubelet, hplugin⟩]
    exact ⟨_, rfl⟩
  · rw [rootNames_of_not_rooted hkubelet]
    exact ⟨_, rfl⟩

section

variable {roots : Roots} {text : String}

theorem allow_of_not_rooted (roots : Roots) (h : ¬ Rooted text) :
    roots.allow text = .error (.invalidArgument ("path must be absolute: " ++ text)) := by
  have hrelative : (Path.ofText text).absolute = false :=
    Bool.eq_false_iff.mpr fun habsolute => h (Path.isAbsoluteText_iff.mp habsolute)
  unfold allow
  dsimp only
  rw [hrelative]
  rfl

/-- What becomes of a path that starts at the root is told by its names alone. -/
theorem allow_of_rooted (roots : Roots) (h : Rooted text) :
    roots.allow text =
      if roots.covers (Path.ofText text).names then .ok (Path.ofText text).names
      else .error (.outsideRoots (Path.text ⟨true, (Path.ofText text).names⟩)) := by
  have habsolute : (Path.ofText text).absolute = true := Path.isAbsoluteText_iff.mpr h
  have hpath : Path.ofText text = ⟨true, (Path.ofText text).names⟩ := by
    rw [← habsolute]
  unfold allow
  dsimp only
  rw [habsolute, ← hpath]
  rfl

theorem allow_of_covered {names : List String} (hrooted : Rooted text) (hleads : Leads text names)
    (hcovered : roots.kubelet <+: names ∨ roots.plugin <+: names) :
    roots.allow text = .ok names := by
  rw [Path.leads_iff] at hleads
  subst hleads
  rw [← covers_iff] at hcovered
  rw [allow_of_rooted roots hrooted, if_pos hcovered]

theorem allow_of_outside {names : List String} (hrooted : Rooted text) (hleads : Leads text names)
    (houtside : ¬ (roots.kubelet <+: names ∨ roots.plugin <+: names)) :
    roots.allow text = .error (.outsideRoots (Path.text ⟨true, names⟩)) := by
  rw [Path.leads_iff] at hleads
  subst hleads
  rw [← covers_iff] at houtside
  rw [allow_of_rooted roots hrooted, if_neg houtside]

theorem allow_of_lengthens (roots : Roots) {longer : String} (hrooted : Rooted text)
    (h : Lengthens text longer) : roots.allow longer = roots.allow text := by
  rw [allow_of_rooted roots hrooted, allow_of_rooted roots (h.rooted hrooted), h.names_eq]

end

/-- Two texts `make` roots exactly when both are `Rooted`, and the roots are where they lead. Every
path `Leads` to one place. When it starts at the root of the file system, `Roots.allow` admits it
exactly when a root's names are the first names of that place; what is given back is that place,
free of `.`, `..` and doubled slashes (`Plain`), and it is admitted as it is. Otherwise the path is
outside, which `Fault.outsideRoots` says of it in that form; one that does not start there is not
acceptable at all. Whatever leads nowhere else (`Lengthens`) makes no difference. -/
theorem paths_are_admitted_by_their_names (kubelet plugin : String) :
    (¬ (Rooted kubelet ∧ Rooted plugin) →
      ∃ message, make kubelet plugin = .error (.configuration message)) ∧
    (Rooted kubelet ∧ Rooted plugin → ∃ roots, make kubelet plugin = .ok roots ∧
      (Leads kubelet roots.kubelet ∧ Plain roots.kubelet) ∧
      (Leads plugin roots.plugin ∧ Plain roots.plugin) ∧
      ∀ text, ∃ names, (∀ other, Leads text other ↔ other = names) ∧ Plain names ∧
        (¬ Rooted text →
          roots.allow text = .error (.invalidArgument ("path must be absolute: " ++ text))) ∧
        (Rooted text →
          (roots.kubelet <+: names ∨ roots.plugin <+: names →
            roots.allow text = .ok names ∧ roots.allow (Path.text ⟨true, names⟩) = .ok names) ∧
          (¬ (roots.kubelet <+: names ∨ roots.plugin <+: names) →
            roots.allow text = .error (.outsideRoots (Path.text ⟨true, names⟩))) ∧
          ∀ longer, Lengthens text longer → roots.allow longer = roots.allow text)) := by
  have hleads (text : String) : Leads text (Path.ofText text).names := Path.leads_iff.mpr rfl
  refine ⟨make_of_not_rooted, fun ⟨hkubelet, hplugin⟩ => ⟨_, make_of_rooted hkubelet hplugin,
    ⟨hleads kubelet, (hleads kubelet).plain⟩, ⟨hleads plugin, (hleads plugin).plain⟩,
    fun text => ?_⟩⟩
  have hplain := (hleads text).plain
  refine ⟨_, fun other => Path.leads_iff.trans eq_comm, hplain, allow_of_not_rooted _,
    fun hrooted => ⟨fun hcovered => ?_, allow_of_outside hrooted (hleads text),
      fun longer => allow_of_lengthens _ hrooted⟩⟩
  exact ⟨allow_of_covered hrooted (hleads text) hcovered,
    allow_of_covered hplain.rooted hplain.leads hcovered⟩

end Roots

end StorageGateway

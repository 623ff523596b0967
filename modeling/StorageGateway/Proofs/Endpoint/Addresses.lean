import StorageGateway.Endpoint.Address
import StorageGateway.Endpoint.Socket
import StorageGateway.Proofs.Path.Names
import StorageGateway.Proofs.Version.Text

/-!
# Addresses tell endpoints apart

The text of a version has no dash in it, so what is before the last dash of a socket's name is the
name of the group. As long as the names of groups have no slash in them, all sockets below one
directory are in that directory, each under a name of its own.
-/

namespace StorageGateway

/-- Lists with one last separator are the same only when the parts before it are, and the parts
after it. -/
theorem append_cons_inj_of_last {α : Type} {separator : α} {front front' back back' : List α}
    (hback : separator ∉ back) (hback' : separator ∉ back')
    (h : front ++ separator :: back = front' ++ separator :: back') :
    front = front' ∧ back = back' := by
  have hlast {longer between shorter : List α} (hnot : separator ∉ longer)
      (hsplit : separator :: longer = between ++ separator :: shorter) : between = [] := by
    cases between with
    | nil => rfl
    | cons first between =>
      have hlonger := (List.cons.inj hsplit).2
      rw [hlonger] at hnot
      exact absurd (by simp) hnot
  rcases List.append_eq_append_iff.mp h with ⟨between, rfl, hsplit⟩ | ⟨between, rfl, hsplit⟩
  · obtain rfl := hlast hback hsplit
    exact ⟨(List.append_nil front).symm, (List.cons.inj hsplit).2⟩
  · obtain rfl := hlast hback' hsplit
    exact ⟨List.append_nil front', (List.cons.inj hsplit).2.symm⟩

namespace Endpoint

theorem socketName_injective {group group' : String} {version version' : Version}
    (h : socketName group version = socketName group' version') :
    group = group' ∧ version = version' := by
  have hname := congrArg String.toList h
  simp only [socketName, String.toList_append, List.append_cancel_right_eq] at hname
  have hchars : group.toList ++ '-' :: version.text.toList =
      group'.toList ++ '-' :: version'.text.toList := by
    simpa using hname
  have hdash (v : Version) : '-' ∉ v.text.toList := v.not_mem_text (by decide) (by decide)
  obtain ⟨hgroup, htext⟩ := append_cons_inj_of_last (hdash version) (hdash version') hchars
  exact ⟨String.toList_injective hgroup, Version.text_injective (String.toList_injective htext)⟩

section

variable {group group' : String} {version version' : Version}

theorem no_slash_socketName (hgroup : '/' ∉ group.toList) :
    '/' ∉ (socketName group version).toList := by
  have hversion : '/' ∉ version.text.toList := version.not_mem_text (by decide) (by decide)
  have hdash : '/' ∉ "-".toList := by decide
  have hsuffix : '/' ∉ socketSuffix.toList := by decide
  simp only [socketName, String.toList_append, List.mem_append, not_or]
  exact ⟨⟨⟨hgroup, hdash⟩, hversion⟩, hsuffix⟩

/-- The name of a socket is the name of something in a directory. -/
theorem isName_socketName (hgroup : '/' ∉ group.toList) :
    Path.IsName (socketName group version) := by
  have hdash : '-' ∈ (socketName group version).toList := by simp [socketName]
  have hne {name : String} (hname : '-' ∉ name.toList) : socketName group version ≠ name := by
    intro heq
    rw [heq] at hdash
    exact hname hdash
  exact ⟨hne (by decide), hne (by decide), hne (by decide), no_slash_socketName hgroup⟩

end

end Endpoint

namespace Path

theorem isAbsoluteText_of_isName {name : String} (h : IsName name) :
    isAbsoluteText name = false := by
  have hno := h.no_slash
  rw [isAbsoluteText, beq_eq_false_iff_ne]
  intro hhead
  exact hno (List.mem_of_head? hhead)

/-- The path of a name below a directory ends with that name. -/
theorem exists_join (directory : String) : ∃ front : List Char, ∀ name, IsName name →
    (join directory name).toList = front ++ name.toList := by
  by_cases hempty : directory.isEmpty = true
  · refine ⟨[], fun name hname => ?_⟩
    simp [join, hempty]
  · by_cases hslash : directory.toList.getLast? = some '/'
    · refine ⟨directory.toList, fun name hname => ?_⟩
      simp [join, isAbsoluteText_of_isName hname, hempty, hslash]
    · refine ⟨directory.toList ++ ['/'], fun name hname => ?_⟩
      simp [join, isAbsoluteText_of_isName hname, hempty, hslash]

/-- Below one directory, different names are at different paths. -/
theorem join_injective {directory name name' : String} (hname : IsName name) (hname' : IsName name')
    (h : join directory name = join directory name') : name = name' := by
  obtain ⟨front, hjoin⟩ := exists_join directory
  have hchars := congrArg String.toList h
  rw [hjoin name hname, hjoin name' hname'] at hchars
  exact String.toList_injective (List.append_cancel_left hchars)

end Path

namespace Endpoint

/-- The names that lead to something in a directory are those that lead to the directory, and its
own name. -/
theorem addressNames_join (directory : String) {name : String} (h : Path.IsName name) :
    Socket.addressNames (Path.join directory name) = Socket.addressNames directory ++ [name] := by
  have hlast : (Path.components name).filter (fun name => name != "" && name != ".") = [name] := by
    rw [Path.components_of_isName h]
    simp [h.ne_empty, h.ne_here]
  -- Whether the directory ends with a slash or not, one slash stands before the name.
  have hbelow (front : List Char) :
      Socket.addressNames (String.ofList (front ++ '/' :: name.toList)) =
        Socket.addressNames (String.ofList front) ++ [name] := by
    rw [Socket.addressNames, Path.components_append_slash, List.filter_append, String.ofList_toList,
      hlast]
    rfl
  unfold Path.join
  rw [Path.isAbsoluteText_of_isName h, Bool.false_or]
  split
  · rename_i hempty
    obtain rfl : directory = "" := by simpa using hempty
    rw [Socket.addressNames, hlast]
    rfl
  · split
    · rename_i hslash
      obtain ⟨front, hfront⟩ := List.getLast?_eq_some_iff.mp (by simpa using hslash)
      have hdirectory : directory = String.ofList (front ++ '/' :: []) := by
        rw [← hfront, String.ofList_toList]
      have hpath : directory ++ name = String.ofList (front ++ '/' :: name.toList) := by
        apply String.toList_injective
        simp [hfront]
      rw [hpath, hbelow, hdirectory, Socket.addressNames, Socket.addressNames,
        Path.components_append_slash, List.filter_append]
      simp [Path.components, Text.splitOn, Text.splitWhere]
    · have hpath : directory ++ "/" ++ name =
          String.ofList (directory.toList ++ '/' :: name.toList) := by
        apply String.toList_injective
        simp
      rw [hpath, hbelow, String.ofList_toList]

theorem address_injective {directory group group' : String} {version version' : Version}
    (hgroup : '/' ∉ group.toList) (hgroup' : '/' ∉ group'.toList)
    (h : address directory group version = address directory group' version') :
    group = group' ∧ version = version' :=
  socketName_injective
    (Path.join_injective (isName_socketName hgroup) (isName_socketName hgroup') h)

/-- Below one directory, two endpoints whose groups have no slash in their names have the same
`address` only when they are the same, whatever else the names hold. -/
theorem addresses_tell_endpoints_apart (directory : String) {group group' : String}
    (version version' : Version) (hgroup : '/' ∉ group.toList) (hgroup' : '/' ∉ group'.toList) :
    address directory group version = address directory group' version' ↔
      group = group' ∧ version = version' := by
  refine ⟨address_injective hgroup hgroup', ?_⟩
  rintro ⟨rfl, rfl⟩
  rfl

/-- A group whose name goes on like a version is not taken for a version. -/
theorem version_in_group_is_told_apart :
    '/' ∉ "disk-v1".toList ∧ '/' ∉ "disk".toList ∧
      address "/s" "disk-v1" ⟨1, 0, 0, none⟩ ≠
        address "/s" "disk" ⟨1, 0, 0, some ⟨.beta, some 1⟩⟩ := by
  have hgroup : '/' ∉ "disk-v1".toList := by decide
  have hgroup' : '/' ∉ "disk".toList := by decide
  refine ⟨hgroup, hgroup', fun hsame => ?_⟩
  have heq := (addresses_tell_endpoints_apart "/s" _ _ hgroup hgroup').mp hsame
  exact absurd heq.1 (by decide)

theorem addressNames_address (directory : String) {group : String} (version : Version)
    (hgroup : '/' ∉ group.toList) :
    Socket.addressNames (address directory group version) =
      Socket.addressNames directory ++ [socketName group version] :=
  addressNames_join directory (isName_socketName hgroup)

end Endpoint

end StorageGateway

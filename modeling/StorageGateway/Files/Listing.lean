import StorageGateway.Files.Tree

/-!
# Listings

What is below a directory, told path by path: each path with a mark behind it that says what is
there, in ascending order.
-/

namespace StorageGateway

/-- A slash after a directory, and after a link what it points to. -/
def Node.pointer : Node → String
  | .directory => "/"
  | .link target => " -> " ++ target
  | .file | .socket _ => ""

/-- A sign after everything that is no file. -/
def Node.sign : Node → String
  | .directory => "/"
  | .link _ => "@"
  | .socket _ => "="
  | .file => ""

/-- The paths below a directory with their marks, in ascending order. -/
def FileTree.listing (mark : Node → String) (directory : Place) (tree : FileTree) : List String :=
  let below := tree.entries.filter fun entry =>
    directory.isPrefixOf entry.1 && entry.1 != directory
  (below.map fun entry => Path.text ⟨true, entry.1⟩ ++ mark entry.2).mergeSort
    fun a b => decide (a ≤ b)

end StorageGateway

import DocSite.Nav.PageIndex
import DocSite.Nav.Walk

/-! # Navigation trees

All that a navigation descriptor says: the table of contents, the order of pages, and the texts for
a switch that some descriptors declare. -/

namespace DocSite.Nav

/-- The texts for the switch that couples two panels. -/
structure SyncMessages where
  /-- The text while the panels are coupled. -/
  on : String
  /-- The text while they are not. -/
  off : String
  deriving DecidableEq

/-- A navigation descriptor. -/
structure Tree where
  /-- The entries at the top. -/
  roots : List Node
  /-- The order of pages. -/
  index : PageIndex
  /-- The texts for the switch, if both are declared. -/
  sync : Option SyncMessages
  deriving DecidableEq

namespace Tree

/-- A tree without texts for the switch. -/
def ofParts (roots : List Node) (index : PageIndex) : Tree :=
  ⟨roots, index, none⟩

/-- The entries in document order. -/
def walk (tree : Tree) : List Step :=
  (Walk.start tree.roots).toList

/-- The number of entries at hand. -/
def size (tree : Tree) : Nat :=
  tree.walk.length

/-- Whether there is no entry. -/
def isEmpty (tree : Tree) : Bool :=
  tree.roots.isEmpty

/-- The neighbours of a page in the order of pages. -/
def lookup (tree : Tree) (page : String) : Neighbours :=
  tree.index.neighbours page

end Tree

end DocSite.Nav

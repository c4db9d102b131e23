import DocSite.Nav.Link
import DocSite.Nav.Tree

/-! # Rows

A table of contents shown as a list: every entry is a row, in document order, and knows the rows of
its parent and its children by their positions. The rows are made from a walk, which tells no more
of the structure than the depth of each step. -/

namespace DocSite.Nav

/-- An entry's place in the list. -/
structure Row where
  /-- What the entry is called. -/
  label : String
  /-- Where it leads. -/
  link : String
  /-- How many entries it lies below. -/
  depth : Nat
  /-- The row of the entry that it is a child of. -/
  parent : Option Nat
  /-- The rows of its children at hand. -/
  children : List Nat
  /-- Whether its children are in a script that has not been read. -/
  deferred : Bool
  deriving DecidableEq

/-- A list of rows under way. -/
structure Listing where
  /-- The rows so far. -/
  rows : List Row
  /-- The rows on the way to the latest one, the outermost first and the latest one last. -/
  path : List Nat

namespace Listing

/-- No rows yet. -/
def empty : Listing := ⟨[], []⟩

/-- Gives the row at position `parent`, if there is one, more children. -/
def adopt (rows : List Row) (parent : Option Nat) (more : List Nat) : List Row :=
  match parent with
  | some p => rows.modify p fun row => { row with children := row.children ++ more }
  | none => rows

/-- Lists a step: what is left of the way to the latest row at the step's depth leads to its
parent. -/
def add (listing : Listing) (step : Step) : Listing :=
  let above := listing.path.take step.depth
  let index := listing.rows.length
  let row : Row := ⟨step.label, step.link, step.depth, above.getLast?, [], step.deferred.isSome⟩
  ⟨adopt listing.rows above.getLast? [index] ++ [row], above ++ [index]⟩

end Listing

/-- The rows of a tree, one for each step of a walk. -/
def Tree.rows (tree : Tree) : List Row :=
  (tree.walk.foldl Listing.add .empty).rows

/-- The row of a plain link: it is below nothing and above nothing. -/
def Link.row (link : Link) : Row :=
  ⟨link.label, link.link, 0, none, [], false⟩

/-- The rows of plain links. -/
def linkRows (links : List Link) : List Row :=
  links.map Link.row

end DocSite.Nav

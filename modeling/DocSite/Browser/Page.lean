import DocSite.Browser.State

/-! # Moves between pages

The order of pages leads from the page of the current row to the one before or behind it, and from
there to the first row that links to it. -/

namespace DocSite.Browser

open DocSite.Nav

/-- The page that a link leads to, which is what stands before the first number sign. -/
def pageOf (link : String) : List Char :=
  link.toList.takeWhile (· != '#')

/-- The row of a link: one with this very link, or else the first on its page. -/
def rowOfLink? (rows : List Row) (link : String) : Option Nat :=
  match rows.findIdx? (·.link == link) with
  | some row => some row
  | none => rows.findIdx? (pageOf ·.link == pageOf link)

namespace State

/-- The row of a link. -/
def rowOfLink? (state : State) (link : String) : Option Nat :=
  Browser.rowOfLink? state.rows link

/-- The pages before and behind the one of the current row; there are none without a tree. -/
def pageNeighbours (state : State) : Neighbours :=
  match state.tree, state.currentRow with
  | some tree, some row => tree.lookup row.link
  | _, _ => ⟨none, none⟩

/-- Goes to a page, if there is one, and tells whether that worked. -/
def goToPage (state : State) (target : Option String) (missing : String) : State × Bool :=
  match target with
  | none => ({ state with message := some missing }, false)
  | some page =>
      match state.rowOfLink? page with
      | some row => ({ state with row := row, message := none }, true)
      | none => ({ state with message := some (page ++ " is not in the tree") }, false)

/-- Goes to the next page. -/
def goToNextPage (state : State) : State × Bool :=
  state.goToPage state.pageNeighbours.next "No next page"

/-- Goes to the previous page. -/
def goToPrevPage (state : State) : State × Bool :=
  state.goToPage state.pageNeighbours.prev "No previous page"

/-- Chooses the link of the current row. -/
def chooseCurrent (state : State) : State :=
  { state with chosen := state.currentRow.map (·.link) }

end State

end DocSite.Browser

import DocSite.Nav.Row
import DocSite.Search.Index
import DocSite.Site

/-! # The state of the browser

The browser shows the table of contents as rows, one of which is the current one. A prompt takes a
query and a list shows its hits. The rows come from a tree or, where there is none, from plain
links. -/

namespace DocSite.Browser

open DocSite.Nav
open DocSite.Search

/-- What the browser shows. -/
inductive View where
  /-- The rows. -/
  | tree
  /-- The rows, with a prompt below them. -/
  | search
  /-- The hits. -/
  | results
  deriving DecidableEq

/-- What the rows stand for. -/
inductive Mode where
  /-- The entries of a tree. -/
  | tree
  /-- Plain links. -/
  | links
  deriving DecidableEq

/-- The state of the browser. -/
structure State where
  /-- The rows. -/
  rows : List Row
  /-- What the rows stand for. -/
  mode : Mode
  /-- The tree that they come from; none if they are plain links. -/
  tree : Option Tree
  /-- What is shown. -/
  view : View
  /-- The position of the current row. -/
  row : Nat
  /-- The query as it has been typed. -/
  query : String
  /-- The hits of the last query. -/
  results : List Hit
  /-- The position of the current hit. -/
  result : Nat
  /-- What there is to tell the user. -/
  message : Option String
  /-- The link that the user has chosen. -/
  chosen : Option String

namespace State

/-- What the user is told where there is no tree. -/
def plainMessage : String := "Navigation tree unavailable, showing plain links"

/-- The state that the browser starts in. -/
def ofNavigation : Navigation → State
  | .tree tree => ⟨tree.rows, .tree, some tree, .tree, 0, "", [], 0, none, none⟩
  | .links links => ⟨linkRows links, .links, none, .tree, 0, "", [], 0, some plainMessage, none⟩

/-- The current row. -/
def currentRow (state : State) : Option Row :=
  state.rows[state.row]?

/-- The current hit. -/
def currentResult (state : State) : Option Hit :=
  state.results[state.result]?

end State

/-- The labels from the outermost row around the row at position `index` down to that row. A row
stands behind the one that it is below. -/
def lineage (rows : List Row) (index : Nat) : List String :=
  match rows[index]? with
  | none => []
  | some row =>
      match row.parent with
      | none => [row.label]
      | some parent =>
          if parent < index then lineage rows parent ++ [row.label] else [row.label]

/-- The way to the current row, as it is shown; empty if there is no such row. -/
def State.breadcrumb (state : State) : String :=
  " > ".intercalate (lineage state.rows state.row)

end DocSite.Browser

import DocSite.Browser.State

/-! # Moves between rows

A move names the row that it leads to, if there is one. Siblings are found by depth alone: the next
row of the same depth is a sibling unless a shallower one comes before it. -/

namespace DocSite.Browser

open DocSite.Nav

/-- How far the first row of a depth is ahead, unless a shallower row comes before it. -/
def siblingOffset? (depth : Nat) : List Row → Option Nat
  | [] => none
  | row :: rest =>
      if row.depth = depth then some 0
      else if row.depth < depth then none
      else (siblingOffset? depth rest).map (· + 1)

namespace State

/-- The row below on the screen. -/
def nextRow? (state : State) : Option Nat :=
  if state.row + 1 < state.rows.length then some (state.row + 1) else none

/-- The row above on the screen. -/
def prevRow? (state : State) : Option Nat :=
  match state.row with
  | 0 => none
  | row + 1 => some row

/-- The row that the current one is a child of. -/
def parentRow? (state : State) : Option Nat :=
  state.currentRow.bind (·.parent)

/-- The first child of the current row. -/
def firstChild? (state : State) : Option Nat :=
  state.currentRow.bind (·.children.head?)

/-- The sibling behind the current row. -/
def nextSibling? (state : State) : Option Nat :=
  state.currentRow.bind fun row =>
    (siblingOffset? row.depth (state.rows.drop (state.row + 1))).map (state.row + 1 + ·)

/-- The sibling in front of the current row. -/
def prevSibling? (state : State) : Option Nat :=
  state.currentRow.bind fun row =>
    (siblingOffset? row.depth (state.rows.take state.row).reverse).map (state.row - 1 - ·)

/-- The first of all rows. -/
def firstRow? (state : State) : Option Nat :=
  if state.rows.isEmpty then none else some 0

/-- The last of all rows. -/
def lastRow? (state : State) : Option Nat :=
  match state.rows.length with
  | 0 => none
  | last + 1 => some last

/-- The first row of the depth of the current one. -/
def firstAtLevel? (state : State) : Option Nat :=
  state.currentRow.bind fun row => state.rows.findIdx? (·.depth == row.depth)

/-- The last row of the depth of the current one. -/
def lastAtLevel? (state : State) : Option Nat :=
  state.currentRow.bind fun row =>
    (state.rows.reverse.findIdx? (·.depth == row.depth)).map (state.rows.length - 1 - ·)

/-- The state after a move: without a row to move to, nothing changes. -/
def moveTo (state : State) (target : Option Nat) : State :=
  match target with
  | some row => { state with row := row }
  | none => state

end State

end DocSite.Browser

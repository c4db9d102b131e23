import DocSite.Text.Width

/-! # Cells

A screen is rows of cells. A cell shows a text of one column; a text of two columns stands in the
first of two cells and hides the second. -/

namespace DocSite.Screen

open DocSite.Text

/-- The colours in use. -/
inductive Color where
  /-- For entries with children. -/
  | cyan
  /-- For what is of less interest. -/
  | darkGray
  /-- For the names of hits. -/
  | yellow
  /-- For scopes. -/
  | blue
  deriving DecidableEq

/-- How a cell looks. -/
structure Style where
  /-- Its colour; none for the usual one. -/
  color : Option Color := none
  /-- Whether it is bold. -/
  bold : Bool := false
  /-- Whether the colours of text and ground are exchanged. -/
  reversed : Bool := false
  deriving DecidableEq

/-- The look without colour or emphasis. -/
def Style.plain : Style := {}

/-- A cell. -/
structure Cell where
  /-- What it shows. -/
  symbol : List Char
  /-- How it looks. -/
  style : Style
  deriving DecidableEq

namespace Cell

/-- The cell that shows nothing. -/
def blank : Cell := ⟨[' '], .plain⟩

/-- The cell of a character of the usual look. -/
def ofChar (c : Char) : Cell := ⟨[c], .plain⟩

/-- The cell with the colours of text and ground exchanged. -/
def reverse (cell : Cell) : Cell :=
  { cell with style := { cell.style with reversed := true } }

end Cell

/-- Blank cells. -/
def blanks (n : Nat) : List Cell :=
  List.replicate n Cell.blank

@[simp] theorem length_blanks (n : Nat) : (blanks n).length = n := by simp [blanks]

/-- The text of cells of which the first `hidden` are hidden. -/
def textOfCells (hidden : Nat) : List Cell → List Char
  | [] => []
  | cell :: rest =>
      let hides := max hidden (textWidth cell.symbol) - 1
      if hidden = 0 then cell.symbol ++ textOfCells hides rest else textOfCells hides rest

/-- The text that a row of cells shows. -/
def rowText (row : List Cell) : String :=
  String.ofList (textOfCells 0 row)

/-- Neighbouring cells of one look. -/
structure Run where
  /-- The position of the first. -/
  start : Nat
  /-- The position behind the last. -/
  stop : Nat
  /-- Their look. -/
  style : Style
  deriving DecidableEq

/-- The longest runs of cells from position `start` on. -/
def runsFrom (start : Nat) : List Cell → List Run
  | [] => []
  | cell :: rest =>
      match runsFrom (start + 1) rest with
      | run :: runs =>
          if run.style = cell.style then { run with start } :: runs
          else ⟨start, start + 1, cell.style⟩ :: run :: runs
      | [] => [⟨start, start + 1, cell.style⟩]

/-- The longest runs of cells in a row that do not look plain. -/
def styledRuns (row : List Cell) : List Run :=
  (runsFrom 0 row).filter (·.style ≠ .plain)

end DocSite.Screen

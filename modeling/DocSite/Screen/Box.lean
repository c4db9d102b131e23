import DocSite.Screen.Paint

/-! # Boxes

A box is a border with a heading around rows of cells. Of a box of one row only the upper border is
left, of a box of one column only the left one. -/

namespace DocSite.Screen

/-- A horizontal border from corner to corner. -/
def border (left right : Char) (width : Nat) : List Cell :=
  match width with
  | 0 => []
  | 1 => [Cell.ofChar left]
  | inner + 2 =>
      Cell.ofChar left :: List.replicate inner (Cell.ofChar '─') ++ [Cell.ofChar right]

/-- The upper border with a heading, which is cut in front of the right corner. -/
def headedBorder (heading : String) (width : Nat) : List Cell :=
  match border '┌' '┐' width with
  | corner :: rest =>
      corner :: paintHeading (rest.take (width - 2)) heading ++ rest.drop (width - 2)
  | [] => []

/-- A row of cells between the borders. -/
def sided (width : Nat) (inner : List Cell) : List Cell :=
  match width with
  | 0 => []
  | 1 => [Cell.ofChar '│']
  | _ + 2 => Cell.ofChar '│' :: inner ++ [Cell.ofChar '│']

/-- A box. What is in it is given by the rows inside, each as wide as the box is inside. -/
def box (heading : String) (width height : Nat) (inner : List (List Cell)) : List (List Cell) :=
  match height with
  | 0 => []
  | 1 => [headedBorder heading width]
  | _ + 2 => headedBorder heading width :: inner.map (sided width) ++ [border '└' '┘' width]

/-- A box with the first line of a text in it. -/
def textBox (heading : String) (width height : Nat) (text : String) : List (List Cell) :=
  box heading width height
    (match height - 2 with
      | 0 => []
      | rows + 1 =>
          paintFirstLine (blanks (width - 2)) text :: List.replicate rows (blanks (width - 2)))

/-- The first item of a list to show in `height` rows, so that the selected one can be seen. -/
def firstShown (height : Nat) (selected : Option Nat) : Nat :=
  match selected with
  | some index => index + 1 - height
  | none => 0

/-- The rows of the items from position `index` on. The selected item is shown reversed. -/
def itemRows (width : Nat) (selected : Option Nat) (index : Nat) :
    List (List Span) → List (List Cell)
  | [] => []
  | spans :: rest =>
      let row := paintSpans (blanks width) spans
      (if selected = some index then row.map Cell.reverse else row)
        :: itemRows width selected (index + 1) rest

/-- A box with a list in it, each item a row. A selection beyond the list is that of the last
item. -/
def listBox (heading : String) (width height : Nat) (selected : Option Nat)
    (items : List (List Span)) : List (List Cell) :=
  let rows := height - 2
  let selected := selected.map (min · (items.length - 1))
  let first := firstShown rows selected
  let shown := itemRows (width - 2) selected first ((items.drop first).take rows)
  box heading width height
    (shown ++ List.replicate (rows - shown.length) (blanks (width - 2)))

end DocSite.Screen

import DocSite.Browser.Move
import DocSite.Screen.Paint

/-! # Outlines

In front of its label a row shows where it stands: a line down for each row around it that has a
sibling to come, and a branch to the row itself, which bends at the last sibling. -/

namespace DocSite.Browser

open DocSite.Nav
open DocSite.Screen

/-- Whether siblings are to come, level by level, for a row of the given depth behind one with the
levels `above`. The last level is the row's own. -/
def levelsBelow (above : List Bool) (depth : Nat) (more : Bool) : List Bool :=
  match depth with
  | 0 => []
  | around + 1 => (above ++ List.replicate around false).take around ++ [more]

/-- The lines in front of a row. -/
def guides : List Bool → String
  | [] => ""
  | [more] => if more then "├── " else "└── "
  | more :: rest => (if more then "│   " else "    ") ++ guides rest

/-- Whether siblings are to come, level by level, for each of the rows behind one with the levels
`above`. -/
def levelsFrom (above : List Bool) : List Row → List (List Bool)
  | [] => []
  | row :: rest =>
      let levels := levelsBelow above row.depth (siblingOffset? row.depth rest).isSome
      levels :: levelsFrom levels rest

/-- The lines in front of each row. -/
def outline (rows : List Row) : List String :=
  (levelsFrom [] rows).map guides

/-- The look of the label of an entry with children. -/
def parentStyle : Style := { color := some .cyan, bold := true }

/-- What is shown of a row of a tree. -/
def treeLabel (row : Row) : List Span :=
  if row.children.isEmpty ∧ ¬ row.deferred then [.plain row.label]
  else
    ⟨row.label.toList, parentStyle⟩
      :: (if row.deferred then [⟨" …".toList, { color := some .darkGray }⟩] else [])

/-- What is shown of a row of a plain link. -/
def linkLabel (row : Row) : List Span :=
  [.plain (row.label ++ " (" ++ row.link ++ ")")]

/-- The rows as items of a list. -/
def outlineItems (label : Row → List Span) (rows : List Row) : List (List Span) :=
  List.zipWith (fun lines row => .plain lines :: label row) (outline rows) rows

end DocSite.Browser

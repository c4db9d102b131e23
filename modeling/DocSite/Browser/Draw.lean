import DocSite.Browser.Outline
import DocSite.Browser.State
import DocSite.Screen.Box

/-! # What the browser looks like

On top is a box with the way to the current row, at the bottom one with help, a message or the
prompt, and between them are the rows or the hits. -/

namespace DocSite.Browser

open DocSite.Search
open DocSite.Screen
open DocSite.Text

/-- The heading over the rows. -/
def State.treeHeading (state : State) : String :=
  match state.mode with
  | .tree => "Contents (" ++ decimal state.rows.length ++ " entries)"
  | .links => "Links (" ++ decimal state.rows.length ++ " entries, unstructured)"

/-- The rows. -/
def State.drawTree (state : State) (width height : Nat) : List (List Cell) :=
  listBox state.treeHeading width height (state.currentRow.map fun _ => state.row)
    (outlineItems (if state.mode = .links then linkLabel else treeLabel) state.rows)

/-- What is shown of a hit. -/
def hitSpans (hit : Hit) : List Span :=
  ⟨hit.name.toList, { color := some .yellow, bold := true }⟩
    :: (if hit.scope = "" then []
        else [⟨("  " ++ hit.scope).toList, { color := some .blue }⟩])
    ++ [⟨("  " ++ hit.link).toList, { color := some .darkGray }⟩]

/-- The hits. -/
def State.drawResults (state : State) (width height : Nat) : List (List Cell) :=
  listBox ("Results for '" ++ state.query ++ "' (" ++ decimal state.results.length ++ ")")
    width height (some state.result) (state.results.map hitSpans)

/-- The help for the hits. -/
def resultsHelp : String := "↑/↓: Select | Enter: Open | Esc: Back"

/-- The help for the rows. -/
def treeHelp : String :=
  "↑/↓: Move | ←/→: Parent/Child | Shift+↑/↓: Siblings | n/p: Next/Prev page | /: Search | "
    ++ "Enter: Pick | q: Quit"

/-- What is in the box at the bottom: the prompt, or else a message, or else help. -/
def State.footer (state : State) : String :=
  if state.view = .search then "/" ++ state.query
  else
    match state.message with
    | some message => message
    | none => if state.view = .results then resultsHelp else treeHelp

/-- The box at the bottom. -/
def State.drawFooter (state : State) (width height : Nat) : List (List Cell) :=
  textBox (if state.view = .search then "Search" else "") width height state.footer

/-- The rows of cells of a screen of the given size. The boxes at the bottom and on top have three
rows each as long as there are enough, first for the one at the bottom. -/
def State.draw (state : State) (width height : Nat) : List (List Cell) :=
  let bottom := min 3 height
  let top := min 3 (height - bottom)
  let middle := height - bottom - top
  textBox "Navigation" width top state.breadcrumb
    ++ (if state.view = .results then state.drawResults width middle
        else state.drawTree width middle)
    ++ state.drawFooter width bottom

end DocSite.Browser

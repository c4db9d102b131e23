import DocSite.Screen.Cell

/-! # Painting

Text is painted over cells from the left and cut where they end; the number of cells does not
change. A cluster without width goes to the cell in front of it. -/

namespace DocSite.Screen

open DocSite.Text

/-- Text of one look. -/
structure Span where
  /-- The text. -/
  text : List Char
  /-- Its look. -/
  style : Style

/-- The text in the usual look. -/
def Span.plain (text : String) : Span := ⟨text.toList, .plain⟩

/-- Paints clusters behind cells that are done, which are given from the last to the first. -/
def paintBehind (style : Style) (done : List Cell) : List Cell → List (List Char) → List Cell
  | cells, [] => done.reverse ++ cells
  | cells, cluster :: more =>
      let width := clusterWidth cluster
      if cells.length < width then done.reverse ++ cells
      else if width = 0 then
        match done with
        | last :: before => paintBehind style (⟨last.symbol ++ cluster, style⟩ :: before) cells more
        | [] => paintBehind style done cells more
      -- A wide cluster hides the cells behind its first.
      else
        paintBehind style (blanks (width - 1) ++ ⟨cluster, style⟩ :: done) (cells.drop width) more

/-- Painting keeps the number of cells. -/
@[simp] theorem length_paintBehind (style : Style) (done cells : List Cell)
    (clusters : List (List Char)) :
    (paintBehind style done cells clusters).length = done.length + cells.length := by
  induction clusters generalizing done cells with
  | nil => simp [paintBehind]
  | cons cluster more ih =>
    unfold paintBehind
    dsimp only
    split
    · simp
    next hfits =>
      split
      · cases done with
        | nil => exact ih _ _
        | cons last before => exact ih _ _
      next hwide =>
        rw [ih]
        simp only [List.length_append, List.length_cons, List.length_drop, length_blanks]
        omega

/-- Paints clusters. The first cell also takes those without width at the very beginning. -/
def paintClusters (style : Style) (cells : List Cell) (clusters : List (List Char)) : List Cell :=
  let lead := (clusters.takeWhile (clusterWidth · = 0)).flatten
  match clusters.dropWhile (clusterWidth · = 0) with
  | first :: more =>
      let width := clusterWidth first
      if width ≤ cells.length then
        paintBehind style (blanks (width - 1) ++ [⟨lead ++ first, style⟩]) (cells.drop width) more
      else if lead.isEmpty then cells
      else cells.set 0 ⟨lead, style⟩
  | [] => if lead.isEmpty then cells else cells.set 0 ⟨lead, style⟩

/-- Painting keeps the number of cells. -/
@[simp] theorem length_paintClusters (style : Style) (cells : List Cell)
    (clusters : List (List Char)) :
    (paintClusters style cells clusters).length = cells.length := by
  simp only [paintClusters]
  split
  next first more hmore =>
    have hwide : clusterWidth first ≠ 0 := by
      have h := List.head?_dropWhile_not (fun cluster => decide (clusterWidth cluster = 0)) clusters
      rw [hmore] at h
      simpa using h
    split
    · simp only [length_paintBehind, List.length_append, List.length_drop, length_blanks,
        List.length_singleton]
      omega
    · split <;> simp
  · split <;> simp

/-- Paints a span. A line feed takes up its column but shows nothing. -/
def paintSpan (cells : List Cell) (span : Span) : List Cell :=
  paintClusters span.style cells ((clusters span.text).filter (· ≠ ['\n']))

@[simp] theorem length_paintSpan (cells : List Cell) (span : Span) :
    (paintSpan cells span).length = cells.length :=
  length_paintClusters ..

/-- Paints spans one behind the other; those without width are left out. -/
def paintSpans (cells : List Cell) : List Span → List Cell
  | [] => cells
  | span :: rest =>
      let width := textWidth span.text
      if width = 0 then paintSpans cells rest
      else
        let painted := paintSpan cells span
        painted.take width ++ paintSpans (painted.drop width) rest

/-- Painting keeps the number of cells. -/
@[simp] theorem length_paintSpans (cells : List Cell) (spans : List Span) :
    (paintSpans cells spans).length = cells.length := by
  induction spans generalizing cells with
  | nil => rfl
  | cons span rest ih =>
    rw [paintSpans]
    split
    · exact ih cells
    · simp only [List.length_append, ih, List.length_take, List.length_drop, length_paintSpan]
      omega

/-- The lines of a text. What ends a line does not belong to it, and a last line is not empty. -/
def linesFrom (begun : List Char) : List Char → List (List Char)
  | [] => if begun.isEmpty then [] else [begun.reverse]
  | '\n' :: rest =>
      (match begun with
        | '\r' :: line => line.reverse
        | line => line.reverse) :: linesFrom [] rest
  | c :: rest => linesFrom (c :: begun) rest

/-- The lines of a text. -/
def lines (text : String) : List (List Char) :=
  linesFrom [] text.toList

/-- Paints a heading, of which all lines stand one behind the other. -/
def paintHeading (cells : List Cell) (text : String) : List Cell :=
  paintSpans cells ((lines text).map fun line => ⟨line, .plain⟩)

/-- The clusters that fit into a line of the given width beside those that fill `used` columns. A
cluster that is wider than the whole line is left out. -/
def fitting (width used : Nat) : List (List Char) → List (List Char)
  | [] => []
  | cluster :: rest =>
      if width < clusterWidth cluster then fitting width used rest
      else if width < used + clusterWidth cluster then []
      else cluster :: fitting width (used + clusterWidth cluster) rest

/-- Paints the first line of a text; clusters without width are left out. -/
def paintFirstLine (cells : List Cell) (text : String) : List Cell :=
  match lines text with
  | [] => cells
  | line :: _ =>
      paintBehind .plain [] cells
        ((fitting cells.length 0 (clusters line)).filter (clusterWidth · ≠ 0))

end DocSite.Screen

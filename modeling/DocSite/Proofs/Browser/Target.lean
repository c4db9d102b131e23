import DocSite.Browser.Move
import DocSite.Browser.Page
import DocSite.Proofs.Nav.Rows

/-! # Moves lead to rows

The row that a move names is there. Moves that count from the current row need that this is one of
the rows or, where there are none, the first position (`IsPlaceIn`); moves to the parent and to a
child need that the rows point to rows (`State.PointsToRows`). -/

namespace DocSite.Browser

open DocSite.Nav

/-- Whether a position is that of one of the rows or, where there are none, the first one. -/
structure IsPlaceIn (rows : List Row) (row : Nat) : Prop where
  /-- If there are rows, one of them is there. -/
  lt_length : rows ≠ [] → row < rows.length
  /-- If there are none, it is the first position. -/
  eq_zero : rows = [] → row = 0

/-! ## Finding rows -/

/-- A sibling is one of the rows in which it is looked for. -/
theorem lt_of_siblingOffset? {depth k : Nat} {rows : List Row}
    (h : k ∈ siblingOffset? depth rows) : k < rows.length := by
  induction rows generalizing k with
  | nil => cases h
  | cons row rest ih =>
      rw [siblingOffset?] at h
      by_cases hsame : row.depth = depth
      · rw [if_pos hsame] at h
        cases h
        exact Nat.succ_pos rest.length
      · rw [if_neg hsame] at h
        by_cases hshallow : row.depth < depth
        · rw [if_pos hshallow] at h
          cases h
        · rw [if_neg hshallow] at h
          obtain ⟨j, hj, rfl⟩ := Option.map_eq_some_iff.1 h
          exact Nat.succ_lt_succ (ih hj)

/-- The row of a link is one of the rows. -/
theorem lt_of_rowOfLink? {rows : List Row} {link : String} {k : Nat}
    (h : k ∈ rowOfLink? rows link) : k < rows.length := by
  rw [rowOfLink?] at h
  cases hexact : rows.findIdx? (·.link == link) with
  | some row =>
      rw [hexact] at h
      cases h
      exact (List.findIdx?_eq_some_iff_getElem.1 hexact).1
  | none =>
      rw [hexact] at h
      exact (List.findIdx?_eq_some_iff_getElem.1 h).1

namespace State

/-- Whether the rows point to rows only. -/
def PointsToRows (state : State) : Prop :=
  ∀ row ∈ state.rows, row.PointsBelow state.rows.length

/-- Whether a move leads to one of the rows, if it leads anywhere. -/
def LeadsToRow (state : State) (target : Option Nat) : Prop :=
  ∀ row ∈ target, row < state.rows.length

variable {state : State}

/-- A row that is read at the current position is there. -/
theorem mem_of_currentRow {row : Row} (h : row ∈ state.currentRow) :
    row ∈ state.rows ∧ state.row < state.rows.length := by
  obtain ⟨hlt, hrow⟩ := List.getElem?_eq_some_iff.1 h
  exact ⟨hrow ▸ List.getElem_mem hlt, hlt⟩

/-- A move from the current row leads to a row if it does so from each row that there is. -/
theorem leadsToRow_bind {move : Row → Option Nat}
    (h : ∀ row ∈ state.rows, state.row < state.rows.length → state.LeadsToRow (move row)) :
    state.LeadsToRow (state.currentRow.bind move) := by
  intro target htarget
  obtain ⟨row, hrow, hmove⟩ := Option.mem_bind_iff.1 htarget
  obtain ⟨hmem, hlt⟩ := mem_of_currentRow hrow
  exact h row hmem hlt target hmove

/-! ## Moves on the screen -/

theorem leadsToRow_nextRow? : state.LeadsToRow state.nextRow? := by
  intro row hrow
  rw [nextRow?] at hrow
  by_cases hlt : state.row + 1 < state.rows.length
  · rw [if_pos hlt] at hrow
    cases hrow
    exact hlt
  · rw [if_neg hlt] at hrow
    cases hrow

/-- Above the current row stands a row, because the current one is not the first position. -/
theorem leadsToRow_prevRow? (h : IsPlaceIn state.rows state.row) :
    state.LeadsToRow state.prevRow? := by
  intro row hrow
  rw [prevRow?] at hrow
  cases hcurrent : state.row with
  | zero =>
      rw [hcurrent] at hrow
      cases hrow
  | succ above =>
      rw [hcurrent] at hrow
      cases hrow
      have hrows : state.rows ≠ [] := by
        intro hnone
        rw [h.eq_zero hnone] at hcurrent
        cases hcurrent
      have hlt := h.lt_length hrows
      omega

theorem leadsToRow_firstRow? : state.LeadsToRow state.firstRow? := by
  intro row hrow
  rw [firstRow?] at hrow
  by_cases hempty : state.rows.isEmpty = true
  · rw [if_pos hempty] at hrow
    cases hrow
  · rw [if_neg hempty] at hrow
    cases hrow
    rw [List.isEmpty_iff] at hempty
    exact List.length_pos_iff.2 hempty

theorem leadsToRow_lastRow? : state.LeadsToRow state.lastRow? := by
  intro row hrow
  rw [lastRow?] at hrow
  cases hlength : state.rows.length with
  | zero =>
      rw [hlength] at hrow
      cases hrow
  | succ last =>
      rw [hlength] at hrow
      cases hrow
      omega

/-! ## Moves in the structure -/

theorem leadsToRow_parentRow? (h : state.PointsToRows) : state.LeadsToRow state.parentRow? :=
  leadsToRow_bind fun row hrow _ => (h row hrow).parent_lt

theorem leadsToRow_firstChild? (h : state.PointsToRows) : state.LeadsToRow state.firstChild? :=
  leadsToRow_bind fun row hrow _ child hchild =>
    (h row hrow).child_lt child (List.mem_of_mem_head? hchild)

theorem leadsToRow_nextSibling? : state.LeadsToRow state.nextSibling? := by
  refine leadsToRow_bind fun row _ hlt target htarget => ?_
  obtain ⟨k, hk, rfl⟩ := Option.map_eq_some_iff.1 htarget
  have hk := lt_of_siblingOffset? hk
  rw [List.length_drop] at hk
  omega

theorem leadsToRow_prevSibling? : state.LeadsToRow state.prevSibling? := by
  refine leadsToRow_bind fun row _ hlt target htarget => ?_
  obtain ⟨k, -, rfl⟩ := Option.map_eq_some_iff.1 htarget
  omega

theorem leadsToRow_firstAtLevel? : state.LeadsToRow state.firstAtLevel? :=
  leadsToRow_bind fun _ _ _ _ htarget => (List.findIdx?_eq_some_iff_getElem.1 htarget).1

theorem leadsToRow_lastAtLevel? : state.LeadsToRow state.lastAtLevel? := by
  refine leadsToRow_bind fun row _ hlt target htarget => ?_
  obtain ⟨k, -, rfl⟩ := Option.map_eq_some_iff.1 htarget
  omega

theorem leadsToRow_rowOfLink? (link : String) : state.LeadsToRow (state.rowOfLink? link) :=
  fun _ h => lt_of_rowOfLink? h

end State

end DocSite.Browser

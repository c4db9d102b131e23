import DocSite.Browser.Page

/-! # The row of a link

A link leads to the first row with this very link or, if there is none, to the first row on its page
(`rowOfLink?_eq_some_iff`). It leads nowhere exactly if no row is on its page
(`rowOfLink?_eq_none_iff`). -/

namespace DocSite.Browser

open DocSite.Nav

/-- Whether `k` is the position of the first row with a property. -/
structure IsFirstRow (rows : List Row) (p : Row → Prop) (k : Nat) : Prop where
  /-- The row at this position has the property. -/
  holds : ∃ row, rows[k]? = some row ∧ p row
  /-- No row in front of it has the property. -/
  first : ∀ row ∈ rows.take k, ¬p row

/-- Whether a link leads to the row at position `k`: the first one with this very link or, if there
is none, the first one on its page. -/
def IsRowOfLink (rows : List Row) (link : String) (k : Nat) : Prop :=
  IsFirstRow rows (·.link = link) k ∨
    (∀ row ∈ rows, row.link ≠ link) ∧ IsFirstRow rows (pageOf ·.link = pageOf link) k

variable {rows : List Row} {link : String}

/-- The first row with a property is the one that is looked up. -/
theorem findIdx?_eq_some_iff_isFirstRow {p : Row → Bool} {k : Nat} :
    rows.findIdx? p = some k ↔ IsFirstRow rows (p · = true) k := by
  rw [List.findIdx?_eq_some_iff_getElem]
  constructor
  · rintro ⟨hlt, hrow, hfirst⟩
    refine ⟨⟨rows[k], List.getElem?_eq_getElem hlt, hrow⟩, fun row hmem => ?_⟩
    obtain ⟨j, hj, rfl⟩ := List.mem_take_iff_getElem.1 hmem
    exact hfirst j (by omega)
  · rintro ⟨⟨row, hat, hrow⟩, hfirst⟩
    obtain ⟨hlt, rfl⟩ := List.getElem?_eq_some_iff.1 hat
    refine ⟨hlt, hrow, fun j hj => hfirst _ (List.mem_take_iff_getElem.2 ⟨j, ?_, rfl⟩)⟩
    omega

/-- **A link leads to the first row with this very link or, if there is none, to the first one on
its page.** -/
theorem rowOfLink?_eq_some_iff {k : Nat} :
    rowOfLink? rows link = some k ↔ IsRowOfLink rows link k := by
  have hexact (j : Nat) : rows.findIdx? (·.link == link) = some j ↔
      IsFirstRow rows (·.link = link) j := by
    simp only [findIdx?_eq_some_iff_isFirstRow, beq_iff_eq]
  have hpage (j : Nat) : rows.findIdx? (pageOf ·.link == pageOf link) = some j ↔
      IsFirstRow rows (pageOf ·.link = pageOf link) j := by
    simp only [findIdx?_eq_some_iff_isFirstRow, beq_iff_eq]
  rw [rowOfLink?, IsRowOfLink]
  cases hfound : rows.findIdx? (·.link == link) with
  | some j =>
      rw [← hexact, hfound]
      -- Some row has the link, so the second case does not come up.
      obtain ⟨⟨row, hat, hrow⟩, -⟩ := (hexact j).1 hfound
      have hsome : ¬∀ row ∈ rows, row.link ≠ link :=
        fun h => h row (List.mem_of_getElem? hat) hrow
      simp only [hsome, false_and, or_false]
  | none =>
      have hnone : ∀ row ∈ rows, row.link ≠ link := by
        simpa using List.findIdx?_eq_none_iff.1 hfound
      rw [← hexact, hfound]
      simp only [reduceCtorEq, false_or, hpage]
      exact ⟨fun h => ⟨hnone, h⟩, And.right⟩

/-- **A link leads nowhere exactly if no row is on its page.** -/
theorem rowOfLink?_eq_none_iff :
    rowOfLink? rows link = none ↔ ∀ row ∈ rows, pageOf row.link ≠ pageOf link := by
  rw [rowOfLink?]
  cases hfound : rows.findIdx? (·.link == link) with
  | some j =>
      obtain ⟨⟨row, hat, hrow⟩, -⟩ := findIdx?_eq_some_iff_isFirstRow.1 hfound
      rw [beq_iff_eq] at hrow
      -- A row with the link is on its page.
      simp only [reduceCtorEq, false_iff]
      exact fun h => h row (List.mem_of_getElem? hat) (congrArg pageOf hrow)
  | none => simp [List.findIdx?_eq_none_iff]

/-- A link that some row has leads to a row with this very link. -/
theorem exists_rowOfLink?_of_mem {row : Row} (h : row ∈ rows) (hlink : row.link = link) :
    ∃ k, rowOfLink? rows link = some k ∧ (rows[k]?).map Row.link = some link := by
  cases hfound : rowOfLink? rows link with
  | none => exact absurd (congrArg pageOf hlink) (rowOfLink?_eq_none_iff.1 hfound row h)
  | some k =>
      refine ⟨k, rfl, ?_⟩
      rcases rowOfLink?_eq_some_iff.1 hfound with ⟨⟨found, hat, hlink⟩, -⟩ | ⟨hnone, -⟩
      · rw [hat, Option.map_some, hlink]
      · exact absurd hlink (hnone row h)

/-- The link of the current row. -/
def State.currentLink (state : State) : Option String :=
  state.currentRow.map Row.link

end DocSite.Browser

import DocSite.Nav.PageIndex

/-! # Pages in order

No page is named twice, so a page stands at one place only (`position?_eq_some_iff`). Its neighbours
are the pages right in front of it and right behind it (`next_eq_some_iff`, `prev_eq_some_iff`), of
which there is at most one each (`Precedes.left_unique`, `Precedes.right_unique`). -/

namespace DocSite.Nav.PageIndex

variable {index : PageIndex} {page other : String}

/-- A page stands where it is listed. -/
theorem position?_eq_some_iff {i : Nat} :
    index.position? page = some i ↔ index.pages[i]? = some page := by
  rw [position?, List.idxOf?_eq_some_iff]
  constructor
  · rintro ⟨hlt, hpage, -⟩
    rw [List.getElem?_eq_getElem hlt, hpage]
  · intro h
    obtain ⟨hlt, hpage⟩ := List.getElem?_eq_some_iff.1 h
    refine ⟨hlt, hpage, fun j hj hsame => ?_⟩
    -- A second place of the page would be a repetition.
    have heq : j = i := (List.getElem_inj index.nodup).1 (hsame.trans hpage.symm)
    omega

/-- No two pages stand at the same place. -/
theorem position?_inj {i : Nat} (hpage : index.position? page = some i)
    (hother : index.position? other = some i) : page = other := by
  rw [position?_eq_some_iff] at hpage hother
  exact Option.some.inj (hpage.symm.trans hother)

/-- Whether a page stands right in front of another one. -/
def Precedes (index : PageIndex) (page other : String) : Prop :=
  ∃ i, index.position? page = some i ∧ index.position? other = some (i + 1)

/-- Only one page stands right behind another one. -/
theorem Precedes.right_unique {third : String} (h : index.Precedes page other)
    (h' : index.Precedes page third) : other = third := by
  obtain ⟨i, hpage, hother⟩ := h
  obtain ⟨j, hpage', hthird⟩ := h'
  obtain rfl : i = j := Option.some.inj (hpage.symm.trans hpage')
  exact position?_inj hother hthird

/-- Only one page stands right in front of another one. -/
theorem Precedes.left_unique {third : String} (h : index.Precedes page other)
    (h' : index.Precedes third other) : page = third := by
  obtain ⟨i, hpage, hother⟩ := h
  obtain ⟨j, hthird, hother'⟩ := h'
  obtain rfl : i = j := Nat.succ.inj (Option.some.inj (hother.symm.trans hother'))
  exact position?_inj hpage hthird

/-- **The next page is the one that the page stands right in front of.** -/
theorem next_eq_some_iff :
    (index.neighbours page).next = some other ↔ index.Precedes page other := by
  rw [neighbours, Precedes]
  cases hpage : index.position? page with
  | none => simp
  | some i => cases i <;> simp [position?_eq_some_iff]

/-- **The previous page is the one that stands right in front of the page.** -/
theorem prev_eq_some_iff :
    (index.neighbours other).prev = some page ↔ index.Precedes page other := by
  rw [neighbours, Precedes]
  cases hother : index.position? other with
  | none => simp
  | some j => cases j <;> simp [position?_eq_some_iff]

end DocSite.Nav.PageIndex

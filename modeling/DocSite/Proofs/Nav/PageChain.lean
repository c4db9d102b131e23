import DocSite.Proofs.Nav.PageOrder
import DocSite.Proofs.Nav.Validation
import Mathlib.Data.List.Nodup

/-! # Pages as a chain

A list of pages can be an order if none of its names is empty and none is repeated (`IsListable`). If
it cannot, the first page that cannot stand at its position is the fault (`FaultAt`): everything in
front of it could be listed, so a repeated name has been given once before, and the message says
where.

The neighbours of an order make its pages a chain in both directions (`IsChained`): next and
previous page are the same relation, told by the list alone, and only the ends of the chain lack a
neighbour. The main statement is `ofList_chains`. -/

namespace DocSite.Nav.PageIndex

open DocSite.Text

/-! ## Faults -/

/-- Whether pages can be an order. -/
def IsListable (pages : List String) : Prop :=
  pages.Nodup ∧ ∀ page ∈ pages, page ≠ ""

/-- Whether the page at a position cannot stand there: its name is empty, or an earlier page has
it. -/
def IsMisplaced (pages : List String) (i : Nat) : Prop :=
  ∃ page, pages[i]? = some page ∧ (page = "" ∨ page ∈ pages.take i)

/-- What is said of a page that cannot stand at its position. -/
inductive FaultAt (pages : List String) (i : Nat) : Error → Prop where
  /-- Its name is empty. -/
  | empty (h : pages[i]? = some "") :
      FaultAt pages i (.malformedNavigation (location i) "page identifier is empty")
  /-- Its name is that of an earlier page, and of one only. -/
  | repeated {page : String} {first : Nat} (hpage : pages[i]? = some page) (hfirst : first < i)
      (hsame : pages[first]? = some page) (honly : ∀ j < i, pages[j]? = some page → j = first) :
      FaultAt pages i (.malformedNavigation (location i)
        ("page identifier " ++ display page ++ " already listed at " ++ decimal first))

/-- No page in front of a position is misplaced if the pages up to there can be an order. -/
theorem IsListable.not_isMisplaced {pages : List String} {i j : Nat} (h : IsListable (pages.take i))
    (hj : j < i) : ¬IsMisplaced pages j := by
  rintro ⟨page, hpage, hmis⟩
  have hat : (pages.take i)[j]? = some page := by rw [List.getElem?_take_of_lt hj, hpage]
  rcases hmis with hempty | hmem
  · exact h.2 page (List.mem_of_getElem? hat) hempty
  · -- The earlier page of that name would be a repetition.
    obtain ⟨k, hk, hsame⟩ := List.mem_take_iff_getElem.1 hmem
    obtain ⟨hkj, hlen⟩ := Nat.lt_min.1 hk
    have hearlier : (pages.take i)[k]? = some page := by
      rw [List.getElem?_take_of_lt (Nat.lt_trans hkj hj), List.getElem?_eq_getElem hlen, hsame]
    have hlt : k < (pages.take i).length := (List.getElem?_eq_some_iff.1 hearlier).1
    exact Nat.ne_of_lt hkj ((List.getElem?_inj hlt h.1).1 (hearlier.trans hat.symm))

/-- **Behind pages without fault, a fault is that of the first misplaced page:** everything in front
of it can be an order. -/
theorem exists_of_fault?_eq_some {before pages : List String} {e : Error}
    (hbefore : IsListable before) (h : fault? before pages = some e) :
    ∃ i, FaultAt (before ++ pages) i e ∧ IsListable ((before ++ pages).take i) := by
  induction pages generalizing before with
  | nil => cases h
  | cons page rest ih =>
      have hat : (before ++ page :: rest)[before.length]? = some page := by simp
      have hfront : (before ++ page :: rest).take before.length = before := List.take_left
      rw [fault?] at h
      split at h
      next hempty =>
        cases h
        exact ⟨before.length, .empty (by rw [hat, hempty]), by rwa [hfront]⟩
      next hne =>
        split at h
        next first hfirst =>
          cases h
          obtain ⟨hlt, hpage, -⟩ := List.idxOf?_eq_some_iff.1 hfirst
          have hfound {j : Nat} (hj : j < before.length) :
              (before ++ page :: rest)[j]? = before[j]? := List.getElem?_append_left hj
          refine ⟨before.length, .repeated hat hlt ?_ fun j hj hsame => ?_, by rwa [hfront]⟩
          · rw [hfound hlt, List.getElem?_eq_getElem hlt, hpage]
          · rw [hfound hj] at hsame
            refine (List.getElem?_inj hj hbefore.1).1 ?_
            rw [hsame, List.getElem?_eq_getElem hlt, hpage]
        next hnew =>
          have hlisted : IsListable (before ++ [page]) := by
            refine ⟨?_, fun other hother => ?_⟩
            · rw [← List.concat_eq_append, List.nodup_concat]
              exact ⟨by rwa [List.idxOf?_eq_none_iff] at hnew, hbefore.1⟩
            · rcases List.mem_append.1 hother with hmem | hmem
              · exact hbefore.2 other hmem
              · rwa [List.mem_singleton.1 hmem]
          obtain ⟨i, hfault, hlist⟩ := ih hlisted h
          rw [List.append_assoc, List.singleton_append] at hfault hlist
          exact ⟨i, hfault, hlist⟩

/-- Positions are told from their names. -/
theorem location_inj {i j : Nat} (h : location i = location j) : i = j := by
  have hchars := congrArg String.toList h
  simp only [location, decimal, String.toList_append, List.append_assoc] at hchars
  have hbracketed : bracketed i ++ [] = bracketed j ++ [] := by
    simpa [bracketed] using List.append_cancel_left hchars
  exact (bracketed_append_inj hbracketed).1

/-- Pages can be an order exactly if they make one. -/
theorem exists_ofList_iff {pages : List String} :
    (∃ index, ofList pages = .ok index) ↔ IsListable pages := by
  constructor
  · rintro ⟨index, h⟩
    rw [← pages_of_ofList h]
    exact ⟨index.nodup, index.nonempty⟩
  · exact fun h => ⟨_, ofList_pages ⟨pages, h.1, h.2⟩⟩

/-- Pages that make no order have a first page that is misplaced, and the error is about it. -/
theorem exists_of_ofList_eq_error {pages : List String} {e : Error} (h : ofList pages = .error e) :
    ∃ i, FaultAt pages i e ∧ ∀ j < i, ¬IsMisplaced pages j := by
  rw [ofList] at h
  split at h
  next e' hfault =>
    cases h
    obtain ⟨i, hat, hlist⟩ :=
      exists_of_fault?_eq_some ⟨List.nodup_nil, List.forall_mem_nil _⟩ hfault
    exact ⟨i, hat, fun j hj => hlist.not_isMisplaced hj⟩
  next => cases h

/-! ## The chain -/

/-- Whether the look-ups of an order make its pages a chain. -/
structure IsChained (index : PageIndex) : Prop where
  /-- A page stands where it is listed. -/
  position : ∀ page i, index.position? page = some i ↔ index.pages[i]? = some page
  /-- The next page is the one listed right behind. -/
  next : ∀ page other, (index.neighbours page).next = some other ↔ [page, other] <:+: index.pages
  /-- The previous page leads back. -/
  prev : ∀ page other, (index.neighbours other).prev = some page ↔
    (index.neighbours page).next = some other
  /-- Only the first page has none in front of it; nor have unknown texts. -/
  first : ∀ page, (index.neighbours page).prev = none ↔
    page ∉ index.pages ∨ index.pages.head? = some page
  /-- Only the last page has none behind it; nor have unknown texts. -/
  last : ∀ page, (index.neighbours page).next = none ↔
    page ∉ index.pages ∨ index.pages.getLast? = some page

variable {index : PageIndex} {page other : String}

/-- A page stands right in front of another one exactly if the two are listed in a row. -/
theorem precedes_iff_isInfix : index.Precedes page other ↔ [page, other] <:+: index.pages := by
  rw [Precedes]
  simp only [position?_eq_some_iff]
  constructor
  · rintro ⟨i, hpage, hother⟩
    obtain ⟨hlt, hpage⟩ := List.getElem?_eq_some_iff.1 hpage
    obtain ⟨hlt', hother⟩ := List.getElem?_eq_some_iff.1 hother
    refine ⟨index.pages.take i, index.pages.drop (i + 2), ?_⟩
    rw [List.append_assoc, List.cons_append, List.singleton_append, ← hother,
      ← List.drop_eq_getElem_cons hlt', ← hpage, ← List.drop_eq_getElem_cons hlt,
      List.take_append_drop]
  · rintro ⟨front, behind, h⟩
    refine ⟨front.length, ?_, ?_⟩
    · simp [← h]
    · simp [← h]

/-- A page is known exactly if it has a position. -/
theorem position?_eq_none_iff : index.position? page = none ↔ page ∉ index.pages := by
  rw [position?, List.idxOf?_eq_none_iff]

/-- Only the first page and unknown texts have no previous page. -/
theorem prev_eq_none_iff : (index.neighbours page).prev = none ↔
    page ∉ index.pages ∨ index.pages.head? = some page := by
  rw [← position?_eq_none_iff, List.head?_eq_getElem?, ← position?_eq_some_iff, neighbours]
  cases hpage : index.position? page with
  | none => simp
  | some i =>
      cases i with
      | zero => simp
      | succ i =>
          have hlt := (List.getElem?_eq_some_iff.1 (position?_eq_some_iff.1 hpage)).1
          simp only [reduceCtorEq, false_or, Option.some.injEq, Nat.add_one_ne_zero, iff_false,
            List.getElem?_eq_none_iff]
          omega

/-- Only the last page and unknown texts have no next page. -/
theorem next_eq_none_iff : (index.neighbours page).next = none ↔
    page ∉ index.pages ∨ index.pages.getLast? = some page := by
  rw [← position?_eq_none_iff, List.getLast?_eq_getElem?, ← position?_eq_some_iff]
  cases hpage : index.position? page with
  | none => simp [neighbours, hpage]
  | some i =>
      have hlt := (List.getElem?_eq_some_iff.1 (position?_eq_some_iff.1 hpage)).1
      have hnext : (index.neighbours page).next = index.pages[i + 1]? := by
        rw [neighbours, hpage]
        cases i <;> rfl
      rw [hnext, List.getElem?_eq_none_iff]
      simp only [reduceCtorEq, false_or, Option.some.injEq]
      omega

/-- The pages of an order are a chain. -/
theorem isChained (index : PageIndex) : index.IsChained where
  position := fun _ _ => position?_eq_some_iff
  next := fun _ _ => next_eq_some_iff.trans precedes_iff_isInfix
  prev := fun _ _ => prev_eq_some_iff.trans next_eq_some_iff.symm
  first := fun _ => prev_eq_none_iff
  last := fun _ => next_eq_none_iff

/-- **Pages make an order exactly if none is empty and none is repeated, and the order is a chain.**
Of pages that make none, the first one is named that is empty or repeated, and of a repeated one its
only earlier position. -/
theorem ofList_chains (pages : List String) :
    ((∃ index, ofList pages = .ok index) ↔ pages.Nodup ∧ ∀ page ∈ pages, page ≠ "") ∧
      (∀ index, ofList pages = .ok index → index.pages = pages ∧ index.IsChained) ∧
      ∀ e, ofList pages = .error e → ∃ i,
        FaultAt pages i e ∧ (∀ j < i, ¬IsMisplaced pages j) ∧
          ∀ other, location other = location i → other = i := by
  refine ⟨exists_ofList_iff, fun index h => ⟨pages_of_ofList h, index.isChained⟩, fun e h => ?_⟩
  obtain ⟨i, hfault, hfront⟩ := exists_of_ofList_eq_error h
  exact ⟨i, hfault, hfront, fun other => location_inj⟩

end DocSite.Nav.PageIndex

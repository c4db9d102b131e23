import DocSite.Proofs.Browser.LinkRow
import DocSite.Proofs.Nav.PageOrder

/-! # Moves between pages

A move to the next page and one to the previous page undo each other, as long as the row that is
reached links to the page itself. A page may have no row of its own; then the move leads to the
first row that links into the page, and from there the order of pages does not lead back, and moves
may go round in a circle (`moves_not_undone_partedPage`). The main statement is `page_moves_undo`:
the order leads back exactly from a row of the page itself, from there the move back works, and moves
that all reach such rows go through the order of pages one by one. -/

namespace DocSite.Browser.State

open DocSite.Nav

/-- Where the link of the current row stands in the order of pages. -/
def pagePosition (state : State) : Option Nat :=
  match state.tree, state.currentLink with
  | some tree, some link => tree.index.position? link
  | _, _ => none

/-- The state after moves to the next page. -/
def afterNextPages (state : State) : Nat → State
  | 0 => state
  | n + 1 => (state.afterNextPages n).goToNextPage.1

/-- Whether a move to the next page works and reaches a row that links to this page itself. -/
structure HitsNextPage (state : State) : Prop where
  /-- The move works. -/
  moves : state.goToNextPage.2 = true
  /-- The row that is reached has the page as its link. -/
  link_eq : state.goToNextPage.1.currentLink = state.pageNeighbours.next

variable {state moved : State} {tree : Tree}

/-! ## One move -/

/-- The neighbours of a row in a tree are those of its link. -/
theorem pageNeighbours_eq {link : String} (htree : state.tree = some tree)
    (hlink : state.currentLink = some link) :
    state.pageNeighbours = tree.index.neighbours link := by
  obtain ⟨row, hrow, rfl⟩ := Option.map_eq_some_iff.1 hlink
  rw [pageNeighbours, htree, hrow]
  rfl

/-- The page behind the current row is the one that the row's link stands right in front of. -/
theorem exists_precedes_of_next {page : String} (h : state.pageNeighbours.next = some page) :
    ∃ tree link, state.tree = some tree ∧ state.currentLink = some link ∧
      tree.index.Precedes link page := by
  rw [pageNeighbours.eq_def] at h
  split at h
  next tree row htree hrow =>
    exact ⟨tree, row.link, htree, congrArg (Option.map Row.link) hrow, PageIndex.next_eq_some_iff.1 h⟩
  next => cases h

/-- The page in front of the current row is the one that stands right in front of the row's link. -/
theorem exists_precedes_of_prev {page : String} (h : state.pageNeighbours.prev = some page) :
    ∃ tree link, state.tree = some tree ∧ state.currentLink = some link ∧
      tree.index.Precedes page link := by
  rw [pageNeighbours.eq_def] at h
  split at h
  next tree row htree hrow =>
    exact ⟨tree, row.link, htree, congrArg (Option.map Row.link) hrow, PageIndex.prev_eq_some_iff.1 h⟩
  next => cases h

section

variable (target : Option String) (missing : String)

/-- A move between pages keeps the rows. -/
@[simp] theorem rows_goToPage : (state.goToPage target missing).1.rows = state.rows := by
  rw [goToPage.eq_def]
  cases target with
  | none => rfl
  | some page => cases h : state.rowOfLink? page <;> simp only [h]

/-- A move between pages keeps the tree. -/
@[simp] theorem tree_goToPage : (state.goToPage target missing).1.tree = state.tree := by
  rw [goToPage.eq_def]
  cases target with
  | none => rfl
  | some page => cases h : state.rowOfLink? page <;> simp only [h]

/-- A move that works has a page to go to. -/
theorem exists_page_of_goToPage (h : (state.goToPage target missing).2 = true) :
    ∃ page, target = some page := by
  cases target with
  | none => cases h
  | some page => exact ⟨page, rfl⟩

/-- **A move to a link that some row has works and reaches a row with this very link.** -/
theorem goToPage_of_mem {link : String} {row : Row} (hrow : row ∈ state.rows)
    (hlink : row.link = link) :
    (state.goToPage (some link) missing).2 = true ∧
      (state.goToPage (some link) missing).1.currentLink = some link := by
  obtain ⟨k, hk, hat⟩ := exists_rowOfLink?_of_mem hrow hlink
  simp only [goToPage, rowOfLink?, hk]
  exact ⟨trivial, hat⟩

/-- From wherever the rows are the same, a move back to the link of the current row works. -/
theorem goToPage_back {link : String} (hrows : moved.rows = state.rows)
    (hlink : state.currentLink = some link) :
    (moved.goToPage (some link) missing).2 = true ∧
      (moved.goToPage (some link) missing).1.currentLink = some link := by
  obtain ⟨row, hrow, hrowLink⟩ := Option.map_eq_some_iff.1 hlink
  have hmem : row ∈ moved.rows := by
    rw [hrows]
    exact List.mem_of_getElem? hrow
  exact goToPage_of_mem missing hmem hrowLink

end

/-! ## There and back -/

/-- Behind a move to the next page the order leads back exactly from a row of this page itself. -/
theorem prev_eq_iff_of_goToNextPage (h : state.goToNextPage.2 = true) :
    state.goToNextPage.1.pageNeighbours.prev = state.currentLink ↔
      state.goToNextPage.1.currentLink = state.pageNeighbours.next := by
  obtain ⟨page, hpage⟩ := exists_page_of_goToPage _ _ h
  obtain ⟨tree, link, htree, hlink, hprecedes⟩ := exists_precedes_of_next hpage
  have htree' : state.goToNextPage.1.tree = some tree := (tree_goToPage _ _).trans htree
  rw [hpage, hlink]
  constructor
  · intro hback
    obtain ⟨other, reached, hother, hreached, hbehind⟩ := exists_precedes_of_prev hback
    obtain rfl : tree = other := Option.some.inj (htree'.symm.trans hother)
    rw [hreached, hprecedes.right_unique hbehind]
  · intro hreached
    rw [pageNeighbours_eq htree' hreached]
    exact PageIndex.prev_eq_some_iff.2 hprecedes

/-- Behind a move to the previous page the order leads back exactly from a row of this page
itself. -/
theorem next_eq_iff_of_goToPrevPage (h : state.goToPrevPage.2 = true) :
    state.goToPrevPage.1.pageNeighbours.next = state.currentLink ↔
      state.goToPrevPage.1.currentLink = state.pageNeighbours.prev := by
  obtain ⟨page, hpage⟩ := exists_page_of_goToPage _ _ h
  obtain ⟨tree, link, htree, hlink, hprecedes⟩ := exists_precedes_of_prev hpage
  have htree' : state.goToPrevPage.1.tree = some tree := (tree_goToPage _ _).trans htree
  rw [hpage, hlink]
  constructor
  · intro hback
    obtain ⟨other, reached, hother, hreached, hbehind⟩ := exists_precedes_of_next hback
    obtain rfl : tree = other := Option.some.inj (htree'.symm.trans hother)
    rw [hreached, hprecedes.left_unique hbehind]
  · intro hreached
    rw [pageNeighbours_eq htree' hreached]
    exact PageIndex.next_eq_some_iff.2 hprecedes

/-- A move back to the next page works where the order leads back. -/
theorem goToNextPage_back (hrows : moved.rows = state.rows) {link : String}
    (hlink : state.currentLink = some link) (hback : moved.pageNeighbours.next = state.currentLink) :
    moved.goToNextPage.2 = true ∧ moved.goToNextPage.1.currentLink = state.currentLink := by
  rw [goToNextPage, hback, hlink]
  exact goToPage_back _ hrows hlink

/-- A move back to the previous page works where the order leads back. -/
theorem goToPrevPage_back (hrows : moved.rows = state.rows) {link : String}
    (hlink : state.currentLink = some link) (hback : moved.pageNeighbours.prev = state.currentLink) :
    moved.goToPrevPage.2 = true ∧ moved.goToPrevPage.1.currentLink = state.currentLink := by
  rw [goToPrevPage, hback, hlink]
  exact goToPage_back _ hrows hlink

/-! ## One page after another -/

/-- The current row's place in the order is that of its link. -/
theorem pagePosition_eq {link : String} (htree : state.tree = some tree)
    (hlink : state.currentLink = some link) :
    state.pagePosition = tree.index.position? link := by
  rw [pagePosition, htree, hlink]

/-- A move that reaches a row of the next page itself goes on by one place. -/
theorem HitsNextPage.exists_pagePosition (h : state.HitsNextPage) :
    ∃ i, state.pagePosition = some i ∧ state.goToNextPage.1.pagePosition = some (i + 1) := by
  obtain ⟨page, hpage⟩ := exists_page_of_goToPage _ _ h.moves
  obtain ⟨tree, link, htree, hlink, i, hi, hnext⟩ := exists_precedes_of_next hpage
  have htree' : state.goToNextPage.1.tree = some tree := (tree_goToPage _ _).trans htree
  refine ⟨i, (pagePosition_eq htree hlink).trans hi, ?_⟩
  rw [pagePosition_eq htree' (h.link_eq.trans hpage), hnext]

/-- Moves that all reach rows of the next pages themselves go on by one place each. -/
theorem pagePosition_afterNextPages {n i : Nat} (h : ∀ k < n, (state.afterNextPages k).HitsNextPage)
    (hi : state.pagePosition = some i) : (state.afterNextPages n).pagePosition = some (i + n) := by
  induction n with
  | zero => exact hi
  | succ n ih =>
      have hbefore := ih fun k hk => h k (Nat.lt_succ_of_lt hk)
      obtain ⟨j, hj, hnext⟩ := (h n n.lt_succ_self).exists_pagePosition
      obtain rfl : i + n = j := Option.some.inj (hbefore.symm.trans hj)
      exact hnext

/-- Moves to the next page keep the rows and the tree. -/
theorem afterNextPages_keeps (n : Nat) :
    (state.afterNextPages n).rows = state.rows ∧ (state.afterNextPages n).tree = state.tree := by
  induction n with
  | zero => exact ⟨rfl, rfl⟩
  | succ n ih => exact ⟨(rows_goToPage _ _).trans ih.1, (tree_goToPage _ _).trans ih.2⟩

/-- Of states with the same rows and tree, those on the same row are at the same place. -/
theorem pagePosition_congr (hrows : moved.rows = state.rows) (htree : moved.tree = state.tree)
    (hrow : moved.row = state.row) : moved.pagePosition = state.pagePosition := by
  rw [pagePosition, pagePosition, currentLink, currentLink, currentRow, currentRow, hrows, htree,
    hrow]

/-- **The order of pages leads back from a move exactly if the row that it reaches is one of the page
itself.** From there the move back works and selects a row of the link that was left, and moves that
all reach such rows go through the order one by one, so that they come to no row twice. -/
theorem page_moves_undo (state : State) :
    (state.goToNextPage.2 = true →
      (state.goToNextPage.1.pageNeighbours.prev = state.currentLink ↔
        state.goToNextPage.1.currentLink = state.pageNeighbours.next) ∧
      (state.goToNextPage.1.currentLink = state.pageNeighbours.next →
        state.goToNextPage.1.goToPrevPage.2 = true ∧
          state.goToNextPage.1.goToPrevPage.1.currentLink = state.currentLink)) ∧
    (state.goToPrevPage.2 = true →
      (state.goToPrevPage.1.pageNeighbours.next = state.currentLink ↔
        state.goToPrevPage.1.currentLink = state.pageNeighbours.prev) ∧
      (state.goToPrevPage.1.currentLink = state.pageNeighbours.prev →
        state.goToPrevPage.1.goToNextPage.2 = true ∧
          state.goToPrevPage.1.goToNextPage.1.currentLink = state.currentLink)) ∧
    ∀ n, (∀ k ≤ n, (state.afterNextPages k).HitsNextPage) →
      (∃ i, ∀ k ≤ n + 1, (state.afterNextPages k).pagePosition = some (i + k)) ∧
        ∀ j k, j < k → k ≤ n + 1 → (state.afterNextPages j).row ≠ (state.afterNextPages k).row := by
  refine ⟨fun h => ?_, fun h => ?_, fun n h => ?_⟩
  · have hback := prev_eq_iff_of_goToNextPage h
    obtain ⟨page, hpage⟩ := exists_page_of_goToPage _ _ h
    obtain ⟨tree, link, -, hlink, -⟩ := exists_precedes_of_next hpage
    exact ⟨hback, fun hreached =>
      goToPrevPage_back (rows_goToPage _ _) hlink (hback.2 hreached)⟩
  · have hback := next_eq_iff_of_goToPrevPage h
    obtain ⟨page, hpage⟩ := exists_page_of_goToPage _ _ h
    obtain ⟨tree, link, -, hlink, -⟩ := exists_precedes_of_prev hpage
    exact ⟨hback, fun hreached =>
      goToNextPage_back (rows_goToPage _ _) hlink (hback.2 hreached)⟩
  · obtain ⟨i, hi, -⟩ := (h 0 n.zero_le).exists_pagePosition
    have hposition (k : Nat) (hk : k ≤ n + 1) :
        (state.afterNextPages k).pagePosition = some (i + k) :=
      pagePosition_afterNextPages (fun m hm => h m (by omega)) hi
    refine ⟨⟨i, hposition⟩, fun j k hjk hk hrow => ?_⟩
    -- Rows, tree and row would agree, so the places would.
    have hsame : (state.afterNextPages j).pagePosition = (state.afterNextPages k).pagePosition := by
      obtain ⟨hrows, htree⟩ := state.afterNextPages_keeps j
      obtain ⟨hrows', htree'⟩ := state.afterNextPages_keeps k
      exact pagePosition_congr (hrows.trans hrows'.symm) (htree.trans htree'.symm) hrow
    rw [hposition j (by omega), hposition k hk] at hsame
    have hplace : i + j = i + k := Option.some.inj hsame
    omega

/-- The browser on a site of three pages, each with a row of its own. -/
def threePages : State :=
  .ofNavigation (.tree (.ofParts
    [.branch "Guide" "guide.html" [.leaf "Start" "start.html", .leaf "Usage" "usage.html"]]
    ⟨["guide.html", "start.html", "usage.html"], by decide, by decide⟩))

/-- The browser goes to the last of the pages by two moves, each of which can be undone. -/
theorem page_moves_undo_threePages :
    threePages.goToNextPage.1.goToPrevPage.1.currentLink = some "guide.html" ∧
      (threePages.afterNextPages 2).goToPrevPage.1.goToNextPage.1.currentLink = some "usage.html" ∧
        (threePages.afterNextPages 2).pagePosition = some 2 := by
  have hfirst : threePages.HitsNextPage := by
    constructor <;> decide +kernel
  have hsecond : (threePages.afterNextPages 1).HitsNextPage := by
    constructor <;> decide +kernel
  obtain ⟨hnext, -, hrun⟩ := page_moves_undo threePages
  obtain ⟨-, hprev, -⟩ := page_moves_undo (threePages.afterNextPages 2)
  have hback : (threePages.afterNextPages 2).goToPrevPage.2 = true := by decide +kernel
  have hreached : (threePages.afterNextPages 2).goToPrevPage.1.currentLink
      = (threePages.afterNextPages 2).pageNeighbours.prev := by decide +kernel
  have hstart : threePages.currentLink = some "guide.html" := by decide +kernel
  have hlast : (threePages.afterNextPages 2).currentLink = some "usage.html" := by decide +kernel
  have hplace : threePages.pagePosition = some 0 := by decide +kernel
  obtain ⟨⟨i, hi⟩, -⟩ := hrun 1 fun k hk => by
    obtain rfl | rfl : k = 0 ∨ k = 1 := by omega
    · exact hfirst
    · exact hsecond
  obtain rfl : i = 0 := by
    have h0 := (hi 0 (by omega)).symm.trans hplace
    exact Option.some.inj h0
  refine ⟨?_, ?_, hi 2 (by omega)⟩
  · rw [((hnext hfirst.moves).2 hfirst.link_eq).2, hstart]
  · rw [((hprev hback).2 hreached).2, hlast]

/-- The browser on a site whose last page has no row of its own, while the first one is a part of the
same page. -/
def partedPage : State :=
  .ofNavigation (.tree (.ofParts
    [.leaf "Options" "usage.html#options", .leaf "Guide" "guide.html"]
    ⟨["usage.html#options", "guide.html", "usage.html#files"], by decide, by decide⟩))

/-- There two moves to the next page work and lead back to the first row, so the second one cannot be
undone. -/
theorem moves_not_undone_partedPage :
    ¬((partedPage.afterNextPages 1).goToNextPage.2 = true →
        (partedPage.afterNextPages 2).goToPrevPage.2 = true ∧
          (partedPage.afterNextPages 2).goToPrevPage.1.currentLink
            = (partedPage.afterNextPages 1).currentLink) ∧
      partedPage.goToNextPage.2 = true ∧ (partedPage.afterNextPages 1).goToNextPage.2 = true ∧
        (partedPage.afterNextPages 2).row = partedPage.row := by
  have hfirst : partedPage.goToNextPage.2 = true := by decide +kernel
  have hsecond : (partedPage.afterNextPages 1).goToNextPage.2 = true := by decide +kernel
  have hstuck : (partedPage.afterNextPages 2).goToPrevPage.2 = false := by decide +kernel
  have hcycle : (partedPage.afterNextPages 2).row = partedPage.row := by decide +kernel
  refine ⟨fun h => ?_, hfirst, hsecond, hcycle⟩
  rw [hstuck] at h
  exact Bool.false_ne_true (h hsecond).1

end DocSite.Browser.State

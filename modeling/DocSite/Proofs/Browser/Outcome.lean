import DocSite.Proofs.Browser.Invariant
import DocSite.Proofs.Browser.LinkRow
import Mathlib.Data.List.Induction

/-! # How sessions end

A session chooses a link only by the key that confirms: the link of the current row while the rows
are shown, that of the current hit while the hits are (`State.Chooses`, `chooses_of_press`). A hit
on the page of a row is not chosen but leads back to the rows (`State.OpensRow`,
`openResult_of_opensRow`). No other key at the prompt or among the hits touches the current row
(`row_press`). The main statement is `outcome_of_keys`, on every row of keys. -/

namespace DocSite.Browser

open DocSite.Nav
open DocSite.Search

namespace State

/-- Whether the key that confirms chooses a link. -/
inductive Chooses (state : State) (link : String) : Prop where
  /-- While the rows are shown, it chooses the link of the current row. -/
  | ofRow (hview : state.view = .tree) (hlink : state.currentLink = some link)
  /-- While the hits are shown, it chooses the link of the current hit, if no row is on its page. -/
  | ofHit (hview : state.view = .results) (hlink : state.currentResult.map Hit.link = some link)
      (hrows : ∀ row ∈ state.rows, pageOf row.link ≠ pageOf link)

/-- Whether hits are shown and the current one is on the page of a row. -/
structure OpensRow (state : State) : Prop where
  /-- The hits are shown. -/
  view : state.view = .results
  /-- A row is on the page of the current one. -/
  exists_row : ∃ hit, state.currentResult = some hit ∧
    ∃ row ∈ state.rows, pageOf row.link = pageOf hit.link

variable {state : State}

/-! ## What a key does to the choice and to the current row -/

/-- Moves choose nothing. -/
@[simp] theorem chosen_moveTo (target : Option Nat) :
    (state.moveTo target).chosen = state.chosen := by
  cases target <;> rfl

/-- Moves between pages choose nothing. -/
@[simp] theorem chosen_goToPage (target : Option String) (missing : String) :
    (state.goToPage target missing).1.chosen = state.chosen := by
  rw [goToPage.eq_def]
  cases target with
  | none => rfl
  | some page => cases h : state.rowOfLink? page <;> simp only [h]

/-- While the rows are shown, only the key that confirms chooses something. -/
theorem chosen_pressInTree {key : Key} (h : key ≠ .enter) :
    (state.pressInTree key).chosen = state.chosen := by
  rw [pressInTree.eq_def]
  -- The cases are those of the function, in its order: eight moves, two pages, the prompt.
  split
  iterate 8 · exact chosen_moveTo _
  · exact chosen_goToPage _ _
  · exact chosen_goToPage _ _
  · rfl
  · exact absurd rfl h
  · rfl

/-- Showing hits chooses nothing and keeps the current row. -/
theorem showResults_keeps (hits : List Hit) :
    (state.showResults hits).chosen = state.chosen ∧ (state.showResults hits).row = state.row := by
  rw [showResults]
  by_cases h : hits.isEmpty = true
  · rw [if_pos h]
    exact ⟨rfl, rfl⟩
  · rw [if_neg h]
    exact ⟨rfl, rfl⟩

/-- While hits are shown, the other keys choose nothing and keep the current row. -/
theorem pressInResults_keeps {key : Key} (h : key ≠ .enter) :
    (state.pressInResults key).chosen = state.chosen ∧
      (state.pressInResults key).row = state.row := by
  rw [pressInResults.eq_def]
  split
  · exact ⟨rfl, rfl⟩
  · split <;> exact ⟨rfl, rfl⟩
  · exact absurd rfl h
  · exact ⟨rfl, rfl⟩
  · exact ⟨rfl, rfl⟩

/-- **Opening a hit on the page of a row leads to the row of its link**, and nothing else
changes. -/
theorem openResult_of_opensRow {hit : Hit} (hhit : state.currentResult = some hit)
    (hrow : ∃ row ∈ state.rows, pageOf row.link = pageOf hit.link) :
    ∃ k, IsRowOfLink state.rows hit.link k ∧
      state.openResult = { state with row := k, view := .tree } := by
  cases hfound : state.rowOfLink? hit.link with
  | none =>
      obtain ⟨row, hmem, hpage⟩ := hrow
      exact absurd hpage (rowOfLink?_eq_none_iff.1 hfound row hmem)
  | some k =>
      refine ⟨k, rowOfLink?_eq_some_iff.1 hfound, ?_⟩
      rw [openResult, hhit]
      simp only [hfound]

/-- Opening any other hit chooses its link, and nothing else changes. -/
theorem openResult_of_forall_ne {hit : Hit} (hhit : state.currentResult = some hit)
    (hrows : ∀ row ∈ state.rows, pageOf row.link ≠ pageOf hit.link) :
    state.openResult = { state with chosen := some hit.link } := by
  have hfound : state.rowOfLink? hit.link = none := rowOfLink?_eq_none_iff.2 hrows
  rw [openResult, hhit]
  simp only [hfound]

/-- **While hits are shown, opening one does nothing, leads to a row or chooses the hit's link.** It
does nothing where no hit is current. -/
theorem openResult_cases (hview : state.view = .results) :
    state.openResult = state ∨
      (state.OpensRow ∧ ∃ k, state.openResult = { state with row := k, view := .tree }) ∨
      ∃ hit, state.currentResult = some hit ∧
        (∀ row ∈ state.rows, pageOf row.link ≠ pageOf hit.link) ∧
        state.openResult = { state with chosen := some hit.link } := by
  cases hhit : state.currentResult with
  | none =>
      left
      rw [openResult, hhit]
  | some hit =>
      right
      by_cases hrow : ∃ row ∈ state.rows, pageOf row.link = pageOf hit.link
      · obtain ⟨k, -, hopen⟩ := openResult_of_opensRow hhit hrow
        exact Or.inl ⟨⟨hview, hit, hhit, hrow⟩, k, hopen⟩
      · have hrows : ∀ row ∈ state.rows, pageOf row.link ≠ pageOf hit.link :=
          fun row hmem hpage => hrow ⟨row, hmem, hpage⟩
        exact Or.inr ⟨hit, rfl, hrows, openResult_of_forall_ne hhit hrows⟩

/-- A link that comes from opening a hit is the one that the key that confirms chooses. -/
theorem chooses_of_openResult {link : String} (hview : state.view = .results)
    (hnone : state.chosen = none) (hchosen : state.openResult.chosen = some link) :
    state.Chooses link := by
  rcases openResult_cases hview with hopen | ⟨-, k, hopen⟩ | ⟨hit, hhit, hrows, hopen⟩
  · rw [hopen, hnone] at hchosen
    cases hchosen
  · rw [hopen] at hchosen
    exact absurd (hnone.symm.trans hchosen) nofun
  · rw [hopen] at hchosen
    obtain rfl : hit.link = link := Option.some.inj hchosen
    exact .ofHit hview (congrArg (Option.map Hit.link) hhit) hrows

/-- Opening a hit keeps the current row unless it leads to another one. -/
theorem row_openResult (hview : state.view = .results) :
    state.openResult.row = state.row ∨ state.OpensRow ∧ state.openResult.view = .tree := by
  rcases openResult_cases hview with hopen | ⟨hopens, k, hopen⟩ | ⟨hit, -, -, hopen⟩
  · exact Or.inl (by rw [hopen])
  · exact Or.inr ⟨hopens, by rw [hopen]⟩
  · exact Or.inl (by rw [hopen])

end State

namespace Session

variable {files : Files} {session : Session} {key : Key}

/-- A query that is run shows its hits. -/
theorem state_runSearch : (session.runSearch files).state
    = session.state.showResults (session.index.search files session.state.query).hits := by
  rw [runSearch]

/-- At the prompt no key chooses anything or touches the current row. -/
theorem pressInSearch_keeps :
    (session.pressInSearch files key).state.chosen = session.state.chosen ∧
      (session.pressInSearch files key).state.row = session.state.row := by
  cases key with
  | enter =>
      have hkeeps := @State.showResults_keeps session.state
        (session.index.search files session.state.query).hits
      rwa [← state_runSearch] at hkeeps
  | char | backspace | escape | up | down | left | right | toStart | toEnd | tab | other =>
      exact ⟨rfl, rfl⟩

section

variable (hover : session.isOver = false)

include hover

/-- At the prompt a key does what it does there. -/
theorem press_inSearch (hview : session.state.view = .search) :
    session.press files key = session.pressInSearch files key := by
  rw [press, if_neg (Bool.eq_false_iff.1 hover), respond]
  simp only [hview]

/-- While hits are shown, so does a key there. -/
theorem press_inResults (hview : session.state.view = .results) :
    session.press files key = { session with state := session.state.pressInResults key } := by
  rw [press, if_neg (Bool.eq_false_iff.1 hover), respond]
  simp only [hview]

/-- **A link is chosen by no key but the one that confirms**, and it is the one that this key
chooses. -/
theorem chooses_of_press {link : String}
    (hchosen : (session.press files key).state.chosen = some link) :
    key = .enter ∧ session.state.Chooses link := by
  have hnone : session.state.chosen = none := by
    rw [isOver, Bool.or_eq_false_iff] at hover
    simpa using hover.2
  cases hview : session.state.view with
  | tree =>
      rw [press, if_neg (Bool.eq_false_iff.1 hover), respond] at hchosen
      simp only [hview] at hchosen
      by_cases hleaves : session.state.leaves key = true
      · rw [if_pos hleaves, hnone] at hchosen
        cases hchosen
      · rw [if_neg hleaves] at hchosen
        by_cases hkey : key = .enter
        · rw [hkey] at hchosen
          exact ⟨hkey, .ofRow hview hchosen⟩
        · rw [State.chosen_pressInTree hkey, hnone] at hchosen
          cases hchosen
  | search =>
      rw [press_inSearch hover hview, pressInSearch_keeps.1, hnone] at hchosen
      cases hchosen
  | results =>
      rw [press_inResults hover hview] at hchosen
      by_cases hkey : key = .enter
      · subst hkey
        exact ⟨rfl, State.chooses_of_openResult hview hnone hchosen⟩
      · rw [(State.pressInResults_keeps hkey).1, hnone] at hchosen
        cases hchosen

/-- **A hit on the page of a row leads back to the rows, and the session goes on.** -/
theorem press_of_opensRow {hit : Hit} (hview : session.state.view = .results)
    (hhit : session.state.currentResult = some hit)
    (hrow : ∃ row ∈ session.state.rows, pageOf row.link = pageOf hit.link) :
    (session.press files .enter).isOver = false ∧
      (session.press files .enter).state.view = .tree ∧
        IsRowOfLink session.state.rows hit.link (session.press files .enter).state.row := by
  obtain ⟨k, hk, hopen⟩ := State.openResult_of_opensRow hhit hrow
  have hpress : session.press files .enter
      = { session with state := { session.state with row := k, view := .tree } } := by
    rw [press_inResults hover hview, ← hopen]
    rfl
  rw [hpress]
  exact ⟨hover, rfl, hk⟩

end

/-- **Away from the rows a key keeps the current row, unless it opens a hit on the page of a
row.** -/
theorem row_press (hview : session.state.view ≠ .tree) :
    (session.press files key).state.row = session.state.row ∨
      key = .enter ∧ session.state.OpensRow ∧ (session.press files key).state.view = .tree := by
  by_cases hover : session.isOver = true
  · rw [press_of_isOver hover]
    exact Or.inl rfl
  · rw [Bool.not_eq_true] at hover
    cases hshown : session.state.view with
    | tree => exact absurd hshown hview
    | search =>
        rw [press_inSearch hover hshown]
        exact Or.inl pressInSearch_keeps.2
    | results =>
        rw [press_inResults hover hshown]
        by_cases hkey : key = .enter
        · subst hkey
          exact (State.row_openResult hshown).imp_right fun h => ⟨rfl, h⟩
        · exact Or.inl (State.pressInResults_keeps hkey).2

/-- Asking for a query keeps the current row. -/
theorem row_press_slash (hview : session.state.view = .tree) :
    (session.press files (.char '/')).state.row = session.state.row := by
  by_cases hover : session.isOver = true
  · rw [press_of_isOver hover]
  · have hstays : session.state.leaves (.char '/') = false := by simp [State.leaves]
    rw [press, if_neg hover, respond]
    simp only [hview, hstays]
    rfl

/-! ## Keys one after another -/

/-- A session that has chosen a link did so by the last key that had an effect. -/
theorem exists_enter_of_chosen {keys : List Key} {link : String} (hstart : session.state.chosen = none)
    (hchosen : (session.run files keys).state.chosen = some link) :
    ∃ before after, keys = before ++ .enter :: after ∧
      (session.run files before).isOver = false ∧
        (session.run files before).state.Chooses link ∧
          session.run files (before ++ [.enter]) = session.run files keys := by
  -- The induction takes the keys from the end, so that the last key is at hand.
  induction keys using List.reverseRecOn with
  | nil =>
      rw [run_nil, hstart] at hchosen
      cases hchosen
  | append_singleton front key ih =>
      have hlast : session.run files (front ++ [key]) = (session.run files front).press files key := by
        rw [run_append]
        rfl
      by_cases hover : (session.run files front).isOver = true
      · -- The key has no effect, so the one in question came before it.
        rw [press_of_isOver hover] at hlast
        rw [hlast] at hchosen ⊢
        obtain ⟨before, after, rfl, hrest⟩ := ih hchosen
        exact ⟨before, after ++ [key], by simp, hrest⟩
      · rw [Bool.not_eq_true] at hover
        rw [hlast] at hchosen
        obtain ⟨rfl, hchooses⟩ := chooses_of_press hover hchosen
        exact ⟨front, [], rfl, hover, hchooses, rfl⟩

/-- From a session away from the rows, keys keep the current row as long as the rows are not shown
in between, unless the last one opens a hit on the page of a row. -/
theorem row_run {keys : List Key} (haway : ∀ front back, keys = front ++ back → back ≠ [] →
      (session.run files front).state.view ≠ .tree) :
    (session.run files keys).state.row = session.state.row ∨
      ∃ front, keys = front ++ [.enter] ∧ (session.run files front).state.OpensRow := by
  induction keys generalizing session with
  | nil => exact Or.inl rfl
  | cons key rest ih =>
      have hview : session.state.view ≠ .tree := haway [] (key :: rest) rfl (List.cons_ne_nil _ _)
      have hrest := @ih (session.press files key) fun front back hsplit hback =>
        haway (key :: front) back (by rw [hsplit, List.cons_append]) hback
      rw [run_cons]
      rcases @row_press files session key hview with hrow | ⟨rfl, hopens, htree⟩
      · rw [hrow] at hrest
        rcases hrest with hsame | ⟨front, rfl, hopens⟩
        · exact Or.inl hsame
        · exact Or.inr ⟨key :: front, rfl, hopens⟩
      · cases rest with
        | nil => exact Or.inr ⟨[], rfl, hopens⟩
        | cons next more =>
            -- The hit led to the rows, which are not shown in between.
            exact absurd htree (haway [.enter] (next :: more) rfl (List.cons_ne_nil _ _))

/-- **A session ends with a link exactly by the key that confirms**, on the current row or on the
current hit if no row is on its page. A hit on the page of a row leads back to the first row of its
link or else the first on its page, and the session goes on. In no other way does the current row
change between entering the prompt and coming back to the rows. -/
theorem outcome_of_keys (navigation : Navigation) (index : Index) (files : Files)
    (keys : List Key) :
    let start := Session.start navigation index
    let session := start.run files keys
    (∀ link, session.state.chosen = some link →
      ∃ before after, keys = before ++ .enter :: after ∧
        (start.run files before).isOver = false ∧
          (start.run files before).state.Chooses link ∧
            start.run files (before ++ [.enter]) = session) ∧
    (session.isOver = false → session.state.view = .results →
      ∀ hit, session.state.currentResult = some hit →
        (∃ row ∈ session.state.rows, pageOf row.link = pageOf hit.link) →
          (start.run files (keys ++ [.enter])).isOver = false ∧
            (start.run files (keys ++ [.enter])).state.view = .tree ∧
              IsRowOfLink session.state.rows hit.link
                (start.run files (keys ++ [.enter])).state.row) ∧
    (session.state.view = .tree → ∀ more,
      (∀ front back, more = front ++ back → back ≠ [] →
        (start.run files (keys ++ .char '/' :: front)).state.view ≠ .tree) →
      (start.run files (keys ++ .char '/' :: more)).state.row = session.state.row ∨
        ∃ front, more = front ++ [.enter] ∧
          (start.run files (keys ++ .char '/' :: front)).state.OpensRow) := by
  intro start session
  have hrun (more : List Key) : start.run files (keys ++ more) = session.run files more :=
    run_append files start keys more
  refine ⟨fun link hchosen => ?_, fun hover hview hit hhit hrow => ?_, fun hview more haway => ?_⟩
  · have hnone : start.state.chosen = none := by
      cases navigation <;> rfl
    exact exists_enter_of_chosen hnone hchosen
  · rw [hrun, run_cons, run_nil]
    exact press_of_opensRow hover hview hhit hrow
  · simp only [hrun, run_cons] at haway ⊢
    rw [← row_press_slash hview]
    exact row_run haway

/-- An index of two symbols, of which one is on a page without a row and the other on that of the
second row of `guideNavigation`. -/
def pagesIndex : Index :=
  .ofPartitions [⟨"all_0.js", [⟨"main_0", "main", [⟨"main.html#a", false, none⟩]⟩,
    ⟨"start_1", "start", [⟨"start.html#top", false, none⟩]⟩], by decide⟩] {}

/-- The session that begins with these. -/
def pagesStart : Session := Session.start guideNavigation pagesIndex

/-- One symbol is chosen although a key follows, the other one leads to its row, and what is asked
for from the second row and given up keeps that row. -/
theorem outcome_of_keys_pagesIndex :
    (∃ before after, [.char '/', .char 'm', .enter, .enter, .escape] = before ++ Key.enter :: after ∧
        (pagesStart.run noFiles before).state.Chooses "main.html#a") ∧
      ((pagesStart.run noFiles ([.char '/', .char 's', .enter] ++ [.enter])).isOver = false ∧
        IsRowOfLink (pagesStart.run noFiles [.char '/', .char 's', .enter]).state.rows
          "start.html#top"
          (pagesStart.run noFiles ([.char '/', .char 's', .enter] ++ [.enter])).state.row) ∧
      (pagesStart.run noFiles ([.right] ++ .char '/' ::
        [.char 's', .enter, .down false, .escape])).state.row = 1 := by
  refine ⟨?_, ?_, ?_⟩
  · obtain ⟨hchosen, -⟩ := outcome_of_keys guideNavigation pagesIndex noFiles
      [.char '/', .char 'm', .enter, .enter, .escape]
    obtain ⟨before, after, hkeys, -, hchooses, -⟩ := hchosen "main.html#a" (by decide +kernel)
    exact ⟨before, after, hkeys, hchooses⟩
  · obtain ⟨-, hopens, -⟩ := outcome_of_keys guideNavigation pagesIndex noFiles
      [.char '/', .char 's', .enter]
    have hopened := hopens (by decide +kernel) (by decide +kernel) ⟨"start", "start.html#top", ""⟩
      (by decide +kernel) (by decide +kernel)
    exact ⟨hopened.1, hopened.2.2⟩
  · obtain ⟨-, -, hkeeps⟩ := outcome_of_keys guideNavigation pagesIndex noFiles [.right]
    have haway : ∀ n < 4, (pagesStart.run noFiles ([.right] ++ .char '/' ::
        [.char 's', .enter, .down false, .escape].take n)).state.view ≠ .tree := by decide +kernel
    have hrow : (pagesStart.run noFiles [.right]).state.row = 1 := by decide +kernel
    have hkept := hkeeps (by decide +kernel) [.char 's', .enter, .down false, .escape]
      fun front back hsplit hback => by
        have hfront : front = [.char 's', .enter, .down false, .escape].take front.length := by
          rw [hsplit, List.take_left]
        have hlength : 4 = front.length + back.length := by
          rw [← List.length_append, ← hsplit]
          rfl
        have hpos : 0 < back.length := List.length_pos_iff.2 hback
        rw [hfront]
        exact haway front.length (by omega)
    rcases hkept with hsame | ⟨front, hsplit, -⟩
    · exact hsame.trans hrow
    · -- The last key is not the one that confirms.
      have hlast := congrArg List.getLast? hsplit
      rw [List.getLast?_concat] at hlast
      cases hlast

end Session

end DocSite.Browser

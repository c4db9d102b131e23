import DocSite.Browser.Session
import DocSite.Proofs.Browser.Target
import DocSite.Proofs.Search.History

/-! # What every session keeps

Whatever keys are pressed, the rows stay what they were at the start, the current row is one of
them, and the hits that are shown are those of the query above them (`State.Sound`). Every key keeps
this (`State.Sound.pressInTree`, `State.Sound.pressInResults`, `Session.Sound.press`), so every
session does. The index changes as its slots are read, but it keeps looking the same to queries. The
main statement is `sound_run`. -/

namespace DocSite.Browser

open DocSite.Nav
open DocSite.Search

/-! ## Sound states -/

/-- Whether a state can follow on the one at the start, where `hits` says what a query finds. -/
structure State.Sound (state start : State) (hits : String → List Hit) : Prop where
  /-- The rows are still the same. -/
  rows : state.rows = start.rows
  /-- They still stand for the same. -/
  mode : state.mode = start.mode
  /-- The tree is still the same. -/
  tree : state.tree = start.tree
  /-- The current row is one of the rows. -/
  place : IsPlaceIn state.rows state.row
  /-- The hits that are shown are those of the query, and the current one is among them. -/
  shown : state.view = .results →
    state.results ≠ [] ∧ state.result < state.results.length ∧ state.results = hits state.query

namespace State.Sound

variable {state start : State} {hits : String → List Hit} (h : state.Sound start hits)

include h

/-- The rows still point to rows. -/
theorem pointsToRows (hstart : start.PointsToRows) : state.PointsToRows := by
  rw [PointsToRows, h.rows]
  exact hstart

/-- Where no hits are shown, it does not matter what is asked, found and told. -/
theorem withView (view : View) (hview : view ≠ .results) (query : String) (results : List Hit)
    (result : Nat) (message : Option String) :
    State.Sound { state with view, query, results, result, message } start hits :=
  ⟨h.rows, h.mode, h.tree, h.place, fun hresults => absurd hresults hview⟩

/-- Where no hits are shown, the query may change. -/
theorem withQuery (hview : state.view ≠ .results) (query : String) :
    State.Sound { state with query } start hits :=
  ⟨h.rows, h.mode, h.tree, h.place, fun hresults => absurd hresults hview⟩

/-- It does not matter what the user is told. -/
theorem withMessage (message : Option String) : State.Sound { state with message } start hits :=
  ⟨h.rows, h.mode, h.tree, h.place, h.shown⟩

/-- It does not matter what the user has chosen. -/
theorem withChosen (chosen : Option String) : State.Sound { state with chosen } start hits :=
  ⟨h.rows, h.mode, h.tree, h.place, h.shown⟩

/-- Any row may become the current one. -/
theorem withRow {row : Nat} (hrow : row < state.rows.length) :
    State.Sound { state with row } start hits := by
  refine ⟨h.rows, h.mode, h.tree, ⟨fun _ => hrow, fun hnone => ?_⟩, h.shown⟩
  have hempty : state.rows = [] := hnone
  rw [hempty] at hrow
  cases hrow

/-- Any hit that is shown may become the current one. -/
theorem withResult {result : Nat}
    (hresult : state.view = .results → result < state.results.length) :
    State.Sound { state with result } start hits :=
  ⟨h.rows, h.mode, h.tree, h.place, fun hview =>
    ⟨(h.shown hview).1, hresult hview, (h.shown hview).2.2⟩⟩

/-! ## Steps -/

/-- Moves lead to sound states. -/
theorem moveTo {target : Option Nat} (htarget : state.LeadsToRow target) :
    (state.moveTo target).Sound start hits := by
  cases target with
  | none => exact h
  | some row => exact h.withRow (htarget row rfl)

/-- So do moves between pages. -/
theorem goToPage (target : Option String) (missing : String) :
    (state.goToPage target missing).1.Sound start hits := by
  rw [State.goToPage.eq_def]
  cases target with
  | none => exact h.withMessage _
  | some page =>
      simp only
      cases hrow : state.rowOfLink? page with
      | none => exact h.withMessage _
      | some row => exact (h.withRow (leadsToRow_rowOfLink? page row hrow)).withMessage none

/-- So does the choice of the current row. -/
theorem chooseCurrent : state.chooseCurrent.Sound start hits := h.withChosen _

/-- So does every key while the rows are shown. -/
theorem pressInTree (hstart : start.PointsToRows) (key : Key) :
    (state.pressInTree key).Sound start hits := by
  have hpoints := h.pointsToRows hstart
  rw [State.pressInTree.eq_def]
  -- Characters are told apart by their value, so the cases are those of the function, in its order.
  split
  next shift =>
    cases shift with
    | false => exact h.moveTo (leadsToRow_prevRow? h.place)
    | true => exact h.moveTo leadsToRow_prevSibling?
  next shift =>
    cases shift with
    | false => exact h.moveTo leadsToRow_nextRow?
    | true => exact h.moveTo leadsToRow_nextSibling?
  · exact h.moveTo (leadsToRow_parentRow? hpoints)
  · exact h.moveTo (leadsToRow_parentRow? hpoints)
  · exact h.moveTo (leadsToRow_firstChild? hpoints)
  · exact h.moveTo (leadsToRow_firstChild? hpoints)
  next shift =>
    cases shift with
    | false => exact h.moveTo leadsToRow_firstRow?
    | true => exact h.moveTo leadsToRow_firstAtLevel?
  next shift =>
    cases shift with
    | false => exact h.moveTo leadsToRow_lastRow?
    | true => exact h.moveTo leadsToRow_lastAtLevel?
  · exact h.goToPage _ _
  · exact h.goToPage _ _
  · exact h.withView .search (by decide) "" _ _ none
  · exact h.chooseCurrent
  · exact h

/-- So does following the current hit: it leads to a row or ends the session. -/
theorem openResult : state.openResult.Sound start hits := by
  rw [State.openResult]
  cases state.currentResult with
  | none => exact h
  | some hit =>
      simp only
      cases hrow : state.rowOfLink? hit.link with
      | none => exact h.withChosen _
      | some row =>
          have hrow := h.withRow (leadsToRow_rowOfLink? hit.link row hrow)
          exact hrow.withView .tree (by decide) _ _ _ _

/-- So does every key while the hits are shown. -/
theorem pressInResults (key : Key) : (state.pressInResults key).Sound start hits := by
  rw [State.pressInResults.eq_def]
  split
  · refine h.withResult fun hview => ?_
    exact Nat.lt_of_le_of_lt (Nat.sub_le _ _) (h.shown hview).2.1
  · by_cases hlast : state.result + 1 < state.results.length
    · rw [if_pos hlast]
      exact h.withResult fun _ => hlast
    · rw [if_neg hlast]
      exact h
  · exact h.openResult
  · exact h.withView .tree (by decide) "" _ _ _
  · exact h

/-- So does showing the hits of the query. -/
theorem showResults : (state.showResults (hits state.query)).Sound start hits := by
  rw [State.showResults]
  by_cases hnone : (hits state.query).isEmpty = true
  · rw [if_pos hnone]
    exact h.withView .tree (by decide) _ _ _ _
  · rw [if_neg hnone]
    rw [List.isEmpty_iff] at hnone
    exact ⟨h.rows, h.mode, h.tree, h.place, fun _ => ⟨hnone, List.length_pos_iff.2 hnone, rfl⟩⟩

end State.Sound

/-- The state at the start is sound. -/
theorem State.sound_ofNavigation (navigation : Navigation) (hits : String → List Hit) :
    (State.ofNavigation navigation).Sound (State.ofNavigation navigation) hits := by
  have hplace (rows : List Row) : IsPlaceIn rows 0 := ⟨List.length_pos_iff.2, fun _ => rfl⟩
  cases navigation with
  | tree tree => exact ⟨rfl, rfl, rfl, hplace tree.rows, fun hview => nomatch hview⟩
  | links links => exact ⟨rfl, rfl, rfl, hplace (linkRows links), fun hview => nomatch hview⟩

/-- The rows at the start point to rows. -/
theorem State.pointsToRows_ofNavigation (navigation : Navigation) :
    (State.ofNavigation navigation).PointsToRows := by
  cases navigation with
  | tree tree => exact tree.pointsBelow_rows
  | links links => exact pointsBelow_linkRows _ links

/-! ## Sound sessions -/

namespace Session

/-- Whether a session can follow on the one at the start. -/
structure Sound (session start : Session) (files : Files) : Prop where
  /-- Its state is sound for what queries found at the start. -/
  state : session.state.Sound start.state fun query => (start.index.search files query).hits
  /-- The index still looks the same to queries. -/
  contents : Index.contents files session.index = Index.contents files start.index
  /-- The index is still used in the same way. -/
  options : session.index.options = start.index.options

namespace Sound

variable {session start : Session} {files : Files} (h : session.Sound start files)

include h

/-- A query still finds what it found at the start. -/
theorem hits_eq (query : String) :
    (session.index.search files query).hits = (start.index.search files query).hits :=
  Index.hits_eq_of_contents h.contents (congrArg SearchOptions.maxResults h.options) query

/-- A session goes on with the same index from a sound state. -/
theorem withState {state : State}
    (hstate : state.Sound start.state fun query => (start.index.search files query).hits) :
    Sound { session with state } start files :=
  ⟨hstate, h.contents, h.options⟩

/-- A query shows what it would have found at the start. -/
theorem runSearch : (session.runSearch files).Sound start files := by
  have hstate : (session.runSearch files).state
      = session.state.showResults (session.index.search files session.state.query).hits := by
    rw [Session.runSearch]
  have hindex : (session.runSearch files).index
      = (session.index.search files session.state.query).index := by
    rw [Session.runSearch]
  refine ⟨?_, ?_, ?_⟩
  · rw [hstate, h.hits_eq]
    exact h.state.showResults
  · rw [hindex, Index.contents_search, h.contents]
  · rw [hindex, Index.options_search, h.options]

/-- At the prompt every key leads to a sound session. -/
theorem pressInSearch (hview : session.state.view = .search) (key : Key) :
    (session.pressInSearch files key).Sound start files := by
  have haway : session.state.view ≠ .results := by
    rw [hview]
    decide
  cases key with
  | char c => exact h.withState (h.state.withQuery haway _)
  | backspace => exact h.withState (h.state.withQuery haway _)
  | enter => exact h.runSearch
  | escape => exact h.withState (h.state.withView .tree (by decide) "" _ _ _)
  | up | down | left | right | toStart | toEnd | tab | other => exact h

/-- **Every key leads to a sound session.** -/
theorem press (hstart : start.state.PointsToRows) (key : Key) :
    (session.press files key).Sound start files := by
  rw [Session.press]
  by_cases hover : session.isOver = true
  · rw [if_pos hover]
    exact h
  · rw [if_neg hover, respond]
    cases hview : session.state.view with
    | tree =>
        by_cases hleaves : session.state.leaves key = true
        · simp only [if_pos hleaves]
          exact ⟨h.state, h.contents, h.options⟩
        · simp only [if_neg hleaves]
          exact h.withState (h.state.pressInTree hstart key)
    | search => exact h.pressInSearch hview key
    | results => exact h.withState (h.state.pressInResults key)

/-- **So do keys one after another.** -/
theorem run (hstart : start.state.PointsToRows) (keys : List Key) :
    (session.run files keys).Sound start files := by
  induction keys generalizing session with
  | nil => exact h
  | cons key rest ih =>
      rw [run_cons]
      exact ih (h.press hstart key)

end Sound

/-- A session that is over stays as it is. -/
theorem run_of_isOver {files : Files} {session : Session} (h : session.isOver = true)
    (keys : List Key) : session.run files keys = session := by
  induction keys with
  | nil => rfl
  | cons key rest ih => rw [run_cons, press_of_isOver h, ih]

/-- **Whatever keys are pressed, the state stays sound**, and once a link is chosen no key has an
effect any more. -/
theorem sound_run (navigation : Navigation) (index : Index) (files : Files) (keys : List Key) :
    let start := Session.start navigation index
    let session := start.run files keys
    session.state.Sound start.state (fun query => (index.search files query).hits) ∧
      (session.state.chosen ≠ none → ∀ more, start.run files (keys ++ more) = session) := by
  intro start session
  have hstart : start.Sound start files :=
    ⟨State.sound_ofNavigation navigation _, rfl, rfl⟩
  have hsound : session.Sound start files :=
    hstart.run (State.pointsToRows_ofNavigation navigation) keys
  refine ⟨hsound.state, fun hchosen more => ?_⟩
  have hover : session.isOver = true := by
    rw [isOver, Option.isSome_iff_ne_none.2 hchosen, Bool.or_true]
  rw [run_append]
  exact run_of_isOver hover more

/-- A page with one below it. -/
def guideNavigation : Navigation :=
  .tree (.ofParts [.branch "Guide" "guide.html" [.leaf "Start" "start.html"]] .empty)

/-- An index of one symbol, on a page that is in no row. -/
def guideIndex : Index :=
  .ofPartitions [⟨"all_0.js", [⟨"main_0", "main", [⟨"main.html#a", false, none⟩]⟩], by decide⟩] {}

/-- A tree without files. -/
def noFiles : Files := ⟨.directory [], []⟩

/-- The symbol is looked up from the lower row and its link chosen. -/
def guideKeys : List Key := [.right, .char '/', .char 'M', .enter, .enter]

/-- On the way the symbol is shown; what is pressed after the choice has no effect. -/
theorem sound_run_guideKeys :
    ((Session.start guideNavigation guideIndex).run noFiles (guideKeys.take 4)).state.results
        = [⟨"main", "main.html#a", ""⟩] ∧
      ((Session.start guideNavigation guideIndex).run noFiles guideKeys).state.chosen ≠ none ∧
        (Session.start guideNavigation guideIndex).run noFiles (guideKeys ++ [.escape, .up false])
          = (Session.start guideNavigation guideIndex).run noFiles guideKeys := by
  obtain ⟨hshown, -⟩ := sound_run guideNavigation guideIndex noFiles (guideKeys.take 4)
  obtain ⟨-, hover⟩ := sound_run guideNavigation guideIndex noFiles guideKeys
  have hview : ((Session.start guideNavigation guideIndex).run noFiles
      (guideKeys.take 4)).state.view = .results := by decide +kernel
  have hquery : ((Session.start guideNavigation guideIndex).run noFiles
      (guideKeys.take 4)).state.query = "M" := by decide +kernel
  have hhits : (guideIndex.search noFiles "M").hits = [⟨"main", "main.html#a", ""⟩] := by
    decide +kernel
  have hchosen : ((Session.start guideNavigation guideIndex).run noFiles
      guideKeys).state.chosen ≠ none := by decide +kernel
  refine ⟨?_, hchosen, hover hchosen _⟩
  rw [(hshown.shown hview).2.2, hquery, hhits]

end Session

end DocSite.Browser

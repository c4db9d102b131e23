import DocSite.Browser.Page

/-! # Queries

A query is typed at a prompt. Its hits are listed, and the one that the user opens leads back to the
rows if one of them is on its page; otherwise its link is what the user chooses. -/

namespace DocSite.Browser

open DocSite.Search

namespace State

/-- Asks for a query. -/
def startSearch (state : State) : State :=
  { state with view := .search, query := "", message := none }

/-- Puts text behind the query. -/
def type (state : State) (text : String) : State :=
  { state with query := state.query ++ text }

/-- Takes the last character off the query. -/
def eraseLast (state : State) : State :=
  { state with query := String.ofList state.query.toList.dropLast }

/-- Shows the hits of the query or, if there are none, a message. -/
def showResults (state : State) (hits : List Hit) : State :=
  if hits.isEmpty then
    { state with
      results := hits
      result := 0
      message := some ("No matches for '" ++ state.query ++ "'")
      view := .tree }
  else
    { state with results := hits, result := 0, message := none, view := .results }

/-- Follows the current hit: to the row of its link, or out of the browser. -/
def openResult (state : State) : State :=
  match state.currentResult with
  | none => state
  | some hit =>
      match state.rowOfLink? hit.link with
      | some row => { state with row := row, view := .tree }
      | none => { state with chosen := some hit.link }

/-- Leaves the prompt or the hits. -/
def cancelSearch (state : State) : State :=
  { state with view := .tree, query := "" }

end State

end DocSite.Browser

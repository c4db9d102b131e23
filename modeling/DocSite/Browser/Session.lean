import DocSite.Browser.Move
import DocSite.Browser.Query

/-! # Sessions

A session is what the user does with the browser, key by key, until a link is chosen or the user
leaves. What a key does depends on what is shown. -/

namespace DocSite.Browser

open DocSite.Search

/-- A key. -/
inductive Key where
  /-- The arrow up, perhaps with the shift key. -/
  | up (shift : Bool)
  /-- The arrow down, perhaps with the shift key. -/
  | down (shift : Bool)
  /-- The arrow to the left. -/
  | left
  /-- The arrow to the right. -/
  | right
  /-- The key to the start, perhaps with the shift key. -/
  | toStart (shift : Bool)
  /-- The key to the end, perhaps with the shift key. -/
  | toEnd (shift : Bool)
  /-- The key that confirms. -/
  | enter
  /-- The tabulator. -/
  | tab
  /-- The key that erases. -/
  | backspace
  /-- The key that leaves. -/
  | escape
  /-- A character. -/
  | char (c : Char)
  /-- Any other key. -/
  | other
  deriving DecidableEq

namespace State

/-- Whether a key leaves the browser. -/
def leaves (state : State) (key : Key) : Bool :=
  state.view == .tree && (key == .escape || key == .char 'q')

/-- What a key does while the rows are shown. -/
def pressInTree (state : State) : Key → State
  | .up shift => state.moveTo (if shift then state.prevSibling? else state.prevRow?)
  | .down shift => state.moveTo (if shift then state.nextSibling? else state.nextRow?)
  | .left | .char 'h' => state.moveTo state.parentRow?
  | .right | .char 'l' => state.moveTo state.firstChild?
  | .toStart shift => state.moveTo (if shift then state.firstAtLevel? else state.firstRow?)
  | .toEnd shift => state.moveTo (if shift then state.lastAtLevel? else state.lastRow?)
  | .char 'n' => state.goToNextPage.1
  | .char 'p' => state.goToPrevPage.1
  | .char '/' => state.startSearch
  | .enter => state.chooseCurrent
  | _ => state

/-- What a key does while the hits are shown. -/
def pressInResults (state : State) : Key → State
  | .up _ => { state with result := state.result - 1 }
  | .down _ =>
      if state.result + 1 < state.results.length then { state with result := state.result + 1 }
      else state
  | .enter => state.openResult
  | .escape => state.cancelSearch
  | _ => state

end State

/-- A session. -/
structure Session where
  /-- The state of the browser. -/
  state : State
  /-- The index that queries go to. -/
  index : Index
  /-- Whether the user has left. -/
  left : Bool

namespace Session

/-- The session that begins with the given navigation. -/
def start (navigation : Navigation) (index : Index) : Session :=
  ⟨State.ofNavigation navigation, index, false⟩

/-- Whether the session is over: the user has left or chosen a link. -/
def isOver (session : Session) : Bool :=
  session.left || session.state.chosen.isSome

/-- Runs the query that has been typed. -/
def runSearch (files : Files) (session : Session) : Session :=
  let answer := session.index.search files session.state.query
  { session with state := session.state.showResults answer.hits, index := answer.index }

/-- What a key does at the prompt. -/
def pressInSearch (files : Files) (session : Session) : Key → Session
  | .char c => { session with state := session.state.type c.toString }
  | .backspace => { session with state := session.state.eraseLast }
  | .enter => session.runSearch files
  | .escape => { session with state := session.state.cancelSearch }
  | _ => session

/-- What a key does in a session that goes on. -/
def respond (files : Files) (session : Session) (key : Key) : Session :=
  match session.state.view with
  | .tree =>
      if session.state.leaves key then { session with left := true }
      else { session with state := session.state.pressInTree key }
  | .search => session.pressInSearch files key
  | .results => { session with state := session.state.pressInResults key }

/-- What a key does; a session that is over does not change. -/
def press (files : Files) (session : Session) (key : Key) : Session :=
  if session.isOver then session else session.respond files key

/-- What a row of keys does. -/
def run (files : Files) (session : Session) (keys : List Key) : Session :=
  keys.foldl (press files) session

theorem press_of_isOver {files : Files} {session : Session} (h : session.isOver) (key : Key) :
    session.press files key = session := by
  simp [press, h]

@[simp] theorem run_nil (files : Files) (session : Session) : session.run files [] = session := rfl

@[simp] theorem run_cons (files : Files) (session : Session) (key : Key) (keys : List Key) :
    session.run files (key :: keys) = (session.press files key).run files keys := rfl

@[simp] theorem run_append (files : Files) (session : Session) (keys more : List Key) :
    session.run files (keys ++ more) = (session.run files keys).run files more := by
  simp [run]

end Session

end DocSite.Browser

import DocSite.Browser.Session
import DocSite.CommandLine.Command
import DocSite.Json
import DocSite.Settings
import DocSite.Site

/-! # Carrying out commands

A command prints something, fails or opens the browser. -/

namespace DocSite.CommandLine

open DocSite.Json
open DocSite.Nav
open DocSite.Search

/-- A step of a walk as a line, indented by its depth. -/
def stepLine (step : Step) : String :=
  String.ofList (List.replicate (2 * step.depth) ' ') ++ step.label ++ " [" ++ step.link ++ "]"
    ++ (if step.deferred.isSome then " …" else "") ++ "\n"

/-- A step of a walk as JSON. -/
def stepValue (step : Step) : Value :=
  .object ([("label", .string step.label), ("link", .string step.link),
      ("depth", .number step.depth)]
    ++ (step.deferred.toList.map fun name => ("deferred", .string name)))

/-- Neighbours as JSON. -/
def neighboursValue (neighbours : Neighbours) : Value :=
  .object [("prev", .ofText? neighbours.prev), ("next", .ofText? neighbours.next)]

/-- A hit as JSON. -/
def hitValue (hit : Hit) : Value :=
  .object [("name", .string hit.name), ("link", .string hit.link), ("scope", .string hit.scope)]

/-- What a command line leads to. -/
inductive Outcome where
  /-- Help is given. -/
  | help
  /-- The arguments are refused. -/
  | misuse
  /-- A text is printed. -/
  | printed (text : String)
  /-- The command fails. -/
  | failed (error : Error)
  /-- The browser opens. -/
  | browsing (session : Browser.Session)

/-- The settings with the places that a command line names. -/
def Invocation.settings (invocation : Invocation) (settings : Settings) : Settings :=
  { settings with
    navFile := invocation.navFile.getD settings.navFile
    searchDir := invocation.searchDir.getD settings.searchDir }

/-- The search options with what a command line asks for. -/
def searchOptions (options : SearchOptions) (eager : Bool) (limit : Option Nat)
    (sections : List String) : SearchOptions where
  lazy := options.lazy && !eager
  maxResults := limit.getD options.maxResults
  sections := if sections.isEmpty then options.sections else sections

/-- Carries out a command. -/
def Command.perform (files : Files) (settings : Settings) : Command → Outcome × List Notice
  | .walk root json =>
      match (Site.ofRoot root settings).loadTree files with
      | .error e => (.failed e, [])
      | .ok (tree, notices) =>
          let text :=
            if json then (Value.array (tree.walk.map stepValue)).pretty ++ "\n"
            else String.join (tree.walk.map stepLine)
          (.printed text, notices)
  | .neighbours page root =>
      match (Site.ofRoot root settings).loadTree files with
      | .error e => (.failed e, [])
      | .ok (tree, notices) =>
          let unlisted :=
            if (tree.index.position? page).isSome then []
            else [Notice.warning (page ++ " is not in the page index")]
          (.printed ((neighboursValue (tree.lookup page)).pretty ++ "\n"), notices ++ unlisted)
  | .search query root eager limit sections =>
      let (index, notices) := Index.openDir files (Site.ofRoot root settings).searchDir
        (searchOptions settings.search eager limit sections)
      let answer := index.search files query
      (.printed ((Value.array (answer.hits.map hitValue)).pretty ++ "\n"),
        notices ++ answer.notices)
  | .browse root =>
      let site := Site.ofRoot root settings
      let (navigation, notices) := site.navigation files
      let (index, indexNotices) := Index.openDir files site.searchDir settings.search
      (.browsing (.start navigation index), notices ++ indexNotices)

/-- Carries out a command line. -/
def perform (files : Files) (arguments : List String) : Outcome × List Notice :=
  match Invocation.parse arguments with
  | .error .help => (.help, [])
  | .error .misuse => (.misuse, [])
  | .ok invocation =>
      invocation.command.perform files (invocation.settings (Settings.load files).1)

/-- The exit code of an outcome. -/
def Outcome.exitCode : Outcome → Nat
  | .help | .printed _ | .browsing _ => 0
  | .failed _ => 1
  | .misuse => 2

end DocSite.CommandLine

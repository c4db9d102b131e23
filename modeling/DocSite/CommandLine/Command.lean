import DocSite.CommandLine.Arguments
import DocSite.Files.Path
import DocSite.Text.Digit

/-! # Commands

A command is named by the first operand. Two options, for the places of a site's parts, can stand
in front of its name or behind it; behind it they count more. -/

namespace DocSite.CommandLine

open DocSite.Text

/-- What to do with a site. -/
inductive Command where
  /-- Print the table of contents, as JSON if `json`. -/
  | walk (site : Path) (json : Bool)
  /-- Print the pages before and behind a page. -/
  | neighbours (page : String) (site : Path)
  /-- Search for names. -/
  | search (query : String) (site : Path) (eager : Bool) (limit : Option Nat)
      (sections : List String)
  /-- Open the browser. -/
  | browse (site : Path)

/-- The directory of the site. -/
def Command.site : Command → Path
  | walk site _ => site
  | neighbours _ site => site
  | search _ site _ _ _ => site
  | browse site => site

/-- A command with the places that it was given. -/
structure Invocation where
  /-- The command. -/
  command : Command
  /-- The navigation descriptor, if it is named. -/
  navFile : Option String
  /-- The directory of the search index, if it is named. -/
  searchDir : Option String

/-- The numbers that a count can be. -/
def countLimit : Nat := Nat.pow 2 64

/-- The count that a text stands for. A plus sign may lead it. -/
def count? (text : String) : Option Nat :=
  let digits :=
    match text.toList with
    | '+' :: digits => digits
    | digits => digits
  (digitsValue? 10 digits).filter (· < countLimit)

/-- An operand that can be any text. -/
def textOperand : OperandSpec := ⟨true, fun _ => true⟩

/-- The operand for the directory of a site. -/
def siteOperand : OperandSpec := ⟨false, (· ≠ "")⟩

/-- An option with one value, which can be any text. -/
def textOption (name : String) : OptionSpec := ⟨name, none, .value false fun _ => true⟩

/-- The options of every command. -/
def sharedOptions : List OptionSpec :=
  [textOption "nav-file", textOption "search-dir", ⟨"help", some 'h', .help⟩]

/-- What can stand in front of the name of a command. -/
def sharedShape : Shape := ⟨sharedOptions, []⟩

/-- What the command that prints the table of contents can be given. -/
def walkShape : Shape := ⟨⟨"json", none, .flag⟩ :: sharedOptions, [siteOperand]⟩

/-- What the command that prints neighbours can be given. -/
def neighboursShape : Shape := ⟨sharedOptions, [textOperand, siteOperand]⟩

/-- What the command that searches can be given. -/
def searchShape : Shape :=
  ⟨[⟨"eager", none, .flag⟩,
    ⟨"limit", some 'n', .value false fun text => (count? text).isSome⟩,
    ⟨"section", some 's', .value true fun _ => true⟩] ++ sharedOptions,
    [textOperand, siteOperand]⟩

/-- What the command that opens the browser can be given. -/
def browseShape : Shape := ⟨sharedOptions, [siteOperand]⟩

/-- The site at a place among the operands; the current directory if it is not given. -/
def siteAt (given : Given) (place : Nat) : Path :=
  given.operands[place]?.getD "."

/-- The text at a place among the operands. -/
def textAt (given : Given) (place : Nat) : String :=
  given.operands[place]?.getD ""

/-- The names of the commands, with what each can be given and what it is then. -/
def commands : List (String × Shape × (Given → Command)) := [
  ("walk", walkShape, fun given => .walk (siteAt given 0) (given.has "json")),
  ("nav", neighboursShape, fun given => .neighbours (textAt given 0) (siteAt given 1)),
  ("search", searchShape, fun given =>
    .search (textAt given 0) (siteAt given 1) (given.has "eager")
      ((given.values "limit").head?.bind count?) (given.values "section")),
  ("browse", browseShape, fun given => .browse (siteAt given 0))]

/-- What help says. -/
def helpText : String :=
  "Navigation and search for generated documentation sites\n\n"
    ++ "Commands:\n"
    ++ "  walk [SITE] [--json]   Print the table of contents depth-first\n"
    ++ "  nav PAGE [SITE]        Print the previous and next page for a page\n"
    ++ "  search QUERY [SITE] [--eager] [-n, --limit COUNT] [-s, --section SECTION]...\n"
    ++ "                         Search the symbol index\n"
    ++ "  browse [SITE]          Browse the table of contents interactively\n\n"
    ++ "Options:\n"
    ++ "  --nav-file PATH        Navigation descriptor, relative to the site directory\n"
    ++ "  --search-dir PATH      Search partition directory, relative to the site directory\n"
    ++ "  -h, --help             Print help\n"

/-- The name of the command that asks for help on another. -/
def helpName : String := "help"

/-- The command of a name. -/
def command? (name : String) : Option (Shape × (Given → Command)) :=
  (commands.find? (·.1 == name)).map (·.2)

/-- Why help on `topics` is not given as a command: it is help, or about nothing there is. -/
def helpOn : List String → Stop
  | [] => .help
  | [topic] => if topic = helpName ∨ (command? topic).isSome then .help else .misuse
  | _ => .misuse

/-- Reads a command line. -/
def Invocation.parse (arguments : List String) : Except Stop Invocation := do
  let (before, name, rest) ← readUpToOperand sharedShape none .nothing arguments
  if name = helpName then throw (helpOn rest)
  match command? name with
  | none => throw .misuse
  | some (shape, make) =>
      let given ← read shape rest
      let place (option : String) : Option String :=
        (given.values option ++ before.values option).head?
      return ⟨make given, place "nav-file", place "search-dir"⟩

end DocSite.CommandLine

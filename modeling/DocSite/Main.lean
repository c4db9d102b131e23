import DocSite.Browser.Draw
import DocSite.Browser.KeyName
import DocSite.CommandLine.Perform

/-! # The program

The program takes the files that a command can need into a tree, carries the command out on it and
shows the outcome. The browser reads its keys by name, a line each. -/

namespace DocSite.Main

open DocSite.Browser
open DocSite.CommandLine

/-- The tree at a path of the file system. Only files that `wanted` names are read, and directories
that lead back to one around them are empty. -/
partial def readTree (wanted : String → Bool) (around : List String) (path : String) :
    IO FileTree := do
  let here ← IO.FS.realPath path
  if ← here.isDir then
    if around.contains here.toString then return .directory []
    let mut entries := []
    for entry in ← here.readDir do
      let tree ← readTree wanted (here.toString :: around) entry.path.toString
      entries := (entry.fileName, tree) :: entries
    return .directory entries.reverse
  else if wanted (Path.fileName path) then
    return .file (String.fromUTF8? (← IO.FS.readBinFile path))
  else return .file (some "")

/-- The files with those of the file system at a path, if there are any. -/
def addTree (wanted : String → Bool) (files : Files) (path : Path) : IO Files := do
  try
    let tree ← readTree wanted [] path
    return { files with root := files.root.put (path.namesFrom files.current) tree }
  catch _ => return files

/-- The files that a command can need: the settings, the scripts beside the navigation descriptor
and those in the directory of the search index. -/
def readFiles (invocation : Invocation) : IO Files := do
  let current := Path.components (← IO.currentDir).toString
  let files : Files := ⟨(FileTree.directory []).put current (.directory []), current⟩
  let files ← addTree (fun _ => true) files Settings.fileName
  let settings := invocation.settings (Settings.load files).1
  let site := Site.ofRoot invocation.command.site settings
  let wanted (name : String) : Bool := name.endsWith ".js" || name == Path.fileName site.navPath
  let directories := [site.navPath.parent?.getD ".", site.searchDir]
  directories.foldlM (fun files dir => addTree wanted files (if dir.isEmpty then "." else dir))
    files

/-- Shows the browser and reads a key, until the session is over or there are no keys. -/
partial def browse (files : Files) (session : Session) : IO Session := do
  if session.isOver then return session
  for row in session.state.draw 80 24 do
    IO.println (Screen.rowText row)
  let line ← (← IO.getStdin).getLine
  if line.isEmpty then return session
  browse files (session.run files (keysOf (line.takeWhile (· != '\n')).toString))

/-- Shows an outcome. -/
def present (files : Files) : Outcome → IO Unit
  | .help => IO.print helpText
  | .misuse => IO.eprint helpText
  | .printed text => IO.print text
  | .failed e => IO.eprintln ("Error: " ++ e.message)
  | .browsing session => do
      let session ← browse files session
      match session.state.chosen with
      | some link => IO.println link
      | none => return ()

end DocSite.Main

/-- Carries out a command line. -/
def main (arguments : List String) : IO UInt32 := do
  let files ←
    match DocSite.CommandLine.Invocation.parse arguments with
    | .ok invocation => DocSite.Main.readFiles invocation
    | .error _ => pure ⟨.directory [], []⟩
  let (outcome, notices) := DocSite.CommandLine.perform files arguments
  for notice in notices do
    if notice.severity = .error then IO.eprintln notice.text
  DocSite.Main.present files outcome
  return outcome.exitCode.toUInt32

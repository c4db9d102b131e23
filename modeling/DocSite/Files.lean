import DocSite.Error
import DocSite.Files.Path

/-! # Files

A tree of directories and files with a current directory. Everything that the library reads, it
reads from such a tree; nothing in it ever changes. -/

namespace DocSite

/-- A file or a directory. -/
inductive FileTree where
  /-- A file; its text is missing if its bytes are no UTF-8. -/
  | file (text : Option String)
  /-- A directory with its named entries. -/
  | directory (entries : List (String × FileTree))

namespace FileTree

/-- The entry of this name. -/
def child? (name : String) : List (String × FileTree) → Option FileTree
  | [] => none
  | (other, tree) :: rest => if other = name then some tree else child? name rest

/-- The tree with `content` at the end of the names, in place of what was there. Directories on the
way are made; below a file there is no place. -/
def put (tree : FileTree) (names : List String) (content : FileTree) : FileTree :=
  match names, tree with
  | [], _ => content
  | _ :: _, .file text => .file text
  | name :: rest, .directory entries =>
      let below := (child? name entries).getD (.directory [])
      .directory (entries.filter (·.1 ≠ name) ++ [(name, below.put rest content)])

mutual

/-- The number of files from here down. -/
def count : FileTree → Nat
  | file _ => 1
  | directory entries => countEntries entries

/-- The number of files in the entries of a directory. -/
def countEntries : List (String × FileTree) → Nat
  | [] => 0
  | (_, tree) :: rest => tree.count + countEntries rest

end

end FileTree

/-- A tree of files, and the directory that relative paths start from. -/
structure Files where
  /-- The root directory. -/
  root : FileTree
  /-- The names that lead from the root to the current directory. -/
  current : List String

namespace Files

/-- The longest name that a file can have, in bytes. -/
def maxNameBytes : Nat := 255

/-- Follows names through the tree. `above` holds the directories on the way back to the root. -/
def follow (above : List FileTree) : FileTree → List String → Except FileError FileTree
  | tree, [] => .ok tree
  | .file _, _ :: _ => .error .notDirectory
  | .directory entries, name :: rest =>
      if name = ".." then
        match above with
        -- The root lies in itself.
        | [] => follow [] (.directory entries) rest
        | parent :: above => follow above parent rest
      else if maxNameBytes < name.utf8ByteSize then .error .nameTooLong
      else
        match FileTree.child? name entries with
        | some next => follow (.directory entries :: above) next rest
        | none => .error .notFound
termination_by _ names => names.length

/-- What stands at a path. -/
def find (files : Files) (p : Path) : Except FileError FileTree :=
  if p.isEmpty then .error .notFound
  else if p.toList.contains '\x00' then .error .invalidName
  else
    let names := if p.isAbsolute then p.components else files.current ++ p.components
    match follow [] files.root names with
    | .ok (.file text) => if p.endsInDirectory then .error .notDirectory else .ok (.file text)
    | found => found

/-- The number of files. -/
def count (files : Files) : Nat :=
  files.root.count

/-- Whether something stands at a path. -/
def exists? (files : Files) (p : Path) : Bool :=
  match files.find p with
  | .ok _ => true
  | .error _ => false

/-- Whether a file stands at a path. -/
def isFile (files : Files) (p : Path) : Bool :=
  match files.find p with
  | .ok (.file _) => true
  | _ => false

/-- The text of the file at a path. -/
def read (files : Files) (p : Path) : Except FileError String :=
  match files.find p with
  | .ok (.file (some text)) => .ok text
  | .ok (.file none) => .error .invalidText
  | .ok (.directory _) => .error .isDirectory
  | .error e => .error e

/-- The names in the directory at a path. -/
def list (files : Files) (p : Path) : Except FileError (List String) :=
  match files.find p with
  | .ok (.directory entries) => .ok (entries.map Prod.fst)
  | .ok (.file _) => .error .notDirectory
  | .error e => .error e

end Files

end DocSite

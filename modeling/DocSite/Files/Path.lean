/-! # Paths

A path is a text whose parts are separated by slashes. It is kept as it was put together, so that
messages show it in the same form; only `components` looks past empty parts and lone points. -/

namespace DocSite

/-- A path, as written. -/
abbrev Path := String

namespace Path

/-- Whether the path starts at the root. -/
def isAbsolute (p : Path) : Bool :=
  p.toList.head? == some '/'

/-- The path `p` below `dir`; an absolute path stands for itself. -/
def join (dir p : Path) : Path :=
  if p.isAbsolute || dir.isEmpty then p
  else if dir.toList.getLast? == some '/' then dir ++ p
  else dir ++ "/" ++ p

/-- The parts between slashes, empty ones included. -/
def parts (s : List Char) : List (List Char) :=
  match s with
  | [] => [[]]
  | '/' :: rest => [] :: parts rest
  | c :: rest =>
      match parts rest with
      | part :: more => (c :: part) :: more
      | [] => [[c]]

/-- The names that lead to the path's end; empty parts and lone points lead nowhere. -/
def components (p : Path) : List String :=
  ((parts p.toList).filter fun part => part != [] && part != ['.']).map String.ofList

/-- The names that lead from the root to the path's end, seen from the directory that the names
`current` lead to; two points go back by one name. -/
def namesFrom (current : List String) (p : Path) : List String :=
  p.components.foldl (fun names name => if name = ".." then names.dropLast else names ++ [name])
    (if p.isAbsolute then [] else current)

/-- Whether the path is written as that of a directory: with a slash or a lone point at its end. -/
def endsInDirectory (p : Path) : Bool :=
  match (parts p.toList).getLast? with
  | some part => part == [] || part == ['.']
  | none => false

/-- The last part of a path that does not end in a slash. -/
def fileName (p : Path) : String :=
  String.ofList ((parts p.toList).getLastD [])

/-- Drops slashes and lone points from the end of a path, given back to front; the first part of
the path stays even if it is a lone point. -/
def dropTrailing : List Char → List Char
  | '/' :: rest => if rest.isEmpty then ['/'] else dropTrailing rest
  | '.' :: '/' :: rest => if rest.isEmpty then ['/'] else dropTrailing rest
  | s => s

/-- The directory that the last part of the path lies in, if the path has a part. -/
def parent? (p : Path) : Option Path :=
  match dropTrailing p.toList.reverse with
  | [] => none
  | ['/'] => none
  | s => some (String.ofList (dropTrailing (s.dropWhile (· != '/'))).reverse)

end Path

end DocSite

import DocSite.Text.Digit

/-! # What can go wrong

The causes for which a descriptor, a partition or a script cannot be had, and the words for
them. -/

namespace DocSite

open DocSite.Text

/-- Why a file or directory cannot be read. -/
inductive FileError where
  /-- There is nothing at the path. -/
  | notFound
  /-- The path leads through a file. -/
  | notDirectory
  /-- The path leads to a directory. -/
  | isDirectory
  /-- A name on the path is longer than a name can be. -/
  | nameTooLong
  /-- The path holds a character that no name can hold. -/
  | invalidName
  /-- The content is no text. -/
  | invalidText
  deriving DecidableEq

/-- The system's words for a file error. -/
def FileError.message : FileError → String
  | notFound => "No such file or directory (os error 2)"
  | notDirectory => "Not a directory (os error 20)"
  | isDirectory => "Is a directory (os error 21)"
  | nameTooLong => "File name too long (os error 36)"
  | invalidName => "file name contained an unexpected NUL byte"
  | invalidText => "stream did not contain valid UTF-8"

/-- Why a text is no script of literals. -/
inductive ScriptError where
  /-- It does not follow the grammar. The line and the column of the error are left out: they are
  those of the first error in a tree with repairs, and the grammar does not say how to repair. -/
  | malformed
  /-- An initialiser holds something that is no literal, at this line and column. -/
  | unsupported (what : String) (line column : Nat)
  deriving DecidableEq

/-- The words for a script error. Those for a text that does not follow the grammar go on with
` at line L, column C`, which is left out with the place. -/
def ScriptError.message : ScriptError → String
  | malformed => "syntax error"
  | unsupported what line column =>
      "unsupported " ++ what ++ " at line " ++ decimal line ++ ", column " ++ decimal column

/-- Why loading failed. -/
inductive Error where
  /-- The navigation descriptor does not have the expected shape at the location. -/
  | malformedNavigation (location reason : String)
  /-- The search partition cannot be had. -/
  | unavailablePartition (name reason : String)
  /-- The script cannot be read. -/
  | script (cause : ScriptError)
  /-- There is no such file. -/
  | pathNotFound (path : String)
  /-- The file cannot be read. -/
  | file (cause : FileError)
  deriving DecidableEq

/-- The words for an error. -/
def Error.message : Error → String
  | malformedNavigation location reason =>
      "invalid navigation descriptor at " ++ location ++ ": " ++ reason
  | unavailablePartition name reason => "search partition " ++ name ++ " unavailable: " ++ reason
  | script cause => "script error: " ++ cause.message
  | pathNotFound path => "path not found: " ++ path
  | file cause => "IO error: " ++ cause.message

end DocSite

import DocSite.Browser.Session

/-! # Names of keys

Keys can be given by name; any text that is no such name stands for its characters. -/

namespace DocSite.Browser

/-- The keys that have names. -/
def namedKeys : List (String × Key) := [
  ("Up", .up false), ("Down", .down false), ("Home", .toStart false), ("End", .toEnd false),
  ("S-Up", .up true), ("S-Down", .down true), ("S-Home", .toStart true), ("S-End", .toEnd true),
  ("Left", .left), ("Right", .right), ("Enter", .enter), ("Tab", .tab),
  ("Backspace", .backspace), ("Esc", .escape)]

/-- The keys that a text stands for. -/
def keysOf (text : String) : List Key :=
  match namedKeys.lookup text with
  | some key => [key]
  | none => text.toList.map .char

end DocSite.Browser

import DocSite.Text.Digit
import DocSite.Text.Extending
import DocSite.Text.Unprintable

/-! # Texts as messages show them

A message shows a text in double quotes. Whatever could not be told apart on a screen is written
as an escape: quotes and backslashes, line breaks and tabs, unprintable characters, and characters
that attach to the one in front of them. -/

namespace DocSite.Text

/-- How a message writes one character of a text. -/
def displayChar (c : Char) : List Char :=
  if c = '"' ∨ c = '\\' then ['\\', c]
  else if c = '\n' then ['\\', 'n']
  else if c = '\r' then ['\\', 'r']
  else if c = '\t' then ['\\', 't']
  else if c = '\x00' then ['\\', '0']
  else if isUnprintable c || isExtending c then ['\\', 'u', '\x7b'] ++ hexDigits c.toNat ++ ['\x7d']
  else [c]

/-- A text as messages show it. -/
def display (s : String) : String :=
  String.ofList ('"' :: s.toList.flatMap displayChar ++ ['"'])

end DocSite.Text

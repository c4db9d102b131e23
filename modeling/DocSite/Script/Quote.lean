import DocSite.Text.Digit

/-! # Quoted text

`quote` writes a text as a string literal of a data script. The backslash, the delimiter and the
control characters are escaped; all else stands for itself. -/

namespace DocSite.Script

open DocSite.Text

/-- Whether `c` is a control character: C0, DEL or C1. -/
def isControl (c : Char) : Bool :=
  let n := c.toNat
  n < 0x20 || (0x7F ≤ n && n < 0xA0)

/-- How one character is written between delimiters. -/
def quoteChar (delimiter c : Char) : List Char :=
  if c = '\\' then ['\\', '\\']
  else if c = '\n' then ['\\', 'n']
  else if c = '\r' then ['\\', 'r']
  else if c = '\t' then ['\\', 't']
  else if c = delimiter then ['\\', c]
  else if isControl c then '\\' :: 'u' :: hexFixed 4 c.toNat
  else [c]

/-- The characters of `s` as they stand between delimiters. -/
def quoteBody (delimiter : Char) (s : List Char) : List Char :=
  s.flatMap (quoteChar delimiter)

@[simp] theorem quoteBody_cons (delimiter c : Char) (s : List Char) :
    quoteBody delimiter (c :: s) = quoteChar delimiter c ++ quoteBody delimiter s := by
  simp [quoteBody]

/-- The characters of a string literal for `s`. -/
def quoteChars (delimiter : Char) (s : List Char) : List Char :=
  delimiter :: quoteBody delimiter s ++ [delimiter]

/-- A string literal for `s`. -/
def quote (delimiter : Char) (s : String) : String :=
  String.ofList (quoteChars delimiter s.toList)

@[simp] theorem toList_quote (delimiter : Char) (s : String) :
    (quote delimiter s).toList = quoteChars delimiter s.toList := by
  simp [quote]

end DocSite.Script

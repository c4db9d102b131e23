/-! # Blank characters

Three sets of blank characters occur: the blanks between the tokens of a script, the few blanks
that decide where a statement may end at a line break, and the characters of the Unicode property
`White_Space`, which are trimmed from the text behind a minus sign. -/

namespace DocSite.Text

/-- Blanks between the tokens of a script: controls from tab to carriage return, the space
separators, the line and paragraph separators, and the zero-width marks U+200B, U+2060 and
U+FEFF. The next-line control U+0085 is none. -/
def isScriptBlank (c : Char) : Bool :=
  let n := c.toNat
  (9 ≤ n && n ≤ 13) || n == 0x20 || n == 0xA0 || n == 0x1680 || (0x2000 ≤ n && n ≤ 0x200B)
    || n == 0x2028 || n == 0x2029 || n == 0x202F || n == 0x205F || n == 0x2060 || n == 0x3000
    || n == 0xFEFF

/-- The ASCII blanks, the only ones skipped on the way to a line break that ends a statement. -/
def isAsciiBlank (c : Char) : Bool :=
  let n := c.toNat
  (9 ≤ n && n ≤ 13) || n == 0x20

/-- Line feed and the two Unicode separators: the line breaks that can end a statement. -/
def isLineBreak (c : Char) : Bool :=
  c == '\n' || c == '\u2028' || c == '\u2029'

/-- The line breaks that end a `//` comment: those that can end a statement, and the carriage
return. -/
def endsLineComment (c : Char) : Bool :=
  isLineBreak c || c == '\r'

/-- The Unicode property `White_Space`. -/
def isWhiteSpace (c : Char) : Bool :=
  let n := c.toNat
  (9 ≤ n && n ≤ 13) || n == 0x20 || n == 0x85 || n == 0xA0 || n == 0x1680
    || (0x2000 ≤ n && n ≤ 0x200A) || n == 0x2028 || n == 0x2029 || n == 0x202F || n == 0x205F
    || n == 0x3000

/-- Drops the characters that satisfy `p` from both ends. -/
def trimBoth (p : Char → Bool) (s : List Char) : List Char :=
  ((s.dropWhile p).reverse.dropWhile p).reverse

/-- Drops `White_Space` characters from both ends. -/
def trim (s : List Char) : List Char :=
  trimBoth isWhiteSpace s

end DocSite.Text

import DocSite.Script.Parser

/-! # Strings and patterns as tokens

The parts of string literals and the texts of regular expressions. -/

namespace DocSite.Script

open DocSite.Text

/-- The escape sequence behind a backslash. -/
def escape? : List Char → Option (Escape × List Char)
  | 'x' :: a :: b :: rest => if isHex a && isHex b then some (.hex [a, b], rest) else none
  | 'u' :: '{' :: rest =>
      match rest.span isHex with
      | (d :: digits, '}' :: after) => some (.codePoint (d :: digits), after)
      | _ => none
  | 'u' :: a :: b :: c :: d :: rest =>
      if [a, b, c, d].all isHex then some (.unit [a, b, c, d], rest) else none
  | c :: rest =>
      if c = 'x' ∨ c = 'u' then none
      else if isDigitOf 8 c then
        match rest with
        | d :: e :: after =>
            if isDigitOf 8 d then
              if isDigitOf 8 e then some (.octal [c, d, e], after)
              else some (.octal [c, d], e :: after)
            else some (.octal [c], rest)
        | [d] => if isDigitOf 8 d then some (.octal [c, d], []) else some (.octal [c], rest)
        | [] => some (.octal [c], [])
      -- These two take a line break behind them into the escape.
      else if c = '\r' ∨ c = '?' then
        match rest with
        | d :: after =>
            if isLineBreak d then some (.lineBreak c d, after) else some (.single c, rest)
        | [] => some (.single c, [])
      else some (.single c, rest)
  | [] => none

/-- Whether `c` stands for itself between delimiters. -/
def isPlainIn (delimiter c : Char) : Bool :=
  c != delimiter && c != '\\' && c != '\r' && c != '\n'

/-- The text behind a gap between the parts of a string literal, where a line break stands. Blanks
are skipped, and then only the delimiter may follow, or a comment, behind which the parts go on. -/
def afterGap? (delimiter : Char) (s : List Char) : Option (List Char) :=
  let behind := s.dropWhile isScriptBlank
  if behind.head? = some delimiter then some behind else afterComment? behind

/-- The parts of a string literal up to its closing delimiter, at most `n` with the gaps between
them. -/
def stringParts? (delimiter : Char) : Nat → List Char → Option (List StringPart × List Char)
  | 0, _ => none
  | n + 1, s =>
      match s with
      | [] => none
      | '\\' :: rest =>
          match escape? rest with
          | some (e, rest) =>
              match stringParts? delimiter n rest with
              | some (parts, after) => some (.escape e :: parts, after)
              | none => none
          | none => none
      | c :: rest =>
          if c = delimiter then some ([], rest)
          else
            match s.span (isPlainIn delimiter) with
            -- A gap is no part.
            | ([], _) =>
                match afterGap? delimiter s with
                | some rest => stringParts? delimiter n rest
                | none => none
            | (text, rest) =>
                match stringParts? delimiter n rest with
                | some (parts, after) => some (.text text :: parts, after)
                | none => none

/-- The string literal that begins here. -/
def string? : List Char → Option (List StringPart × List Char)
  | '"' :: rest => stringParts? '"' (rest.length + 1) rest
  | '\'' :: rest => stringParts? '\'' (rest.length + 1) rest
  | _ => none

/-- The text behind the body of a regular expression. A slash in brackets does not end it, a line
feed is refused. -/
def afterRegexBody (bracketed : Bool) : List Char → Option (List Char)
  | [] => none
  | '\n' :: _ => none
  | '\\' :: c :: rest => if c = '\n' then none else afterRegexBody bracketed rest
  | '[' :: rest => afterRegexBody true rest
  | ']' :: rest => afterRegexBody false rest
  | '/' :: rest => if bracketed then afterRegexBody true rest else some rest
  | _ :: rest => afterRegexBody bracketed rest

/-- A regular expression with its flags. -/
def regex? : List Char → Option (Unit × List Char)
  | '/' :: '/' :: _ => none
  | '/' :: rest =>
      match afterRegexBody false rest with
      | some after => some ((), after.dropWhile (fun c => 'a' ≤ c && c ≤ 'z'))
      | none => none
  | _ => none

namespace Parser

/-- A string literal, behind blanks and comments. -/
def string : Parser (List StringPart) := token string?

end Parser

end DocSite.Script

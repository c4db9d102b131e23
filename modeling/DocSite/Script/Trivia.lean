import DocSite.Text.Blank

/-! # Text between tokens

Blanks and comments separate the tokens of a script. A second kind of comment, `<!--` or `-->` to
the end of its line, is known only where a new statement or operand may begin. Where a statement
lacks its semicolon, the text up to the next token decides whether one is taken as written:
`endsStatement` holds that rule. -/

namespace DocSite.Script

open DocSite.Text

/-- What the skipping of blanks and comments is in the middle of. -/
inductive Skip where
  /-- Between comments. -/
  | between
  /-- In a comment up to the end of the line. -/
  | line
  /-- In a block comment that begins at the given place. -/
  | block (start : List Char)

/-- Skips blanks and comments from the given state on. A block comment that is never closed is
none, so skipping stops in front of it. -/
def skipFrom : Skip → List Char → List Char
  | .between, '/' :: '/' :: rest => skipFrom .line rest
  | .between, '/' :: '*' :: rest => skipFrom (.block ('/' :: '*' :: rest)) rest
  | .between, c :: rest => if isScriptBlank c then skipFrom .between rest else c :: rest
  | .between, [] => []
  | .line, c :: rest => if endsLineComment c then skipFrom .between rest else skipFrom .line rest
  | .line, [] => []
  | .block _, '*' :: '/' :: rest => skipFrom .between rest
  | .block start, _ :: rest => skipFrom (.block start) rest
  | .block start, [] => start

/-- Skips blanks and comments. -/
def skipBlank (s : List Char) : List Char :=
  skipFrom .between s

/-- The text after a markup comment, if one begins here: `<!--` or `-->` and the rest of the
line. -/
def markupComment? : List Char → Option (List Char)
  | '<' :: '!' :: '-' :: '-' :: rest => some (rest.dropWhile (!isLineBreak ·))
  | '-' :: '-' :: '>' :: rest => some (rest.dropWhile (!isLineBreak ·))
  | _ => none

/-- Skips blanks, comments and at most `n` markup comments. -/
def skipTriviaUpTo : Nat → List Char → List Char
  | 0, s => skipBlank s
  | n + 1, s =>
      match markupComment? (skipBlank s) with
      | some rest => skipTriviaUpTo n rest
      | none => skipBlank s

/-- Skips blanks, comments and markup comments. -/
def skipTrivia (s : List Char) : List Char :=
  skipTriviaUpTo s.length s

/-- The text after the block comment whose beginning has been read, and whether the comment
holds a line break; a comment that is never closed reaches to the end. -/
def afterBlock (broken : Bool) : List Char → Bool × List Char
  | '*' :: '/' :: rest => (broken, rest)
  | c :: rest => afterBlock (broken || isLineBreak c) rest
  | [] => (broken, [])

/-- The text after the comment that begins here, if one does. -/
def afterComment? : List Char → Option (List Char)
  | '/' :: '/' :: rest => some (rest.dropWhile (!endsLineComment ·))
  | '/' :: '*' :: rest => some (afterBlock false rest).2
  | _ => none

/-- How a look-ahead over comments on the way to a line break ends. -/
inductive Gap where
  /-- At a slash that begins no comment. -/
  | slash
  /-- Behind a block comment within one line. -/
  | sameLine (rest : List Char)
  /-- Behind comments that end lines, or at a token. -/
  | free (rest : List Char)

/-- Looks over ASCII blanks and at most `n` comments. With `wholly` it goes on behind every block
comment, without it it stops there. -/
def lookOver (wholly : Bool) (broken : Bool) : Nat → List Char → Gap
  | 0, s => .free s
  | n + 1, s =>
      match s.dropWhile isAsciiBlank with
      | '/' :: '/' :: rest => lookOver wholly broken n (rest.dropWhile (!isLineBreak ·))
      | '/' :: '*' :: rest =>
          let (broken, rest) := afterBlock broken rest
          match rest with
          | '/' :: _ => lookOver wholly broken n rest
          | _ =>
              if wholly then lookOver wholly broken n rest
              else if broken then .free rest else .sameLine rest
      | '/' :: _ => .slash
      | rest => .free rest

/-- Whether the word `in` or `instanceof` stands here. -/
def relationWord : List Char → Bool
  | 'i' :: 'n' :: 's' :: 't' :: 'a' :: 'n' :: 'c' :: 'e' :: 'o' :: 'f' :: rest => wordEnds rest
  | 'i' :: 'n' :: rest => wordEnds rest
  | _ => false
where
  /-- Whether no letter follows. -/
  wordEnds : List Char → Bool
    | c :: _ => !c.isAlpha
    | [] => true

/-- Whether a token behind a line break begins a new statement, because it could not continue an
expression. -/
def beginsStatement : List Char → Bool
  | '.' :: rest => match rest with | c :: _ => c.isDigit | [] => false
  | '+' :: rest => match rest with | c :: _ => c == '+' | [] => false
  | '-' :: rest => match rest with | c :: _ => c == '-' | [] => false
  | '!' :: rest => match rest with | c :: _ => c != '=' | [] => true
  | c :: rest => !(['`', ',', ':', ';', '*', '%', '>', '<', '=', '[', '(', '?', '^', '|', '&',
      '/'].contains c) && !relationWord (c :: rest)
  | [] => true

/-- Looks for the end of a statement from a place between tokens, without going behind a comment
that is followed by text on its line. `joins` tells that a `||` could continue what was read; if
it could not, comments that end lines end the statement too, unless a comma or an equals sign
follows. -/
def endsBeforeToken (joins : Bool) : Nat → List Char → Bool
  | 0, _ => false
  | n + 1, s =>
      match s.dropWhile (fun c => isAsciiBlank c && !isLineBreak c) with
      | [] => true
      | '}' :: _ => true
      | '/' :: rest =>
          match lookOver false false (rest.length + 1) ('/' :: rest) with
          | .slash => false
          -- A comment has ended the line.
          | .free after =>
              match after with
              | c :: more =>
                  if !joins && c != ',' && c != '=' then true
                  else if c == '}' then true
                  else if isLineBreak c then startsLine more
                  else isAsciiBlank c && endsBeforeToken joins n more
              | [] => !joins
          -- The line goes on behind the comment.
          | .sameLine after =>
              match after with
              | c :: more =>
                  if c == '}' then true
                  else if isLineBreak c then startsLine more
                  else isAsciiBlank c && endsBeforeToken joins n more
              | [] => false
      | c :: rest => isLineBreak c && startsLine rest
where
  /-- Whether the first token of the text behind a line break begins a statement. -/
  startsLine (s : List Char) : Bool :=
    match lookOver true false (s.length + 1) s with
    | .slash => false
    | .sameLine rest | .free rest => beginsStatement rest

/-- Whether a statement without its semicolon may end at this place: at the end of the text, in
front of a closing brace, or where a line break is followed by a token that could not continue
it. Each comment on the way to the next token gives another such place. -/
def endsStatement (joins : Bool) (s : List Char) : Bool :=
  go (s.length + 1) s
where
  /-- The rule at this place and behind at most `n` comments. -/
  go : Nat → List Char → Bool
    | 0, _ => false
    | n + 1, s =>
        endsBeforeToken joins (s.length + 1) s
          || match afterComment? (s.dropWhile isScriptBlank) with
            | some rest => go n rest
            | none => false

end DocSite.Script

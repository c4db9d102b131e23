import DocSite.Text.Digit
import DocSite.Toml.Value

/-! # Texts and numbers of settings files

Every reader here gives what it has read and the text behind it. Numbers and moments are told apart
by the run of characters that they are made of. -/

namespace DocSite.Toml

open DocSite.Text

/-- Whether `c` may stand in a text or a comment: any character but the controls other than tab. -/
def isAllowed (c : Char) : Bool :=
  c == '\t' || (0x20 ≤ c.toNat && c.toNat != 0x7F)

/-- Skips spaces and tabs. -/
def skipSpaces (s : List Char) : List Char :=
  s.dropWhile fun c => c == ' ' || c == '\t'

/-- The text behind a line break, if one stands here. -/
def lineBreak? : List Char → Option (List Char)
  | '\n' :: rest => some rest
  | '\r' :: '\n' :: rest => some rest
  | _ => none

/-- Skips a comment, if one stands here. -/
def skipComment (s : List Char) : List Char :=
  match s with
  | '#' :: rest => rest.dropWhile isAllowed
  | _ => s

/-- The character of a code given by hexadecimal digits. -/
def charOf? (digits : List Char) : Option Char :=
  match digitsValue? 16 digits with
  | some code => if code.isValidChar then some (Char.ofNat code) else none
  | none => none

/-- The character that an escape stands for, whose backslash has been read. -/
def escape? : List Char → Option (Char × List Char)
  | 'b' :: rest => some ('\x08', rest)
  | 't' :: rest => some ('\t', rest)
  | 'n' :: rest => some ('\n', rest)
  | 'f' :: rest => some ('\x0c', rest)
  | 'r' :: rest => some ('\r', rest)
  | '"' :: rest => some ('"', rest)
  | '\\' :: rest => some ('\\', rest)
  | 'u' :: a :: b :: c :: d :: rest => (charOf? [a, b, c, d]).map (·, rest)
  | 'U' :: a :: b :: c :: d :: e :: f :: g :: h :: rest =>
      (charOf? [a, b, c, d, e, f, g, h]).map (·, rest)
  | _ => none

/-- Skips blanks and line breaks. -/
def skipBlankLines : List Char → List Char
  | ' ' :: rest => skipBlankLines rest
  | '\t' :: rest => skipBlankLines rest
  | '\n' :: rest => skipBlankLines rest
  | '\r' :: '\n' :: rest => skipBlankLines rest
  | s => s

/-- The text behind a backslash at the end of a line, if only blanks are between them. -/
def continuedLine? (s : List Char) : Option (List Char) :=
  match lineBreak? (skipSpaces s) with
  | some rest => some (skipBlankLines rest)
  | none => none

/-- The rest of a text in double quotes on one line, in at most `n` pieces. -/
def basicText? : Nat → List Char → Option (List Char × List Char)
  | 0, _ => none
  | n + 1, s =>
      match s with
      | '"' :: rest => some ([], rest)
      | '\\' :: rest => do
          let (c, rest) ← escape? rest
          let (more, after) ← basicText? n rest
          return (c :: more, after)
      | c :: rest =>
          if isAllowed c then do
            let (more, after) ← basicText? n rest
            return (c :: more, after)
          else none
      | [] => none

/-- The rest of a text in three delimiters, in at most `n` pieces. Up to two delimiters may stand in
front of the closing ones; `escapes` tells whether a backslash begins an escape. -/
def longText? (delimiter : Char) (escapes : Bool) : Nat → List Char → Option (List Char × List Char)
  | 0, _ => none
  | n + 1, s =>
      match s with
      | [] => none
      | c :: rest =>
          if c = delimiter then
            match s.span (· == delimiter) with
            | (run, after) =>
                if run.length < 3 then do
                  let (more, after) ← longText? delimiter escapes n after
                  return (run ++ more, after)
                -- The last three close the text, the others belong to it.
                else if run.length ≤ 5 then some (run.drop 3, after)
                else none
          else if escapes && c == '\\' then
            match continuedLine? rest with
            | some rest => longText? delimiter escapes n rest
            | none => do
                let (c, rest) ← escape? rest
                let (more, after) ← longText? delimiter escapes n rest
                return (c :: more, after)
          else
            match lineBreak? s with
            | some rest => do
                let (more, after) ← longText? delimiter escapes n rest
                return ('\n' :: more, after)
            | none =>
                if isAllowed c then do
                  let (more, after) ← longText? delimiter escapes n rest
                  return (c :: more, after)
                else none

/-- The rest of a text in single quotes on one line. -/
def literalText? (s : List Char) : Option (List Char × List Char) :=
  match s.span fun c => isAllowed c && c != '\'' with
  | (text, '\'' :: after) => some (text, after)
  | _ => none

/-- A text on one line, as keys may be written. -/
def lineText? : List Char → Option (List Char × List Char)
  | '"' :: rest => basicText? (rest.length + 1) rest
  | '\'' :: rest => literalText? rest
  | _ => none

/-- A text. -/
def text? : List Char → Option (List Char × List Char)
  | '"' :: '"' :: '"' :: rest => longText? '"' true (rest.length + 1) ((lineBreak? rest).getD rest)
  | '\'' :: '\'' :: '\'' :: rest =>
      longText? '\'' false (rest.length + 1) ((lineBreak? rest).getD rest)
  | s => lineText? s

/-- Whether every underscore stands between two digits of the class. -/
def separatesDigits (digit : Char → Bool) : List Char → Bool
  | [] => true
  | '_' :: _ => false
  | c :: '_' :: d :: rest => digit c && digit d && separatesDigits digit (d :: rest)
  | [_, '_'] => false
  | c :: rest => digit c && separatesDigits digit rest

/-- The value of digits with underscores between some of them. -/
def digits? (radix : Nat) (s : List Char) : Option Nat :=
  if separatesDigits (isDigitOf radix) s then digitsValue? radix (s.filter (· != '_')) else none

/-- Whether digits are written without needless zeros. -/
def isShort : List Char → Bool
  | '0' :: _ :: _ => false
  | _ => true

/-- A whole number of at most 64 bits with its sign. -/
def integer? (s : List Char) : Option Int :=
  let signed (negative : Bool) (n : Nat) : Option Int :=
    let value : Int := if negative then -n else n
    let bound := Int.ofNat (Nat.pow 2 63)
    if -bound ≤ value ∧ value < bound then some value else none
  match s with
  | '0' :: 'x' :: digits => (digits? 16 digits).bind (signed false)
  | '0' :: 'o' :: digits => (digits? 8 digits).bind (signed false)
  | '0' :: 'b' :: digits => (digits? 2 digits).bind (signed false)
  | '+' :: digits => if isShort digits then (digits? 10 digits).bind (signed false) else none
  | '-' :: digits => if isShort digits then (digits? 10 digits).bind (signed true) else none
  | digits => if isShort digits then (digits? 10 digits).bind (signed false) else none

/-- The exponent of a number, with its sign; it may be missing. -/
def exponent? : List Char → Option Int
  | [] => some 0
  | e :: rest =>
      if e = 'e' ∨ e = 'E' then
        match rest with
        | '+' :: digits => (digits? 10 digits).map Int.ofNat
        | '-' :: digits => (digits? 10 digits).map fun n => -(n : Int)
        | digits => (digits? 10 digits).map Int.ofNat
      else none

/-- A number with a fraction or an exponent. -/
def float? (s : List Char) : Option Double :=
  let (negative, unsigned) := Numeral.splitSign s
  if unsigned = "inf".toList then some (.infinite negative)
  else if unsigned = "nan".toList then some .nan
  else
    let isDigitOrSeparator (c : Char) : Bool := c.isDigit || c == '_'
    let (whole, rest) := unsigned.span isDigitOrSeparator
    if isShort whole && !rest.isEmpty then
      match rest with
      | '.' :: rest => do
          let (fraction, rest) := rest.span isDigitOrSeparator
          let _ ← digits? 10 whole
          let _ ← digits? 10 fraction
          let power ← exponent? rest
          let places := (fraction.filter (· != '_')).length
          let digits ← digitsValue? 10 ((whole ++ fraction).filter (· != '_'))
          return Double.ofDecimal negative digits (power - places)
      | rest => do
          let digits ← digits? 10 whole
          return Double.ofDecimal negative digits (← exponent? rest)
    else none

/-- Reads exactly `n` decimal digits of a number between two bounds. -/
def field? (n low high : Nat) (s : List Char) : Option (Nat × List Char) :=
  match digitsValue? 10 (s.take n) with
  | some value =>
      if (s.take n).length = n ∧ low ≤ value ∧ value ≤ high then some (value, s.drop n) else none
  | none => none

/-- The given character. -/
def exactly (c : Char) : List Char → Option (List Char)
  | d :: rest => if d = c then some rest else none
  | [] => none

/-- The number of days of a month. -/
def daysOf (year month : Nat) : Nat :=
  if month = 2 then
    if year % 4 = 0 ∧ (year % 100 ≠ 0 ∨ year % 400 = 0) then 29 else 28
  else if month = 4 ∨ month = 6 ∨ month = 9 ∨ month = 11 then 30
  else 31

/-- A date: the text behind it. -/
def date? (s : List Char) : Option (List Char) := do
  let (year, s) ← field? 4 0 9999 s
  let s ← exactly '-' s
  let (month, s) ← field? 2 1 12 s
  let s ← exactly '-' s
  let (_, s) ← field? 2 1 (daysOf year month) s
  return s

/-- A time of day: the text behind it. -/
def time? (s : List Char) : Option (List Char) := do
  let (_, s) ← field? 2 0 23 s
  let s ← exactly ':' s
  let (_, s) ← field? 2 0 59 s
  let s ← exactly ':' s
  let (_, s) ← field? 2 0 60 s
  match s with
  | '.' :: fraction =>
      let (digits, s) := fraction.span Char.isDigit
      if digits.isEmpty then none else return s
  | _ => return s

/-- The distance of a clock from universal time, which may be missing: the text behind it. -/
def offset? (s : List Char) : Option (List Char) :=
  match s with
  | 'Z' :: rest | 'z' :: rest => some rest
  | '+' :: rest | '-' :: rest => do
      let (_, s) ← field? 2 0 23 rest
      let s ← exactly ':' s
      let (_, s) ← field? 2 0 59 s
      return s
  | _ => some s

/-- Whether the text is a date, a time or both. -/
def isMoment (s : List Char) : Bool :=
  match time? s with
  | some [] => true
  | _ =>
      match date? s with
      | some [] => true
      | some (c :: rest) =>
          if c = 'T' ∨ c = 't' ∨ c = ' ' then (time? rest).bind offset? == some [] else false
      | none => false

/-- Characters that numbers, moments and truth values are made of. -/
def isScalarChar (c : Char) : Bool :=
  c.isAlphanum || c == '+' || c == '-' || c == '_' || c == '.' || c == ':'

/-- The run of characters that a number, a moment or a truth value takes; a date and a time may have
one space between them. -/
def scalarRun (s : List Char) : List Char × List Char :=
  let (run, rest) := s.span isScalarChar
  match rest with
  | ' ' :: d :: more =>
      if d.isDigit && date? run == some [] then
        let (time, rest) := (d :: more).span isScalarChar
        (run ++ ' ' :: time, rest)
      else (run, rest)
  | _ => (run, rest)

/-- A number, a moment or a truth value. -/
def scalar? (s : List Char) : Option (Value × List Char) :=
  let (run, rest) := scalarRun s
  if run = "true".toList then some (.boolean true, rest)
  else if run = "false".toList then some (.boolean false, rest)
  else
    match integer? run with
    | some n => some (.integer n, rest)
    | none =>
        match float? run with
        | some x => some (.float x, rest)
        | none => if isMoment run then some (.moment, rest) else none

end DocSite.Toml

import DocSite.Script.Expr
import DocSite.Text.Digit

/-! # The text of a string literal

Every escape sequence stands for some characters, and a four-digit escape for one UTF-16 code
unit. A high surrogate waits for the next part: a low surrogate completes it to one character, any
other part leaves the replacement character in its place. -/

namespace DocSite.Script

open DocSite.Text

/-- Stands for what is no character. -/
def replacement : Char := '\uFFFD'

/-- The character with this code, or the replacement character if there is none. -/
def charOfCode (code : Nat) : Char :=
  if code.isValidChar then Char.ofNat code else replacement

/-- The character that hexadecimal digits name. -/
def charOfHex (digits : List Char) : Char :=
  match digitsValue? 16 digits with
  | some code => charOfCode code
  | none => replacement

/-- The characters that an escape stands for by itself. A backslash in front of a line break
stands for nothing, and several octal digits stand for themselves. -/
def Escape.chars : Escape → List Char
  | single 'n' => ['\n']
  | single 't' => ['\t']
  | single 'r' => ['\r']
  | single 'b' => ['\x08']
  | single 'f' => ['\x0c']
  | single 'v' => ['\x0b']
  | single '\n' => []
  | single '\r' => []
  | single c => [c]
  | octal ['0'] => ['\x00']
  | octal digits => digits
  | hex digits => [charOfHex digits]
  | unit digits => [charOfHex digits]
  | codePoint digits => [charOfHex digits]
  | lineBreak '\r' _ => []
  | lineBreak first second => [first, second]

/-- The characters that a part stands for by itself. -/
def StringPart.chars : StringPart → List Char
  | text chars => chars
  | escape e => e.chars

/-- The UTF-16 code unit that a four-digit escape names. -/
def StringPart.unit? : StringPart → Option Nat
  | escape (.unit digits) => digitsValue? 16 digits
  | _ => none

/-- Whether a code unit is the first half of a surrogate pair. -/
def isHighSurrogate (u : Nat) : Bool := 0xD800 ≤ u && u ≤ 0xDBFF

/-- Whether a code unit is the second half of a surrogate pair. -/
def isLowSurrogate (u : Nat) : Bool := 0xDC00 ≤ u && u ≤ 0xDFFF

/-- The character that a surrogate pair encodes. -/
def charOfSurrogates (high low : Nat) : Char :=
  charOfCode (0x10000 + (high - 0xD800) * 0x400 + (low - 0xDC00))

/-- The text of string parts, behind a high surrogate that may be waiting. -/
def textOfPartsFrom : Option Nat → List StringPart → List Char
  | none, [] => []
  | some _, [] => [replacement]
  | none, part :: rest =>
      match part.unit? with
      | some u =>
          if isHighSurrogate u then textOfPartsFrom (some u) rest
          else part.chars ++ textOfPartsFrom none rest
      | none => part.chars ++ textOfPartsFrom none rest
  -- A half waits: only the other half completes it.
  | some high, part :: rest =>
      match part.unit? with
      | some u =>
          if isLowSurrogate u then charOfSurrogates high u :: textOfPartsFrom none rest
          else if isHighSurrogate u then replacement :: textOfPartsFrom (some u) rest
          else replacement :: part.chars ++ textOfPartsFrom none rest
      | none => replacement :: part.chars ++ textOfPartsFrom none rest

/-- The text of a string literal. -/
def textOfParts (parts : List StringPart) : String :=
  String.ofList (textOfPartsFrom none parts)

/-- The name that a key gives to its field. -/
def Key.text : Key → String
  | quoted parts => textOfParts parts
  | word text | computed text => String.ofList text
  | privateName text => String.ofList ('#' :: text)
  | number token => String.ofList token.chars

end DocSite.Script

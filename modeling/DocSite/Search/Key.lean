import DocSite.Text.Alphanumeric
import DocSite.Text.Blank
import DocSite.Text.Digit
import DocSite.Text.Lowercase

/-! # Search keys

A stored key is the lower-case name of a symbol with every ASCII character other than letters and
digits written as `_` and its two hexadecimal digits, followed by `_` and an ordinal. A query is
brought to the same form, without its ends that are neither letters nor digits. -/

namespace DocSite.Search

open DocSite.Text

/-- Whether a character stands for itself in a key. -/
def isKeyChar (c : Char) : Bool :=
  ('a' ≤ c && c ≤ 'z') || c.isDigit || 0x80 ≤ c.toNat

/-- How a lower-case character is written in a key. -/
def keyChar (c : Char) : List Char :=
  if isKeyChar c then [c] else '_' :: hexFixed 2 c.toNat

/-- The characters of a text in key form. -/
def encodeChars (s : List Char) : List Char :=
  (lowercaseAll s).flatMap keyChar

/-- A text in key form, without an ordinal. -/
def encode (text : String) : String :=
  String.ofList (encodeChars text.toList)

@[simp] theorem toList_encode (text : String) :
    (encode text).toList = encodeChars text.toList := by
  simp [encode]

/-- A query in key form, without its ends that are neither letters nor digits. -/
def normalizeQuery (query : String) : String :=
  String.ofList (encodeChars (trimBoth (!isAlphanumeric ·) query.toList))

/-- The text in front of the last separator, and the text behind it. -/
def splitLast? (separator : Char) (s : List Char) : Option (List Char × List Char) :=
  match s.reverse.span (· != separator) with
  | (_, []) => none
  | (last, _ :: first) => some (first.reverse, last.reverse)

/-- A stored key without its ordinal. -/
def stripOrdinal (key : String) : String :=
  match splitLast? '_' key.toList with
  | some (stem, ordinal) =>
      if ordinal ≠ [] ∧ ordinal.all isDecimal then String.ofList stem else key
  | none => key

end DocSite.Search

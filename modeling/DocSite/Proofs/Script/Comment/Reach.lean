import DocSite.Proofs.Script.Reader
import DocSite.Script.Grammar.Markup
import DocSite.Script.Token
import Mathlib.Data.List.TakeDrop
import Mathlib.Data.List.TakeWhile

/-! # How far readers of tokens go

Every reader of a token takes something off the text. A word and given characters are the text that
is taken off. Two readers find something or nothing. -/

namespace DocSite.Script

open DocSite.Text DocSite.Script.Parser

/-! ## Lengths -/

/-- A text is shorter without the characters in front. -/
theorem length_lt_append (c : Char) (w s : List Char) : s.length < (c :: w ++ s).length := by
  rw [List.length_append, List.length_cons]
  omega

/-- Splitting a text does not make it longer. -/
theorem length_span_le (p : Char → Bool) (s : List Char) : (s.span p).2.length ≤ s.length := by
  rw [List.span_eq_takeWhile_dropWhile]
  exact (List.dropWhile_sublist p).length_le

/-- Dropping the beginning of a text does not make it longer. -/
theorem length_dropWhile_le (p : Char → Bool) (s : List Char) :
    (s.dropWhile p).length ≤ s.length :=
  (List.dropWhile_sublist p).length_le

/-- Going to the end of a comment does not make the text longer. -/
theorem length_afterBlock_le (broken : Bool) (s : List Char) :
    (afterBlock broken s).2.length ≤ s.length := by
  fun_induction afterBlock broken s <;> grind

/-- What is behind a comment is shorter. -/
theorem length_afterComment? {s rest : List Char} (h : afterComment? s = some rest) :
    rest.length < s.length := by
  have hdrop := fun s => length_dropWhile_le (!endsLineComment ·) s
  have hblock := fun s => length_afterBlock_le false s
  rw [afterComment?.eq_def] at h
  grind

/-- A Unicode escape is not empty. -/
theorem length_unicodeEscape? {s w rest : List Char} (h : unicodeEscape? s = some (w, rest)) :
    rest.length < s.length := by
  have hspan := fun s => length_span_le isHex s
  rw [unicodeEscape?.eq_def] at h
  grind

/-- Going on with a word does not make the text longer. -/
theorem length_wordTail_le (n : Nat) (s : List Char) : (wordTail n s).2.length ≤ s.length := by
  fun_induction wordTail n s <;> grind [→ length_unicodeEscape?]

/-- A word is not empty. -/
theorem length_word? {s w rest : List Char} (h : word? s = some (w, rest)) :
    rest.length < s.length := by
  rw [word?.eq_def] at h
  grind [→ length_unicodeEscape?, length_wordTail_le]

/-- Reading digits does not make the text longer. -/
theorem length_digitRun_le (digit : Char → Bool) (s : List Char) :
    (digitRun digit s).2.length ≤ s.length := by
  fun_induction digitRun digit s <;> grind

/-- A run of digits is not empty. -/
theorem length_digits? {digit : Char → Bool} (hdigit : digit '_' = false) {s w rest : List Char}
    (h : digits? digit s = some (w, rest)) : rest.length < s.length := by
  rw [digits?.eq_def] at h
  split at h
  next c s =>
    split at h
    next hc =>
      have hmore := length_digitRun_le digit s
      rw [digitRun.eq_def] at h
      grind [length_digitRun_le]
    next => cases h
  next => cases h

/-- Reading an exponent does not make the text longer. -/
theorem length_exponentPart_le (s : List Char) : (exponentPart s).2.length ≤ s.length := by
  have hdecimal : isDecimal '_' = false := by decide
  rw [exponentPart.eq_def]
  grind [→ length_digits?]

/-- A number with a radix mark is not empty. -/
theorem length_markedNumber? {s w rest : List Char} (h : markedNumber? s = some (w, rest)) :
    rest.length < s.length := by
  have hhex : isHex '_' = false := by decide
  have hoctal : isDigitOf 8 '_' = false := by decide
  have hbinary : isDigitOf 2 '_' = false := by decide
  rw [markedNumber?.eq_def] at h
  grind [→ length_digits?]

/-- Reading the mark of a large integer does not make the text longer. -/
theorem length_withLargeMark_le (r : List Char × List Char) :
    (withLargeMark r).2.length ≤ r.2.length := by
  rw [withLargeMark.eq_def]
  grind

/-- A number is not empty. -/
theorem length_number? {s w rest : List Char} (h : number? s = some (w, rest)) :
    rest.length < s.length := by
  have hdecimal : isDecimal '_' = false := by decide
  rw [number?.eq_def] at h
  grind [→ length_digits?, → length_markedNumber?, length_exponentPart_le,
    length_withLargeMark_le]

/-- An escape sequence is not empty. -/
theorem length_escape? {s rest : List Char} {e : Escape} (h : escape? s = some (e, rest)) :
    rest.length < s.length := by
  have hspan := fun s => length_span_le isHex s
  rw [escape?.eq_def] at h
  grind

/-- A gap in a string literal does not make the text longer. -/
theorem length_afterGap?_le {d : Char} {s rest : List Char} (h : afterGap? d s = some rest) :
    rest.length ≤ s.length := by
  have hdrop := length_dropWhile_le isScriptBlank s
  rw [afterGap?] at h
  grind [→ length_afterComment?]

/-- The end of a string literal is not empty. -/
theorem length_stringParts? {d : Char} {n : Nat} {s rest : List Char} {parts : List StringPart}
    (h : stringParts? d n s = some (parts, rest)) : rest.length < s.length := by
  have hspan := fun s => length_span_le (isPlainIn d) s
  fun_induction stringParts? d n s generalizing parts <;>
    grind [→ length_escape?, → length_afterGap?_le]

/-- A string literal is not empty. -/
theorem length_string? {s rest : List Char} {parts : List StringPart}
    (h : string? s = some (parts, rest)) : rest.length < s.length := by
  rw [string?.eq_def] at h
  grind [→ length_stringParts?]

/-- The end of a regular expression is not empty. -/
theorem length_afterRegexBody {bracketed : Bool} {s rest : List Char}
    (h : afterRegexBody bracketed s = some rest) : rest.length < s.length := by
  fun_induction afterRegexBody bracketed s <;> grind

/-- A regular expression is not empty. -/
theorem length_regex? {s rest : List Char} {u : Unit} (h : regex? s = some (u, rest)) :
    rest.length < s.length := by
  have hdrop := length_dropWhile_le
  rw [regex?.eq_def] at h
  grind [→ length_afterRegexBody]

/-- A name in markup is not empty. -/
theorem length_markupWord? {s rest : List Char} {u : Unit} (h : markupWord? s = some (u, rest)) :
    rest.length < s.length := by
  have hdrop := length_dropWhile_le
  rw [markupWord?.eq_def] at h
  grind

/-- A quoted value in markup is not empty. -/
theorem length_markupString? {s rest : List Char} {u : Unit}
    (h : markupString? s = some (u, rest)) : rest.length < s.length := by
  have hdrop := length_dropWhile_le
  rw [markupString?.eq_def] at h
  grind

/-- A markup comment is not empty. -/
theorem length_markupComment? {s rest : List Char} (h : markupComment? s = some rest) :
    rest.length < s.length := by
  have hdrop := length_dropWhile_le
  rw [markupComment?.eq_def] at h
  grind

/-- Given characters are as long as they are. -/
theorem length_chars? {given s rest : List Char} {u : Unit} (h : chars? given s = some (u, rest)) :
    rest.length + given.length = s.length := by
  fun_induction chars? given s <;> grind

/-- Given characters are found in front of every text. -/
theorem chars?_append (given s : List Char) : chars? given (given ++ s) = some ((), s) := by
  induction given with
  | nil => rfl
  | cons c given ih => rw [List.cons_append, chars?, if_pos rfl, ih]

/-- Given characters that are found are in front. -/
theorem eq_append_of_chars? {given s rest : List Char} {u : Unit}
    (h : chars? given s = some (u, rest)) : s = given ++ rest := by
  fun_induction chars? given s <;> grind

/-! ## Words as parts of texts -/

/-- A text is the Unicode escape in front of it with the text behind it. -/
theorem eq_append_of_unicodeEscape? {s w rest : List Char}
    (h : unicodeEscape? s = some (w, rest)) : s = w ++ rest := by
  have hspan (s : List Char) : (s.span isHex).1 ++ (s.span isHex).2 = s := by
    rw [List.span_eq_takeWhile_dropWhile, List.takeWhile_append_dropWhile]
  rw [unicodeEscape?.eq_def] at h
  grind

/-- A text is a part of a word with the text behind it. -/
theorem eq_append_wordTail (n : Nat) (s : List Char) :
    s = (wordTail n s).1 ++ (wordTail n s).2 := by
  fun_induction wordTail n s <;> grind [→ eq_append_of_unicodeEscape?]

/-- A text is the word in front of it with the text behind it. -/
theorem eq_append_of_word? {s w rest : List Char} (h : word? s = some (w, rest)) :
    s = w ++ rest := by
  have htail := fun s => eq_append_wordTail s.length s
  rw [word?.eq_def] at h
  grind [→ eq_append_of_unicodeEscape?]

/-! ## Two results -/

/-- Results that agree are both nothing, or both something. -/
theorem eq_of_rel {α β : Type} {rel : α → β → Prop} {a : Option α} {b : Option β}
    (h : Option.Rel rel a b) :
    a = none ∧ b = none ∨ ∃ x y, a = some x ∧ b = some y ∧ rel x y := by
  cases h with
  | none => exact Or.inl ⟨rfl, rfl⟩
  | some h => exact Or.inr ⟨_, _, rfl, rfl, h⟩

end DocSite.Script

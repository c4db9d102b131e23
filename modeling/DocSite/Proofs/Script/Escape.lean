import DocSite.Proofs.Script.NumberValue
import DocSite.Proofs.Script.Surrogate
import DocSite.Script
import Mathlib.Data.List.TakeDrop
import Mathlib.Data.List.TakeWhile

/-! # What escapes mean

The scripting language says what a backslash and the text behind it stand for (`escapeValue`): a
control character, the character of a code in octal or hexadecimal digits, nothing in front of a
line break, and any other character for itself. An escape that is read may reach further than that,
for up to three octal digits and a carriage return with a separator behind it are one escape; what
is left of it then stands for itself.

Escapes are told apart by their form (`Escape.IsFound`), and the values are compared form by form.
Codes in hexadecimal digits are right at any length, because digits are read as their value by
places (`charOfHex_eq`). Octal codes other than `\0` and the two Unicode line breaks are misread
(`Escape.IsMisread`). An escape that is no half of a pair adds its characters to a literal whatever
stands around it (`toList_textOfParts_append`). The main statement is `escape_value_iff`. -/

namespace DocSite.Script

open DocSite.Text

/-! ## The language -/

/-- The letters that stand for a control character behind a backslash. -/
def controlLetters : List (Char × Char) :=
  [('b', '\x08'), ('t', '\t'), ('n', '\n'), ('v', '\x0b'), ('f', '\x0c'), ('r', '\r')]

/-- The characters that end a line. -/
def lineEnds : List Char := ['\n', '\r', '\u2028', '\u2029']

/-- How many octal digits a code may have that begins with `c`: no code is beyond 0xFF. -/
def octalLimit (c : Char) : Nat := if c ≤ '3' then 3 else 2

/-- The octal digits in front of a text that make up one code, as many as there are. -/
def octalCode : List Char → List Char
  | [] => []
  | c :: rest => ((c :: rest).take (octalLimit c)).takeWhile (isDigitOf 8)

/-- What the language makes of the text behind a backslash: the characters that the escape there
stands for, and the text behind the escape. -/
def escapeValue : List Char → List Char × List Char
  | 'x' :: a :: b :: rest => ([charOfCode (placeValue 16 [a, b])], rest)
  | 'u' :: '{' :: rest =>
      ([charOfCode (placeValue 16 (rest.takeWhile isHex))], (rest.dropWhile isHex).drop 1)
  | 'u' :: a :: b :: c :: d :: rest => ([charOfCode (placeValue 16 [a, b, c, d])], rest)
  -- A carriage return and a line feed are one line break.
  | '\r' :: '\n' :: rest => ([], rest)
  | c :: rest =>
      if c ∈ lineEnds then ([], rest)
      else if isDigitOf 8 c then
        let digits := octalCode (c :: rest)
        ([charOfCode (placeValue 8 digits)], (c :: rest).drop digits.length)
      else ([(controlLetters.lookup c).getD c], rest)
  | [] => ([], [])

/-! ## Forms of escapes -/

/-- Where an escape of some form is found in front of a text. -/
inductive Escape.IsFound : Escape → List Char → List Char → Prop where
  /-- One character, unless more of the text belongs to it. -/
  | single {c : Char} {rest : List Char} (hx : c ≠ 'x') (hu : c ≠ 'u')
      (hdigit : isDigitOf 8 c = false) (hbreak : c = '\r' → rest.head? ≠ some '\n') :
      IsFound (.single c) (c :: rest) rest
  /-- Octal digits, as many as there are up to three. -/
  | octal {c : Char} {digits rest : List Char} (hdigits : ∀ d ∈ c :: digits, isDigitOf 8 d = true)
      (hlength : digits.length ≤ 2)
      (hrest : digits.length < 2 → ∀ d ∈ rest.head?, isDigitOf 8 d = false) :
      IsFound (.octal (c :: digits)) (c :: digits ++ rest) rest
  /-- Two hexadecimal digits. -/
  | hex {a b : Char} {rest : List Char} (hdigits : ∀ d ∈ [a, b], isHex d = true) :
      IsFound (.hex [a, b]) ('x' :: a :: b :: rest) rest
  /-- Four hexadecimal digits. -/
  | unit {a b c d : Char} {rest : List Char} (hdigits : ∀ x ∈ [a, b, c, d], isHex x = true) :
      IsFound (.unit [a, b, c, d]) ('u' :: a :: b :: c :: d :: rest) rest
  /-- Any number of hexadecimal digits in braces. -/
  | codePoint {digits rest : List Char} (hne : digits ≠ [])
      (hdigits : ∀ d ∈ digits, isHex d = true) :
      IsFound (.codePoint digits) ('u' :: '{' :: digits ++ '}' :: rest) rest
  /-- A carriage return or a question mark, with the line break behind it. -/
  | lineBreak {first second : Char} {rest : List Char} (hfirst : first = '\r' ∨ first = '?')
      (hsecond : isLineBreak second = true) :
      IsFound (.lineBreak first second) (first :: second :: rest) rest

/-- An octal digit begins no other form of escape. -/
theorem ne_of_isOctal {c : Char} (h : isDigitOf 8 c = true) : c ≠ 'x' ∧ c ≠ 'u' ∧ c ∉ lineEnds := by
  refine ⟨?_, ?_, fun hmem => ?_⟩
  · rintro rfl
    exact absurd h (by decide)
  · rintro rfl
    exact absurd h (by decide)
  · simp only [lineEnds, List.mem_cons, List.not_mem_nil, or_false] at hmem
    rcases hmem with rfl | rfl | rfl | rfl <;> exact absurd h (by decide)

/-- Octal digits are taken as far as they go, but no more than three. -/
theorem isFound_of_octal {c : Char} {t rest : List Char} {e : Escape} (hc : isDigitOf 8 c = true)
    (h : escape? (c :: t) = some (e, rest)) : e.IsFound (c :: t) rest := by
  obtain ⟨hx, hu, -⟩ := ne_of_isOctal hc
  rw [escape?.eq_def] at h
  split at h
  next heq => exact absurd (List.cons.inj heq).1 hx
  next heq => exact absurd (List.cons.inj heq).1 hu
  next heq => exact absurd (List.cons.inj heq).1 hu
  next hpair hbrace hunit heq =>
    clear hpair hbrace hunit
    cases heq
    rw [if_neg (not_or.2 ⟨hx, hu⟩), if_pos hc] at h
    split at h
    next d x after =>
      split at h
      next hd =>
        split at h
        next hlast =>
          cases h
          exact @Escape.IsFound.octal c [d, x] _ (by simp [hc, hd, hlast]) (by simp) (by simp)
        next hlast =>
          cases h
          exact @Escape.IsFound.octal c [d] _ (by simp [hc, hd]) (by simp) (by simp [hlast])
      next hd =>
        cases h
        exact @Escape.IsFound.octal c [] _ (by simp [hc]) (by simp) (by simp [hd])
    next d =>
      split at h
      next hd =>
        cases h
        exact @Escape.IsFound.octal c [d] _ (by simp [hc, hd]) (by simp) (by simp)
      next hd =>
        cases h
        exact @Escape.IsFound.octal c [] _ (by simp [hc]) (by simp) (by simp [hd])
    next =>
      cases h
      exact @Escape.IsFound.octal c [] _ (by simp [hc]) (by simp) (by simp)
  next heq => cases heq

/-- **An escape that is read has one of these forms.** -/
theorem isFound_of_escape? {s rest : List Char} {e : Escape} (h : escape? s = some (e, rest)) :
    e.IsFound s rest := by
  have hread := h
  rw [escape?.eq_def] at h
  split at h
  next a b t =>
    split at h
    next hdigits =>
      cases h
      exact .hex (by simpa using hdigits)
    next => cases h
  next t =>
    split at h
    next d digits after hspan =>
      cases h
      rw [List.span_eq_takeWhile_dropWhile, Prod.mk.injEq] at hspan
      obtain ⟨htake, hdrop⟩ := hspan
      have ht : t = (d :: digits) ++ '}' :: rest := by
        rw [← htake, ← hdrop, List.takeWhile_append_dropWhile]
      rw [ht]
      refine .codePoint (List.cons_ne_nil d digits) fun c hc => ?_
      rw [← htake] at hc
      exact List.mem_takeWhile_imp hc
    next => cases h
  next a b c d t _ =>
    split at h
    next hdigits =>
      cases h
      exact .unit (by simpa using hdigits)
    next => cases h
  next c t _ _ _ =>
    split at h
    next => cases h
    next hletter =>
      obtain ⟨hx, hu⟩ := not_or.1 hletter
      split at h
      next hc => exact isFound_of_octal hc hread
      next hc =>
        rw [Bool.not_eq_true] at hc
        split at h
        next hfirst =>
          split at h
          next d after =>
            split at h
            next hd =>
              cases h
              exact .lineBreak hfirst hd
            next hd =>
              cases h
              refine .single hx hu hc fun _ hfeed => hd ?_
              rw [Option.some.inj hfeed]
              rfl
          next =>
            cases h
            refine .single hx hu hc fun _ hfeed => ?_
            cases hfeed
        next hfirst =>
          cases h
          exact .single hx hu hc fun hreturn => absurd (Or.inl hreturn) hfirst
  next => cases h

/-! ## Values by form -/

/-- What is no letter with digits behind it and no pair of line breaks has the value of its first
character, or of the octal digits from there on. -/
theorem escapeValue_cons {c : Char} {rest : List Char} (hx : c ≠ 'x') (hu : c ≠ 'u')
    (hbreak : c = '\r' → rest.head? ≠ some '\n') :
    escapeValue (c :: rest) = if c ∈ lineEnds then ([], rest)
      else if isDigitOf 8 c then
        ([charOfCode (placeValue 8 (octalCode (c :: rest)))],
          (c :: rest).drop (octalCode (c :: rest)).length)
      else ([(controlLetters.lookup c).getD c], rest) := by
  rw [escapeValue.eq_def]
  split
  next heq => exact absurd (List.cons.inj heq).1 hx
  next heq => exact absurd (List.cons.inj heq).1 hu
  next heq => exact absurd (List.cons.inj heq).1 hu
  next heq =>
    obtain ⟨hreturn, hfeed⟩ := List.cons.inj heq
    exact absurd (congrArg List.head? hfeed) (hbreak hreturn)
  next heq =>
    cases heq
    rfl
  next heq => cases heq

/-- **The code in hexadecimal digits is their value by places**, however many there are. -/
theorem charOfHex_eq {digits : List Char} (hne : digits ≠ [])
    (hdigits : ∀ d ∈ digits, isHex d = true) :
    charOfHex digits = charOfCode (placeValue 16 digits) := by
  rw [charOfHex, digitsValue?_eq_some_iff.2 ⟨hne, hdigits, rfl⟩]

/-- Digits in front of what is no digit are taken up to a width, unless there are more of them. -/
theorem takeWhile_take_append {p : Char → Bool} {digits rest : List Char} {width : Nat}
    (hdigits : ∀ d ∈ digits, p d = true)
    (hrest : digits.length < width → ∀ d ∈ rest.head?, p d = false) :
    ((digits ++ rest).take width).takeWhile p = digits.take width := by
  induction digits generalizing width with
  | nil =>
      cases width with
      | zero => rfl
      | succ width =>
          cases rest with
          | nil => rfl
          | cons d more => simp [hrest (Nat.succ_pos width) d rfl]
  | cons c digits ih =>
      cases width with
      | zero => rfl
      | succ width =>
          obtain ⟨hc, hmore⟩ := List.forall_mem_cons.1 hdigits
          have htake := ih hmore fun hlt => hrest (Nat.succ_lt_succ hlt)
          rw [List.cons_append, List.take_succ_cons, List.takeWhile_cons_of_pos hc, htake,
            List.take_succ_cons]

/-- Behind the part of a text that fits a width comes the rest of it. -/
theorem drop_length_take_append (width : Nat) (s rest : List Char) :
    (s ++ rest).drop (s.take width).length = s.drop width ++ rest := by
  conv => lhs; arg 2; rw [← List.take_append_drop width s, List.append_assoc]
  exact List.drop_left

/-- A digit of a radix has a value below it. -/
theorem getD_digitValue?_lt {radix : Nat} {c : Char} (h : isDigitOf radix c = true) :
    (digitValue? radix c).getD 0 < radix := by
  obtain ⟨n, hn⟩ := Option.isSome_iff_exists.1 h
  rw [hn]
  exact of_decide_eq_true (Option.filter_eq_some_iff.1 hn).2

/-- An octal digit is not the character of its own value. -/
theorem charOfCode_placeValue_ne {c : Char} (h : isDigitOf 8 c = true) :
    charOfCode (placeValue 8 [c]) ≠ c := by
  have hvalue : placeValue 8 [c] < 8 := by simpa [placeValue_cons] using getD_digitValue?_lt h
  have hvalid : (placeValue 8 [c]).isValidChar := Or.inl (by omega)
  intro heq
  have hcode : c.toNat = placeValue 8 [c] := by
    conv => lhs; rw [← heq, charOfCode, if_pos hvalid]
    rw [Char.ofNat, dif_pos hvalid]
    rfl
  have hlow : 48 ≤ c.toNat := (toNat_of_isDigitOf h).1
  omega

/-- What one character behind a backslash stands for. -/
theorem chars_single (c : Char) : (Escape.single c).chars
    = if c = '\n' ∨ c = '\r' then [] else [(controlLetters.lookup c).getD c] := by
  by_cases hletter : c ∈ controlLetters.map Prod.fst
  · simp only [controlLetters, List.map_cons, List.map_nil, List.mem_cons, List.not_mem_nil,
      or_false] at hletter
    rcases hletter with rfl | rfl | rfl | rfl | rfl | rfl <;> rfl
  · have hlookup : controlLetters.lookup c = none := by
      rw [List.lookup_eq_none_iff]
      intro letter hmem
      rw [bne_iff_ne]
      rintro rfl
      exact hletter (List.mem_map_of_mem hmem)
    by_cases hbreak : c = '\n' ∨ c = '\r'
    · rw [if_pos hbreak]
      rcases hbreak with rfl | rfl <;> rfl
    · rw [if_neg hbreak, hlookup, Escape.chars.eq_def]
      -- The other rows are for the letters and the two line breaks.
      split
      all_goals simp_all [controlLetters]

/-! ## Misread escapes -/

/-- Whether an escape is read as something other than the language has it: an octal code other than
`\0`, a line continued over one of the two separators, and a carriage return that takes a separator
with it. -/
def Escape.IsMisread : Escape → Prop
  | .single c => c = '\u2028' ∨ c = '\u2029'
  | .octal digits => digits ≠ ['0']
  | .lineBreak first second => first = '\r' ∧ second ≠ '\n'
  | _ => False

variable {s rest : List Char} {e : Escape}

/-- One character has its value, unless it is a separator. -/
theorem value_single {c : Char} (hx : c ≠ 'x') (hu : c ≠ 'u') (hdigit : isDigitOf 8 c = false)
    (hbreak : c = '\r' → rest.head? ≠ some '\n') :
    (escapeValue (c :: rest)).2 = rest ∧
      ((Escape.single c).chars = (escapeValue (c :: rest)).1 ↔ ¬(Escape.single c).IsMisread) := by
  have hvalue : escapeValue (c :: rest)
      = if c ∈ lineEnds then ([], rest) else ([(controlLetters.lookup c).getD c], rest) := by
    rw [escapeValue_cons hx hu hbreak, hdigit, if_neg Bool.false_ne_true]
  rw [hvalue, chars_single]
  by_cases hfeed : c = '\n' ∨ c = '\r'
  · have hends : c ∈ lineEnds := by rcases hfeed with rfl | rfl <;> decide
    have hright : ¬(Escape.single c).IsMisread := by
      rcases hfeed with rfl | rfl <;> simp [Escape.IsMisread]
    simp [hfeed, hends, hright]
  · have hends : c ∈ lineEnds ↔ (Escape.single c).IsMisread := by
      simp [lineEnds, Escape.IsMisread, not_or.1 hfeed]
    by_cases hmisread : (Escape.single c).IsMisread
    · simp [hfeed, hends, hmisread]
    · simp [hfeed, hends, hmisread]

/-- A code has two octal digits at least, if there are as many, and three at most. -/
theorem octalLimit_bounds (c : Char) : 2 ≤ octalLimit c ∧ octalLimit c ≤ 3 := by
  unfold octalLimit
  split <;> omega

/-- Octal digits have the value of the code that they begin with, and those behind it are left. -/
theorem escapeValue_octal {c : Char} {digits : List Char}
    (hdigits : ∀ d ∈ c :: digits, isDigitOf 8 d = true)
    (hrest : digits.length < 2 → ∀ d ∈ rest.head?, isDigitOf 8 d = false) :
    escapeValue (c :: digits ++ rest)
      = ([charOfCode (placeValue 8 ((c :: digits).take (octalLimit c)))],
        (c :: digits).drop (octalLimit c) ++ rest) := by
  have hc : isDigitOf 8 c = true := hdigits c List.mem_cons_self
  obtain ⟨hx, hu, hends⟩ := ne_of_isOctal hc
  have hreturn : c = '\r' → (digits ++ rest).head? ≠ some '\n' := by
    rintro rfl
    exact absurd (by decide) hends
  have hcode : octalCode (c :: digits ++ rest) = (c :: digits).take (octalLimit c) := by
    apply takeWhile_take_append hdigits
    intro hlt
    have hlimit := (octalLimit_bounds c).2
    rw [List.length_cons] at hlt
    exact hrest (by omega)
  rw [List.cons_append, escapeValue_cons hx hu hreturn, if_neg hends, if_pos hc,
    ← List.cons_append, hcode, drop_length_take_append]

/-- Of the octal codes only `\0` is read as its value: every other one is read as its digits. -/
theorem value_octal {c : Char} {digits : List Char}
    (hdigits : ∀ d ∈ c :: digits, isDigitOf 8 d = true)
    (hrest : digits.length < 2 → ∀ d ∈ rest.head?, isDigitOf 8 d = false) :
    ∃ left, (escapeValue (c :: digits ++ rest)).2 = left ++ rest ∧
      ((Escape.octal (c :: digits)).chars = (escapeValue (c :: digits ++ rest)).1 ++ left ↔
        ¬(Escape.octal (c :: digits)).IsMisread) := by
  have hlimit := (octalLimit_bounds c).1
  refine ⟨(c :: digits).drop (octalLimit c), by rw [escapeValue_octal hdigits hrest], ?_⟩
  rw [escapeValue_octal hdigits hrest]
  by_cases hnul : c :: digits = ['0']
  · cases hnul
    refine iff_of_true ?_ fun hmisread => hmisread rfl
    show ['\x00'] = [charOfCode (placeValue 8 (['0'].take (octalLimit '0')))]
      ++ ['0'].drop (octalLimit '0')
    decide
  · have hchars : (Escape.octal (c :: digits)).chars = c :: digits := by
      rw [Escape.chars]
      exact hnul
    rw [hchars]
    refine iff_of_false ?_ fun hright => hright hnul
    intro heq
    -- One character takes the place of two digits at least, so there is one digit only.
    have hcount := congrArg List.length heq
    rw [List.length_append, List.length_singleton, List.length_drop, List.length_cons] at hcount
    have hone : digits = [] := List.length_eq_zero_iff.1 (by omega)
    have htake : (c :: digits).take (octalLimit c) = [c] := by
      rw [hone]
      exact List.take_of_length_le (by simpa using Nat.le_of_succ_le hlimit)
    rw [htake] at heq
    have hc : isDigitOf 8 c = true := hdigits c List.mem_cons_self
    exact charOfCode_placeValue_ne hc (List.cons.inj heq).1.symm

/-- Hexadecimal digits in braces are taken up to the brace. -/
theorem escapeValue_codePoint {digits : List Char} (hdigits : ∀ d ∈ digits, isHex d = true) :
    escapeValue ('u' :: '{' :: digits ++ '}' :: rest)
      = ([charOfCode (placeValue 16 digits)], rest) := by
  have hbrace : ¬isHex '}' = true := by decide
  rw [List.cons_append, List.cons_append, escapeValue, List.takeWhile_append_of_pos hdigits,
    List.dropWhile_append_of_pos hdigits, List.takeWhile_cons_of_neg hbrace,
    List.dropWhile_cons_of_neg hbrace, List.append_nil]
  rfl

/-- Four hexadecimal digits are taken together. -/
theorem escapeValue_unit {a b c d : Char} (ha : isHex a = true) :
    escapeValue ('u' :: a :: b :: c :: d :: rest)
      = ([charOfCode (placeValue 16 [a, b, c, d])], rest) := by
  rw [escapeValue]
  rintro rfl
  exact absurd ha (by decide)

/-- A line break goes on behind a carriage return with a line feed only. A question mark stands for
itself, and so does the line break behind it. -/
theorem value_lineBreak {first second : Char} (hfirst : first = '\r' ∨ first = '?')
    (hsecond : isLineBreak second = true) :
    ∃ left, (escapeValue (first :: second :: rest)).2 = left ++ rest ∧
      ((Escape.lineBreak first second).chars
          = (escapeValue (first :: second :: rest)).1 ++ left ↔
        ¬(Escape.lineBreak first second).IsMisread) := by
  by_cases hfeed : second = '\n'
  · subst hfeed
    rcases hfirst with rfl | rfl
    · exact ⟨[], rfl, iff_of_true rfl fun hmisread => hmisread.2 rfl⟩
    · refine ⟨['\n'], rfl, iff_of_true rfl fun hmisread => absurd hmisread.1 (by decide)⟩
  · have hvalue : escapeValue (first :: second :: rest)
        = (if first = '\r' then [] else [first], second :: rest) := by
      rw [escapeValue_cons]
      · rcases hfirst with rfl | rfl <;> rfl
      · rcases hfirst with rfl | rfl <;> decide
      · rcases hfirst with rfl | rfl <;> decide
      · intro _ hhead
        exact hfeed (Option.some.inj hhead)
    refine ⟨[second], by rw [hvalue]; rfl, ?_⟩
    rw [hvalue]
    rcases hfirst with rfl | rfl
    · exact iff_of_false (List.cons_ne_nil second []).symm fun hright => hright ⟨rfl, hfeed⟩
    · exact iff_of_true rfl fun hmisread => absurd hmisread.1 (by decide)

/-- **An escape is read as the language has it exactly if it is not one of those that are
misread.** -/
theorem Escape.IsFound.value_iff (h : e.IsFound s rest) :
    ∃ left, (escapeValue s).2 = left ++ rest ∧
      (e.chars = (escapeValue s).1 ++ left ↔ ¬e.IsMisread) := by
  have hne (a : Char) (digits : List Char) : a :: digits ≠ [] := List.cons_ne_nil a digits
  cases h with
  | single hx hu hdigit hbreak =>
      obtain ⟨hrest, hchars⟩ := value_single hx hu hdigit hbreak
      exact ⟨[], hrest, by rw [List.append_nil, hchars]⟩
  | octal hdigits _ hrest => exact value_octal hdigits hrest
  | hex hdigits =>
      refine ⟨[], rfl, iff_of_true ?_ id⟩
      rw [Escape.chars, charOfHex_eq (hne _ _) hdigits]
      rfl
  | @unit a b c d _ hdigits =>
      have hvalue : escapeValue ('u' :: a :: b :: c :: d :: rest) = _ :=
        escapeValue_unit (List.forall_mem_cons.1 hdigits).1
      refine ⟨[], by rw [hvalue]; rfl, iff_of_true ?_ id⟩
      rw [hvalue, Escape.chars, charOfHex_eq (hne _ _) hdigits]
      rfl
  | @codePoint digits _ hdigit hdigits =>
      have hvalue : escapeValue ('u' :: '{' :: digits ++ '}' :: rest) = _ :=
        escapeValue_codePoint hdigits
      refine ⟨[], by rw [hvalue]; rfl, iff_of_true ?_ id⟩
      rw [hvalue, Escape.chars, charOfHex_eq hdigit hdigits]
      rfl
  | lineBreak hfirst hsecond => exact value_lineBreak hfirst hsecond

/-! ## Escapes in literals -/

/-- Whether an escape is half of a surrogate pair. -/
def Escape.IsHalf (e : Escape) : Prop :=
  ∃ u ∈ (StringPart.escape e).unit?, isHighSurrogate u = true ∨ isLowSurrogate u = true

/-- A part that is no half of a pair adds its characters to those of the parts in front of it, and
no half waits behind it. -/
theorem textOfPartsFrom_append {part : StringPart}
    (hpart : ∀ u ∈ part.unit?, isHighSurrogate u = false ∧ isLowSurrogate u = false)
    (waiting : Option Nat) (front behind : List StringPart) :
    textOfPartsFrom waiting (front ++ part :: behind)
      = textOfPartsFrom waiting front ++ part.chars ++ textOfPartsFrom none behind := by
  -- Every part in front may leave another half waiting.
  induction front generalizing waiting with
  | nil =>
      cases hunit : part.unit? with
      | none => cases waiting <;> simp [textOfPartsFrom, hunit]
      | some u =>
          obtain ⟨hhigh, hlow⟩ := hpart u hunit
          cases waiting <;> simp [textOfPartsFrom, hunit, hhigh, hlow]
  | cons first front ih =>
      rw [List.cons_append]
      cases waiting with
      | none =>
          rw [textOfPartsFrom, textOfPartsFrom]
          cases first.unit? with
          | none => simp [ih]
          | some u => by_cases hhigh : isHighSurrogate u = true <;> simp [hhigh, ih]
      | some half =>
          rw [textOfPartsFrom, textOfPartsFrom]
          cases first.unit? with
          | none => simp [ih]
          | some u =>
              by_cases hlow : isLowSurrogate u = true
              · simp [hlow, ih]
              · by_cases hhigh : isHighSurrogate u = true <;> simp [hlow, hhigh, ih]

/-- **An escape is decoded by itself** unless it is half of a pair. -/
theorem toList_textOfParts_append (he : ¬e.IsHalf) (front behind : List StringPart) :
    (textOfParts (front ++ .escape e :: behind)).toList
      = (textOfParts front).toList ++ e.chars ++ (textOfParts behind).toList := by
  simp only [textOfParts, String.toList_ofList]
  refine textOfPartsFrom_append (fun u hu => ?_) none front behind
  rw [← Bool.not_eq_true, ← Bool.not_eq_true, ← not_or]
  exact fun hhalf => he ⟨u, hu, hhalf⟩

/-- **An escape that is no half of a pair adds the text to a literal that the language gives it,
exactly if it is not one of those that are misread.** What is left of it behind the value stands for
itself. -/
theorem escape_value_iff (h : escape? s = some (e, rest)) (he : ¬e.IsHalf) :
    (∀ front behind, (textOfParts (front ++ .escape e :: behind)).toList
        = (textOfParts front).toList ++ e.chars ++ (textOfParts behind).toList) ∧
      ∃ left, (escapeValue s).2 = left ++ rest ∧
        (e.chars = (escapeValue s).1 ++ left ↔ ¬e.IsMisread) :=
  ⟨toList_textOfParts_append he, (isFound_of_escape? h).value_iff⟩

/-- A code in braces stands for its character with any zeros in front of it. -/
theorem escape_value_iff_padded :
    escape? "u\x7b0000000001F600\x7d-".toList = some (.codePoint "0000000001F600".toList, ['-']) ∧
      ¬(Escape.codePoint "0000000001F600".toList).IsHalf ∧
      ∀ front behind,
        (textOfParts (front ++ .escape (.codePoint "0000000001F600".toList) :: behind)).toList
          = (textOfParts front).toList ++ [Char.ofNat 0x1F600] ++ (textOfParts behind).toList := by
  have h : escape? "u\x7b0000000001F600\x7d-".toList
      = some (.codePoint "0000000001F600".toList, ['-']) := rfl
  have he : ¬(Escape.codePoint "0000000001F600".toList).IsHalf := by
    rintro ⟨u, hu, -⟩
    cases hu
  obtain ⟨hadds, left, hrest, hvalue⟩ := escape_value_iff h he
  have hleft : escapeValue "u\x7b0000000001F600\x7d-".toList = ([Char.ofNat 0x1F600], ['-']) := by
    decide +kernel
  rw [hleft] at hrest hvalue
  have hnone : left = [] := List.append_left_eq_self.1 hrest.symm
  refine ⟨h, he, fun front behind => ?_⟩
  rw [hadds, hvalue.2 id, hnone, List.append_nil]

/-- Whether a script binds a string with the text. -/
def holdsText (text : String) (script : Script) : Bool :=
  script.bindings.any fun binding => match binding.2 with
    | .string found => found == text
    | _ => false

/-- **An escape may be misread.** `\101` is a capital A and a line goes on behind a separator, but
the digits and the separator are kept. -/
theorem escape_misread :
    (escape? "101".toList = some (.octal "101".toList, []) ∧
      escapeValue "101".toList = (['A'], []) ∧
        (Script.parse "var A = \"\\101\";").toOption.any (holdsText "101") = true) ∧
      (escape? ['\u2028'] = some (.single '\u2028', []) ∧ escapeValue ['\u2028'] = ([], []) ∧
        (Script.parse "var A = \"\\\u2028\";").toOption.any (holdsText "\u2028") = true) ∧
      escape? ['\r', '\u2028'] = some (.lineBreak '\r' '\u2028', []) ∧
        escapeValue ['\r', '\u2028'] = ([], ['\u2028']) ∧
          (Script.parse "var A = \"\\\r\u2028\";").toOption.any (holdsText "") = true := by
  refine ⟨⟨rfl, ?_, ?_⟩, ⟨rfl, ?_, ?_⟩, rfl, ?_, ?_⟩
  all_goals decide +kernel

end DocSite.Script

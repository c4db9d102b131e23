import DocSite.Number.Numeral
import DocSite.Proofs.Text.Digit

/-! # Which texts are numerals

`Numeral.value?` gives a text a value or refuses it. This file says which texts it takes: digits
behind a radix mark that stand for at most 64 bits, and decimals or certain words with an optional
sign (`IsNumeral`). The main statement is `isSome_value?_iff`; each part of a decimal has a lemma of
the same form. -/

namespace DocSite.Numeral

open DocSite.Text

/-! ## Digits -/

/-- Digits of a radix, at least one. -/
structure IsDigits (radix : Nat) (s : List Char) : Prop where
  /-- There is one. -/
  ne_nil : s ≠ []
  /-- All are digits. -/
  mem : ∀ c ∈ s, isDigitOf radix c = true

/-- What continues a number has a value exactly if all of it are digits. -/
theorem isSome_digitsValueFrom?_iff {radix acc : Nat} {s : List Char} :
    (digitsValueFrom? radix acc s).isSome = true ↔ ∀ c ∈ s, isDigitOf radix c = true := by
  induction s generalizing acc with
  | nil => simp [digitsValueFrom?]
  | cons c rest ih =>
      rw [digitsValueFrom?, List.forall_mem_cons, isDigitOf]
      cases digitValue? radix c with
      | none => simp
      | some d => simp [ih]

/-- **A text has a value in a radix exactly if it is digits.** -/
theorem isSome_digitsValue?_iff {radix : Nat} {s : List Char} :
    (digitsValue? radix s).isSome = true ↔ IsDigits radix s := by
  cases s with
  | nil => exact ⟨(fun h => nomatch h), fun h => absurd rfl h.ne_nil⟩
  | cons c rest =>
      rw [digitsValue?, isSome_digitsValueFrom?_iff]
      exact ⟨fun h => ⟨List.cons_ne_nil c rest, h⟩, fun h => h.mem⟩

/-- Digits in front of what is no digit are all that is taken. -/
theorem span_digits {digits rest : List Char} (h : ∀ c ∈ digits, isDecimal c = true)
    (hrest : ∀ c more, rest = c :: more → isDecimal c = false) :
    (digits ++ rest).takeWhile isDecimal = digits ∧ (digits ++ rest).dropWhile isDecimal = rest := by
  rw [List.takeWhile_append_of_pos h, List.dropWhile_append_of_pos h]
  cases rest with
  | nil => exact ⟨List.append_nil digits, rfl⟩
  | cons c more =>
      have hc : ¬isDecimal c = true := by
        rw [hrest c more rfl]
        exact Bool.false_ne_true
      rw [List.takeWhile_cons_of_neg hc, List.dropWhile_cons_of_neg hc, List.append_nil]
      exact ⟨rfl, rfl⟩

/-! ## Signs and exponents -/

/-- The signs in front of digits: none, plus and minus. -/
def signs : List (List Char) := [[], ['+'], ['-']]

/-- A sign holds nothing but plus or minus. -/
theorem eq_of_mem_sign {sign : List Char} {c : Char} (hsign : sign ∈ signs) (hc : c ∈ sign) :
    c = '+' ∨ c = '-' := by
  simp only [signs, List.mem_cons, List.not_mem_nil, or_false] at hsign
  rcases hsign with rfl | rfl | rfl
  · cases hc
  · exact Or.inl (List.mem_singleton.1 hc)
  · exact Or.inr (List.mem_singleton.1 hc)

/-- A sign is split off from what follows it. -/
theorem exists_splitSign (s : List Char) : ∃ sign ∈ signs, s = sign ++ (splitSign s).2 := by
  rw [splitSign.eq_def]
  split
  · exact ⟨['-'], by decide, rfl⟩
  · exact ⟨['+'], by decide, rfl⟩
  · exact ⟨[], by decide, rfl⟩

/-- What follows a sign, if it has no sign of its own, is what is left. -/
theorem splitSign_append {sign body : List Char} (hsign : sign ∈ signs)
    (hbody : ∀ c rest, body = c :: rest → c ≠ '+' ∧ c ≠ '-') : (splitSign (sign ++ body)).2 = body := by
  simp only [signs, List.mem_cons, List.not_mem_nil, or_false] at hsign
  rcases hsign with rfl | rfl | rfl
  · rw [List.nil_append, splitSign.eq_def]
    split
    next rest => exact absurd rfl (hbody '-' rest rfl).2
    next rest => exact absurd rfl (hbody '+' rest rfl).1
    next => rfl
  · rfl
  · rfl

/-- The exponent of a decimal. -/
inductive IsExponent : List Char → Prop where
  /-- No exponent. -/
  | absent : IsExponent []
  /-- The mark, a sign and digits. -/
  | present {mark : Char} {sign digits : List Char} (hmark : mark = 'e' ∨ mark = 'E')
      (hsign : sign ∈ signs) (hdigits : IsDigits 10 digits) : IsExponent (mark :: (sign ++ digits))

/-- A digit is no sign. -/
theorem ne_sign_of_isDecimal {c : Char} (h : isDecimal c = true) : c ≠ '+' ∧ c ≠ '-' := by
  refine ⟨?_, ?_⟩
  all_goals
    rintro rfl
    exact absurd h (by decide)

/-- Behind the mark stand digits, with a sign in front of them or without one. -/
theorem isSome_exponent?_cons {mark : Char} {rest : List Char} (hmark : mark = 'e' ∨ mark = 'E') :
    (exponent? (mark :: rest)).isSome = true ↔ IsDigits 10 (splitSign rest).2 := by
  rw [exponent?, if_pos hmark, ← isSome_digitsValue?_iff]
  obtain ⟨negative, digits⟩ := splitSign rest
  simp only
  cases digitsValue? 10 digits <;> exact Iff.rfl

/-- **A text is read as an exponent exactly if it is one.** -/
theorem isSome_exponent?_iff {s : List Char} : (exponent? s).isSome = true ↔ IsExponent s := by
  constructor
  · intro h
    cases s with
    | nil => exact .absent
    | cons mark rest =>
        by_cases hmark : mark = 'e' ∨ mark = 'E'
        · obtain ⟨sign, hsign, heq⟩ := exists_splitSign rest
          have hdigits := (isSome_exponent?_cons hmark).1 h
          rw [heq]
          exact .present hmark hsign hdigits
        · rw [exponent?, if_neg hmark] at h
          cases h
  · intro h
    cases h with
    | absent => rfl
    | @present mark sign digits hmark hsign hdigits =>
        have hsplit : (splitSign (sign ++ digits)).2 = digits := by
          refine splitSign_append hsign fun c rest heq => ne_sign_of_isDecimal (hdigits.mem c ?_)
          rw [heq]
          exact List.mem_cons_self
        rw [isSome_exponent?_cons hmark, hsplit]
        exact hdigits

/-- An exponent begins with its mark. -/
theorem IsExponent.head {s : List Char} (h : IsExponent s) :
    ∀ c rest, s = c :: rest → c = 'e' ∨ c = 'E' := by
  intro c rest heq
  cases h with
  | absent => cases heq
  | present hmark => exact (List.cons.inj heq).1 ▸ hmark

/-! ## Decimals -/

/-- A decimal without a sign. -/
inductive IsDecimalText : List Char → Prop where
  /-- Digits and an exponent. -/
  | whole {digits exponent : List Char} (hdigits : IsDigits 10 digits)
      (hexponent : IsExponent exponent) : IsDecimalText (digits ++ exponent)
  /-- Digits in front of a point, behind it, or on both sides, and an exponent. -/
  | pointed {whole fraction exponent : List Char} (hdigits : IsDigits 10 (whole ++ fraction))
      (hexponent : IsExponent exponent) : IsDecimalText (whole ++ '.' :: (fraction ++ exponent))

/-- A text is digits and something that does not begin with one. -/
theorem exists_span (s : List Char) : ∃ digits rest, s = digits ++ rest ∧
    (∀ c ∈ digits, isDecimal c = true) ∧ ∀ c more, rest = c :: more → isDecimal c = false := by
  refine ⟨s.takeWhile isDecimal, s.dropWhile isDecimal, List.takeWhile_append_dropWhile.symm,
    List.all_eq_true.1 List.all_takeWhile, fun c more h => ?_⟩
  have hhead := List.head?_dropWhile_not isDecimal s
  rw [h] at hhead
  simpa using hhead

/-- A decimal has a value exactly if there are digits around its point and an exponent behind. -/
theorem isSome_unsignedDecimal?_pointed {negative : Bool} {whole fraction exponent : List Char}
    (hwhole : ∀ c ∈ whole, isDecimal c = true) (hfraction : ∀ c ∈ fraction, isDecimal c = true)
    (hexponent : ∀ c more, exponent = c :: more → isDecimal c = false) :
    (unsignedDecimal? negative (whole ++ '.' :: (fraction ++ exponent))).isSome = true ↔
      IsDigits 10 (whole ++ fraction) ∧ IsExponent exponent := by
  obtain ⟨htake, hdrop⟩ := @span_digits whole ('.' :: (fraction ++ exponent)) hwhole
    fun c more h => (List.cons.inj h).1 ▸ by decide
  obtain ⟨htake', hdrop'⟩ := span_digits hfraction hexponent
  rw [unsignedDecimal?, htake, hdrop, ← isSome_digitsValue?_iff, ← isSome_exponent?_iff]
  simp only [htake', hdrop']
  cases digitsValue? 10 (whole ++ fraction) <;> cases exponent? exponent <;> simp

/-- Without a point the exponent follows the digits. -/
theorem isSome_unsignedDecimal?_whole {negative : Bool} {digits exponent : List Char}
    (hdigits : ∀ c ∈ digits, isDecimal c = true)
    (hexponent : ∀ c more, exponent = c :: more → isDecimal c = false ∧ c ≠ '.') :
    (unsignedDecimal? negative (digits ++ exponent)).isSome = true ↔
      IsDigits 10 digits ∧ IsExponent exponent := by
  obtain ⟨htake, hdrop⟩ := span_digits hdigits fun c more h => (hexponent c more h).1
  rw [unsignedDecimal?, htake, hdrop, ← isSome_digitsValue?_iff, ← isSome_exponent?_iff]
  split
  next fraction rest hsplit =>
    split at hsplit
    next r => exact absurd rfl (hexponent '.' r rfl).2
    next =>
      cases hsplit
      rw [List.append_nil]
      cases digitsValue? 10 digits <;> cases exponent? exponent <;> simp

/-- **A text is read as a decimal without a sign exactly if it is one.** -/
theorem isSome_unsignedDecimal?_iff {negative : Bool} {s : List Char} :
    (unsignedDecimal? negative s).isSome = true ↔ IsDecimalText s := by
  constructor
  · intro h
    obtain ⟨whole, rest, rfl, hwhole, hrest⟩ := exists_span s
    -- The digits in front end at the point, if there is one, or else at the exponent.
    by_cases hpoint : ∃ behind, rest = '.' :: behind
    · obtain ⟨behind, rfl⟩ := hpoint
      obtain ⟨fraction, exponent, rfl, hfraction, hexponent⟩ := exists_span behind
      obtain ⟨hdigits, hpower⟩ :=
        (isSome_unsignedDecimal?_pointed hwhole hfraction hexponent).1 h
      exact .pointed hdigits hpower
    · obtain ⟨hdigits, hpower⟩ := (isSome_unsignedDecimal?_whole hwhole fun c more heq =>
        ⟨hrest c more heq, fun hc => hpoint ⟨more, hc ▸ heq⟩⟩).1 h
      exact .whole hdigits hpower
  · intro h
    cases h with
    | whole hdigits hexponent =>
        refine (isSome_unsignedDecimal?_whole hdigits.mem fun c more heq => ?_).2
          ⟨hdigits, hexponent⟩
        rcases hexponent.head c more heq with rfl | rfl <;> decide
    | pointed hdigits hexponent =>
        obtain ⟨hwhole, hfraction⟩ := List.forall_mem_append.1 hdigits.mem
        refine (isSome_unsignedDecimal?_pointed hwhole hfraction fun c more heq => ?_).2
          ⟨hdigits, hexponent⟩
        rcases hexponent.head c more heq with rfl | rfl <;> decide

/-- The characters of a decimal that are no digits. -/
def decimalMarks : List Char := ['.', 'e', 'E', '+', '-']

/-- A decimal holds digits and such characters only. -/
theorem IsDecimalText.mem {s : List Char} (h : IsDecimalText s) :
    ∀ c ∈ s, isDecimal c = true ∨ c ∈ decimalMarks := by
  have hexponent {exponent : List Char} (h : IsExponent exponent) :
      ∀ c ∈ exponent, isDecimal c = true ∨ c ∈ decimalMarks := by
    cases h with
    | absent => exact List.forall_mem_nil _
    | @present mark sign digits hmark hsign hdigits =>
        have hmark' : mark ∈ decimalMarks := by rcases hmark with rfl | rfl <;> decide
        have hsign' : ∀ c ∈ sign, c ∈ decimalMarks := by
          intro c hc
          rcases eq_of_mem_sign hsign hc with rfl | rfl <;> decide
        exact List.forall_mem_cons.2 ⟨Or.inr hmark', List.forall_mem_append.2
          ⟨fun c hc => Or.inr (hsign' c hc), fun c hc => Or.inl (hdigits.mem c hc)⟩⟩
  cases h with
  | whole hdigits hpower =>
      exact List.forall_mem_append.2 ⟨fun c hc => Or.inl (hdigits.mem c hc), hexponent hpower⟩
  | pointed hdigits hpower =>
      obtain ⟨hwhole, hfraction⟩ := List.forall_mem_append.1 hdigits.mem
      exact List.forall_mem_append.2 ⟨fun c hc => Or.inl (hwhole c hc), List.forall_mem_cons.2
        ⟨Or.inr (by decide), List.forall_mem_append.2
          ⟨fun c hc => Or.inl (hfraction c hc), hexponent hpower⟩⟩⟩

/-- A decimal begins with a digit or a point. -/
theorem IsDecimalText.head {s : List Char} (h : IsDecimalText s) :
    ∃ c rest, s = c :: rest ∧ (isDecimal c = true ∨ c = '.') := by
  cases h with
  | @whole digits exponent hdigits hexponent =>
      obtain ⟨c, rest, rfl⟩ := List.exists_cons_of_ne_nil hdigits.ne_nil
      exact ⟨c, rest ++ exponent, rfl, Or.inl (hdigits.mem c List.mem_cons_self)⟩
  | @pointed whole fraction exponent hdigits hexponent =>
      cases whole with
      | nil => exact ⟨'.', fraction ++ exponent, rfl, Or.inr rfl⟩
      | cons c rest =>
          exact ⟨c, rest ++ '.' :: (fraction ++ exponent), rfl,
            Or.inl (hdigits.mem c List.mem_cons_self)⟩

/-! ## Words -/

/-- The words for infinity and not-a-number, in any case. -/
def IsWordText (s : List Char) : Prop :=
  s.map Char.toLower ∈ ["inf".toList, "infinity".toList, "nan".toList]

instance (s : List Char) : Decidable (IsWordText s) :=
  inferInstanceAs (Decidable (_ ∈ _))

/-- Such a word begins with one of two letters. -/
theorem IsWordText.head {s : List Char} (h : IsWordText s) :
    ∃ c rest, s = c :: rest ∧ (c.toLower = 'i' ∨ c.toLower = 'n') := by
  cases s with
  | nil => exact absurd h (by decide)
  | cons c rest =>
      refine ⟨c, rest, rfl, ?_⟩
      rw [IsWordText, List.map_cons] at h
      simp only [List.mem_cons, List.not_mem_nil, or_false] at h
      rcases h with h | h | h
      · exact Or.inl (List.cons.inj h).1
      · exact Or.inl (List.cons.inj h).1
      · exact Or.inr (List.cons.inj h).1

/-- No such word begins with a digit or a point. -/
theorem not_isWordText_of_head {c : Char} {rest : List Char} (hc : isDecimal c = true ∨ c = '.') :
    ¬IsWordText (c :: rest) := by
  intro h
  obtain ⟨_, _, heq, hletter⟩ := h.head
  obtain ⟨rfl, -⟩ := List.cons.inj heq
  have hkeep : c.toLower = c := by
    rcases hc with hdigit | rfl
    · exact toLower_of_isDecimal hdigit
    · rfl
  rw [hkeep] at hletter
  rcases hletter with rfl | rfl
  all_goals exact absurd hc (by decide)

/-- Neither such a word nor a decimal begins with a sign. -/
theorem ne_sign_of_head {body : List Char} (h : IsWordText body ∨ IsDecimalText body) :
    ∀ c rest, body = c :: rest → c ≠ '+' ∧ c ≠ '-' := by
  intro c rest heq
  rcases h with h | h
  · obtain ⟨c', rest', heq', hc⟩ := h.head
    obtain ⟨rfl, -⟩ := List.cons.inj (heq.symm.trans heq')
    refine ⟨?_, ?_⟩
    all_goals
      rintro rfl
      exact absurd hc (by decide)
  · obtain ⟨c', rest', heq', hc⟩ := h.head
    obtain ⟨rfl, -⟩ := List.cons.inj (heq.symm.trans heq')
    refine ⟨?_, ?_⟩
    all_goals
      rintro rfl
      exact absurd hc (by decide)

/-- **A text is read as a decimal exactly if it is one, or such a word, behind a sign or none.** -/
theorem isSome_decimal?_iff {s : List Char} : (decimal? s).isSome = true ↔
    ∃ sign ∈ signs, ∃ body, s = sign ++ body ∧ (IsWordText body ∨ IsDecimalText body) := by
  have hsplit : (decimal? s).isSome = true ↔
      IsWordText (splitSign s).2 ∨ IsDecimalText (splitSign s).2 := by
    rw [decimal?]
    obtain ⟨negative, body⟩ := splitSign s
    simp only
    rw [← @isSome_unsignedDecimal?_iff negative, IsWordText]
    simp only [List.mem_cons, List.not_mem_nil, or_false]
    split
    next hinf => exact ⟨fun _ => Or.inl (hinf.imp_right Or.inl), fun _ => rfl⟩
    next hinf =>
      split
      next hnan => exact ⟨fun _ => Or.inl (Or.inr (Or.inr hnan)), fun _ => rfl⟩
      next hnan =>
        refine ⟨Or.inr, fun h => h.resolve_left ?_⟩
        rintro (h | h | h)
        · exact hinf (Or.inl h)
        · exact hinf (Or.inr h)
        · exact hnan h
  -- What is split off is a sign, and no body begins with another one.
  rw [hsplit]
  constructor
  · intro h
    obtain ⟨sign, hsign, heq⟩ := exists_splitSign s
    exact ⟨sign, hsign, _, heq, h⟩
  · rintro ⟨sign, hsign, body, rfl, hbody⟩
    rwa [splitSign_append hsign (ne_sign_of_head hbody)]

/-! ## Numerals -/

/-- The marks of the radices. -/
def radixMarks : List (Char × Nat) :=
  [('x', 16), ('X', 16), ('o', 8), ('O', 8), ('b', 2), ('B', 2)]

/-- A radix is announced by a zero and its mark. -/
theorem radixMark?_eq_some_iff {s digits : List Char} {radix : Nat} :
    radixMark? s = some (radix, digits) ↔
      ∃ mark, (mark, radix) ∈ radixMarks ∧ s = '0' :: mark :: digits := by
  constructor
  · intro h
    rw [radixMark?.eq_def] at h
    split at h
    all_goals cases h
    all_goals exact ⟨_, by decide, rfl⟩
  · rintro ⟨mark, hmark, rfl⟩
    simp only [radixMarks, List.mem_cons, Prod.mk.injEq, List.not_mem_nil, or_false] at hmark
    rcases hmark with ⟨rfl, rfl⟩ | ⟨rfl, rfl⟩ | ⟨rfl, rfl⟩ | ⟨rfl, rfl⟩ | ⟨rfl, rfl⟩ | ⟨rfl, rfl⟩
    all_goals rfl

/-- The texts that have a value. -/
inductive IsNumeral : List Char → Prop where
  /-- Digits behind a radix mark, for at most 64 bits. -/
  | marked {mark : Char} {radix n : Nat} {digits : List Char} (hmark : (mark, radix) ∈ radixMarks)
      (hdigits : digitsValue? radix digits = some n) (hfits : n < 2 ^ 64) :
      IsNumeral ('0' :: mark :: digits)
  /-- A decimal or a word behind a sign or none. -/
  | signed {sign body : List Char} (hsign : sign ∈ signs)
      (hbody : IsWordText body ∨ IsDecimalText body) : IsNumeral (sign ++ body)

/-- Behind a sign or none there is no radix mark. -/
theorem radixMark?_signed {sign body : List Char} (hsign : sign ∈ signs)
    (hbody : IsWordText body ∨ IsDecimalText body) : radixMark? (sign ++ body) = none := by
  rw [Option.eq_none_iff_forall_ne_some]
  rintro ⟨radix, digits⟩ h
  obtain ⟨mark, hmark, heq⟩ := radixMark?_eq_some_iff.1 h
  simp only [signs, List.mem_cons, List.not_mem_nil, or_false] at hsign
  rcases hsign with rfl | rfl | rfl
  · rw [List.nil_append] at heq
    rcases hbody with hbody | hbody
    · obtain ⟨c, rest, rfl, hc⟩ := hbody.head
      obtain ⟨rfl, -⟩ := List.cons.inj heq
      exact absurd hc (by decide)
    · -- The mark is neither a digit nor one of the other characters of a decimal.
      have hmarks : ∀ entry ∈ radixMarks, ¬(isDecimal entry.1 = true ∨ entry.1 ∈ decimalMarks) := by
        decide
      exact hmarks _ hmark (hbody.mem mark (by rw [heq]; simp))
  · exact absurd (List.cons.inj heq).1 (by decide)
  · exact absurd (List.cons.inj heq).1 (by decide)

/-- **A text has a value exactly if it is a numeral without its separators.** -/
theorem isSome_value?_iff {text : List Char} :
    (value? text).isSome = true ↔ IsNumeral (withoutSeparators text) := by
  rw [value?]
  constructor
  · intro h
    cases hmark : radixMark? (withoutSeparators text) with
    | none =>
        simp only [hmark] at h
        obtain ⟨sign, hsign, body, heq, hbody⟩ := isSome_decimal?_iff.1 h
        rw [heq]
        exact .signed hsign hbody
    | some r =>
        obtain ⟨radix, digits⟩ := r
        obtain ⟨mark, hmark', heq⟩ := radixMark?_eq_some_iff.1 hmark
        simp only [hmark] at h
        split at h
        next n hn =>
          split at h
          next hfits =>
            rw [heq]
            exact .marked hmark' hn hfits
          next => cases h
        next => cases h
  · generalize withoutSeparators text = s
    intro h
    cases h with
    | @marked mark radix n digits hmark hdigits hfits =>
        have hradix : radixMark? ('0' :: mark :: digits) = some (radix, digits) :=
          radixMark?_eq_some_iff.2 ⟨mark, hmark, rfl⟩
        have hbound : n < Nat.pow 2 64 := hfits
        simp only [hradix, hdigits, if_pos hbound]
        rfl
    | @signed sign body hsign hbody =>
        simp only [radixMark?_signed hsign hbody]
        exact isSome_decimal?_iff.2 ⟨sign, hsign, body, rfl, hbody⟩

end DocSite.Numeral

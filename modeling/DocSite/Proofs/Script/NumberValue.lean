import DocSite.Proofs.Number.Numeral
import DocSite.Script.NumberToken
import DocSite.Text.Blank

/-! # The values of numbers

A number is read twice: first its extent is found in a script (`number?`), then its text is given a
value (`Numeral.value?`). This file relates the two. The text of a number has one of few forms
(`NumberForm`): digits behind a radix mark, a large integer, or a decimal with or without a point.
Each of them is a numeral without its underscores, unless it is a large integer or stands for more
than 64 bits. So a number has a value exactly if it is neither of these
(`NumberToken.isSome_value?_iff`). -/

namespace DocSite.Script

open DocSite.Text DocSite.Numeral

/-! ## Runs of digits -/

/-- Digits of a class, with underscores somewhere behind the first. -/
structure IsRun (digit : Char → Bool) (run : List Char) : Prop where
  /-- The first character is a digit. -/
  head : ∃ c rest, run = c :: rest ∧ digit c = true
  /-- All of them are digits or underscores. -/
  mem : ∀ c ∈ run, digit c = true ∨ c = '_'

/-- What is read as a run of digits are digits and underscores. -/
theorem mem_digitRun (digit : Char → Bool) (s : List Char) :
    ∀ c ∈ (digitRun digit s).1, digit c = true ∨ c = '_' := by
  induction s using digitRun.induct digit with
  | case1 c rest hc more after heq ih =>
      rw [digitRun, if_pos hc]
      rw [heq] at ih ⊢
      exact List.forall_mem_cons.2 ⟨Or.inr rfl, List.forall_mem_cons.2 ⟨Or.inl hc, ih⟩⟩
  | case2 c rest hc =>
      rw [digitRun, if_neg hc]
      exact List.forall_mem_nil _
  | case3 c rest hne hc more after heq ih =>
      rw [digitRun, if_pos hc]
      rw [heq] at ih ⊢
      exact List.forall_mem_cons.2 ⟨Or.inl hc, ih⟩
      exact hne
  | case4 c rest hne hc =>
      rw [digitRun, if_neg hc]
      exact List.forall_mem_nil _
      exact hne
  | case5 => exact List.forall_mem_nil _

/-- A run of digits that is read is one. -/
theorem isRun_of_digits? {digit : Char → Bool} {s run after : List Char} (hunder : digit '_' = false)
    (h : digits? digit s = some (run, after)) : IsRun digit run := by
  cases s with
  | nil => cases h
  | cons c rest =>
      rw [digits?] at h
      split at h
      next hc =>
        have hrun : (digitRun digit (c :: rest)).1 = run := by rw [Option.some.inj h]
        have hne : c ≠ '_' := by
          rintro rfl
          exact absurd hc (by rw [hunder]; exact Bool.false_ne_true)
        -- An underscore in front is no digit, so the run begins with the first character.
        refine ⟨⟨c, (digitRun digit rest).1, ?_, hc⟩, hrun ▸ mem_digitRun digit (c :: rest)⟩
        rw [← hrun, digitRun, if_pos hc]
        exact fun _ _ heq => absurd heq hne
      next => cases h

/-- Separators are dropped from each part of a text. -/
theorem withoutSeparators_append (s t : List Char) : Numeral.withoutSeparators (s ++ t)
    = Numeral.withoutSeparators s ++ Numeral.withoutSeparators t :=
  List.filter_append s t

/-- What is no separator is kept. -/
theorem withoutSeparators_cons {c : Char} (rest : List Char) (hc : (c != '_') = true) :
    Numeral.withoutSeparators (c :: rest) = c :: Numeral.withoutSeparators rest :=
  List.filter_cons_of_pos hc

/-- Without its underscores a run is digits. -/
theorem IsRun.isDigits {radix : Nat} {run : List Char} (h : IsRun (isDigitOf radix) run) :
    IsDigits radix (withoutSeparators run) := by
  obtain ⟨c, rest, rfl, hc⟩ := h.head
  have hne : (c != '_') = true := by
    rw [bne_iff_ne]
    rintro rfl
    exact Bool.false_ne_true hc
  refine ⟨?_, fun x hx => ?_⟩
  · rw [withoutSeparators_cons rest hne]
    exact List.cons_ne_nil c _
  · obtain ⟨hmem, hx⟩ := List.mem_filter.1 hx
    exact (h.mem x hmem).resolve_right (bne_iff_ne.1 hx)

/-! ## Forms of numbers -/

/-- The exponent of a number: nothing, or the mark, a sign and digits. -/
inductive IsPower : List Char → Prop where
  /-- No exponent. -/
  | absent : IsPower []
  /-- The mark with digits, and with a sign in front of them or without one. -/
  | present {mark : Char} {sign digits : List Char} (hmark : mark = 'e' ∨ mark = 'E')
      (hsign : sign ∈ signs) (hdigits : IsRun isDecimal digits) : IsPower (mark :: (sign ++ digits))

/-- The forms of a number. -/
inductive NumberForm : List Char → Prop where
  /-- Digits behind a radix mark, with the mark of a large integer or without it. -/
  | marked {mark : Char} {radix : Nat} {digits large : List Char} (hmark : (mark, radix) ∈ radixMarks)
      (hdigits : IsRun (isDigitOf radix) digits) (hlarge : large = [] ∨ large = ['n']) :
      NumberForm ('0' :: mark :: (digits ++ large))
  /-- Digits with the mark of a large integer. -/
  | large {digits : List Char} (hdigits : IsRun isDecimal digits) : NumberForm (digits ++ ['n'])
  /-- Digits with an exponent. -/
  | whole {digits power : List Char} (hdigits : IsRun isDecimal digits) (hpower : IsPower power) :
      NumberForm (digits ++ power)
  /-- Digits in front of a point, behind it, or on both sides, and an exponent. -/
  | pointed {whole fraction power : List Char} (hwhole : whole = [] ∨ IsRun isDecimal whole)
      (hfraction : fraction = [] ∨ IsRun isDecimal fraction) (hne : whole ≠ [] ∨ fraction ≠ [])
      (hpower : IsPower power) : NumberForm (whole ++ '.' :: (fraction ++ power))

/-- The mark of a large integer may follow, and nothing else. -/
theorem exists_withLargeMark (r : List Char × List Char) :
    ∃ large, (withLargeMark r).1 = r.1 ++ large ∧ (large = [] ∨ large = ['n']) := by
  rw [withLargeMark.eq_def]
  split
  next digits after => exact ⟨['n'], rfl, Or.inr rfl⟩
  next => exact ⟨[], (List.append_nil _).symm, Or.inl rfl⟩

/-- The digits that are read behind a mark, if it announces a radix, are digits of this radix. -/
theorem exists_of_markedDigits {mark : Char} {radix : Nat} {rest text after : List Char}
    (hmark : (mark, radix) ∈ radixMarks)
    (h : (match digits? (isDigitOf radix) rest with
      | some (digits, after) => some ('0' :: mark :: digits, after)
      | none => none) = some (text, after)) : ∃ mark radix digits, text = '0' :: mark :: digits ∧
        (mark, radix) ∈ radixMarks ∧ IsRun (isDigitOf radix) digits := by
  split at h
  next digits after' hrun =>
    cases h
    exact ⟨mark, radix, digits, rfl, hmark, isRun_of_digits? rfl hrun⟩
  next => cases h

/-- What is read behind a radix mark are digits of this radix. -/
theorem exists_of_markedNumber? {s text after : List Char}
    (h : markedNumber? s = some (text, after)) : ∃ mark radix digits, text = '0' :: mark :: digits ∧
      (mark, radix) ∈ radixMarks ∧ IsRun (isDigitOf radix) digits := by
  rw [markedNumber?.eq_def] at h
  split at h
  next mark rest =>
    -- Each mark announces a radix and asks for digits of it.
    by_cases hx : mark = 'x' ∨ mark = 'X'
    · simp only [if_pos hx] at h
      have hmark : (mark, 16) ∈ radixMarks := by rcases hx with rfl | rfl <;> decide
      exact exists_of_markedDigits hmark h
    by_cases ho : mark = 'o' ∨ mark = 'O'
    · simp only [if_neg hx, if_pos ho] at h
      have hmark : (mark, 8) ∈ radixMarks := by rcases ho with rfl | rfl <;> decide
      exact exists_of_markedDigits hmark h
    by_cases hb : mark = 'b' ∨ mark = 'B'
    · simp only [if_neg hx, if_neg ho, if_pos hb] at h
      have hmark : (mark, 2) ∈ radixMarks := by rcases hb with rfl | rfl <;> decide
      exact exists_of_markedDigits hmark h
    · simp only [if_neg hx, if_neg ho, if_neg hb] at h
      cases h
  next => cases h

/-- What is read as an exponent is one. -/
theorem isPower_exponentPart (s : List Char) : IsPower (exponentPart s).1 := by
  rw [exponentPart.eq_def]
  cases s with
  | nil => exact .absent
  | cons mark rest =>
      simp only
      split
      next hmark =>
        split
        next digits after hdigits =>
          have hrun := isRun_of_digits? (by decide) hdigits
          refine .present hmark ?_ hrun
          split <;> simp [signs]
        next => exact .absent
      next => exact .absent

/-- A run is not empty. -/
theorem IsRun.ne_nil {digit : Char → Bool} {run : List Char} (h : IsRun digit run) : run ≠ [] := by
  obtain ⟨c, rest, rfl, -⟩ := h.head
  exact List.cons_ne_nil c rest

/-- Digits are a number, with the mark of a large integer or without it. -/
theorem numberForm_withLargeMark {whole : List Char} (hwhole : IsRun isDecimal whole)
    (after : List Char) : NumberForm (withLargeMark (whole, after)).1 := by
  obtain ⟨large, htext, rfl | rfl⟩ := exists_withLargeMark (whole, after)
  · rw [htext]
    exact .whole hwhole .absent
  · rw [htext]
    exact .large hwhole

/-- **The text of a number has one of the forms.** -/
theorem numberForm_of_number? {s text after : List Char} (h : number? s = some (text, after)) :
    NumberForm text := by
  -- The cases are those of the definition: a radix mark, a point in front, or digits in front.
  rw [number?.eq_def] at h
  split at h
  next marked hmarked =>
    obtain ⟨mark, radix, digits, hdigits, hmark, hrun⟩ := exists_of_markedNumber? hmarked
    obtain ⟨large, htext, hlarge⟩ := exists_withLargeMark marked
    rw [Option.some.inj h, hdigits] at htext
    obtain rfl : text = '0' :: mark :: (digits ++ large) := htext
    exact .marked hmark hrun hlarge
  next hmarked =>
    split at h
    next rest =>
      split at h
      next digits behind hdigits =>
        have hrun := isRun_of_digits? (by decide) hdigits
        cases h
        exact .pointed (Or.inl rfl) (Or.inr hrun) (Or.inr hrun.ne_nil) (isPower_exponentPart behind)
      next => cases h
    next =>
      split at h
      next => cases h
      next whole behind hwhole =>
        have hrun : IsRun isDecimal whole := isRun_of_digits? (by decide) hwhole
        have hlarge (r : List Char) (hr : some (withLargeMark (whole, r)) = some (text, after)) :
            NumberForm text := by
          have hform := numberForm_withLargeMark hrun r
          rwa [Option.some.inj hr] at hform
        -- Digits that take no fraction may still take the mark of a large integer.
        split at h
        next =>
          split at h
          next rest =>
            -- Digits behind the point are optional.
            cases hfraction : digits? isDecimal rest with
            | none =>
                rw [hfraction] at h
                obtain ⟨rfl, -⟩ := Prod.mk.inj (Option.some.inj h)
                rw [List.append_assoc]
                exact .pointed (Or.inr hrun) (Or.inl rfl) (Or.inl hrun.ne_nil)
                  (isPower_exponentPart rest)
            | some r =>
                rw [hfraction] at h
                have hdigits := isRun_of_digits? (by decide) hfraction
                obtain ⟨rfl, -⟩ := Prod.mk.inj (Option.some.inj h)
                rw [List.append_assoc]
                exact .pointed (Or.inr hrun) (Or.inr hdigits) (Or.inl hrun.ne_nil)
                  (isPower_exponentPart r.2)
          next =>
            split at h
            next behind' _ => exact hlarge behind' h
            next power behind' _ hpower =>
              have hform := isPower_exponentPart behind
              rw [hpower] at hform
              obtain ⟨rfl, -⟩ := Prod.mk.inj (Option.some.inj h)
              exact .whole hrun hform
        next => exact hlarge behind h

/-- A number begins with a digit or a point. -/
theorem NumberForm.head {text : List Char} (h : NumberForm text) :
    ∃ c rest, text = c :: rest ∧ (isDecimal c = true ∨ c = '.') := by
  have hrun {run : List Char} (h : IsRun isDecimal run) (behind : List Char) :
      ∃ c rest, run ++ behind = c :: rest ∧ (isDecimal c = true ∨ c = '.') := by
    obtain ⟨c, rest, rfl, hc⟩ := h.head
    exact ⟨c, rest ++ behind, rfl, Or.inl hc⟩
  cases h with
  | marked => exact ⟨_, _, rfl, Or.inl (by decide)⟩
  | large hdigits => exact hrun hdigits _
  | whole hdigits _ => exact hrun hdigits _
  | @pointed whole fraction power hwhole _ _ _ =>
      rcases hwhole with rfl | hwhole
      · exact ⟨_, _, rfl, Or.inr rfl⟩
      · exact hrun hwhole _

/-- A digit stands between zero and the letter `f` in ASCII. -/
theorem toNat_of_isDigitOf {radix : Nat} {c : Char} (h : isDigitOf radix c = true) :
    '0'.toNat ≤ c.toNat ∧ c.toNat ≤ 'f'.toNat := by
  rw [isDigitOf, digitValue?, hexValue?] at h
  have hbelow : '0'.toNat ≤ 'A'.toNat ∧ 'A'.toNat ≤ 'a'.toNat := by decide
  have habove : '9'.toNat ≤ 'F'.toNat ∧ 'F'.toNat ≤ 'f'.toNat := by decide
  split at h
  next hc => exact ⟨hc.1, Nat.le_trans hc.2 (Nat.le_trans habove.1 habove.2)⟩
  next =>
    split at h
    next hc => exact ⟨Nat.le_trans hbelow.1 (Nat.le_trans hbelow.2 hc.1), hc.2⟩
    next =>
      split at h
      next hc => exact ⟨Nat.le_trans hbelow.1 hc.1, Nat.le_trans hc.2 habove.2⟩
      next => cases h

/-- A digit is not blank. -/
theorem isWhiteSpace_of_isDigitOf {radix : Nat} {c : Char} (h : isDigitOf radix c = true) :
    isWhiteSpace c = false := by
  have hrange : 0x30 ≤ c.toNat ∧ c.toNat ≤ 0x66 := toNat_of_isDigitOf h
  simp only [isWhiteSpace, Bool.or_eq_false_iff, Bool.and_eq_false_iff, decide_eq_false_iff_not,
    beq_eq_false_iff_ne]
  omega

/-- No character of a run is blank. -/
theorem IsRun.isWhiteSpace_of_mem {radix : Nat} {run : List Char}
    (h : IsRun (isDigitOf radix) run) : ∀ c ∈ run, isWhiteSpace c = false := by
  intro c hc
  rcases h.mem c hc with hdigit | rfl
  · exact isWhiteSpace_of_isDigitOf hdigit
  · decide

/-- No character of an exponent is blank. -/
theorem IsPower.isWhiteSpace_of_mem {power : List Char} (h : IsPower power) :
    ∀ c ∈ power, isWhiteSpace c = false := by
  cases h with
  | absent => exact List.forall_mem_nil _
  | @present mark sign digits hmark hsign hdigits =>
      have hmark' : isWhiteSpace mark = false := by rcases hmark with rfl | rfl <;> decide
      have hsign' : ∀ c ∈ sign, isWhiteSpace c = false := by
        intro c hc
        rcases eq_of_mem_sign hsign hc with rfl | rfl <;> decide
      exact List.forall_mem_cons.2 ⟨hmark', List.forall_mem_append.2
        ⟨hsign', @IsRun.isWhiteSpace_of_mem 10 digits hdigits⟩⟩

/-- **No character of a number is blank.** -/
theorem NumberForm.isWhiteSpace_of_mem {text : List Char} (h : NumberForm text) :
    ∀ c ∈ text, isWhiteSpace c = false := by
  have hmaybe {run : List Char} (h : run = [] ∨ IsRun isDecimal run) :
      ∀ c ∈ run, isWhiteSpace c = false := by
    rcases h with rfl | h
    · exact List.forall_mem_nil _
    · exact @IsRun.isWhiteSpace_of_mem 10 run h
  cases h with
  | @marked mark radix digits large hmark hdigits hlarge =>
      have hmark' : isWhiteSpace mark = false := by
        have hmarks : ∀ entry ∈ radixMarks, isWhiteSpace entry.1 = false := by decide
        exact hmarks (mark, radix) hmark
      have hlarge' : ∀ c ∈ large, isWhiteSpace c = false := by
        rcases hlarge with rfl | rfl
        · exact List.forall_mem_nil _
        · exact List.forall_mem_singleton.2 (by decide)
      have hdigits' : ∀ c ∈ digits, isWhiteSpace c = false := hdigits.isWhiteSpace_of_mem
      rw [List.forall_mem_cons, List.forall_mem_cons, List.forall_mem_append]
      exact ⟨by decide, hmark', hdigits', hlarge'⟩
  | large hdigits =>
      exact List.forall_mem_append.2
        ⟨hmaybe (Or.inr hdigits), List.forall_mem_singleton.2 (by decide)⟩
  | whole hdigits hpower =>
      exact List.forall_mem_append.2 ⟨hmaybe (Or.inr hdigits), hpower.isWhiteSpace_of_mem⟩
  | pointed hwhole hfraction hne hpower =>
      exact List.forall_mem_append.2 ⟨hmaybe hwhole, List.forall_mem_cons.2 ⟨by decide,
        List.forall_mem_append.2 ⟨hmaybe hfraction, hpower.isWhiteSpace_of_mem⟩⟩⟩

/-! ## Values of the forms -/

/-- Without its underscores the exponent of a number is one. -/
theorem IsPower.isExponent {power : List Char} (h : IsPower power) :
    IsExponent (withoutSeparators power) := by
  cases h with
  | absent => exact .absent
  | @present mark sign digits hmark hsign hdigits =>
      have hmark' : (mark != '_') = true := by rcases hmark with rfl | rfl <;> decide
      have hsigns : ∀ sign ∈ signs, withoutSeparators sign = sign := by decide
      rw [withoutSeparators_cons _ hmark', withoutSeparators_append, hsigns sign hsign]
      exact .present hmark hsign (@IsRun.isDigits 10 digits hdigits)

/-- Digits with an exponent are a numeral. -/
theorem isNumeral_whole {digits power : List Char} (hdigits : IsRun isDecimal digits)
    (hpower : IsPower power) : IsNumeral (withoutSeparators (digits ++ power)) := by
  rw [withoutSeparators_append]
  exact @IsNumeral.signed [] _ (by decide)
    (Or.inr (.whole (@IsRun.isDigits 10 digits hdigits) hpower.isExponent))

/-- So are digits around a point. -/
theorem isNumeral_pointed {whole fraction power : List Char}
    (hwhole : whole = [] ∨ IsRun isDecimal whole)
    (hfraction : fraction = [] ∨ IsRun isDecimal fraction) (hne : whole ≠ [] ∨ fraction ≠ [])
    (hpower : IsPower power) :
    IsNumeral (withoutSeparators (whole ++ '.' :: (fraction ++ power))) := by
  have hmem {run : List Char} (h : run = [] ∨ IsRun isDecimal run) :
      ∀ c ∈ withoutSeparators run, isDigitOf 10 c = true := by
    rcases h with rfl | h
    · exact List.forall_mem_nil _
    · exact (@IsRun.isDigits 10 run h).mem
  have hsome {run : List Char} (h : run = [] ∨ IsRun isDecimal run) (hne : run ≠ []) :
      withoutSeparators run ≠ [] :=
    (@IsRun.isDigits 10 run (h.resolve_left hne)).ne_nil
  have hdigits : IsDigits 10 (withoutSeparators whole ++ withoutSeparators fraction) := by
    refine ⟨fun hnil => ?_, List.forall_mem_append.2 ⟨hmem hwhole, hmem hfraction⟩⟩
    obtain ⟨hwhole', hfraction'⟩ := List.append_eq_nil_iff.1 hnil
    exact hne.elim (fun h => hsome hwhole h hwhole') fun h => hsome hfraction h hfraction'
  rw [withoutSeparators_append, withoutSeparators_cons _ (by decide), withoutSeparators_append]
  exact @IsNumeral.signed [] _ (by decide) (Or.inr (.pointed hdigits hpower.isExponent))

/-- What is a numeral and begins like a number holds no mark of a large integer. -/
theorem not_mem_of_isNumeral {c : Char} {rest : List Char} (h : IsNumeral (c :: rest))
    (hc : isDecimal c = true ∨ c = '.') : 'n' ∉ c :: rest := by
  generalize htext : c :: rest = text at h
  cases h with
  | @marked mark radix n digits hmark hdigits hfits =>
      have hmarks : ∀ entry ∈ radixMarks, entry.1 ≠ 'n' := by decide
      have hmark' : mark ≠ 'n' := hmarks (mark, radix) hmark
      have hmem : ∀ c ∈ digits, isDigitOf radix c = true :=
        (isSome_digitsValue?_iff.1 (Option.isSome_of_eq_some hdigits)).mem
      rw [List.mem_cons, List.mem_cons]
      rintro (h | h | h)
      · exact absurd h (by decide)
      · exact hmark' h.symm
      · exact Bool.false_ne_true (hmem 'n' h)
  | @signed sign body hsign hbody =>
      -- A digit or a point is no sign, so the body begins with it and is no word.
      have hsign' : sign = [] := by
        simp only [signs, List.mem_cons, List.not_mem_nil, or_false] at hsign
        rcases hsign with rfl | rfl | rfl
        · rfl
        · rw [(List.cons.inj htext).1] at hc
          exact absurd hc (by decide)
        · rw [(List.cons.inj htext).1] at hc
          exact absurd hc (by decide)
      subst hsign'
      rw [List.nil_append] at htext ⊢
      rcases hbody with hword | hdecimal
      · rw [← htext] at hword
        exact absurd hword (not_isWordText_of_head hc)
      · intro h
        exact absurd (hdecimal.mem 'n' h) (by decide)

/-- What stands behind a radix mark of a numeral fits 64 bits. -/
theorem fits_of_isNumeral {text digits : List Char} {radix n : Nat} (h : IsNumeral text)
    (hmark : radixMark? text = some (radix, digits)) (hdigits : digitsValue? radix digits = some n) :
    n < 2 ^ 64 := by
  cases h with
  | @marked mark' radix' n' digits' hmark' hdigits' hfits =>
      have hradix : radixMark? ('0' :: mark' :: digits') = some (radix', digits') :=
        radixMark?_eq_some_iff.2 ⟨mark', hmark', rfl⟩
      obtain ⟨rfl, rfl⟩ := Prod.mk.inj (Option.some.inj (hradix.symm.trans hmark))
      obtain rfl : n' = n := Option.some.inj (hdigits'.symm.trans hdigits)
      exact hfits
  | signed hsign hbody =>
      rw [radixMark?_signed hsign hbody] at hmark
      cases hmark

/-! ## Plain numbers -/

/-- Whether a number is no large integer and stands for at most 64 bits behind a radix mark. -/
structure IsPlainNumber (text : List Char) : Prop where
  /-- It does not end in the mark of a large integer. -/
  notLarge : text.getLast? ≠ some 'n'
  /-- Digits behind a radix mark stand for less than `2 ^ 64`. -/
  fits : ∀ radix digits n, radixMark? (withoutSeparators text) = some (radix, digits) →
    digitsValue? radix digits = some n → n < 2 ^ 64

/-- A large integer is no plain number. -/
theorem not_isPlainNumber_concat (text : List Char) : ¬IsPlainNumber (text ++ ['n']) :=
  fun h => h.notLarge (List.getLast?_concat ..)

/-- A number that is a numeral without its underscores is plain. -/
theorem NumberForm.isPlainNumber {text : List Char} (h : NumberForm text)
    (hnumeral : IsNumeral (withoutSeparators text)) : IsPlainNumber text := by
  refine ⟨fun hlarge => ?_, fun radix digits n => fits_of_isNumeral hnumeral⟩
  -- The mark of a large integer is no separator, so it would be left in the numeral.
  have hkept : 'n' ∈ withoutSeparators text := List.mem_filter.2 ⟨List.mem_of_getLast? hlarge, rfl⟩
  obtain ⟨c, rest, rfl, hc⟩ := h.head
  have hne : (c != '_') = true := by
    rw [bne_iff_ne]
    rintro rfl
    exact absurd hc (by decide)
  rw [withoutSeparators_cons rest hne] at hnumeral hkept
  exact not_mem_of_isNumeral hnumeral hc hkept

/-- Plain digits behind a radix mark are a numeral without their underscores. -/
theorem isNumeral_marked {mark : Char} {radix : Nat} {digits : List Char}
    (hmark : (mark, radix) ∈ radixMarks) (hdigits : IsRun (isDigitOf radix) digits)
    (hplain : IsPlainNumber ('0' :: mark :: digits)) :
    IsNumeral (withoutSeparators ('0' :: mark :: digits)) := by
  have hmarks : ∀ entry ∈ radixMarks, (entry.1 != '_') = true := by decide
  have hcleaned : withoutSeparators ('0' :: mark :: digits)
      = '0' :: mark :: withoutSeparators digits := by
    rw [withoutSeparators_cons _ (by decide), withoutSeparators_cons _ (hmarks (mark, radix) hmark)]
  have hradix := radixMark?_eq_some_iff.2 ⟨mark, hmark, hcleaned⟩
  obtain ⟨n, hn⟩ := Option.isSome_iff_exists.1 (isSome_digitsValue?_iff.2 hdigits.isDigits)
  rw [hcleaned]
  exact .marked hmark hn (hplain.fits radix _ n hradix hn)

/-- **The text of a number is a numeral without its underscores exactly if it is plain.** -/
theorem NumberForm.isNumeral_iff {text : List Char} (h : NumberForm text) :
    IsNumeral (withoutSeparators text) ↔ IsPlainNumber text := by
  refine ⟨h.isPlainNumber, fun hplain => ?_⟩
  cases h with
  | @marked mark radix digits large hmark hdigits hlarge =>
      rcases hlarge with rfl | rfl
      · rw [List.append_nil] at hplain ⊢
        exact isNumeral_marked hmark hdigits hplain
      · exact absurd hplain (not_isPlainNumber_concat ('0' :: mark :: digits))
  | large hdigits => exact absurd hplain (not_isPlainNumber_concat _)
  | whole hdigits hpower => exact isNumeral_whole hdigits hpower
  | pointed hwhole hfraction hne hpower => exact isNumeral_pointed hwhole hfraction hne hpower

/-- **A number has a value exactly if it is plain.** -/
theorem NumberToken.isSome_value?_iff (token : NumberToken) :
    (Numeral.value? token.chars).isSome = true ↔ IsPlainNumber token.chars := by
  obtain ⟨s, after, hnumber⟩ := token.isNumber
  rw [Numeral.isSome_value?_iff, (numberForm_of_number? hnumber).isNumeral_iff]

end DocSite.Script

import DocSite.Proofs.Script.Comment.Token
import DocSite.Proofs.Script.NumberValue

/-! # Numbers around a comment

A number is read in parts: digits, a fraction, a power and a mark of a large integer. Each part is
read alike in both readings, because it ends in front of the comment. -/

namespace DocSite.Script

open DocSite.Text DocSite.Script.Parser

/-! ## The parts of a number -/

/-- The sign of an exponent, if there is one. -/
def exponentSign : List Char → List Char × List Char
  | '+' :: rest => (['+'], rest)
  | '-' :: rest => (['-'], rest)
  | rest => ([], rest)

/-- An exponent is a mark, a sign and digits. -/
theorem exponentPart_cons (e : Char) (rest : List Char) : exponentPart (e :: rest) =
    if e = 'e' ∨ e = 'E' then
      match digits? isDecimal (exponentSign rest).2 with
      | some (digits, after) => (e :: (exponentSign rest).1 ++ digits, after)
      | none => ([], e :: rest)
    else ([], e :: rest) := rfl

/-- The digits that a radix mark asks for. -/
def markedRadix? (mark : Char) : Option Nat :=
  if mark = 'x' ∨ mark = 'X' then some 16
  else if mark = 'o' ∨ mark = 'O' then some 8
  else if mark = 'b' ∨ mark = 'B' then some 2
  else none

/-- A number with a radix mark is a zero, the mark and digits. -/
theorem markedNumber?_cons (mark : Char) (rest : List Char) : markedNumber? ('0' :: mark :: rest) =
    (markedRadix? mark).bind fun radix =>
      (digits? (isDigitOf radix) rest).map fun r => ('0' :: mark :: r.1, r.2) := by
  have hdigits (digit : Char → Bool) : (match digits? digit rest with
      | some (digits, after) => some ('0' :: mark :: digits, after)
      | none => none) = (digits? digit rest).map fun r => ('0' :: mark :: r.1, r.2) := by
    cases digits? digit rest <;> rfl
  rw [markedNumber?, markedRadix?]
  split_ifs
  · exact hdigits isHex
  · exact hdigits (isDigitOf 8)
  · exact hdigits (isDigitOf 2)
  · rfl

/-- Digits with the fraction and the exponent behind their point. -/
def withFraction (whole rest : List Char) : List Char × List Char :=
  let fraction := (digits? isDecimal rest).getD ([], rest)
  let power := exponentPart fraction.2
  (whole ++ '.' :: fraction.1 ++ power.1, power.2)

/-- Digits with an exponent, or with the mark of a large integer. -/
def withPower (r : List Char × List Char) : List Char × List Char :=
  let power := exponentPart r.2
  if power.1 = [] then withLargeMark (r.1, power.2) else (r.1 ++ power.1, power.2)

/-- Digits with what may follow them in a number. -/
def withBehind (r : List Char × List Char) : List Char × List Char :=
  if takesFraction r.1 then
    match r.2 with
    | '.' :: rest => withFraction r.1 rest
    | _ => withPower r
  else withLargeMark r

/-- What follows digits that have no point behind them. -/
theorem withBehind_of_ne_point {r : List Char × List Char} (h : takesFraction r.1 = true)
    (hpoint : ∀ rest, r.2 ≠ '.' :: rest) : withBehind r = withPower r := by
  rw [withBehind, if_pos h]
  split
  next heq => exact absurd heq (hpoint _)
  next => rfl

/-- A number that begins with a point. -/
theorem number?_point (rest : List Char) : number? ('.' :: rest) =
    (digits? isDecimal rest).map fun r =>
      ('.' :: r.1 ++ (exponentPart r.2).1, (exponentPart r.2).2) := by
  have hmarked : markedNumber? ('.' :: rest) = none := rfl
  rw [number?.eq_def, hmarked]
  cases h : digits? isDecimal rest <;> simp [h]

/-- A number that begins neither with a radix mark nor with a point. -/
theorem number?_of_ne_point {s : List Char} (hmarked : markedNumber? s = none)
    (h : ∀ rest, s ≠ '.' :: rest) : number? s = (digits? isDecimal s).map withBehind := by
  rw [number?.eq_def, hmarked]
  simp only
  split
  next hnone =>
    rw [hnone]
    rfl
  next whole after hsome =>
    rw [hsome, Option.map_some]
    split
    next htakes =>
      split
      next rest =>
        rw [withBehind, if_pos htakes]
        change _ = some (withFraction whole rest)
        unfold withFraction
        cases h : digits? isDecimal rest <;> rfl
      next hpoint =>
        rw [withBehind_of_ne_point htakes hpoint, withPower]
        rcases exponentPart after with ⟨_ | ⟨x, power⟩, r⟩ <;> rfl
    next htakes => rw [withBehind, if_neg htakes]

namespace Insertion

variable {i : Insertion} {s s' : List Char}

/-! ## The same number in both readings -/

/-- Digits may be parts of tokens. -/
theorem isInner_of_isDigitOf {radix : Nat} {c : Char} (h : isDigitOf radix c = true) :
    isInner c = true := by
  have hrange : 48 ≤ c.toNat ∧ c.toNat ≤ 102 := toNat_of_isDigitOf h
  have hblank : isScriptBlank c = false := by
    simp only [isScriptBlank, Bool.or_eq_false_iff, Bool.and_eq_false_iff,
      decide_eq_false_iff_not, beq_eq_false_iff_ne]
    omega
  have hnone : (['/', '"', '\''] ++ openingSigns ++ closingSigns).all
      (fun x => (hexValue? x).isNone) = true := by
    decide
  have hne : c ∉ ['/', '"', '\''] ++ openingSigns ++ closingSigns := fun hmem => by
    have hc := Option.isNone_iff_eq_none.1 (List.all_eq_true.1 hnone c hmem)
    rw [isDigitOf, digitValue?, hc] at h
    exact Bool.false_ne_true h
  simp only [List.mem_append, not_or] at hne
  simp [isInner, hblank, hne]

/-- Whether two readings of a part of a token agree. -/
def RunsAlike (i : Insertion) (r r' : List Char × List Char) : Prop :=
  r.1 = r'.1 ∧ i.Continues r.2 r'.2

/-- A character that is no underscore goes on with a run if it is a digit. -/
theorem digitRun_cons {digit : Char → Bool} {c : Char} (hc : c ≠ '_') (s : List Char) :
    digitRun digit (c :: s) =
      if digit c then (c :: (digitRun digit s).1, (digitRun digit s).2) else ([], c :: s) := by
  rw [digitRun]
  exact fun _ _ h => absurd h hc

/-- A run ends where no part of a token stands. -/
theorem digitRun_of_not_inner {digit : Char → Bool}
    (hdigit : ∀ c, digit c = true → isInner c = true)
    {s : List Char} (h : ∀ c t, s = c :: t → isInner c = false) : digitRun digit s = ([], s) := by
  cases s with
  | nil => rfl
  | cons c t =>
      have hc := h c t rfl
      have hne : c ≠ '_' := by
        rintro rfl
        exact absurd hc (by decide)
      rw [digitRun_cons hne, if_neg]
      exact fun hd => absurd (hdigit c hd) (by simp [hc])

/-- The same run of digits is read. -/
theorem Continues.digitRun_alike {digit : Char → Bool}
    (hdigit : ∀ c, digit c = true → isInner c = true)
    (hunder : digit '_' = false) (h : i.Continues s s') :
    i.RunsAlike (digitRun digit s) (digitRun digit s') := by
  -- On the length of the text, because an underscore is read together with the digit behind it.
  induction hn : s.length using Nat.strong_induction_on generalizing s s' with
  | _ n ih =>
    have hrec {t t' : List Char} (ht : i.Continues t t') (hlt : t.length < s.length) :
        i.RunsAlike (digitRun digit t) (digitRun digit t') :=
      ih _ (hn ▸ hlt) ht rfl
    obtain ⟨c, t, t', rfl, rfl, hc, ht⟩ | ⟨hend, hend'⟩ := h.view
    · by_cases hunderscore : c = '_'
      · subst hunderscore
        obtain ⟨x, u, u', rfl, rfl, hx, hu⟩ | ⟨hend, hend'⟩ := ht.view
        · have hmore := hrec hu (by rw [List.length_cons, List.length_cons]; omega)
          rw [digitRun, digitRun]
          split
          · exact ⟨congrArg ('_' :: x :: ·) hmore.1, hmore.2⟩
          · exact ⟨rfl, h⟩
        · have hstop {t : List Char} (h : ∀ c u, t = c :: u → isInner c = false) :
              digitRun digit ('_' :: t) = ([], '_' :: t) := by
            cases t with
            | nil =>
                rw [digitRun, if_neg (by simp [hunder])]
                intro _ _ _ h
                cases h
            | cons x u =>
                rw [digitRun, if_neg]
                exact fun hd => absurd (hdigit x hd) (by simp [h x u rfl])
          rw [hstop hend, hstop hend']
          exact ⟨rfl, h⟩
      · have hmore := hrec ht (Nat.lt_succ_self _)
        rw [digitRun_cons hunderscore, digitRun_cons hunderscore]
        split
        · exact ⟨congrArg (c :: ·) hmore.1, hmore.2⟩
        · exact ⟨rfl, h⟩
    · rw [digitRun_of_not_inner hdigit hend, digitRun_of_not_inner hdigit hend']
      exact ⟨rfl, h⟩

/-- The same digits are read. -/
theorem Continues.digits?_alike {digit : Char → Bool}
    (hdigit : ∀ c, digit c = true → isInner c = true)
    (hunder : digit '_' = false) (h : i.Continues s s') :
    Option.Rel i.RunsAlike (digits? digit s) (digits? digit s') := by
  have hend {s : List Char} (h : ∀ c t, s = c :: t → isInner c = false) :
      digits? digit s = none := by
    cases s with
    | nil => rfl
    | cons c t =>
        rw [digits?, if_neg]
        exact fun hd => absurd (hdigit c hd) (by simp [h c t rfl])
  obtain ⟨c, t, t', rfl, rfl, -, -⟩ | ⟨hs, hs'⟩ := h.view
  · rw [digits?, digits?]
    split
    · exact .some (h.digitRun_alike hdigit hunder)
    · exact .none
  · rw [hend hs, hend hs']
    exact .none

/-- The same sign of an exponent is read. -/
theorem Continues.exponentSign_alike (h : i.Continues s s') :
    i.RunsAlike (exponentSign s) (exponentSign s') := by
  have hnone {s : List Char} (hplus : ∀ t, s ≠ '+' :: t) (hminus : ∀ t, s ≠ '-' :: t) :
      exponentSign s = ([], s) := by
    rw [exponentSign]
    · exact hplus
    · exact hminus
  obtain ⟨t, t', rfl, rfl, ht⟩ | ⟨hplus, hplus'⟩ := h.exists_cons (c := '+') (by decide)
  · exact ⟨rfl, ht⟩
  · obtain ⟨t, t', rfl, rfl, ht⟩ | ⟨hminus, hminus'⟩ := h.exists_cons (c := '-') (by decide)
    · exact ⟨rfl, ht⟩
    · rw [hnone hplus hminus, hnone hplus' hminus']
      exact ⟨rfl, h⟩

/-- The same digits of a radix are read. -/
theorem Continues.radixDigits?_alike (radix : Nat) (hunder : isDigitOf radix '_' = false)
    (h : i.Continues s s') :
    Option.Rel i.RunsAlike (digits? (isDigitOf radix) s) (digits? (isDigitOf radix) s') :=
  h.digits?_alike (fun _ hc => isInner_of_isDigitOf hc) hunder

/-- The same exponent is read. -/
theorem Continues.exponentPart_alike (h : i.Continues s s') :
    i.RunsAlike (exponentPart s) (exponentPart s') := by
  have hend {s : List Char} (h : ∀ c t, s = c :: t → isInner c = false) :
      exponentPart s = ([], s) := by
    cases s with
    | nil => rfl
    | cons c t =>
        have hc := h c t rfl
        rw [exponentPart_cons, if_neg]
        rintro (rfl | rfl) <;> exact absurd hc (by decide)
  obtain ⟨c, t, t', rfl, rfl, -, ht⟩ | ⟨hs, hs'⟩ := h.view
  · obtain ⟨hsign, hbehind⟩ := ht.exponentSign_alike
    have hdigits : Option.Rel i.RunsAlike (digits? isDecimal (exponentSign t).2)
        (digits? isDecimal (exponentSign t').2) := hbehind.radixDigits?_alike 10 (by decide)
    rw [exponentPart_cons, exponentPart_cons, hsign]
    split
    next =>
      obtain ⟨hr, hr'⟩ | ⟨r, r', hr, hr', hruns⟩ := eq_of_rel hdigits
      · rw [hr, hr']
        exact ⟨rfl, h⟩
      · rw [hr, hr']
        exact ⟨congrArg (c :: (exponentSign t').1 ++ ·) hruns.1, hruns.2⟩
    next => exact ⟨rfl, h⟩
  · rw [hend hs, hend hs']
    exact ⟨rfl, h⟩

/-- The same number with a radix mark is read. -/
theorem Continues.markedNumber?_alike (h : i.Continues s s') :
    Option.Rel i.RunsAlike (markedNumber? s) (markedNumber? s') := by
  have hne {s : List Char} (h : ∀ t, s ≠ '0' :: t) : markedNumber? s = none := by
    rw [markedNumber?]
    exact fun _ _ heq => h _ heq
  have hend {s : List Char} (h : ∀ c t, s = c :: t → isInner c = false) :
      markedNumber? ('0' :: s) = none := by
    cases s with
    | nil => rfl
    | cons c t =>
        have hc := h c t rfl
        have hradix : markedRadix? c = none := by
          rw [markedRadix?, if_neg, if_neg, if_neg]
          all_goals rintro (rfl | rfl) <;> exact absurd hc (by decide)
        rw [markedNumber?_cons, hradix]
        rfl
  obtain ⟨t, t', rfl, rfl, ht⟩ | ⟨hs, hs'⟩ := h.exists_cons (c := '0') (by decide)
  · obtain ⟨mark, u, u', rfl, rfl, -, hu⟩ | ⟨ht, ht'⟩ := ht.view
    · rw [markedNumber?_cons, markedNumber?_cons]
      cases hradix : markedRadix? mark with
      | none => exact .none
      | some radix =>
          have hunder : isDigitOf radix '_' = false := by
            rw [markedRadix?] at hradix
            split_ifs at hradix
            all_goals cases hradix
            all_goals decide
          obtain ⟨hr, hr'⟩ | ⟨r, r', hr, hr', hruns⟩ :=
            eq_of_rel (hu.radixDigits?_alike radix hunder)
          · rw [Option.bind_some, Option.bind_some, hr, hr']
            exact .none
          · rw [Option.bind_some, Option.bind_some, hr, hr']
            exact .some ⟨congrArg ('0' :: mark :: ·) hruns.1, hruns.2⟩
    · rw [hend ht, hend ht']
      exact .none
  · rw [hne hs, hne hs']
    exact .none

/-- The mark of a large integer is read in both readings or in none. -/
theorem RunsAlike.withLargeMark {r r' : List Char × List Char} (h : i.RunsAlike r r') :
    i.RunsAlike (withLargeMark r) (withLargeMark r') := by
  obtain ⟨text, s⟩ := r
  obtain ⟨text', s'⟩ := r'
  obtain ⟨rfl, hs⟩ : text = text' ∧ i.Continues s s' := h
  have hne {s : List Char} (h : ∀ t, s ≠ 'n' :: t) :
      DocSite.Script.withLargeMark (text, s) = (text, s) := by
    rw [DocSite.Script.withLargeMark]
    exact fun _ _ heq => h _ (congrArg Prod.snd heq)
  obtain ⟨t, t', rfl, rfl, ht⟩ | ⟨hn, hn'⟩ := hs.exists_cons (c := 'n') (by decide)
  · exact ⟨rfl, ht⟩
  · rw [hne hn, hne hn']
    exact ⟨rfl, hs⟩

/-- The same exponent or mark is read behind digits. -/
theorem RunsAlike.withPower {r r' : List Char × List Char} (h : i.RunsAlike r r') :
    i.RunsAlike (withPower r) (withPower r') := by
  obtain ⟨hpower, hbehind⟩ := h.2.exponentPart_alike
  rw [DocSite.Script.withPower, DocSite.Script.withPower]
  simp only [h.1, hpower]
  split
  next => exact RunsAlike.withLargeMark ⟨rfl, hbehind⟩
  next => exact ⟨rfl, hbehind⟩

/-- The same fraction is read behind digits and a point. -/
theorem Continues.withFraction_alike (h : i.Continues s s') (whole : List Char) :
    i.RunsAlike (withFraction whole s) (withFraction whole s') := by
  have hdigits : Option.Rel i.RunsAlike (digits? isDecimal s) (digits? isDecimal s') :=
    h.radixDigits?_alike 10 (by decide)
  have hfraction : i.RunsAlike ((digits? isDecimal s).getD ([], s))
      ((digits? isDecimal s').getD ([], s')) := by
    obtain ⟨hr, hr'⟩ | ⟨r, r', hr, hr', hruns⟩ := eq_of_rel hdigits
    · rw [hr, hr']
      exact ⟨rfl, h⟩
    · rw [hr, hr']
      exact hruns
  obtain ⟨hpower, hbehind⟩ := hfraction.2.exponentPart_alike
  refine ⟨?_, hbehind⟩
  change whole ++ '.' :: _ ++ _ = whole ++ '.' :: _ ++ _
  rw [hfraction.1, hpower]

/-- The same is read behind digits. -/
theorem RunsAlike.withBehind {r r' : List Char × List Char} (h : i.RunsAlike r r') :
    i.RunsAlike (withBehind r) (withBehind r') := by
  obtain ⟨whole, s⟩ := r
  obtain ⟨whole', s'⟩ := r'
  obtain ⟨rfl, hs⟩ : whole = whole' ∧ i.Continues s s' := h
  by_cases htakes : takesFraction whole = true
  · obtain ⟨t, t', rfl, rfl, ht⟩ | ⟨hpoint, hpoint'⟩ := hs.exists_cons (c := '.') (by decide)
    · rw [DocSite.Script.withBehind, DocSite.Script.withBehind, if_pos htakes, if_pos htakes]
      exact ht.withFraction_alike whole
    · rw [withBehind_of_ne_point htakes hpoint, withBehind_of_ne_point htakes hpoint']
      exact RunsAlike.withPower ⟨rfl, hs⟩
  · rw [DocSite.Script.withBehind, DocSite.Script.withBehind, if_neg htakes, if_neg htakes]
    exact RunsAlike.withLargeMark ⟨rfl, hs⟩

/-- The same number is read. -/
theorem Continues.number?_alike (h : i.Continues s s') :
    Option.Rel i.RunsAlike (number? s) (number? s') := by
  obtain ⟨hr, hr'⟩ | ⟨r, r', hr, hr', hruns⟩ := eq_of_rel h.markedNumber?_alike
  · obtain ⟨t, t', rfl, rfl, ht⟩ | ⟨hpoint, hpoint'⟩ := h.exists_cons (c := '.') (by decide)
    · have hdigits : Option.Rel i.RunsAlike (digits? isDecimal t) (digits? isDecimal t') :=
        ht.radixDigits?_alike 10 (by decide)
      rw [number?_point, number?_point]
      obtain ⟨hr, hr'⟩ | ⟨r, r', hr, hr', hruns⟩ := eq_of_rel hdigits
      · rw [hr, hr']
        exact .none
      · obtain ⟨hpower, hbehind⟩ := hruns.2.exponentPart_alike
        rw [hr, hr', Option.map_some, Option.map_some, hruns.1, hpower]
        exact .some ⟨rfl, hbehind⟩
    · have hdigits : Option.Rel i.RunsAlike (digits? isDecimal s) (digits? isDecimal s') :=
        h.radixDigits?_alike 10 (by decide)
      rw [number?_of_ne_point hr hpoint, number?_of_ne_point hr' hpoint']
      obtain ⟨hr, hr'⟩ | ⟨r, r', hr, hr', hruns⟩ := eq_of_rel hdigits
      · rw [hr, hr']
        exact .none
      · rw [hr, hr']
        exact .some hruns.withBehind
  · rw [number?.eq_def, number?.eq_def, hr, hr']
    exact .some hruns.withLargeMark

/-- The same number is found. -/
theorem Begins.asNumber?_alike (h : i.Begins s s') :
    i.Reads s s' (asNumber? s) (asNumber? s') := by
  have hnone {s : List Char} (h : number? s = none) : asNumber? s = none := by
    rw [asNumber?]
    split
    next heq =>
      rw [h] at heq
      cases heq
    next => rfl
  cases h with
  | @front s h ht =>
      have hcontinues : i.Continues (s ++ i.behind) (s ++ i.commented) := .front (Or.inl h)
      obtain ⟨hr, hr'⟩ | ⟨⟨text, rest⟩, ⟨text', rest'⟩, hr, hr', hruns⟩ :=
        eq_of_rel hcontinues.number?_alike
      · rw [hnone hr, hnone hr']
        exact .none
      · obtain ⟨rfl, hrest⟩ : text = text' ∧ i.Continues rest rest' := hruns
        rw [asNumber?_of_number? hr, asNumber?_of_number? hr']
        exact .some ⟨rfl, hrest.follows, length_number? hr, length_number? hr'⟩
  | past h =>
      refine reads_self h fun token rest heq => ?_
      rw [asNumber?] at heq
      split at heq
      next heq' =>
        cases heq
        exact length_number? heq'
      next => cases heq

end Insertion

end DocSite.Script

import DocSite.Proofs.Script.Quote

/-! # String literals as UTF-16

A text is written in UTF-16 as code units, of which a character beyond the first plane takes two
(`unitsOfChar`). Code units are read leniently (`decodeUnits`): a high surrogate and a low one right
behind it are one character, and a surrogate that has no partner is the replacement character.

An escape of four digits gives one code unit to a string literal, every other part the units of the
text that it stands for by itself (`StringPart.units`). The main statement is
`toList_textOfParts_eq_decodeUnits`: the literal stands for what these units are read as, together.

The half that waits while parts are joined is one more unit in front of those to come, so the
induction speaks of both states at once (`textOfPartsFrom_eq`). It needs that no part comes to
nothing, for then a half would wait no longer although nothing came. Only a backslash in front of a
line break does (`chars_ne_nil`). -/

namespace DocSite.Script

open DocSite.Text

/-! ## Code units -/

/-- The code units of a character. -/
def unitsOfChar (c : Char) : List Nat :=
  if c.toNat < 0x10000 then [c.toNat]
  else [0xD800 + (c.toNat - 0x10000) / 0x400, 0xDC00 + (c.toNat - 0x10000) % 0x400]

/-- What code units are read as: surrogates that are no pair are replaced. -/
def decodeUnits : List Nat → List Char
  | [] => []
  | [u] => [charOfCode u]
  | u :: v :: rest =>
      if isHighSurrogate u && isLowSurrogate v then charOfSurrogates u v :: decodeUnits rest
      else charOfCode u :: decodeUnits (v :: rest)

/-- Whether the first code unit could complete a pair. -/
def completesPair (units : List Nat) : Bool :=
  units.head?.any isLowSurrogate

/-- Only the first unit counts. -/
theorem completesPair_cons (u : Nat) (rest : List Nat) :
    completesPair (u :: rest) = isLowSurrogate u := rfl

/-- A unit that is not the first half of a pair is read by itself. -/
theorem decodeUnits_cons {u : Nat} {rest : List Nat}
    (h : isHighSurrogate u = false ∨ completesPair rest = false) :
    decodeUnits (u :: rest) = charOfCode u :: decodeUnits rest := by
  cases rest with
  | nil => rfl
  | cons v rest =>
      have hpair : ¬(isHighSurrogate u && isLowSurrogate v) = true := by
        rcases h with h | h
        · simp [h]
        · have hlow : isLowSurrogate v = false := h
          simp [hlow]
      rw [decodeUnits, if_neg hpair]

/-- A pair is read as one character. -/
theorem decodeUnits_pair {u v : Nat} (hu : isHighSurrogate u = true) (hv : isLowSurrogate v = true)
    (rest : List Nat) : decodeUnits (u :: v :: rest) = charOfSurrogates u v :: decodeUnits rest := by
  rw [decodeUnits, hu, hv, if_pos (by decide)]

/-- Every character is that of its code. -/
theorem charOfCode_toNat (c : Char) : charOfCode c.toNat = c := by
  have hvalid : c.toNat.isValidChar := c.valid
  rw [charOfCode, if_pos hvalid, Char.ofNat_toNat]

/-- Codes of characters are bounded. -/
theorem toNat_lt (c : Char) : c.toNat < 0x110000 := by
  have hvalid : c.toNat < 0xD800 ∨ 0xDFFF < c.toNat ∧ c.toNat < 0x110000 := c.valid
  omega

/-- The code of a character is no surrogate. -/
theorem not_surrogate_toNat (c : Char) :
    isHighSurrogate c.toNat = false ∧ isLowSurrogate c.toNat = false := by
  have hvalid : c.toNat < 0xD800 ∨ 0xDFFF < c.toNat ∧ c.toNat < 0x110000 := c.valid
  simp only [isHighSurrogate, isLowSurrogate, Bool.and_eq_false_iff, decide_eq_false_iff_not]
  omega

/-- No surrogate is both a first and a second half. -/
theorem isLowSurrogate_of_isHighSurrogate {u : Nat} (h : isHighSurrogate u = true) :
    isLowSurrogate u = false := by
  simp only [isHighSurrogate, Bool.and_eq_true, decide_eq_true_eq] at h
  simp only [isLowSurrogate, Bool.and_eq_false_iff, decide_eq_false_iff_not]
  omega

/-- A code is put together again from its two halves. -/
theorem join_halves {n : Nat} (hn : 0x10000 ≤ n) :
    0x10000 + (n - 0x10000) / 0x400 * 0x400 + (n - 0x10000) % 0x400 = n := by
  omega

/-- The first half of a code beyond the first plane is a high surrogate. -/
theorem isHighSurrogate_half {n : Nat} (hn : n < 0x110000) :
    isHighSurrogate (0xD800 + (n - 0x10000) / 0x400) = true := by
  simp only [isHighSurrogate, Bool.and_eq_true, decide_eq_true_eq]
  omega

/-- The second half is a low one. -/
theorem isLowSurrogate_half (n : Nat) :
    isLowSurrogate (0xDC00 + (n - 0x10000) % 0x400) = true := by
  simp only [isLowSurrogate, Bool.and_eq_true, decide_eq_true_eq]
  omega

/-- The two halves of a code beyond the first plane name its character. -/
theorem charOfSurrogates_halves {n : Nat} (hn : 0x10000 ≤ n) :
    charOfSurrogates (0xD800 + (n - 0x10000) / 0x400) (0xDC00 + (n - 0x10000) % 0x400)
      = charOfCode n := by
  rw [charOfSurrogates, Nat.add_sub_cancel_left, Nat.add_sub_cancel_left, join_halves hn]

/-- No character begins with the second half of a pair. -/
theorem completesPair_unitsOfChar_append (c : Char) (rest : List Nat) :
    completesPair (unitsOfChar c ++ rest) = false := by
  rw [unitsOfChar]
  split
  next => rw [List.singleton_append, completesPair_cons, (not_surrogate_toNat c).2]
  next =>
    rw [List.cons_append, completesPair_cons]
    exact isLowSurrogate_of_isHighSurrogate (isHighSurrogate_half (toNat_lt c))

/-- The units of a character are read as that character, whatever follows. -/
theorem decodeUnits_unitsOfChar_append (c : Char) (rest : List Nat) :
    decodeUnits (unitsOfChar c ++ rest) = c :: decodeUnits rest := by
  rw [unitsOfChar]
  split
  next =>
    rw [List.singleton_append, decodeUnits_cons (Or.inl (not_surrogate_toNat c).1),
      charOfCode_toNat]
  next hc =>
    rw [List.cons_append, List.singleton_append,
      decodeUnits_pair (isHighSurrogate_half (toNat_lt c)) (isLowSurrogate_half c.toNat),
      charOfSurrogates_halves (Nat.not_lt.1 hc), charOfCode_toNat]

/-- **The units of a text are read as that text**, whatever follows. -/
theorem decodeUnits_flatMap_append (s : List Char) (rest : List Nat) :
    decodeUnits (s.flatMap unitsOfChar ++ rest) = s ++ decodeUnits rest := by
  induction s with
  | nil => rfl
  | cons c more ih =>
      rw [List.flatMap_cons, List.append_assoc, decodeUnits_unitsOfChar_append, ih, List.cons_append]

/-- Units are read apart from what is in front of them, unless they could complete a pair. -/
theorem decodeUnits_append {front behind : List Nat} (h : completesPair behind = false) :
    decodeUnits (front ++ behind) = decodeUnits front ++ decodeUnits behind := by
  induction front using decodeUnits.induct with
  | case1 => rfl
  | case2 u => exact decodeUnits_cons (Or.inr h)
  | case3 u v rest hpair ih =>
      rw [Bool.and_eq_true] at hpair
      rw [List.cons_append, List.cons_append, decodeUnits_pair hpair.1 hpair.2, ih,
        decodeUnits_pair hpair.1 hpair.2, List.cons_append]
  | case4 u v rest hpair ih =>
      rw [List.cons_append, List.cons_append, decodeUnits, if_neg hpair, ← List.cons_append, ih,
        decodeUnits, if_neg hpair, List.cons_append]

/-! ## Parts -/

/-- The code units that a part gives to a string literal. -/
def StringPart.units (part : StringPart) : List Nat :=
  match part.unit? with
  | some u => [u]
  | none => part.chars.flatMap unitsOfChar

/-- Whether a part is a backslash in front of a line break, which continues the line. -/
def StringPart.IsContinuation : StringPart → Prop
  | .escape (.single c) => c = '\n' ∨ c = '\r'
  | .escape (.lineBreak first _) => first = '\r'
  | _ => False

/-- Whether a part is what a reader can find: text has characters, and octal escapes have digits. -/
def StringPart.IsFilled : StringPart → Prop
  | .text chars => chars ≠ []
  | .escape (.octal digits) => digits ≠ []
  | .escape _ => True

/-- A part that gives one unit stands for the character of that code, if there is one. -/
theorem StringPart.chars_of_unit? {part : StringPart} {u : Nat} (h : part.unit? = some u) :
    part.chars = [charOfCode u] := by
  rw [unit?.eq_def] at h
  split at h
  next digits =>
    rw [chars, Escape.chars, charOfHex, h]
  next => cases h

/-- Only the continuation of a line stands for nothing. -/
theorem StringPart.chars_ne_nil {part : StringPart} (hfilled : part.IsFilled)
    (h : ¬part.IsContinuation) : part.chars ≠ [] := by
  cases part with
  | text chars => exact hfilled
  | escape e =>
      rw [chars, Escape.chars.eq_def]
      split
      case h_7 => exact fun _ => h (Or.inl rfl)
      case h_8 => exact fun _ => h (Or.inr rfl)
      case h_11 => exact hfilled
      case h_15 => exact fun _ => h rfl
      all_goals exact List.cons_ne_nil _ _

/-- Without continuations of lines, parts stand for what their units are read as, and a half that
waits is one unit more in front. -/
theorem textOfPartsFrom_eq {parts : List StringPart}
    (h : ∀ part ∈ parts, part.unit? = none → part.chars ≠ []) :
    textOfPartsFrom none parts = decodeUnits (parts.flatMap StringPart.units) ∧
      ∀ u, isHighSurrogate u = true →
        textOfPartsFrom (some u) parts = decodeUnits (u :: parts.flatMap StringPart.units) := by
  have hreplaced {u : Nat} (hu : isHighSurrogate u = true) : charOfCode u = replacement := by
    simp only [isHighSurrogate, Bool.and_eq_true, decide_eq_true_eq] at hu
    rw [charOfCode, if_neg]
    rintro (hlow | ⟨hhigh, -⟩)
    · omega
    · omega
  induction parts with
  | nil => exact ⟨rfl, fun u hu => by rw [List.flatMap_nil, decodeUnits, hreplaced hu]; rfl⟩
  | cons part rest ih =>
      obtain ⟨hpart, hrest⟩ := List.forall_mem_cons.1 h
      obtain ⟨hnone, hsome⟩ := ih hrest
      rw [List.flatMap_cons, StringPart.units]
      cases hunit : part.unit? with
      | none =>
          obtain ⟨c, more, hchars⟩ := List.exists_cons_of_ne_nil (hpart hunit)
          have halone : completesPair (part.chars.flatMap unitsOfChar
              ++ rest.flatMap StringPart.units) = false := by
            rw [hchars, List.flatMap_cons, List.append_assoc]
            exact completesPair_unitsOfChar_append c _
          refine ⟨?_, fun u hu => ?_⟩
          · rw [textOfPartsFrom, hunit, decodeUnits_flatMap_append, ← hnone]
          · rw [textOfPartsFrom, hunit, decodeUnits_cons (Or.inr halone), hreplaced hu,
              decodeUnits_flatMap_append, ← hnone]
            rfl
      | some v =>
          have hchars := StringPart.chars_of_unit? hunit
          refine ⟨?_, fun u hu => ?_⟩
          · rw [textOfPartsFrom, hunit]
            simp only [List.singleton_append]
            split
            next hv => exact hsome v hv
            next hv =>
              rw [decodeUnits_cons (Or.inl (by simpa using hv)), hchars, hnone,
                List.singleton_append]
          · rw [textOfPartsFrom, hunit]
            simp only [List.singleton_append]
            split
            next hv => rw [decodeUnits_pair hu hv, hnone]
            next hv =>
              have halone : completesPair (v :: rest.flatMap StringPart.units) = false := by
                simpa [completesPair] using hv
              rw [decodeUnits_cons (Or.inr halone), hreplaced hu]
              split
              next hv' => rw [hsome v hv']
              next hv' =>
                rw [decodeUnits_cons (Or.inl (by simpa using hv')), hchars, hnone]
                rfl

/-! ## String literals -/

/-- An escape that is read is not empty. -/
theorem isFilled_of_escape? {s rest : List Char} {e : Escape} (h : escape? s = some (e, rest)) :
    (StringPart.escape e).IsFilled := by
  cases e with
  | octal digits =>
      rintro rfl
      rw [escape?.eq_def] at h
      repeat' split at h
      all_goals cases h
  | _ => trivial

/-- The parts of a string literal are not empty. -/
theorem isFilled_of_mem_stringParts? {d : Char} {n : Nat} {s after : List Char}
    {parts : List StringPart} (h : stringParts? d n s = some (parts, after)) :
    ∀ part ∈ parts, part.IsFilled := by
  induction n generalizing s parts with
  | zero => cases h
  | succ n ih =>
      cases stringStep_of_stringParts? h with
      | close => exact List.forall_mem_nil _
      | escape hread hparts =>
          exact List.forall_mem_cons.2 ⟨isFilled_of_escape? hread, ih hparts⟩
      | run _ _ hparts => exact List.forall_mem_cons.2 ⟨List.cons_ne_nil _ _, ih hparts⟩
      | gap _ _ _ _ hparts => exact ih hparts

/-- So are those of a string literal that stands somewhere. -/
theorem isFilled_of_mem_string? {s after : List Char} {parts : List StringPart}
    (h : string? s = some (parts, after)) : ∀ part ∈ parts, part.IsFilled := by
  rw [string?.eq_def] at h
  split at h
  next => exact isFilled_of_mem_stringParts? h
  next => exact isFilled_of_mem_stringParts? h
  next => cases h

/-- **A string literal stands for what the code units of its parts are read as together**, if it
continues no line. Beside a part that gives no unit of its own, what is in front of it and what is
behind it are read apart. -/
theorem toList_textOfParts_eq_decodeUnits {s after : List Char} {parts : List StringPart}
    (h : string? s = some (parts, after)) (hlines : ∀ part ∈ parts, ¬part.IsContinuation) :
    (textOfParts parts).toList = decodeUnits (parts.flatMap StringPart.units) ∧
      ∀ front part behind, parts = front ++ part :: behind → part.unit? = none →
        (textOfParts parts).toList
          = (textOfParts front).toList ++ part.chars ++ (textOfParts behind).toList := by
  have hsome : ∀ part ∈ parts, part.unit? = none → part.chars ≠ [] := fun part hpart _ =>
    part.chars_ne_nil (isFilled_of_mem_string? h part hpart) (hlines part hpart)
  have hread {some : List StringPart} (hsub : ∀ part ∈ some, part ∈ parts) :
      (textOfParts some).toList = decodeUnits (some.flatMap StringPart.units) := by
    rw [textOfParts, String.toList_ofList]
    exact (textOfPartsFrom_eq fun part hpart => hsome part (hsub part hpart)).1
  refine ⟨hread fun part hpart => hpart, fun front part behind hparts hunit => ?_⟩
  subst hparts
  obtain ⟨c, more, hchars⟩ := List.exists_cons_of_ne_nil
    (hsome part (List.mem_append_right front List.mem_cons_self) hunit)
  have halone : completesPair (part.chars.flatMap unitsOfChar
      ++ behind.flatMap StringPart.units) = false := by
    rw [hchars, List.flatMap_cons, List.append_assoc]
    exact completesPair_unitsOfChar_append c _
  rw [hread fun part hpart => hpart, hread fun part hpart => List.mem_append_left _ hpart,
    hread fun part hpart => List.mem_append_right front (List.mem_cons_of_mem _ hpart),
    List.flatMap_append, List.flatMap_cons, StringPart.units, hunit]
  rw [decodeUnits_append halone, decodeUnits_flatMap_append, List.append_assoc]

/-- A literal with a pair, a high surrogate in front of another one and of a letter, a low surrogate
alone, and a high one in front of an escape of another kind. -/
def surrogateLiteral : List Char := "'\\ud83d\\ude00\\uD83D\\uD83Dx\\uDE00\\uD83D\\x41'".toList

/-- Its parts. -/
def surrogateParts : List StringPart :=
  [.escape (.unit ['d', '8', '3', 'd']), .escape (.unit ['d', 'e', '0', '0']),
    .escape (.unit ['D', '8', '3', 'D']), .escape (.unit ['D', '8', '3', 'D']), .text ['x'],
    .escape (.unit ['D', 'E', '0', '0']), .escape (.unit ['D', '8', '3', 'D']),
    .escape (.hex ['4', '1'])]

/-- Only the pair is joined. -/
theorem decodeUnits_surrogateParts : string? surrogateLiteral = some (surrogateParts, []) ∧
    (∀ part ∈ surrogateParts, ¬part.IsContinuation) ∧
      (textOfParts surrogateParts).toList
        = decodeUnits [0xD83D, 0xDE00, 0xD83D, 0xD83D, 'x'.toNat, 0xDE00, 0xD83D, 'A'.toNat] ∧
      decodeUnits [0xD83D, 0xDE00, 0xD83D, 0xD83D, 'x'.toNat, 0xDE00, 0xD83D, 'A'.toNat]
        = ['😀', replacement, replacement, 'x', replacement, replacement, 'A'] := by
  have hread : string? surrogateLiteral = some (surrogateParts, []) := by rfl
  have hlines : ∀ part ∈ surrogateParts, ¬part.IsContinuation := by
    simp [surrogateParts, StringPart.IsContinuation]
  exact ⟨hread, hlines, (toList_textOfParts_eq_decodeUnits hread hlines).1, by decide⟩

end DocSite.Script

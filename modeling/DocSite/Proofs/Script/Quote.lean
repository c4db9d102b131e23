import DocSite.Proofs.Text.Digit
import DocSite.Script.Quote
import DocSite.Script.Token
import DocSite.Script.Unescape
import Mathlib.Data.List.TakeDrop

/-! # Quoted text is read back

`quoteChars` writes a text between delimiters, `string?` cuts a string literal into its parts, and
`textOfParts` joins what the parts stand for. The main statement is `string?_quoteChars`: whatever
the text and whatever follows it, the literal that is written for a text is read as that text, up to
its closing delimiter and no further.

* A character is written as itself or as an escape that stands for it alone (`quoteChar_cases`).
* No escape that is written is half of a surrogate pair, so parts do not join (`EscapeFor`).
* A run of characters that stand for themselves ends at an escape or at the closing delimiter
  (`span_quoteBody`).

What else is proved of string literals goes by what a literal begins with: its delimiter, an escape,
a run of plain characters, or a gap with a line break (`StringStep`). -/

namespace DocSite.Script

open DocSite.Text

/-- The characters that may enclose a string literal. -/
def IsDelimiter (d : Char) : Prop := d = '"' ∨ d = '\''

/-- A double quote delimits texts. -/
theorem isDelimiter_double : IsDelimiter '"' := Or.inl rfl

/-- A single quote delimits texts. -/
theorem isDelimiter_single : IsDelimiter '\'' := Or.inr rfl

/-- An escape that stands for `c` alone and does not wait for another half. -/
structure EscapeFor (c : Char) (e : Escape) : Prop where
  /-- The escape stands for the character. -/
  chars_eq : e.chars = [c]
  /-- It is not the first half of a surrogate pair. -/
  not_high : ∀ u, (StringPart.escape e).unit? = some u → isHighSurrogate u = false

/-! ## One character -/

/-- Four hexadecimal digits behind `u` are read as one code unit. -/
theorem escape?_unit {a b c d : Char} (h : [a, b, c, d].all isHex = true) (rest : List Char) :
    escape? ('u' :: a :: b :: c :: d :: rest) = some (.unit [a, b, c, d], rest) := by
  have ha : a ≠ '{' := by
    rintro rfl
    rw [List.all_cons, show isHex '{' = false by decide, Bool.false_and] at h
    exact Bool.false_ne_true h
  rw [escape?, if_pos h]
  exact ha

/-- A text of four characters, one by one. -/
theorem eq_of_length_four {s : List Char} (h : s.length = 4) : ∃ a b c d, s = [a, b, c, d] := by
  match s, h with
  | [a, b, c, d], _ => exact ⟨a, b, c, d, rfl⟩

/-- A character of a code below the surrogates is read back from its four digits. -/
theorem escape?_hexFixed {c : Char} (hc : c.toNat < 0xD800) :
    ∃ e, (∀ rest, escape? ('u' :: hexFixed 4 c.toNat ++ rest) = some (e, rest)) ∧
      EscapeFor c e := by
  have hlt : c.toNat < 16 ^ 4 := Nat.lt_trans hc (by decide)
  have hvalue := digitsValue?_hexFixed (by decide) hlt
  have hhex : (hexFixed 4 c.toNat).all isHex = true :=
    List.all_eq_true.2 fun x hx => isHex_of_mem_hexFixed hx
  obtain ⟨w, x, y, z, hdigits⟩ := eq_of_length_four (length_hexFixed 4 c.toNat)
  rw [hdigits] at hvalue hhex
  refine ⟨.unit [w, x, y, z], fun rest => ?_, ?_, ?_⟩
  · rw [hdigits]
    exact escape?_unit hhex rest
  · have hvalid : c.toNat.isValidChar := Or.inl hc
    rw [Escape.chars, charOfHex, hvalue]
    simp [charOfCode, hvalid]
  · intro u hu
    rw [StringPart.unit?, hvalue, Option.some.injEq] at hu
    rw [isHighSurrogate, ← hu]
    simp only [Bool.and_eq_false_imp, decide_eq_true_eq]
    omega

/-- A character that stands behind a backslash for `c`. -/
theorem escapeFor_single {c x : Char} (h : (Escape.single x).chars = [c]) :
    EscapeFor c (.single x) :=
  ⟨h, fun u hu => by cases hu⟩

/-- **A character is written as itself or as an escape for it.** -/
theorem quoteChar_cases {d : Char} (hd : IsDelimiter d) (c : Char) :
    (quoteChar d c = [c] ∧ isPlainIn d c = true) ∨
      ∃ text e, quoteChar d c = '\\' :: text ∧
        (∀ rest, escape? (text ++ rest) = some (e, rest)) ∧ EscapeFor c e := by
  rw [quoteChar]
  by_cases hslash : c = '\\'
  · subst hslash
    exact Or.inr ⟨['\\'], .single '\\', rfl, fun rest => rfl, escapeFor_single rfl⟩
  by_cases hfeed : c = '\n'
  · subst hfeed
    exact Or.inr ⟨['n'], .single 'n', rfl, fun rest => rfl, escapeFor_single rfl⟩
  by_cases hreturn : c = '\r'
  · subst hreturn
    exact Or.inr ⟨['r'], .single 'r', rfl, fun rest => rfl, escapeFor_single rfl⟩
  by_cases htab : c = '\t'
  · subst htab
    exact Or.inr ⟨['t'], .single 't', rfl, fun rest => rfl, escapeFor_single rfl⟩
  rw [if_neg hslash, if_neg hfeed, if_neg hreturn, if_neg htab]
  by_cases hdelim : c = d
  · subst hdelim
    refine Or.inr ⟨[c], .single c, if_pos rfl, ?_, ?_⟩
    · rcases hd with rfl | rfl <;> exact fun rest => rfl
    · rcases hd with rfl | rfl <;> exact escapeFor_single rfl
  rw [if_neg hdelim]
  by_cases hcontrol : isControl c = true
  · have hlow : c.toNat < 0xD800 := by
      simp only [isControl, Bool.or_eq_true, Bool.and_eq_true, decide_eq_true_eq] at hcontrol
      omega
    obtain ⟨e, hread, hfor⟩ := escape?_hexFixed hlow
    exact Or.inr ⟨'u' :: hexFixed 4 c.toNat, e, if_pos hcontrol, hread, hfor⟩
  · refine Or.inl ⟨if_neg hcontrol, ?_⟩
    simp [isPlainIn, hdelim, hslash, hreturn, hfeed]

/-! ## A run of characters -/

/-- The closing delimiter does not stand for itself. -/
theorem isPlainIn_self (d : Char) : isPlainIn d d = false := by
  simp [isPlainIn]

/-- A backslash does not stand for itself. -/
theorem isPlainIn_backslash (d : Char) : isPlainIn d '\\' = false := by
  simp [isPlainIn]

/-- A run goes on over a character that satisfies the condition. -/
theorem span_cons_of_pos {p : Char → Bool} {c : Char} {s run tail : List Char} (hc : p c = true)
    (h : s.span p = (run, tail)) : (c :: s).span p = (c :: run, tail) := by
  rw [List.span_eq_takeWhile_dropWhile, Prod.mk.injEq] at h
  rw [List.span_eq_takeWhile_dropWhile, List.takeWhile_cons_of_pos hc,
    List.dropWhile_cons_of_pos hc, h.1, h.2]

/-- A run ends in front of a character that does not satisfy the condition. -/
theorem span_cons_of_neg {p : Char → Bool} {c : Char} (s : List Char) (hc : p c = false) :
    (c :: s).span p = ([], c :: s) := by
  have hc' : ¬ p c = true := by simp [hc]
  rw [List.span_eq_takeWhile_dropWhile, List.takeWhile_cons_of_neg hc',
    List.dropWhile_cons_of_neg hc']

/-- **A run of plain characters ends where an escape or the delimiter stands:** what is cut off is
the beginning of the text, and the rest of the text is written behind it. -/
theorem span_quoteBody {d : Char} (hd : IsDelimiter d) (s after : List Char) :
    ∃ run tail, s = run ++ tail ∧ quoteBody d s = run ++ quoteBody d tail ∧
      (quoteBody d s ++ d :: after).span (isPlainIn d) = (run, quoteBody d tail ++ d :: after) := by
  induction s with
  | nil => exact ⟨[], [], rfl, rfl, span_cons_of_neg after (isPlainIn_self d)⟩
  | cons c rest ih =>
      rcases quoteChar_cases hd c with ⟨hself, hplain⟩ | ⟨text, e, hescape, -, -⟩
      · obtain ⟨run, tail, hsplit, hbody, hspan⟩ := ih
        refine ⟨c :: run, tail, by rw [hsplit, List.cons_append], ?_, ?_⟩
        · rw [quoteBody_cons, hself, hbody, List.singleton_append, List.cons_append]
        · rw [quoteBody_cons, hself, List.singleton_append, List.cons_append]
          exact span_cons_of_pos hplain hspan
      · refine ⟨[], c :: rest, rfl, rfl, ?_⟩
        rw [quoteBody_cons, hescape, List.cons_append, List.cons_append]
        exact span_cons_of_neg _ (isPlainIn_backslash d)

/-! ## The text of parts -/

/-- A part that is not half of a surrogate pair adds what it stands for. -/
theorem textOfPartsFrom_none_cons {part : StringPart} (rest : List StringPart)
    (h : ∀ u, part.unit? = some u → isHighSurrogate u = false) :
    textOfPartsFrom none (part :: rest) = part.chars ++ textOfPartsFrom none rest := by
  rw [textOfPartsFrom]
  split
  next u hu => rw [if_neg (by simp [h u hu])]
  next => rfl

/-- A run of plain characters is one part. -/
theorem stringParts?_run {d c : Char} {n : Nat} {s run tail after : List Char}
    {parts : List StringPart} (hc : isPlainIn d c = true)
    (hrun : s.span (isPlainIn d) = (run, tail))
    (hparts : stringParts? d n tail = some (parts, after)) :
    stringParts? d (n + 1) (c :: s) = some (.text (c :: run) :: parts, after) := by
  have hdelim : c ≠ d := by
    rintro rfl
    exact absurd (isPlainIn_self c) (by simp [hc])
  have hslash : c ≠ '\\' := by
    rintro rfl
    exact absurd (isPlainIn_backslash d) (by simp [hc])
  rw [stringParts?]
  · rw [if_neg hdelim, span_cons_of_pos hc hrun]
    simp only [hparts]
  · exact hslash

/-- An escape is a part of its own. -/
theorem stringParts?_escape {d : Char} {n : Nat} {s rest after : List Char} {e : Escape}
    {parts : List StringPart} (hread : escape? s = some (e, rest))
    (hparts : stringParts? d n rest = some (parts, after)) :
    stringParts? d (n + 1) ('\\' :: s) = some (.escape e :: parts, after) := by
  rw [stringParts?]
  simp only [hread, hparts]

/-- A gap is no part. -/
theorem stringParts?_gap {d c : Char} {n : Nat} {s rest after : List Char}
    {parts : List StringPart} (hc : isPlainIn d c = false) (hdelim : c ≠ d)
    (hslash : c ≠ '\\') (hgap : afterGap? d (c :: s) = some rest)
    (hparts : stringParts? d n rest = some (parts, after)) :
    stringParts? d (n + 1) (c :: s) = some (parts, after) := by
  rw [stringParts?]
  · rw [if_neg hdelim, span_cons_of_neg s hc]
    simp only [hgap, hparts]
  · exact hslash

/-- What a string literal begins with, of which at most `n` parts and gaps follow. -/
inductive StringStep (d : Char) (n : Nat) : List Char → List StringPart → List Char → Prop where
  /-- The closing delimiter. -/
  | close (hslash : d ≠ '\\') (after : List Char) : StringStep d n (d :: after) [] after
  /-- An escape. -/
  | escape {s rest after : List Char} {e : Escape} {parts : List StringPart}
      (hread : escape? s = some (e, rest)) (hparts : stringParts? d n rest = some (parts, after)) :
      StringStep d n ('\\' :: s) (.escape e :: parts) after
  /-- A run of plain characters. -/
  | run {c : Char} {s run tail after : List Char} {parts : List StringPart}
      (hc : isPlainIn d c = true) (hrun : s.span (isPlainIn d) = (run, tail))
      (hparts : stringParts? d n tail = some (parts, after)) :
      StringStep d n (c :: s) (.text (c :: run) :: parts) after
  /-- A gap. -/
  | gap {c : Char} {s rest after : List Char} {parts : List StringPart}
      (hc : isPlainIn d c = false) (hdelim : c ≠ d) (hslash : c ≠ '\\')
      (hgap : afterGap? d (c :: s) = some rest)
      (hparts : stringParts? d n rest = some (parts, after)) : StringStep d n (c :: s) parts after

/-- A string literal begins with its delimiter, an escape, a run of plain characters or a gap. -/
theorem stringStep_of_stringParts? {d : Char} {n : Nat} {s after : List Char}
    {parts : List StringPart} (h : stringParts? d (n + 1) s = some (parts, after)) :
    StringStep d n s parts after := by
  rw [stringParts?.eq_def] at h
  simp only at h
  split at h
  next => cases h
  next s =>
    split at h
    next e rest hread =>
      split at h
      next parts after hparts =>
        cases h
        exact .escape hread hparts
      next => cases h
    next => cases h
  next c s hslash =>
    split at h
    next hc =>
      cases h
      exact hc ▸ .close (hc ▸ hslash) _
    next hdelim =>
      by_cases hc : isPlainIn d c = true
      · rw [span_cons_of_pos hc rfl] at h
        split at h
        next heq => cases heq
        next heq =>
          split at h
          next parts after hparts =>
            cases h
            cases heq
            exact .run hc rfl hparts
          next => cases h
      · rw [Bool.not_eq_true] at hc
        rw [span_cons_of_neg s hc] at h
        simp only at h
        split at h
        next rest hgap => exact .gap hc hdelim hslash hgap h
        next => cases h

/-- **The parts of what is written for a text stand for that text.** Any bound on the number of
parts does that exceeds the number of characters written. -/
theorem stringParts?_quoteBody {d : Char} (hd : IsDelimiter d) (n : Nat) (s after : List Char)
    (hn : (quoteBody d s).length < n) :
    ∃ parts, stringParts? d n (quoteBody d s ++ d :: after) = some (parts, after) ∧
      textOfPartsFrom none parts = s := by
  induction n generalizing s with
  | zero => exact absurd hn (Nat.not_lt_zero _)
  | succ n ih =>
      cases s with
      | nil =>
          refine ⟨[], ?_, rfl⟩
          rcases hd with rfl | rfl <;> rfl
      | cons c rest =>
          rcases quoteChar_cases hd c with ⟨hself, hplain⟩ | ⟨text, e, hescape, hread, hfor⟩
          · -- The whole run that a plain character begins is one part.
            obtain ⟨run, tail, hsplit, hbody, hspan⟩ := span_quoteBody hd rest after
            rw [quoteBody_cons, hself, hbody] at hn
            have hlen : (quoteBody d tail).length < n := by
              simp only [List.length_append, List.length_cons, List.length_nil] at hn
              omega
            obtain ⟨parts, hparts, htext⟩ := ih tail hlen
            refine ⟨.text (c :: run) :: parts, ?_, ?_⟩
            · rw [quoteBody_cons, hself, List.singleton_append, List.cons_append]
              exact stringParts?_run hplain hspan hparts
            · have hwhole : ∀ u, (StringPart.text (c :: run)).unit? = some u →
                  isHighSurrogate u = false := fun u hu => nomatch hu
              rw [textOfPartsFrom_none_cons _ hwhole, htext, hsplit, StringPart.chars,
                List.cons_append]
          · rw [quoteBody_cons, hescape] at hn
            have hlen : (quoteBody d rest).length < n := by
              simp only [List.length_append, List.length_cons] at hn
              omega
            obtain ⟨parts, hparts, htext⟩ := ih rest hlen
            refine ⟨.escape e :: parts, ?_, ?_⟩
            · rw [quoteBody_cons, hescape, List.cons_append, List.cons_append, List.append_assoc]
              exact stringParts?_escape (hread _) hparts
            · rw [textOfPartsFrom_none_cons _ hfor.not_high, htext, StringPart.chars,
                hfor.chars_eq, List.singleton_append]

/-! ## The literal -/

/-- **What is written for a text is read as that text**, and reading stops behind the closing
delimiter. -/
theorem string?_quoteChars {d : Char} (hd : IsDelimiter d) (s : String) (after : List Char) :
    ∃ parts, string? (quoteChars d s.toList ++ after) = some (parts, after) ∧
      textOfParts parts = s := by
  have hlen : (quoteBody d s.toList).length
      < (quoteBody d s.toList ++ d :: after).length + 1 := by
    rw [List.length_append]
    omega
  obtain ⟨parts, hparts, htext⟩ := stringParts?_quoteBody hd _ s.toList after hlen
  refine ⟨parts, ?_, by rw [textOfParts, htext, String.ofList_toList]⟩
  rw [quoteChars, List.append_assoc, List.cons_append, List.singleton_append]
  rcases hd with rfl | rfl <;> exact hparts

/-- A character is written without NUL: NUL itself is a control character. -/
theorem nul_not_mem_quoteChar {d : Char} (hd : IsDelimiter d) (c : Char) :
    '\x00' ∉ quoteChar d c := by
  rw [quoteChar]
  split_ifs with hslash hfeed hreturn htab hdelim hcontrol
  · decide
  · decide
  · decide
  · decide
  · rw [hdelim]
    rcases hd with rfl | rfl <;> decide
  · intro hmem
    simp only [List.mem_cons, Char.reduceEq, false_or] at hmem
    exact absurd (isHex_of_mem_hexFixed hmem) (by decide)
  · intro hmem
    rw [← List.mem_singleton.1 hmem] at hcontrol
    exact hcontrol (by decide)

/-- A string literal is written without NUL. -/
theorem nul_not_mem_quoteChars {d : Char} (hd : IsDelimiter d) (s : List Char) :
    '\x00' ∉ quoteChars d s := by
  have hne : '\x00' ≠ d := by rcases hd with rfl | rfl <;> decide
  rw [quoteChars, List.cons_append, List.mem_cons, List.mem_append, List.mem_singleton]
  rintro (h | h | h)
  · exact hne h
  · obtain ⟨c, -, hc⟩ := List.mem_flatMap.1 h
    exact nul_not_mem_quoteChar hd c hc
  · exact hne h

end DocSite.Script

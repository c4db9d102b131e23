import DocSite.Proofs.Script.Declared
import DocSite.Proofs.Script.NumberValue
import Mathlib.Algebra.Ring.Parity

/-! # What stands between quotes

A quoted text is one string literal and nothing else. Between its ends no control character stands
as it is, so it fills one line, and every delimiter is escaped: an odd number of backslashes stands in
front of it (`backslashesBehind`). The last follows from the way in which backslashes pair up with the
characters that they escape (`IsEnclosed`).

The main statement is `parse_quote`. -/

namespace DocSite.Script

open DocSite.Text

/-! ## Escaped delimiters -/

/-- The number of backslashes at the end of a text. -/
def backslashesBehind (s : List Char) : Nat :=
  (s.reverse.takeWhile (· == '\\')).length

/-- A character in front counts only if there is nothing but backslashes behind it. -/
theorem backslashesBehind_cons (c : Char) (s : List Char) :
    backslashesBehind (c :: s) = if backslashesBehind s = s.length then
      s.length + (if c = '\\' then 1 else 0) else backslashesBehind s := by
  rw [backslashesBehind, backslashesBehind, List.reverse_cons, List.takeWhile_append,
    List.length_reverse]
  split_ifs with hall hslash
  · simp [hslash]
  · simp [hslash]
  · rfl

/-- Whether a text can stand between delimiters: a backslash takes the next character with it, and
apart from such characters there is no delimiter. -/
inductive IsEnclosed (d : Char) : List Char → Prop where
  /-- Nothing. -/
  | nil : IsEnclosed d []
  /-- A character that stands for itself. -/
  | plain {c : Char} {s : List Char} (hdelim : c ≠ d) (hslash : c ≠ '\\') (h : IsEnclosed d s) :
      IsEnclosed d (c :: s)
  /-- An escaped character. -/
  | escaped (c : Char) {s : List Char} (h : IsEnclosed d s) : IsEnclosed d ('\\' :: c :: s)

namespace IsEnclosed

variable {d : Char} {s t : List Char}

/-- Two such texts may follow each other. -/
theorem append (hs : IsEnclosed d s) (ht : IsEnclosed d t) : IsEnclosed d (s ++ t) := by
  induction hs with
  | nil => exact ht
  | plain hdelim hslash _ ih => exact .plain hdelim hslash ih
  | escaped c _ ih => exact .escaped c ih

/-- Such texts hold characters that stand for themselves. -/
theorem of_forall (h : ∀ c ∈ s, c ≠ d ∧ c ≠ '\\') : IsEnclosed d s := by
  induction s with
  | nil => exact .nil
  | cons c rest ih =>
      obtain ⟨hc, hrest⟩ := List.forall_mem_cons.1 h
      exact .plain hc.1 hc.2 (ih hrest)

/-- **Every delimiter in such a text is escaped.** -/
theorem odd_backslashesBehind (h : IsEnclosed d s) (hd : d ≠ '\\') {front behind : List Char}
    (hs : s = front ++ d :: behind) : Odd (backslashesBehind front) := by
  induction h generalizing front with
  | nil => exact absurd hs.symm (List.append_ne_nil_of_right_ne_nil _ (List.cons_ne_nil _ _))
  | @plain c rest hdelim hslash h ih =>
      cases front with
      | nil => exact absurd (List.cons.inj hs).1 hdelim
      | cons x front =>
          obtain ⟨rfl, hrest⟩ := List.cons.inj hs
          have hodd := ih hrest
          rw [backslashesBehind_cons, if_neg hslash]
          split_ifs with hall
          · rwa [← hall]
          · exact hodd
  | @escaped c rest h ih =>
      match front with
      | [] => exact absurd (List.cons.inj hs).1.symm hd
      | [x] =>
          rw [← (List.cons.inj hs).1]
          decide
      | x :: y :: front =>
          obtain ⟨rfl, htail⟩ := List.cons.inj hs
          obtain ⟨rfl, hrest⟩ := List.cons.inj htail
          have hodd := ih hrest
          -- The pair adds two backslashes to the row behind it, or none.
          rw [backslashesBehind_cons, backslashesBehind_cons, if_pos rfl, List.length_cons]
          split_ifs with hall hslash hmore hmore
          · rw [← hall, Nat.add_assoc]
            exact hodd.add_even (by decide)
          · exact absurd rfl hmore
          · omega
          · rwa [Nat.add_zero, ← hall]
          · have hle : backslashesBehind front ≤ front.length := by
              have htake := (List.takeWhile_sublist (· == '\\') (l := front.reverse)).length_le
              rwa [List.length_reverse] at htake
            omega
          · exact hodd

end IsEnclosed

/-! ## Quoted texts -/

/-- A hexadecimal digit is neither a control character, nor a delimiter, nor a backslash. -/
theorem of_isHex {d c : Char} (hd : IsDelimiter d) (h : isHex c = true) :
    isControl c = false ∧ c ≠ d ∧ c ≠ '\\' := by
  have hrange : 48 ≤ c.toNat ∧ c.toNat ≤ 102 := toNat_of_isDigitOf h
  refine ⟨?_, ?_, ?_⟩
  · simp only [isControl, Bool.or_eq_false_iff, Bool.and_eq_false_iff, decide_eq_false_iff_not]
    omega
  · rintro rfl
    rcases hd with rfl | rfl
    · exact absurd h (by decide)
    · exact absurd h (by decide)
  · rintro rfl
    exact absurd h (by decide)

/-- The four digits of an escape are such characters. -/
theorem of_mem_hexFixed {d x : Char} {n : Nat} (hd : IsDelimiter d) (h : x ∈ hexFixed 4 n) :
    isControl x = false ∧ x ≠ d ∧ x ≠ '\\' :=
  of_isHex hd (isHex_of_mem_hexFixed h)

/-- A character is written without control characters, and so that it can stand between
delimiters. -/
theorem quoteChar_enclosed {d : Char} (hd : IsDelimiter d) (c : Char) :
    IsEnclosed d (quoteChar d c) ∧ ∀ x ∈ quoteChar d c, isControl x = false := by
  have hslash : isControl '\\' = false := by decide
  have hu : 'u' ≠ d := by rcases hd with rfl | rfl <;> decide
  have hescaped {x : Char} (hx : isControl x = false) : ∀ y ∈ ['\\', x], isControl y = false :=
    List.forall_mem_cons.2 ⟨hslash, List.forall_mem_singleton.2 hx⟩
  rw [quoteChar]
  split_ifs with hc hfeed hreturn htab hdelim hcontrol
  · exact ⟨.escaped _ .nil, hescaped hslash⟩
  · exact ⟨.escaped _ .nil, hescaped (by decide)⟩
  · exact ⟨.escaped _ .nil, hescaped (by decide)⟩
  · exact ⟨.escaped _ .nil, hescaped (by decide)⟩
  · refine ⟨.escaped _ .nil, hescaped ?_⟩
    rw [hdelim]
    rcases hd with rfl | rfl <;> decide
  · refine ⟨.escaped _ (.of_forall fun x hx => (of_mem_hexFixed hd hx).2), ?_⟩
    exact List.forall_mem_cons.2 ⟨hslash, List.forall_mem_cons.2
      ⟨by decide, fun x hx => (of_mem_hexFixed hd hx).1⟩⟩
  · refine ⟨.plain hdelim hc .nil, ?_⟩
    rw [List.forall_mem_singleton]
    simpa using hcontrol

/-- So is a whole text. -/
theorem quoteBody_enclosed {d : Char} (hd : IsDelimiter d) (s : List Char) :
    IsEnclosed d (quoteBody d s) ∧ ∀ x ∈ quoteBody d s, isControl x = false := by
  induction s with
  | nil => exact ⟨.nil, List.forall_mem_nil _⟩
  | cons c rest ih =>
      have hc := quoteChar_enclosed hd c
      rw [quoteBody_cons]
      exact ⟨hc.1.append ih.1, List.forall_mem_append.2 ⟨hc.2, ih.2⟩⟩

/-- A delimiter is neither a control character nor a backslash. -/
theorem IsDelimiter.isControl_eq {d : Char} (hd : IsDelimiter d) :
    isControl d = false ∧ d ≠ '\\' := by
  rcases hd with rfl | rfl <;> decide

/-- The script that binds `Q` to a quoted text. -/
def quotedScript (d : Char) (s : String) : String :=
  "var Q = " ++ quote d s ++ ";"

/-- It is a text of one declaration. -/
theorem declares_quotedScript {d : Char} (hd : IsDelimiter d) (s : String) :
    Declares (quotedScript d s).toList [("Q", .string s)] := by
  have h := Declares.cons (w := []) (v := [' ']) (u := [' ']) "Q" isBlank_nil (by decide)
    isBlank_space isBlank_space (.string hd s) (.nil isBlank_nil)
  simpa [quotedScript] using h

/-- **A quoted text is read back as it was,** whatever its characters. Between its ends there is no
control character, and every delimiter is escaped. -/
theorem parse_quote {d : Char} (hd : IsDelimiter d) (s : String) :
    Script.parse (quotedScript d s) = .ok ⟨[("Q", .string s)]⟩ ∧
      (∀ c ∈ (quote d s).toList, isControl c = false) ∧
      ∃ body, (quote d s).toList = d :: (body ++ [d]) ∧
        ∀ front behind, body = front ++ d :: behind → Odd (backslashesBehind front) := by
  obtain ⟨henclosed, hcontrol⟩ := quoteBody_enclosed hd s.toList
  refine ⟨parse_of_declares (declares_quotedScript hd s), ?_, quoteBody d s.toList, toList_quote d s,
    fun front behind => henclosed.odd_backslashesBehind hd.isControl_eq.2⟩
  rw [toList_quote, quoteChars, List.cons_append]
  refine List.forall_mem_cons.2 ⟨hd.isControl_eq.1, List.forall_mem_append.2 ⟨hcontrol, ?_⟩⟩
  exact List.forall_mem_singleton.2 hd.isControl_eq.1

/-- A text with both quotes, backslashes in front of them and at the end, line breaks, controls in
front of hexadecimal digits, and characters of several bytes. -/
def awkwardText : String := "it's \\\" \\\\'\r\n\t\x00f\x7f00\u0085é😀\\"

/-- The awkward text is read back, in quotes of either kind. -/
theorem parse_quote_awkwardText : (IsDelimiter '\'' ∧ IsDelimiter '"') ∧
    Script.parse (quotedScript '\'' awkwardText) = .ok ⟨[("Q", .string awkwardText)]⟩ ∧
      Script.parse (quotedScript '"' awkwardText) = .ok ⟨[("Q", .string awkwardText)]⟩ :=
  ⟨⟨isDelimiter_single, isDelimiter_double⟩, (parse_quote isDelimiter_single awkwardText).1,
    (parse_quote isDelimiter_double awkwardText).1⟩

end DocSite.Script

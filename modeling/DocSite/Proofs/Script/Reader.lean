import DocSite.Script.Parser
import Mathlib.Data.Option.Basic

/-! # What parsers do

Parsers are put together from a few combinators. This file says what each of them does at a given
cursor, so that a reading can be followed step by step:

* sequences, choices and repetitions (`bind_of_eq`, `orElse_of_none`, `many_of_eq`, …);
* blanks in front of a token (`skipBlank_append`, `skipTrivia_append_token`);
* tokens behind blanks (`token_of_eq`, `symbol_of_eq`, …), and words (`word?_append`). -/

namespace DocSite.Script

open DocSite.Text

/-! ## Blanks -/

/-- A text of nothing but blanks. -/
def IsBlank (w : List Char) : Prop := ∀ c ∈ w, isScriptBlank c = true

instance : DecidablePred IsBlank := fun w =>
  List.decidableBAll (fun c => isScriptBlank c = true) w

/-- No text is blank. -/
theorem isBlank_nil : IsBlank [] := fun _ h => nomatch h

/-- A space is blank. -/
theorem isBlank_space : IsBlank [' '] := by decide

/-- A line break is blank. -/
theorem isBlank_break : IsBlank ['\n'] := by decide

/-- A blank text with another one behind it is blank. -/
theorem IsBlank.append {v w : List Char} (hv : IsBlank v) (hw : IsBlank w) : IsBlank (v ++ w) :=
  fun c hc => (List.mem_append.1 hc).elim (hv c) (hw c)

/-- A character behind blanks stands first, or a blank does. -/
theorem IsBlank.exists_append_cons {w : List Char} (hw : IsBlank w) (c : Char) (rest : List Char) :
    ∃ x more, w ++ c :: rest = x :: more ∧ (isScriptBlank x = true ∨ x = c) := by
  cases w with
  | nil => exact ⟨c, rest, rfl, Or.inr rfl⟩
  | cons x more => exact ⟨x, more ++ c :: rest, rfl, Or.inl (hw x List.mem_cons_self)⟩

/-- Whether a character can neither be skipped nor begin something that can. -/
def beginsToken (c : Char) : Bool :=
  !isScriptBlank c && c != '/' && c != '<' && c != '-'

/-- What `beginsToken` excludes. -/
theorem beginsToken_iff {c : Char} :
    beginsToken c = true ↔ isScriptBlank c = false ∧ c ≠ '/' ∧ c ≠ '<' ∧ c ≠ '-' := by
  simp [beginsToken, and_assoc]

/-- Between comments a character that is no slash is skipped if it is a blank, and stands
otherwise. -/
theorem skipBlank_cons {c : Char} (s : List Char) (hc : c ≠ '/') :
    skipBlank (c :: s) = if isScriptBlank c then skipBlank s else c :: s := by
  rw [skipBlank, skipFrom.eq_def]
  split
  next h => exact absurd (List.cons.inj h).1 hc
  next h => exact absurd (List.cons.inj h).1 hc
  next h =>
      obtain ⟨rfl, rfl⟩ := List.cons.inj h
      rfl
  next h => cases h
  all_goals contradiction

/-- A blank is skipped. -/
theorem skipBlank_cons_of_blank {c : Char} (s : List Char) (hc : isScriptBlank c = true) :
    skipBlank (c :: s) = skipBlank s := by
  have hslash : c ≠ '/' := by
    rintro rfl
    exact absurd hc (by decide)
  rw [skipBlank_cons s hslash, if_pos hc]

/-- Blanks in front of a text are skipped. -/
theorem skipBlank_append {w : List Char} (hw : IsBlank w) (s : List Char) :
    skipBlank (w ++ s) = skipBlank s := by
  induction w with
  | nil => rfl
  | cons c rest ih =>
      rw [List.cons_append, skipBlank_cons_of_blank _ (hw c List.mem_cons_self)]
      exact ih fun x hx => hw x (List.mem_cons_of_mem c hx)

/-- Nothing is skipped where a token begins. -/
theorem skipBlank_of_beginsToken {c : Char} (s : List Char) (hc : beginsToken c = true) :
    skipBlank (c :: s) = c :: s := by
  obtain ⟨hblank, hslash, -⟩ := beginsToken_iff.1 hc
  rw [skipBlank_cons s hslash, hblank]
  rfl

/-- Where a token begins there is no markup comment. -/
theorem markupComment?_of_beginsToken {c : Char} (s : List Char) (hc : beginsToken c = true) :
    markupComment? (c :: s) = none := by
  obtain ⟨-, -, hless, hminus⟩ := beginsToken_iff.1 hc
  rw [markupComment?]
  · exact fun _ h => hless (List.cons.inj h).1
  · exact fun _ h => hminus (List.cons.inj h).1

/-- Blanks in front of a token are skipped, and nothing else. -/
theorem skipBlank_append_token {w : List Char} {c : Char} (hw : IsBlank w) (s : List Char)
    (hc : beginsToken c = true) : skipBlank (w ++ c :: s) = c :: s := by
  rw [skipBlank_append hw, skipBlank_of_beginsToken s hc]

/-- Where no markup comment stands, only blanks and comments are skipped. -/
theorem skipTrivia_of_none {s : List Char} (h : markupComment? (skipBlank s) = none) :
    skipTrivia s = skipBlank s := by
  rw [skipTrivia]
  cases s.length with
  | zero => rfl
  | succ n => rw [skipTriviaUpTo, h]

/-- With markup comments too, only the blanks in front of a token are skipped. -/
theorem skipTrivia_append_token {w : List Char} {c : Char} (hw : IsBlank w) (s : List Char)
    (hc : beginsToken c = true) : skipTrivia (w ++ c :: s) = c :: s := by
  have hskip := skipBlank_append_token hw s hc
  rw [skipTrivia_of_none, hskip]
  rw [hskip]
  exact markupComment?_of_beginsToken s hc

/-- A blank text is skipped to its end. -/
theorem skipTrivia_of_isBlank {w : List Char} (hw : IsBlank w) : skipTrivia w = [] := by
  have hskip : skipBlank w = [] := by
    have h := skipBlank_append hw []
    rwa [List.append_nil] at h
  rw [skipTrivia_of_none, hskip]
  rw [hskip]
  rfl

namespace Parser

variable {α β : Type}

/-! ## Sequences and choices -/

/-- Behind a phrase that is read, reading goes on with its meaning. -/
theorem bind_of_eq {p : Parser α} {f : α → Parser β} {c c' : Cursor} {a : α}
    (h : p c = some (a, c')) : (p >>= f) c = f a c' := by
  change (p c).bind (fun r => f r.1 r.2) = f a c'
  rw [h, Option.bind_some]

/-- A sequence fails with its first phrase. -/
theorem bind_of_none {p : Parser α} {f : α → Parser β} {c : Cursor} (h : p c = none) :
    (p >>= f) c = none := by
  change (p c).bind (fun r => f r.1 r.2) = none
  rw [h, Option.bind_none]

/-- A choice takes its first phrase if it can be read. -/
theorem orElse_of_eq {p q : Parser α} {c c' : Cursor} {a : α} (h : p c = some (a, c')) :
    (p <|> q) c = some (a, c') := by
  change (p c <|> q c) = some (a, c')
  rw [h]
  rfl

/-- A choice goes back for its second phrase if the first one fails. -/
theorem orElse_of_none {p q : Parser α} {c : Cursor} (h : p c = none) : (p <|> q) c = q c := by
  change (p c <|> q c) = q c
  rw [h]
  rfl

/-- A condition that holds reads nothing. -/
theorem guard_of_pos {p : Prop} [Decidable p] (h : p) (c : Cursor) :
    (guard p : Parser Unit) c = some ((), c) := by
  rw [guard, if_pos h]
  rfl

/-- A condition that does not hold fails. -/
theorem guard_of_neg {p : Prop} [Decidable p] (h : ¬p) (c : Cursor) :
    (guard p : Parser Unit) c = none := by
  rw [guard, if_neg h]
  rfl

/-- A phrase that stands here is accepted. -/
theorem accept_of_eq {p : Parser Unit} {c c' : Cursor} (h : p c = some ((), c')) :
    accept p c = some (true, c') := by
  rw [accept]
  apply orElse_of_eq
  rw [bind_of_eq h]
  rfl

/-- A phrase that does not stand here is not accepted, and nothing is read. -/
theorem accept_of_none {p : Parser Unit} {c : Cursor} (h : p c = none) :
    accept p c = some (false, c) := by
  rw [accept, orElse_of_none (bind_of_none h)]
  rfl

/-- A repetition takes a phrase and goes on. -/
theorem many_of_eq {p : Parser α} {n : Nat} {c c' c'' : Cursor} {a : α} {more : List α}
    (h : p c = some (a, c')) (hmore : many n p c' = some (more, c'')) :
    many (n + 1) p c = some (a :: more, c'') := by
  rw [many]
  apply orElse_of_eq
  rw [bind_of_eq h, bind_of_eq hmore]
  rfl

/-- A repetition ends where the phrase does not stand. -/
theorem many_of_none {p : Parser α} {c : Cursor} (n : Nat) (h : p c = none) :
    many n p c = some ([], c) := by
  cases n with
  | zero => rfl
  | succ n =>
      rw [many, orElse_of_none (bind_of_none h)]
      rfl

/-- What a phrase declares is collected apart from what was declared in front of it. -/
theorem collecting_of_eq {p : Parser α} {s rest : List Char} {inside : List Declarator} {a : α}
    (found : List Declarator) (h : p ⟨s, []⟩ = some (a, ⟨rest, inside⟩)) :
    collecting p ⟨s, found⟩ = some ((a, inside), ⟨rest, found⟩) := by
  rw [collecting]
  simp only [h]

/-! ## Tokens -/

/-- The token that stands behind blanks and comments is read. -/
theorem token_of_eq {read : List Char → Option (α × List Char)} {s rest : List Char}
    {found : List Declarator} {a : α} (h : read (skipBlank s) = some (a, rest)) :
    token read ⟨s, found⟩ = some (a, ⟨rest, found⟩) := by
  change immediate read ⟨skipBlank s, found⟩ = _
  rw [immediate, h]

/-- A token that does not stand behind blanks and comments is not read. -/
theorem token_of_none {read : List Char → Option (α × List Char)} {s : List Char}
    {found : List Declarator} (h : read (skipBlank s) = none) : token read ⟨s, found⟩ = none := by
  change immediate read ⟨skipBlank s, found⟩ = _
  rw [immediate, h]

/-- A sign of one character is read. -/
theorem symbol_of_eq {x : Char} {s rest : List Char} (found : List Declarator)
    (h : skipBlank s = x :: rest) : symbol [x] ⟨s, found⟩ = some ((), ⟨rest, found⟩) := by
  apply token_of_eq
  rw [h, chars?, if_pos rfl, chars?]

/-- A sign of one character is not read where another character stands. -/
theorem symbol_of_ne {x y : Char} {s rest : List Char} (found : List Declarator)
    (h : skipBlank s = y :: rest) (hne : x ≠ y) : symbol [x] ⟨s, found⟩ = none := by
  apply token_of_none
  rw [h, chars?, if_neg hne]

end Parser

/-! ## Words -/

/-- A text that does not go on with the word in front of it. -/
def EndsWord (s : List Char) : Prop :=
  ∀ c rest, s = c :: rest → continuesWord c = false ∧ c ≠ '\\'

/-- Letters and digits of ASCII have codes between those of `0` and `z`. -/
theorem toNat_of_isAlphanum {c : Char} (h : c.isAlphanum = true) :
    48 ≤ c.toNat ∧ c.toNat ≤ 122 := by
  have hkind : ((c.isUpper || c.isLower) || c.isDigit) = true := h
  rw [Bool.or_eq_true, Bool.or_eq_true] at hkind
  rcases hkind with (hupper | hlower) | hdigit
  · have hrange : 65 ≤ c.toNat ∧ c.toNat ≤ 90 := of_decide_eq_true hupper
    omega
  · obtain ⟨hlow, hhigh⟩ := Bool.and_eq_true_iff.1 hlower
    have hrange : 97 ≤ c.toNat ∧ c.toNat ≤ 122 :=
      ⟨of_decide_eq_true hlow, of_decide_eq_true hhigh⟩
    omega
  · obtain ⟨hlow, hhigh⟩ := Bool.and_eq_true_iff.1 hdigit
    have hrange : 48 ≤ c.toNat ∧ c.toNat ≤ 57 :=
      ⟨of_decide_eq_true hlow, of_decide_eq_true hhigh⟩
    omega

/-- No letter and no digit is a blank. -/
theorem isScriptBlank_of_isAlphanum {c : Char} (h : c.isAlphanum = true) :
    isScriptBlank c = false := by
  obtain ⟨hlow, hhigh⟩ := toNat_of_isAlphanum h
  simp only [isScriptBlank, Bool.or_eq_false_iff, Bool.and_eq_false_iff, decide_eq_false_iff_not,
    beq_eq_false_iff_ne]
  omega

/-- No character of a word is a blank. -/
theorem isScriptBlank_of_continuesWord {c : Char} (h : continuesWord c = true) :
    isScriptBlank c = false := by
  simp only [continuesWord, beginsWord, Bool.or_eq_true, beq_iff_eq, Bool.and_eq_true,
    Bool.not_eq_true'] at h
  rcases h with (((h | h) | h) | h) | h
  · exact isScriptBlank_of_isAlphanum (by simp [Char.isAlphanum, h])
  · rw [h]
    decide
  · rw [h]
    decide
  · exact h.2
  · exact isScriptBlank_of_isAlphanum (by simp [Char.isAlphanum, h])

/-- No blank is a character of a word. -/
theorem continuesWord_of_isScriptBlank {c : Char} (h : isScriptBlank c = true) :
    continuesWord c = false := by
  rw [← Bool.not_eq_true]
  intro hword
  rw [isScriptBlank_of_continuesWord hword] at h
  exact Bool.false_ne_true h

/-- A word is over at blanks, or at a character that can neither continue it nor begin an escape. -/
theorem endsWord_append {w : List Char} {c : Char} (hw : IsBlank w)
    (hc : continuesWord c = false) (hslash : c ≠ '\\') (rest : List Char) :
    EndsWord (w ++ c :: rest) := by
  obtain ⟨x, more, hx, hblank | rfl⟩ := hw.exists_append_cons c rest
  · intro y tail hy
    obtain ⟨rfl, -⟩ := List.cons.inj (hx.symm.trans hy)
    refine ⟨continuesWord_of_isScriptBlank hblank, ?_⟩
    rintro rfl
    exact absurd hblank (by decide)
  · intro y tail hy
    obtain ⟨rfl, -⟩ := List.cons.inj (hx.symm.trans hy)
    exact ⟨hc, hslash⟩

/-- A word is over at a character that can neither continue it nor begin an escape. -/
theorem wordTail_of_endsWord {s : List Char} (hs : EndsWord s) (n : Nat) :
    wordTail n s = ([], s) := by
  cases n with
  | zero => rfl
  | succ n =>
      cases s with
      | nil => rfl
      | cons c rest =>
          obtain ⟨hc, hslash⟩ := hs c rest rfl
          have hescape : unicodeEscape? (c :: rest) = none := by
            rw [unicodeEscape?]
            · exact fun _ h => hslash (List.cons.inj h).1
            · exact fun _ _ _ _ _ h => hslash (List.cons.inj h).1
          rw [wordTail]
          simp only [hc, hescape]
          rfl

/-- What continues a word is read up to its end. -/
theorem wordTail_append {name s : List Char} {n : Nat} (hname : name.all continuesWord = true)
    (hs : EndsWord s) (hn : name.length ≤ n) : wordTail n (name ++ s) = (name, s) := by
  induction name generalizing n with
  | nil => exact wordTail_of_endsWord hs n
  | cons c rest ih =>
      cases n with
      | zero => exact absurd hn (Nat.not_succ_le_zero _)
      | succ n =>
          rw [List.all_cons, Bool.and_eq_true] at hname
          have hrest := ih hname.2 (Nat.le_of_succ_le_succ hn)
          rw [List.cons_append, wordTail]
          simp only [hname.1, if_true, hrest]

/-- **A word is read up to its end.** -/
theorem word?_append {c : Char} {name s : List Char} (hc : beginsWord c = true)
    (hname : name.all continuesWord = true) (hs : EndsWord s) :
    word? (c :: name ++ s) = some (c :: name, s) := by
  have hlen : name.length ≤ (name ++ s).length := by
    rw [List.length_append]
    exact Nat.le_add_right _ _
  rw [List.cons_append, word?]
  simp only [hc, if_true, wordTail_append hname hs hlen]

end DocSite.Script

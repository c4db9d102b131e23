import DocSite.Proofs.Script.Reader
import DocSite.Script.Token
import Mathlib.Data.List.TakeWhile

/-! # Where a comment can stand

A script is read with and without a comment in it (`Insertion`). Three relations between the texts
that are still to be read accompany the two readings:

* `Insertion.Begins`: a token begins here, or both readings are at the end;
* `Insertion.Continues`: a part of a token has been read, and more of it may follow;
* `Insertion.Follows`: a token has been read.

In front of the comment both texts begin with the same text, behind it they are equal. What stands
in front has to be clear (`Front`): blanks, comments, whole string literals, and characters that can
begin no longer stretch of text. Slashes, less-than signs and backquotes are therefore excluded: a
regular expression, an element or a template could run over the place of the comment. -/

namespace DocSite.Script

open DocSite.Text

/-! ## Comments -/

/-- A block comment. -/
structure BlockComment where
  /-- The text in it. -/
  body : List Char
  /-- The text does not end the comment. -/
  staysOpen : ¬['*', '/'] <:+: body

namespace BlockComment

variable (k : BlockComment)

/-- The comment as written. -/
def chars : List Char :=
  '/' :: '*' :: (k.body ++ ['*', '/'])

/-- Whether the comment holds no line break. -/
def IsOneLine : Prop :=
  ∀ c ∈ k.body, endsLineComment c = false

instance : Decidable k.IsOneLine :=
  List.decidableBAll (fun c => endsLineComment c = false) k.body

/-- The comment in front of a text. -/
theorem chars_append (s : List Char) :
    k.chars ++ s = '/' :: '*' :: (k.body ++ '*' :: '/' :: s) := by
  simp [chars]

end BlockComment

/-- The characters of an open comment do not end it. -/
theorem ne_close_of_staysOpen {c : Char} {body : List Char} (h : ¬['*', '/'] <:+: c :: body)
    (s rest : List Char) : c :: (body ++ '*' :: s) ≠ '*' :: '/' :: rest := by
  intro heq
  obtain ⟨rfl, htail⟩ := List.cons.inj heq
  cases body with
  | nil => exact absurd (List.cons.inj htail).1 (by decide)
  | cons x more =>
      obtain ⟨rfl, -⟩ := List.cons.inj htail
      exact h ⟨[], more, rfl⟩

/-- What is in a comment stays open behind its first character. -/
theorem staysOpen_of_cons {c : Char} {body : List Char} (h : ¬['*', '/'] <:+: c :: body) :
    ¬['*', '/'] <:+: body :=
  fun hinside => h (hinside.trans (List.suffix_cons c body).isInfix)

/-- In a comment, whatever does not end it is skipped. -/
theorem skipFrom_block_cons {c : Char} {s : List Char} (h : ∀ rest, c :: s ≠ '*' :: '/' :: rest)
    (start : List Char) : skipFrom (.block start) (c :: s) = skipFrom (.block start) s := by
  rw [skipFrom.eq_def]
  split
  case h_7 heq => exact absurd heq (h _)
  case h_8 hstart heq =>
    cases hstart
    cases heq
    rfl
  all_goals contradiction

/-- Skipping in a comment goes on behind its end. -/
theorem skipFrom_body {body : List Char} (h : ¬['*', '/'] <:+: body) (start s : List Char) :
    skipFrom (.block start) (body ++ '*' :: '/' :: s) = skipFrom .between s := by
  induction body with
  | nil => rfl
  | cons c body ih =>
      rw [List.cons_append, skipFrom_block_cons (ne_close_of_staysOpen h _)]
      exact ih (staysOpen_of_cons h)

/-- A block comment is skipped. -/
theorem skipBlank_comment (k : BlockComment) (s : List Char) :
    skipBlank (k.chars ++ s) = skipBlank s := by
  rw [k.chars_append]
  exact skipFrom_body k.staysOpen _ s

/-- A comment to the end of the line is skipped together with the line break. -/
theorem skipFrom_line {body : List Char} (h : ∀ c ∈ body, endsLineComment c = false) {e : Char}
    (he : endsLineComment e = true) (s : List Char) :
    skipFrom .line (body ++ e :: s) = skipFrom .between s := by
  induction body with
  | nil => exact if_pos he
  | cons c body ih =>
      obtain ⟨hc, hbody⟩ := List.forall_mem_cons.1 h
      change (if endsLineComment c then _ else _) = _
      rw [hc]
      exact ih hbody

/-- Behind what is skipped there is the end of the text. -/
theorem skipFrom_suffix {state : Skip} {s whole : List Char} (hs : s <:+ whole)
    (hstate : ∀ start, state = .block start → start <:+ whole) : skipFrom state s <:+ whole := by
  have hcons {c : Char} {rest : List Char} (h : c :: rest <:+ whole) : rest <:+ whole :=
    (List.suffix_cons c rest).trans h
  fun_induction skipFrom state s with
  | case1 | case2 | case3 | case4 | case5 | case6 | case7 | case8 | case9 | case10 | case11 => grind

/-- Behind blanks and comments there is the end of the text. -/
theorem skipBlank_suffix (s : List Char) : skipBlank s <:+ s :=
  skipFrom_suffix List.suffix_rfl fun _ h => nomatch h

/-- Skipping blanks and comments does not make a text longer. -/
theorem length_skipBlank_le (s : List Char) : (skipBlank s).length ≤ s.length :=
  (skipBlank_suffix s).length_le

/-! ## Signs -/

/-- The signs behind which an item of a list begins. -/
def openingSigns : List Char := ['[', '{', '(', ',', ':']

/-- The signs in front of which an item of a list ends. -/
def closingSigns : List Char := [']', '}', ')', ',', ':']

/-- Whether a character can only be read by itself or as a part of a word, a number or an
operator. -/
def isPlainChar (c : Char) : Bool :=
  !isScriptBlank c && !(['/', '<', '`', '"', '\'', '\\', '#'].contains c)

/-- What `isPlainChar` excludes. -/
theorem isPlainChar_iff {c : Char} : isPlainChar c = true ↔ isScriptBlank c = false ∧ c ≠ '/' ∧
    c ≠ '<' ∧ c ≠ '`' ∧ c ≠ '"' ∧ c ≠ '\'' ∧ c ≠ '\\' ∧ c ≠ '#' := by
  simp [isPlainChar]

/-- Whether a token ends in front of the first token of a text. -/
def Closes (s : List Char) : Prop :=
  ∃ c ∈ closingSigns, ∃ rest, skipBlank s = c :: rest

/-! ## Gaps -/

/-- A text of blanks and block comments. -/
inductive IsGap : List Char → Prop where
  /-- No text. -/
  | nil : IsGap []
  /-- A blank. -/
  | blank {c : Char} {s : List Char} (hc : isAsciiBlank c = true) (h : IsGap s) : IsGap (c :: s)
  /-- A comment. -/
  | comment (k : BlockComment) {s : List Char} (h : IsGap s) : IsGap (k.chars ++ s)

/-- A text in front of whose first token there are only blanks and comments within a line. -/
inductive IsQuiet : List Char → Prop where
  /-- A token. -/
  | token {s : List Char} (h : skipBlank s = s) : IsQuiet s
  /-- A blank. -/
  | blank {c : Char} {s : List Char} (hc : isScriptBlank c = true) (h : IsQuiet s) :
      IsQuiet (c :: s)
  /-- A comment. -/
  | comment {k : BlockComment} (hk : k.IsOneLine) {s : List Char} (h : IsQuiet s) :
      IsQuiet (k.chars ++ s)

/-- A text without tokens, behind which a comment may stand in front of `behind`. The text `behind`
has to go on quietly, unless the comment touches the token in front of it. -/
def IsTail (behind s : List Char) : Prop :=
  IsGap s ∧ (s = [] ∨ IsQuiet behind)

/-- A clear text with tokens, behind which a comment may stand in front of `behind`. A sign of a
list is on one side of the comment, with nothing but blanks and comments between. -/
inductive Front (behind : List Char) : List Char → Prop where
  /-- The last character that is no part of a string literal. -/
  | lastChar {c : Char} {s : List Char} (hc : isPlainChar c = true) (h : IsTail behind s)
      (hsign : c ∈ openingSigns ∨ Closes behind) : Front behind (c :: s)
  /-- A string literal behind which no token follows. -/
  | lastString {t s : List Char} {parts : List StringPart} (ht : string? t = some (parts, []))
      (h : IsTail behind s) (hsign : Closes behind) : Front behind (t ++ s)
  /-- A character that is no part of a string literal and begins no markup comment. -/
  | char {c : Char} {s : List Char} (hc : isPlainChar c = true)
      (hremark : ¬['-', '-', '>'] <+: c :: s) (h : Front behind s) : Front behind (c :: s)
  /-- A string literal. -/
  | string {t s : List Char} {parts : List StringPart} (ht : string? t = some (parts, []))
      (h : Front behind s) : Front behind (t ++ s)
  /-- A blank. -/
  | blank {c : Char} {s : List Char} (hc : isAsciiBlank c = true) (h : Front behind s) :
      Front behind (c :: s)
  /-- A block comment. -/
  | comment (k : BlockComment) {s : List Char} (h : Front behind s) : Front behind (k.chars ++ s)
  /-- A comment to the end of the line. -/
  | line {body ending s : List Char} (hbody : ∀ c ∈ body, endsLineComment c = false)
      (hending : ending = ['\n'] ∨ ending = ['\r', '\n']) (h : Front behind s) :
      Front behind ('/' :: '/' :: (body ++ (ending ++ s)))

/-- Blanks and plain characters but minus signs may stand in front. -/
theorem Front.append_clear {behind w s : List Char}
    (hw : w.all (fun c => isAsciiBlank c || isPlainChar c && c != '-') = true)
    (h : Front behind s) : Front behind (w ++ s) := by
  induction w with
  | nil => exact h
  | cons c w ih =>
      rw [List.all_cons, Bool.and_eq_true, Bool.or_eq_true, Bool.and_eq_true, bne_iff_ne] at hw
      rcases hw.1 with hblank | ⟨hplain, hminus⟩
      · exact .blank hblank (ih hw.2)
      · refine .char hplain (fun hprefix => hminus ?_) (ih hw.2)
        obtain ⟨rest, heq⟩ := hprefix
        exact (List.cons.inj heq).1.symm

/-- Blanks in ASCII are blanks. -/
theorem isScriptBlank_of_isAsciiBlank {c : Char} (h : isAsciiBlank c = true) :
    isScriptBlank c = true := by
  simp only [isAsciiBlank, Bool.or_eq_true] at h
  rcases h with h | h
  · simp [isScriptBlank, h]
  · simp [isScriptBlank, h]

/-- A gap is skipped. -/
theorem IsGap.skipBlank_append {g : List Char} (h : IsGap g) (s : List Char) :
    skipBlank (g ++ s) = skipBlank s := by
  induction h with
  | nil => rfl
  | blank hc _ ih =>
      rw [List.cons_append, skipBlank_cons_of_blank _ (isScriptBlank_of_isAsciiBlank hc), ih]
  | comment k _ ih => rw [List.append_assoc, skipBlank_comment, ih]

/-- A string literal begins with a quote. -/
theorem exists_quote_of_string? {t : List Char} {parts : List StringPart} {rest : List Char}
    (h : string? t = some (parts, rest)) : ∃ c more, t = c :: more ∧ (c = '"' ∨ c = '\'') := by
  rw [string?.eq_def] at h
  split at h
  next more => exact ⟨_, more, rfl, Or.inl rfl⟩
  next more => exact ⟨_, more, rfl, Or.inr rfl⟩
  next => cases h

/-! ## Texts that begin with a token -/

/-- A clear text that begins with a token. -/
def Front.BeginsToken (s : List Char) : Prop :=
  ∃ c rest, s = c :: rest ∧ isScriptBlank c = false ∧ c ≠ '/'

/-- Nothing is skipped in front of a token. -/
theorem Front.BeginsToken.skipBlank_append {s : List Char} (h : Front.BeginsToken s)
    (t : List Char) : skipBlank (s ++ t) = s ++ t := by
  obtain ⟨c, rest, rfl, hblank, hslash⟩ := h
  rw [List.cons_append, skipBlank_cons _ hslash, hblank]
  rfl

/-- Plain characters begin tokens. -/
theorem beginsToken_of_isPlainChar {c : Char} (h : isPlainChar c = true) (s : List Char) :
    Front.BeginsToken (c :: s) :=
  ⟨c, s, rfl, (isPlainChar_iff.1 h).1, (isPlainChar_iff.1 h).2.1⟩

/-- String literals are tokens. -/
theorem beginsToken_of_string? {t : List Char} {parts : List StringPart} {rest : List Char}
    (h : string? t = some (parts, rest)) (s : List Char) : Front.BeginsToken (t ++ s) := by
  obtain ⟨c, more, rfl, hc⟩ := exists_quote_of_string? h
  refine ⟨c, more ++ s, rfl, ?_⟩
  rcases hc with rfl | rfl <;> decide

/-- In a clear text with tokens, what is in front of the first token is skipped. -/
theorem Front.exists_token {behind s : List Char} (h : Front behind s) :
    ∃ t, Front behind t ∧ Front.BeginsToken t ∧ ∀ r, skipBlank (s ++ r) = t ++ r := by
  induction h with
  | lastChar hc h hsign =>
      have ht := beginsToken_of_isPlainChar hc
      exact ⟨_, .lastChar hc h hsign, ht _, (ht _).skipBlank_append⟩
  | lastString ht h hsign =>
      have hbegins := beginsToken_of_string? ht
      exact ⟨_, .lastString ht h hsign, hbegins _, (hbegins _).skipBlank_append⟩
  | char hc hremark h _ =>
      have ht := beginsToken_of_isPlainChar hc
      exact ⟨_, .char hc hremark h, ht _, (ht _).skipBlank_append⟩
  | string ht h _ =>
      have hbegins := beginsToken_of_string? ht
      exact ⟨_, .string ht h, hbegins _, (hbegins _).skipBlank_append⟩
  | blank hc _ ih =>
      obtain ⟨t, ht, hbegins, hskip⟩ := ih
      refine ⟨t, ht, hbegins, fun r => ?_⟩
      rw [List.cons_append, skipBlank_cons_of_blank _ (isScriptBlank_of_isAsciiBlank hc), hskip]
  | comment k _ ih =>
      obtain ⟨t, ht, hbegins, hskip⟩ := ih
      refine ⟨t, ht, hbegins, fun r => ?_⟩
      rw [List.append_assoc, skipBlank_comment, hskip]
  | @line body ending s hbody hending _ ih =>
      obtain ⟨t, ht, hbegins, hskip⟩ := ih
      refine ⟨t, ht, hbegins, fun r => ?_⟩
      rw [← hskip]
      have hline : skipBlank (('/' :: '/' :: (body ++ (ending ++ s))) ++ r)
          = skipFrom .line (body ++ (ending ++ (s ++ r))) := by
        rw [List.cons_append, List.cons_append, List.append_assoc, List.append_assoc]
        rfl
      rw [hline]
      rcases hending with rfl | rfl
      · exact skipFrom_line hbody (by decide) _
      · exact (skipFrom_line hbody (by decide) _).trans (skipBlank_cons_of_blank _ (by decide))

/-- A clear text begins with a plain character, with a quote, or with what is skipped. -/
theorem Front.exists_cons {behind s : List Char} (h : Front behind s) :
    ∃ c rest, s = c :: rest ∧ ((isPlainChar c = true ∧
        (Front behind rest ∨ IsTail behind rest ∧ (c ∈ openingSigns ∨ Closes behind))) ∨
      (c = '"' ∨ c = '\'') ∨ isScriptBlank c = true ∨ c = '/') := by
  have hquote {t : List Char} {parts : List StringPart} (ht : string? t = some (parts, []))
      (s : List Char) : ∃ c rest, t ++ s = c :: rest ∧ (c = '"' ∨ c = '\'') := by
    obtain ⟨c, more, rfl, hc⟩ := exists_quote_of_string? ht
    exact ⟨c, more ++ s, rfl, hc⟩
  cases h with
  | lastChar hc h hsign => exact ⟨_, _, rfl, Or.inl ⟨hc, Or.inr ⟨h, hsign⟩⟩⟩
  | lastString ht h hsign =>
      obtain ⟨c, rest, heq, hc⟩ := hquote ht _
      exact ⟨c, rest, heq, Or.inr (Or.inl hc)⟩
  | char hc hremark h => exact ⟨_, _, rfl, Or.inl ⟨hc, Or.inl h⟩⟩
  | string ht h =>
      obtain ⟨c, rest, heq, hc⟩ := hquote ht _
      exact ⟨c, rest, heq, Or.inr (Or.inl hc)⟩
  | blank hc h =>
      exact ⟨_, _, rfl, Or.inr (Or.inr (Or.inl (isScriptBlank_of_isAsciiBlank hc)))⟩
  | comment k h => exact ⟨_, _, rfl, Or.inr (Or.inr (Or.inr rfl))⟩
  | line hbody hending h => exact ⟨_, _, rfl, Or.inr (Or.inr (Or.inr rfl))⟩

/-- A gap begins with what is skipped. -/
theorem IsGap.head {s : List Char} (h : IsGap s) {c : Char} {rest : List Char}
    (hs : s = c :: rest) : isScriptBlank c = true ∨ c = '/' := by
  cases h with
  | nil => cases hs
  | blank hc h =>
      cases hs
      exact Or.inl (isScriptBlank_of_isAsciiBlank hc)
  | comment k h =>
      cases hs
      exact Or.inr rfl

/-- So does a text in front of whose first token the last one ends, unless that stands first. -/
theorem Closes.head {c : Char} {rest : List Char} (h : Closes (c :: rest)) :
    c ∈ closingSigns ∨ isScriptBlank c = true ∨ c = '/' := by
  obtain ⟨x, hx, more, hskip⟩ := h
  by_cases hslash : c = '/'
  · exact Or.inr (Or.inr hslash)
  · rw [skipBlank_cons _ hslash] at hskip
    split at hskip
    next hblank => exact Or.inr (Or.inl hblank)
    next =>
      cases hskip
      exact Or.inl hx

/-! ## Characters inside of tokens -/

/-- Whether a character may stand behind others in a token that is no string literal. -/
def isInner (c : Char) : Bool :=
  !isScriptBlank c && !(['/', '"', '\''].contains c) && !openingSigns.contains c
    && !closingSigns.contains c

/-- What `isInner` excludes. -/
theorem isInner_iff {c : Char} : isInner c = true ↔ isScriptBlank c = false ∧ c ≠ '/' ∧ c ≠ '"' ∧
    c ≠ '\'' ∧ c ∉ openingSigns ∧ c ∉ closingSigns := by
  simp [isInner, and_assoc]

/-- What may follow a part of a token that is no sign behind which an item begins. -/
def Onward (behind s : List Char) : Prop :=
  Front behind s ∨ IsTail behind s ∧ Closes behind

/-- A token goes on behind each of its characters. -/
theorem Onward.of_cons {behind rest : List Char} {c : Char} (h : Onward behind (c :: rest))
    (hc : isInner c = true) : Onward behind rest := by
  obtain ⟨hblank, hslash, hdouble, hsingle, hopen, -⟩ := isInner_iff.1 hc
  rcases h with h | ⟨⟨hgap, -⟩, -⟩
  · obtain ⟨x, more, hx, ⟨-, hfront | ⟨htail, hsign⟩⟩ | hquote | hskip⟩ := h.exists_cons
    · cases hx
      exact Or.inl hfront
    · cases hx
      exact Or.inr ⟨htail, hsign.resolve_left hopen⟩
    · cases hx
      exact absurd hquote (by simp [hdouble, hsingle])
    · cases hx
      exact absurd hskip (by simp [hblank, hslash])
  · exact absurd (hgap.head rfl) (by simp [hblank, hslash])

/-- In front of the comment, and of what stands behind it, no token goes on. -/
theorem Onward.eq_cons {behind s r rest : List Char} {c : Char} (h : Onward behind s)
    (hr : r = behind ∨ ∃ more, r = '/' :: more) (hc : isInner c = true)
    (heq : s ++ r = c :: rest) : ∃ more, s = c :: more ∧ rest = more ++ r := by
  obtain ⟨hblank, hslash, -, -, -, hclose⟩ := isInner_iff.1 hc
  cases s with
  | nil =>
      rcases h with h | ⟨-, hsign⟩
      · obtain ⟨_, _, heq, -⟩ := h.exists_cons
        cases heq
      · rcases hr with rfl | ⟨more, rfl⟩
        · rw [List.nil_append] at heq
          exact absurd (Closes.head (heq ▸ hsign)) (by simp [hclose, hblank, hslash])
        · exact absurd (List.cons.inj heq).1.symm hslash
  | cons x more =>
      obtain ⟨rfl, rfl⟩ := List.cons.inj heq
      exact ⟨more, rfl, rfl⟩

/-! ## Two readings -/

/-- A comment within a line, and the text behind it. -/
structure Insertion where
  /-- The comment. -/
  comment : BlockComment
  /-- It holds no line break. -/
  isOneLine : comment.IsOneLine
  /-- The text behind the comment. -/
  behind : List Char

namespace Insertion

variable (i : Insertion)

/-- The text behind the place of the comment, with the comment in front. -/
def commented : List Char :=
  i.comment.chars ++ i.behind

/-- Two readings stand in front of a token, or at the end. -/
inductive Begins : List Char → List Char → Prop where
  /-- In front of the comment. -/
  | front {s : List Char} (h : Front i.behind s) (ht : Front.BeginsToken s) :
      Begins (s ++ i.behind) (s ++ i.commented)
  /-- Behind the comment. -/
  | past {s : List Char} (h : s.length ≤ (skipBlank i.behind).length) : Begins s s

/-- Two readings stand behind a part of a token, which is no sign that begins an item. -/
inductive Continues : List Char → List Char → Prop where
  /-- In front of the comment. -/
  | front {s : List Char} (h : Onward i.behind s) : Continues (s ++ i.behind) (s ++ i.commented)
  /-- Behind the comment. -/
  | past {s : List Char} (h : s.length < (skipBlank i.behind).length) : Continues s s

/-- Two readings stand behind a token. -/
inductive Follows : List Char → List Char → Prop where
  /-- In front of the comment and of another token. -/
  | front {s : List Char} (h : Front i.behind s) : Follows (s ++ i.behind) (s ++ i.commented)
  /-- In front of the comment. -/
  | tail {s : List Char} (h : IsTail i.behind s) : Follows (s ++ i.behind) (s ++ i.commented)
  /-- Behind the comment. -/
  | past {s : List Char} (h : s.length < (skipBlank i.behind).length) : Follows s s

variable {i} {s s' t t' : List Char}

/-- The comment is skipped. -/
theorem skipBlank_commented : skipBlank i.commented = skipBlank i.behind :=
  skipBlank_comment i.comment i.behind

/-- The comment begins with a slash. -/
theorem exists_commented_eq (i : Insertion) : ∃ rest, i.commented = '/' :: rest :=
  ⟨_, i.comment.chars_append i.behind⟩

/-- Behind a part of a token there may be its end. -/
theorem Continues.follows (h : i.Continues s s') : i.Follows s s' := by
  cases h with
  | front h =>
      rcases h with h | ⟨h, -⟩
      · exact .front h
      · exact .tail h
  | past h => exact .past h

/-- Behind a token and what is skipped there is the next one. -/
theorem Follows.begins (h : i.Follows s s') : i.Begins (skipBlank s) (skipBlank s') := by
  cases h with
  | front h =>
      obtain ⟨t, ht, hbegins, hskip⟩ := h.exists_token
      rw [hskip, hskip]
      exact .front ht hbegins
  | tail h =>
      rw [h.1.skipBlank_append, h.1.skipBlank_append, skipBlank_commented]
      exact .past le_rfl
  | past h => exact .past ((length_skipBlank_le _).trans h.le)

/-- In front of a token nothing is skipped before the comment. -/
theorem Begins.begins (h : i.Begins s s') : i.Begins (skipBlank s) (skipBlank s') := by
  cases h with
  | front h ht =>
      rw [ht.skipBlank_append, ht.skipBlank_append]
      exact .front h ht
  | past h => exact .past ((length_skipBlank_le _).trans h)

/-- What the readings take off is equal, or the comment is taken off with it. -/
theorem Begins.taken_alike (hs : i.Begins s s') (ht : i.Follows t t') :
    s'.take (s'.length - t'.length) = s.take (s.length - t.length) ∨
      ['/', '*'] <:+: s'.take (s'.length - t'.length) := by
  have hbehind : (skipBlank i.behind).length ≤ i.behind.length := length_skipBlank_le i.behind
  have hcommented : i.behind.length ≤ i.commented.length := by simp [commented]
  -- In front of the comment both take off the same part of the same text.
  have hfront (f q : List Char) :
      (f ++ i.commented).take ((f ++ i.commented).length - (q ++ i.commented).length)
        = (f ++ i.behind).take ((f ++ i.behind).length - (q ++ i.behind).length) := by
    have hlen (r : List Char) : (f ++ r).length - (q ++ r).length = f.length - q.length := by
      rw [List.length_append, List.length_append, Nat.add_sub_add_right]
    rw [hlen, hlen, List.take_append_of_le_length (Nat.sub_le ..),
      List.take_append_of_le_length (Nat.sub_le ..)]
  cases hs with
  | @front f h hbegins =>
      cases ht with
      | front ht => exact Or.inl (hfront f _)
      | tail ht => exact Or.inl (hfront f _)
      | past ht =>
          refine Or.inr ?_
          have hfirst : f ++ ['/', '*'] <+: f ++ i.commented := by
            rw [commented, i.comment.chars_append]
            exact ⟨i.comment.body ++ '*' :: '/' :: i.behind, by simp⟩
          have hlen : (f ++ ['/', '*']).length ≤ (f ++ i.commented).length - t.length := by
            simp only [commented, BlockComment.chars, List.length_append, List.length_cons,
              List.length_nil]
            omega
          exact (List.suffix_append f _).isInfix.trans
            (List.prefix_take_iff.2 ⟨hfirst, hlen⟩).isInfix
  | @past s h =>
      -- Behind the comment nothing is taken off that ends in front of it.
      have hnone (q r : List Char) (hr : i.behind.length ≤ r.length) :
          s.length - (q ++ r).length = 0 := by
        rw [List.length_append]
        omega
      cases ht with
      | front ht => exact Or.inl (by rw [hnone _ _ hcommented, hnone _ _ le_rfl])
      | tail ht => exact Or.inl (by rw [hnone _ _ hcommented, hnone _ _ le_rfl])
      | past ht => exact Or.inl rfl

/-- Both readings are at the end, or the token begins with the same character in both. -/
theorem Begins.exists_cons (h : i.Begins s s') : s = [] ∧ s' = [] ∨
    ∃ c t t', s = c :: t ∧ s' = c :: t' ∧ (c ≠ '"' → c ≠ '\'' →
      i.Follows t t' ∧ (c ∉ openingSigns → i.Continues t t')) := by
  cases h with
  | front h ht =>
      obtain ⟨c, rest, rfl, hcases⟩ := h.exists_cons
      obtain ⟨x, more, hx, hblank, hslash⟩ := ht
      cases hx
      refine Or.inr ⟨c, rest ++ i.behind, rest ++ i.commented, rfl, rfl, fun hdouble hsingle => ?_⟩
      rcases hcases with ⟨-, hfront | ⟨htail, hsign⟩⟩ | hquote | hskip
      · exact ⟨.front hfront, fun _ => .front (Or.inl hfront)⟩
      · exact ⟨.tail htail, fun hopen => .front (Or.inr ⟨htail, hsign.resolve_left hopen⟩)⟩
      · exact absurd hquote (by simp [hdouble, hsingle])
      · exact absurd hskip (by simp [hblank, hslash])
  | past h =>
      cases s with
      | nil => exact Or.inl ⟨rfl, rfl⟩
      | cons c t => exact Or.inr ⟨c, t, t, rfl, rfl, fun _ _ => ⟨.past h, fun _ => .past h⟩⟩

/-- If one of the readings goes on with a character, the other one does. -/
theorem Continues.exists_cons (h : i.Continues s s') {c : Char} (hc : isInner c = true) :
    (∃ t t', s = c :: t ∧ s' = c :: t' ∧ i.Continues t t') ∨
      (∀ t, s ≠ c :: t) ∧ ∀ t, s' ≠ c :: t := by
  cases h with
  | @front s h =>
      obtain ⟨rest, hrest⟩ := i.exists_commented_eq
      by_cases hs : ∃ more, s = c :: more
      · obtain ⟨more, rfl⟩ := hs
        exact Or.inl ⟨_, _, rfl, rfl, .front (h.of_cons hc)⟩
      · refine Or.inr ⟨fun t heq => hs ?_, fun t heq => hs ?_⟩
        · obtain ⟨more, heq, -⟩ := h.eq_cons (Or.inl rfl) hc heq
          exact ⟨more, heq⟩
        · obtain ⟨more, heq, -⟩ := h.eq_cons (Or.inr ⟨rest, hrest⟩) hc heq
          exact ⟨more, heq⟩
  | @past s h =>
      by_cases hs : ∃ more, s = c :: more
      · obtain ⟨more, rfl⟩ := hs
        exact Or.inl ⟨more, more, rfl, rfl, .past (Nat.lt_of_succ_lt h)⟩
      · exact Or.inr ⟨fun t heq => hs ⟨t, heq⟩, fun t heq => hs ⟨t, heq⟩⟩

/-- The readings agree about what the next character is, as far as it may be a part of a token. -/
theorem Continues.any_head? (h : i.Continues s s') {p : Char → Bool}
    (hp : ∀ c, p c = true → isInner c = true) : s.head?.any p = s'.head?.any p := by
  have hhead {s s' : List Char}
      (h : ∀ c t, s = c :: t → p c = true → ∃ t', s' = c :: t') (hs : s.head?.any p = true) :
      s'.head?.any p = true := by
    cases s with
    | nil => cases hs
    | cons c t =>
        obtain ⟨t', rfl⟩ := h c t rfl hs
        exact hs
  rw [Bool.eq_iff_iff]
  refine ⟨hhead fun c t heq hc => ?_, hhead fun c t heq hc => ?_⟩
  · obtain ⟨t, t', -, hs', -⟩ | ⟨hne, -⟩ := h.exists_cons (hp c hc)
    · exact ⟨t', hs'⟩
    · exact absurd heq (hne t)
  · obtain ⟨t, t', hs, -, -⟩ | ⟨-, hne⟩ := h.exists_cons (hp c hc)
    · exact ⟨t, hs⟩
    · exact absurd heq (hne t)

end Insertion

end DocSite.Script

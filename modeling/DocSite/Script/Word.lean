import DocSite.Text.Blank
import DocSite.Text.Digit

/-! # Words

Names and keywords are words of the same form: a character that may begin a name, then characters
that may continue one, each possibly written as a Unicode escape. A keyword is a word of given
spelling; whether a word counts as one depends on where it stands. -/

namespace DocSite.Script

open DocSite.Text

/-- Characters that may begin a word: the letters, `$` and `_` of ASCII, and every character
beyond ASCII that is neither blank nor a line break. -/
def beginsWord (c : Char) : Bool :=
  c.isAlpha || c == '$' || c == '_' || (0x7F ≤ c.toNat && !isScriptBlank c)

/-- Characters that may continue a word. -/
def continuesWord (c : Char) : Bool :=
  beginsWord c || c.isDigit

/-- A Unicode escape, with the text behind it. -/
def unicodeEscape? : List Char → Option (List Char × List Char)
  | '\\' :: 'u' :: '{' :: rest =>
      match rest.span isHex with
      | (d :: digits, '}' :: after) => some (['\\', 'u', '{'] ++ d :: digits ++ ['}'], after)
      | _ => none
  | '\\' :: 'u' :: a :: b :: c :: d :: rest =>
      if [a, b, c, d].all isHex then some (['\\', 'u', a, b, c, d], rest) else none
  | _ => none

/-- What continues a word, in at most `n` pieces. -/
def wordTail : Nat → List Char → List Char × List Char
  | 0, s => ([], s)
  | n + 1, s =>
      match s with
      | [] => ([], [])
      | c :: rest =>
          if continuesWord c then
            let (more, after) := wordTail n rest
            (c :: more, after)
          else
            match unicodeEscape? s with
            | some (escape, rest) =>
                let (more, after) := wordTail n rest
                (escape ++ more, after)
            | none => ([], s)

/-- The word that stands here, as written. -/
def word? (s : List Char) : Option (List Char × List Char) :=
  match s with
  | [] => none
  | c :: rest =>
      if beginsWord c then
        let (more, after) := wordTail rest.length rest
        some (c :: more, after)
      else
        match unicodeEscape? s with
        | some (escape, rest) =>
            let (more, after) := wordTail rest.length rest
            some (escape ++ more, after)
        | none => none

/-- Whether the word `spelling` stands here. -/
def startsWithWord (spelling : String) (s : List Char) : Bool :=
  match word? s with
  | some (w, _) => w == spelling.toList
  | none => false

/-! ## What words are written with -/

/-- Characters that a word is written with: those that may continue one, and those of Unicode
escapes. -/
def writesWord (c : Char) : Bool :=
  continuesWord c || isHex c || c == '\\' || c == '{' || c == '}'

/-- A word, as written. -/
structure Word where
  /-- Its characters. -/
  chars : List Char
  /-- Words are written with certain characters only. -/
  written : ∀ c ∈ chars, writesWord c = true

theorem writesWord_of_continuesWord {c : Char} (h : continuesWord c = true) :
    writesWord c = true := by
  simp [writesWord, h]

theorem writesWord_of_beginsWord {c : Char} (h : beginsWord c = true) : writesWord c = true :=
  writesWord_of_continuesWord (by simp [continuesWord, h])

theorem writesWord_of_isHex {c : Char} (h : isHex c = true) : writesWord c = true := by
  simp [writesWord, h]

/-- The characters in front of the first one without a property have it. -/
theorem of_mem_span {p : Char → Bool} (s : List Char) : ∀ c ∈ (s.span p).1, p c = true := by
  have hloop : ∀ s front : List Char, (∀ c ∈ front, p c = true) →
      ∀ c ∈ (List.span.loop p s front).1, p c = true := by
    intro s
    induction s with
    | nil =>
        intro front hfront c hc
        exact hfront c (List.mem_reverse.1 hc)
    | cons x rest ih =>
        intro front hfront
        have hstep : List.span.loop p (x :: rest) front
            = bif p x then List.span.loop p rest (x :: front) else (front.reverse, x :: rest) :=
          rfl
        rw [hstep]
        cases hx : p x with
        | true => exact ih (x :: front) (List.forall_mem_cons.2 ⟨hx, hfront⟩)
        | false => exact fun c hc => hfront c (List.mem_reverse.1 hc)
  exact hloop s [] (List.forall_mem_nil _)

/-- Unicode escapes are written with such characters. -/
theorem writesWord_of_unicodeEscape? {s escape rest : List Char}
    (h : unicodeEscape? s = some (escape, rest)) : ∀ c ∈ escape, writesWord c = true := by
  rw [unicodeEscape?.eq_def] at h
  split at h
  next digits =>
    split at h
    next d more after hspan =>
      cases h
      have hdigits := of_mem_span (p := isHex) digits
      rw [hspan] at hdigits
      intro c hc
      simp only [List.mem_append, List.mem_cons, List.not_mem_nil, or_false] at hc
      rcases hc with ((rfl | rfl | rfl) | hc) | rfl
      · decide
      · decide
      · decide
      · exact writesWord_of_isHex (hdigits c (List.mem_cons.2 hc))
      · decide
    · cases h
  next a b c d _ _ =>
    split at h
    next hall =>
      cases h
      intro x hx
      rw [List.mem_cons, List.mem_cons] at hx
      rcases hx with rfl | rfl | hx
      · decide
      · decide
      · exact writesWord_of_isHex (List.all_eq_true.1 hall x hx)
    · cases h
  · cases h

/-- So is what continues a word. -/
theorem writesWord_of_mem_wordTail (n : Nat) (s : List Char) :
    ∀ c ∈ (wordTail n s).1, writesWord c = true := by
  induction n generalizing s with
  | zero => exact List.forall_mem_nil _
  | succ n ih =>
      rw [wordTail.eq_def]
      cases s with
      | nil => exact List.forall_mem_nil _
      | cons x rest =>
          simp only
          split
          next hx => exact List.forall_mem_cons.2 ⟨writesWord_of_continuesWord hx, ih rest⟩
          next =>
            split
            next escape after hescape =>
              exact List.forall_mem_append.2 ⟨writesWord_of_unicodeEscape? hescape, ih after⟩
            next => exact List.forall_mem_nil _

/-- **A word that is read is written with such characters only.** -/
theorem writesWord_of_word? {s w rest : List Char} (h : word? s = some (w, rest)) :
    ∀ c ∈ w, writesWord c = true := by
  rw [word?.eq_def] at h
  cases s with
  | nil => cases h
  | cons x more =>
      simp only at h
      split at h
      next hx =>
        cases h
        exact List.forall_mem_cons.2
          ⟨writesWord_of_beginsWord hx, writesWord_of_mem_wordTail more.length more⟩
      next =>
        split at h
        next escape after hescape =>
          cases h
          exact List.forall_mem_append.2
            ⟨writesWord_of_unicodeEscape? hescape, writesWord_of_mem_wordTail after.length after⟩
        next => cases h

/-- The word that stands here, with what is known of it. -/
def asWord? (s : List Char) : Option (Word × List Char) :=
  match h : word? s with
  | some (w, rest) => some (⟨w, writesWord_of_word? h⟩, rest)
  | none => none

/-- It is the word that stands here. -/
theorem asWord?_of_word? {s w rest : List Char} (h : word? s = some (w, rest)) :
    ∃ bound : Word, bound.chars = w ∧ asWord? s = some (bound, rest) := by
  refine ⟨⟨w, writesWord_of_word? h⟩, rfl, ?_⟩
  rw [asWord?]
  split
  next h' =>
    rw [h] at h'
    cases h'
    rfl
  next h' =>
    rw [h] at h'
    cases h'

end DocSite.Script

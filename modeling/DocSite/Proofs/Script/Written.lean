import DocSite.Proofs.Script.Quote
import DocSite.Proofs.Script.Reader
import DocSite.Script.Grammar
import DocSite.Script.Lift

/-! # Literals as generated files write them

Generated files hold literals of few kinds: `null`, quoted texts, the flags `0` and `1`, and lists
of them. `Written s l` says that the text `s` writes the literal `l` in this way, with blanks
wherever tokens meet. The main statement is `Written.operandPhrase`: in front of anything that ends
a value, the grammar reads such a text as one operand whose value is the literal, and declares
nothing.

The grammar has as many levels as the text has characters, and it bounds rows by the same number. A
text of length `n` therefore asks for `n` levels, and the items of a list, being shorter by two
brackets, leave a level over for each list around them. -/

namespace DocSite.Script

open DocSite.Text DocSite.Script.Parser

/-! ## The texts -/

mutual

/-- The text of a literal. -/
inductive Written : List Char → Literal → Prop where
  /-- Nothing. -/
  | null : Written ['n', 'u', 'l', 'l'] .null
  /-- A quoted text. -/
  | string {d : Char} (hd : IsDelimiter d) (s : String) :
      Written (quoteChars d s.toList) (.string s)
  /-- A flag, which is a number. -/
  | flag (b : Bool) : Written [if b then '1' else '0'] (.number (.ofNat b.toNat))
  /-- A list in brackets. -/
  | array {inside : List Char} {items : List Literal} (h : WrittenItems inside items) :
      Written ('[' :: (inside ++ [']'])) (.array items)

/-- The text between the brackets of a list. -/
inductive WrittenItems : List Char → List Literal → Prop where
  /-- No items. -/
  | none {w : List Char} (hw : IsBlank w) : WrittenItems w []
  /-- The last item. -/
  | last {w s v : List Char} {item : Literal} (hw : IsBlank w) (h : Written s item)
      (hv : IsBlank v) : WrittenItems (w ++ (s ++ v)) [item]
  /-- An item with a comma behind it. -/
  | cons {w s v rest : List Char} {item : Literal} {items : List Literal} (hw : IsBlank w)
      (h : Written s item) (hv : IsBlank v) (hrest : WrittenItems rest items) :
      WrittenItems (w ++ (s ++ (v ++ ',' :: rest))) (item :: items)

end

/-- Blanks may stand in front of items. -/
theorem WrittenItems.blank_append {w s : List Char} {items : List Literal} (hw : IsBlank w)
    (h : WrittenItems s items) : WrittenItems (w ++ s) items := by
  cases h with
  | none hv => exact .none (hw.append hv)
  | last hu h hv =>
      rw [← List.append_assoc]
      exact .last (hw.append hu) h hv
  | cons hu h hv hrest =>
      rw [← List.append_assoc]
      exact .cons (hw.append hu) h hv hrest

/-- Blanks may stand behind items. -/
theorem WrittenItems.append_blank {s w : List Char} {items : List Literal} (hw : IsBlank w) :
    WrittenItems s items → WrittenItems (s ++ w) items
  | .none hv => .none (hv.append hw)
  | .last hu h hv => by
      rw [List.append_assoc, List.append_assoc]
      exact .last hu h (hv.append hw)
  | .cons hu h hv hrest => by
      rw [List.append_assoc, List.append_assoc, List.append_assoc, List.cons_append]
      exact .cons hu h hv (hrest.append_blank hw)

/-- The characters with which literals begin, except for `null`. -/
def literalHeads : List Char := ['"', '\'', '[', '0', '1']

/-- The characters with which literals begin, one by one. -/
theorem mem_literalHeads {c : Char} :
    c ∈ literalHeads ↔ c = '"' ∨ c = '\'' ∨ c = '[' ∨ c = '0' ∨ c = '1' := by
  simp [literalHeads]

/-- Where a literal begins, a token does. -/
theorem Written.head {s : List Char} {l : Literal} (h : Written s l) :
    ∃ c rest, s = c :: rest ∧ (c = 'n' ∨ c ∈ literalHeads) := by
  cases h with
  | null => exact ⟨_, _, rfl, Or.inl rfl⟩
  | string hd s =>
      refine ⟨_, _, rfl, Or.inr ?_⟩
      rcases hd with rfl | rfl <;> decide
  | flag b => exact ⟨_, _, rfl, Or.inr (by cases b <;> decide)⟩
  | array h => exact ⟨_, _, rfl, Or.inr (by decide)⟩

/-- A literal begins with a character that begins a token. -/
theorem beginsToken_of_head {c : Char} (h : c = 'n' ∨ c ∈ literalHeads) :
    beginsToken c = true := by
  rw [mem_literalHeads] at h
  rcases h with rfl | rfl | rfl | rfl | rfl | rfl <;> decide

/-- NUL is no blank. -/
theorem IsBlank.nul_not_mem {w : List Char} (hw : IsBlank w) : '\x00' ∉ w := by
  intro h
  exact absurd (hw _ h) (by decide)

mutual

/-- The text of a literal holds no NUL. -/
theorem Written.nul_not_mem {s : List Char} {l : Literal} : Written s l → '\x00' ∉ s
  | .null => by decide
  | .string hd s => nul_not_mem_quoteChars hd s.toList
  | .flag b => by cases b <;> decide
  | .array h => by
      have hinside := h.nul_not_mem
      rw [List.mem_cons, List.mem_append, List.mem_singleton]
      rintro (h | h | h)
      · exact absurd h (by decide)
      · exact hinside h
      · exact absurd h (by decide)

/-- The text of items holds no NUL. -/
theorem WrittenItems.nul_not_mem {s : List Char} {items : List Literal} :
    WrittenItems s items → '\x00' ∉ s
  | .none hw => hw.nul_not_mem
  | .last hw h hv => by
      have hitem := h.nul_not_mem
      rw [List.mem_append, List.mem_append]
      rintro (h | h | h)
      · exact hw.nul_not_mem h
      · exact hitem h
      · exact hv.nul_not_mem h
  | .cons hw h hv hrest => by
      have hitem := h.nul_not_mem
      have hmore := hrest.nul_not_mem
      rw [List.mem_append, List.mem_append, List.mem_append, List.mem_cons]
      rintro (h | h | h | h | h)
      · exact hw.nul_not_mem h
      · exact hitem h
      · exact hv.nul_not_mem h
      · exact absurd h (by decide)
      · exact hmore h

end

/-! ## What ends a value -/

/-- The signs that end a value. -/
def valueEnds : List Char := [',', ']', ';']

/-- The signs that end a value, one by one. -/
theorem mem_valueEnds {c : Char} : c ∈ valueEnds ↔ c = ',' ∨ c = ']' ∨ c = ';' := by
  simp [valueEnds]

/-- A text in front of which a value is over: a sign that ends values, possibly behind blanks. -/
def EndsValue (s : List Char) : Prop :=
  ∃ w c rest, s = w ++ c :: rest ∧ IsBlank w ∧ c ∈ valueEnds

/-- A sign that ends values begins a token. -/
theorem beginsToken_of_end {c : Char} (h : c ∈ valueEnds) : beginsToken c = true := by
  rcases mem_valueEnds.1 h with rfl | rfl | rfl <;> decide

/-- A sign that ends values ends them behind blanks too. -/
theorem endsValue_append {w : List Char} {c : Char} (hw : IsBlank w) (hc : c ∈ valueEnds)
    (rest : List Char) : EndsValue (w ++ c :: rest) :=
  ⟨w, c, rest, rfl, hw, hc⟩

/-- Behind blanks stands the sign that ends the value. -/
theorem EndsValue.skipBlank_eq {s : List Char} (h : EndsValue s) :
    ∃ c rest, skipBlank s = c :: rest ∧ c ∈ valueEnds := by
  obtain ⟨w, c, rest, rfl, hw, hc⟩ := h
  exact ⟨c, rest, skipBlank_append_token hw rest (beginsToken_of_end hc), hc⟩

/-- The first character behind a value can continue neither a word nor a number. -/
theorem EndsValue.head {s : List Char} (h : EndsValue s) :
    ∃ c rest, s = c :: rest ∧ continuesWord c = false ∧ c ≠ '\\' ∧ c ≠ '.' := by
  obtain ⟨w, c, rest, rfl, hw, hc⟩ := h
  obtain ⟨x, more, hx, hblank | rfl⟩ := hw.exists_append_cons c rest
  · refine ⟨x, more, hx, continuesWord_of_isScriptBlank hblank, ?_, ?_⟩
    all_goals
      rintro rfl
      exact absurd hblank (by decide)
  · refine ⟨x, more, hx, ?_⟩
    rcases mem_valueEnds.1 hc with rfl | rfl | rfl <;> decide

/-- A value that is a word ends in front of what ends a value. -/
theorem EndsValue.endsWord {s : List Char} (h : EndsValue s) : EndsWord s := by
  obtain ⟨c, rest, rfl, hword, hslash, -⟩ := h.head
  intro x more hx
  obtain ⟨rfl, rfl⟩ := List.cons.inj hx
  exact ⟨hword, hslash⟩

/-! ## Numbers of one digit -/

/-- A decimal digit continues a word. -/
theorem continuesWord_of_isDecimal {c : Char} (h : isDecimal c = true) :
    continuesWord c = true := by
  rw [isDecimal_eq_isDigit] at h
  rw [continuesWord, h, Bool.or_true]

section

variable {x : Char} (rest : List Char) (hx : continuesWord x = false)

include hx

/-- What does not continue a word differs from what does. -/
theorem ne_of_continuesWord {y : Char} (hy : continuesWord y = true) : x ≠ y := by
  rintro rfl
  rw [hx] at hy
  exact Bool.false_ne_true hy

/-- A digit in front of what does not continue a word is a run of its own. -/
theorem digits?_singleton {d : Char} (hd : isDecimal d = true) :
    digits? isDecimal (d :: x :: rest) = some ([d], x :: rest) := by
  have hdigit : isDecimal x = false := by
    by_contra h
    rw [Bool.not_eq_false] at h
    exact ne_of_continuesWord hx (continuesWord_of_isDecimal h) rfl
  have hunder : x ≠ '_' := ne_of_continuesWord hx (by decide)
  have hunder' : d ≠ '_' := by
    rintro rfl
    exact absurd hd (by decide)
  rw [digits?, if_pos hd, digitRun, if_pos hd, digitRun]
  · simp [hdigit]
  · exact fun _ _ h => absurd h hunder
  · exact fun _ _ h => absurd h hunder'

/-- No exponent begins with what does not continue a word. -/
theorem exponentPart_of_not_continuesWord : exponentPart (x :: rest) = ([], x :: rest) := by
  have hmark : ¬(x = 'e' ∨ x = 'E') := by
    rintro (h | h)
    · exact ne_of_continuesWord hx (by decide) h
    · exact ne_of_continuesWord hx (by decide) h
  unfold exponentPart
  exact if_neg hmark

/-- A zero in front of what does not continue a word is no mark of a radix. -/
theorem markedNumber?_zero : markedNumber? ('0' :: x :: rest) = none := by
  have hne : ∀ y z, continuesWord y = true → continuesWord z = true → ¬(x = y ∨ x = z) :=
    fun y z hy hz h => h.elim (ne_of_continuesWord hx hy) (ne_of_continuesWord hx hz)
  rw [markedNumber?]
  simp only [if_neg (hne 'x' 'X' (by decide) (by decide)),
    if_neg (hne 'o' 'O' (by decide) (by decide)), if_neg (hne 'b' 'B' (by decide) (by decide))]

/-- **A digit is a number of its own** in front of what continues neither a word nor a fraction. -/
theorem number?_singleton {d : Char} (hd : isDecimal d = true)
    (hmark : markedNumber? (d :: x :: rest) = none) (hwhole : takesFraction [d] = true)
    (hpoint : x ≠ '.') : number? (d :: x :: rest) = some ([d], x :: rest) := by
  have hpoint' : d ≠ '.' := by
    rintro rfl
    exact absurd hd (by decide)
  have hlarge : withLargeMark ([d], x :: rest) = ([d], x :: rest) := by
    rw [withLargeMark]
    exact fun _ _ h => ne_of_continuesWord hx (by decide) (List.cons.inj (Prod.mk.inj h).2).1
  rw [number?, hmark]
  · simp only [digits?_singleton rest hx hd, if_pos hwhole]
    split
    next h => exact absurd (List.cons.inj h).1 hpoint
    next => simp only [exponentPart_of_not_continuesWord rest hx, hlarge]
  · exact fun _ h => hpoint' (List.cons.inj h).1

end

/-- The digit of a flag is read as a number. -/
theorem number?_flag (b : Bool) {s : List Char} (h : EndsValue s) :
    number? ((if b then '1' else '0') :: s) = some ([if b then '1' else '0'], s) := by
  obtain ⟨x, rest, rfl, hx, -, hpoint⟩ := h.head
  cases b with
  | false => exact number?_singleton rest hx (by decide) (markedNumber?_zero rest hx) rfl hpoint
  | true => exact number?_singleton rest hx (by decide) rfl rfl hpoint

/-- The number that a flag is in front of what ends a value. -/
def flagToken (b : Bool) {s : List Char} (h : EndsValue s) : NumberToken :=
  ⟨[if b then '1' else '0'], _, s, number?_flag b h⟩

/-- The digit of a flag is worth one or zero. -/
theorem value?_flag (b : Bool) :
    Numeral.value? [if b then '1' else '0'] = some (.ofNat b.toNat) := by
  cases b <;> decide

/-! ## Operands -/

/-- An operand is a value, and `l` is what it is worth. -/
structure Operand.Means (o : Operand) (l : Literal) : Prop where
  /-- It is a value. -/
  isValue : o.isValue = true
  /-- It is worth `l`. -/
  literal? : o.expr.literal? = .ok l

/-- Slots may stand in an array, and `items` are what they are worth. -/
structure SlotsMean (slots : List Slot) (items : List Literal) : Prop where
  /-- They may stand in an array. -/
  isValue : slots.all Slot.isValue = true
  /-- They are worth `items`. -/
  literals? : literals? (elementsOf slots) = .ok items

namespace Inner

variable (g : Inner) {s : List Char} (found : List Declarator)

/-- No access, call or update follows a value. -/
theorem postfixes_of_endsValue (h : EndsValue s) (ctx : Context) (reach : Reach) (start : Place)
    (n : Nat) (o : Operand) :
    g.postfixes ctx reach start n o ⟨s, found⟩ = some (o, ⟨s, found⟩) := by
  obtain ⟨c, rest, hskip, hc⟩ := h.skipBlank_eq
  have hahead : ahead ⟨s, found⟩ = some (c :: rest, ⟨s, found⟩) := by rw [← hskip]; rfl
  cases n with
  | zero => rfl
  | succ n =>
      rw [postfixes]
      split
      · rfl
      · rw [bind_of_eq hahead]
        rcases mem_valueEnds.1 hc with rfl | rfl | rfl <;> rfl

/-- No operator follows a value. -/
theorem operators_of_endsValue (h : EndsValue s) (ctx : Context) (start : Place) (level n : Nat)
    (o : Operand) : g.operators ctx start level n o ⟨s, found⟩ = some (o, ⟨s, found⟩) := by
  obtain ⟨c, rest, hskip, hc⟩ := h.skipBlank_eq
  have hahead : ahead ⟨s, found⟩ = some (c :: rest, ⟨s, found⟩) := by rw [← hskip]; rfl
  cases n with
  | zero => rfl
  | succ n =>
      rw [operators]
      split
      · rfl
      · rw [bind_of_eq hahead]
        rcases mem_valueEnds.1 hc with rfl | rfl | rfl <;> rfl

/-- No assignment follows a value. -/
theorem not_equals_of_endsValue (h : EndsValue s) : equals ⟨s, found⟩ = none := by
  obtain ⟨c, rest, hskip, hc⟩ := h.skipBlank_eq
  apply token_of_none
  rw [hskip]
  rcases mem_valueEnds.1 hc with rfl | rfl | rfl <;> rfl

/-- **A primary phrase in front of what ends a value is the whole operand**, if no operator can
combine its old value with a new one. -/
theorem operandPhrase_of_primary {c : Char} {rest : List Char} {o : Operand} (hc : beginsToken c)
    {ctx : Context} (hsimple : g.simpleOperand ctx (c :: rest) = (do
      g.postfixes ctx .all (c :: rest) g.bound (← g.primary ctx (c :: rest))))
    (hprimary : g.primary ctx (c :: rest) ⟨c :: rest, found⟩ = some (o, ⟨s, found⟩))
    (hshape : o.shape.isUpdatable = false) (h : EndsValue s) (level : Nat) :
    g.operandPhrase ctx level ⟨c :: rest, found⟩ = some (o, ⟨s, found⟩) := by
  have htrivia : trivia ⟨c :: rest, found⟩ = some ((), ⟨c :: rest, found⟩) := by
    have hskip := skipTrivia_append_token isBlank_nil rest hc
    rw [List.nil_append] at hskip
    rw [trivia, hskip]
  have hplace : Parser.rest ⟨c :: rest, found⟩ = some (c :: rest, ⟨c :: rest, found⟩) := rfl
  have hoperand : g.simpleOperand ctx (c :: rest) ⟨c :: rest, found⟩ = some (o, ⟨s, found⟩) := by
    rw [hsimple, bind_of_eq hprimary]
    exact g.postfixes_of_endsValue found h ..
  -- An array could be assigned to, but what ends a value is no sign of assignment.
  have hequals : accept (do guard o.shape.isAssignable; equals) ⟨s, found⟩
      = some (false, ⟨s, found⟩) := by
    apply accept_of_none
    by_cases hassign : o.shape.isAssignable = true
    · rw [bind_of_eq (guard_of_pos hassign _)]
      exact not_equals_of_endsValue found h
    · exact bind_of_none (guard_of_neg hassign _)
  have hassignment : g.assignment ctx (c :: rest) ⟨c :: rest, found⟩ = some (o, ⟨s, found⟩) := by
    rw [assignment, bind_of_eq hoperand, bind_of_eq hequals]
    simp only [hshape]
    rfl
  rw [operandPhrase, bind_of_eq htrivia, bind_of_eq hplace, bind_of_eq hassignment]
  exact g.operators_of_endsValue found h ..

/-- Where a literal other than `null` begins, a primary phrase does. -/
theorem simpleOperand_of_mem_literalHeads {c : Char} (hc : c ∈ literalHeads) (ctx : Context)
    (rest : List Char) : g.simpleOperand ctx (c :: rest) = (do
      g.postfixes ctx .all (c :: rest) g.bound (← g.primary ctx (c :: rest))) := by
  rcases mem_literalHeads.1 hc with rfl | rfl | rfl | rfl | rfl <;> rfl

/-- `null` in front of what ends a value is an operand. -/
theorem operandPhrase_null (h : EndsValue s) (ctx : Context) (level : Nat) :
    ∃ o, g.operandPhrase ctx level ⟨'n' :: 'u' :: 'l' :: 'l' :: s, found⟩ = some (o, ⟨s, found⟩) ∧
      o.Means .null := by
  have hword : word? ('n' :: 'u' :: 'l' :: 'l' :: s) = some (['n', 'u', 'l', 'l'], s) :=
    @word?_append 'n' ['u', 'l', 'l'] s (by decide) (by decide) h.endsWord
  have hread : immediate word? ⟨'n' :: 'u' :: 'l' :: 'l' :: s, found⟩
      = some (['n', 'u', 'l', 'l'], ⟨s, found⟩) := by
    rw [immediate, hword]
  refine ⟨{ expr := .null }, ?_, ⟨rfl, rfl⟩⟩
  apply g.operandPhrase_of_primary found (by decide) _ _ rfl h
  · -- The word is none of the prefix operators.
    rw [simpleOperand]
    · simp only [hword]
      rfl
    all_goals simp
  · change (do g.wordPhrase ctx ('n' :: 'u' :: 'l' :: 'l' :: s) (← immediate word?)) _ = _
    rw [bind_of_eq hread]
    rfl

/-- A quoted text in front of what ends a value is an operand. -/
theorem operandPhrase_quoteChars {d : Char} (hd : IsDelimiter d) (text : String)
    (h : EndsValue s) (ctx : Context) (level : Nat) :
    ∃ o, g.operandPhrase ctx level ⟨quoteChars d text.toList ++ s, found⟩
        = some (o, ⟨s, found⟩) ∧ o.Means (.string text) := by
  obtain ⟨parts, hparts, htext⟩ := string?_quoteChars hd text s
  have hhead : d ∈ literalHeads := by rcases hd with rfl | rfl <;> decide
  have hbegins : beginsToken d = true := beginsToken_of_head (Or.inr hhead)
  refine ⟨{ expr := .string parts }, ?_, ⟨rfl, by rw [Expr.literal?, htext]⟩⟩
  rw [quoteChars, List.append_assoc, List.cons_append] at hparts ⊢
  apply g.operandPhrase_of_primary found hbegins (g.simpleOperand_of_mem_literalHeads hhead ctx _) _
    rfl h
  have hread : Parser.string ⟨d :: (quoteBody d text.toList ++ ([d] ++ s)), found⟩
      = some (parts, ⟨s, found⟩) := by
    apply token_of_eq
    rw [skipBlank_of_beginsToken _ hbegins, hparts]
  rcases hd with rfl | rfl
  · change (do return { expr := .string (← Parser.string) } : Parser Operand) _ = _
    rw [bind_of_eq hread]
    rfl
  · change (do return { expr := .string (← Parser.string) } : Parser Operand) _ = _
    rw [bind_of_eq hread]
    rfl

/-- A digit that is read as a number is a primary phrase. -/
theorem primary_flag (b : Bool) (h : EndsValue s) (ctx : Context) :
    g.primary ctx ((if b then '1' else '0') :: s) = (do
      goTo s
      return { expr := .number ((if b then '1' else '0') :: s) (flagToken b h) }) := by
  have hnumber := asNumber?_of_number? (number?_flag b h)
  unfold primary
  cases b with
  | false =>
      simp only [Bool.false_eq_true, if_false] at hnumber ⊢
      simp only [hnumber]
      rfl
  | true =>
      simp only [if_true] at hnumber ⊢
      simp only [hnumber]
      rfl

/-- A flag in front of what ends a value is an operand. -/
theorem operandPhrase_flag (b : Bool) (h : EndsValue s) (ctx : Context) (level : Nat) :
    ∃ o, g.operandPhrase ctx level ⟨(if b then '1' else '0') :: s, found⟩ = some (o, ⟨s, found⟩) ∧
      o.Means (.number (.ofNat b.toNat)) := by
  have hhead : (if b then '1' else '0') ∈ literalHeads := by cases b <;> decide
  refine ⟨{ expr := .number ((if b then '1' else '0') :: s) (flagToken b h) }, ?_, rfl, ?_⟩
  · apply g.operandPhrase_of_primary found (beginsToken_of_head (Or.inr hhead))
      (g.simpleOperand_of_mem_literalHeads hhead ctx _) _ rfl h
    rw [g.primary_flag b h]
    rfl
  · rw [Expr.literal?, flagToken, value?_flag]

/-! ## Rows of slots -/

/-- A slot that begins like a literal holds the operand that stands there, and a comma or the
bracket follows. -/
theorem slotsUpTo_item {c : Char} {w rest after : List Char} {o : Operand} (hw : IsBlank w)
    (hc : c = 'n' ∨ c ∈ literalHeads)
    (hoperand : g.operand .closed 0 ⟨c :: rest, found⟩ = some (o, ⟨after, found⟩)) (n : Nat) :
    g.slotsUpTo ']' (n + 1) ⟨w ++ c :: rest, found⟩ = (do
      if ← accept (symbol [',']) then
        return .item (c :: rest) o :: (← g.slotsUpTo ']' n)
      else
        symbol [']']
        return [.item (c :: rest) o] : Parser (List Slot)) ⟨after, found⟩ := by
  have hbegins : beginsToken c = true := beginsToken_of_head hc
  have hblank : blank ⟨w ++ c :: rest, found⟩ = some ((), ⟨c :: rest, found⟩) := by
    rw [blank, skipBlank_append_token hw rest hbegins]
  have hplace : Parser.rest ⟨c :: rest, found⟩ = some (c :: rest, ⟨c :: rest, found⟩) := rfl
  -- So the slot is neither empty nor a spread.
  rw [mem_literalHeads] at hc
  have hclose : c ≠ ']' := by rcases hc with rfl | rfl | rfl | rfl | rfl | rfl <;> decide
  have hcomma : c ≠ ',' := by rcases hc with rfl | rfl | rfl | rfl | rfl | rfl <;> decide
  have hpoint : c ≠ '.' := by rcases hc with rfl | rfl | rfl | rfl | rfl | rfl <;> decide
  have hslot : g.filledSlot ⟨c :: rest, found⟩ = some (.item (c :: rest) o, ⟨after, found⟩) := by
    have hitem : (do return Slot.item (c :: rest) (← g.operand .closed 0)) ⟨c :: rest, found⟩
        = some (.item (c :: rest) o, ⟨after, found⟩) := by
      rw [bind_of_eq hoperand]
      rfl
    rw [filledSlot, bind_of_eq hplace]
    refine Eq.trans (congrFun ?_ _) hitem
    split
    next h => exact absurd (List.cons.inj h).1 hpoint
    next => rfl
  rw [slotsUpTo, bind_of_eq hblank, bind_of_eq hplace]
  simp only [markupComment?_of_beginsToken rest hbegins, if_neg hclose, if_neg hcomma]
  rw [bind_of_eq hslot]

/-- Behind an item and a comma stand the other items. -/
theorem slotsUpTo_cons {c : Char} {w rest after more : List Char} {n : Nat} {o : Operand}
    {slots : List Slot} {cursor : Cursor} (hw : IsBlank w) (hc : c = 'n' ∨ c ∈ literalHeads)
    (hoperand : g.operand .closed 0 ⟨c :: rest, found⟩ = some (o, ⟨after, found⟩))
    (hafter : skipBlank after = ',' :: more)
    (hmore : g.slotsUpTo ']' n ⟨more, found⟩ = some (slots, cursor)) :
    g.slotsUpTo ']' (n + 1) ⟨w ++ c :: rest, found⟩
      = some (.item (c :: rest) o :: slots, cursor) := by
  rw [g.slotsUpTo_item found hw hc hoperand, bind_of_eq (accept_of_eq (symbol_of_eq found hafter)),
    if_pos rfl, bind_of_eq hmore]
  rfl

/-- Behind the last item stands the bracket. -/
theorem slotsUpTo_last {c : Char} {w rest after more : List Char} {o : Operand} (hw : IsBlank w)
    (hc : c = 'n' ∨ c ∈ literalHeads)
    (hoperand : g.operand .closed 0 ⟨c :: rest, found⟩ = some (o, ⟨after, found⟩))
    (hafter : skipBlank after = ']' :: more) (n : Nat) :
    g.slotsUpTo ']' (n + 1) ⟨w ++ c :: rest, found⟩
      = some ([.item (c :: rest) o], ⟨more, found⟩) := by
  rw [g.slotsUpTo_item found hw hc hoperand,
    bind_of_eq (accept_of_none (symbol_of_ne found hafter (by decide))), if_neg (by decide),
    bind_of_eq (symbol_of_eq found hafter)]
  rfl

/-- Blanks alone between brackets are an empty slot. -/
theorem slotsUpTo_hole {w : List Char} (hw : IsBlank w) (n : Nat) :
    g.slotsUpTo ']' (n + 1) ⟨w ++ ']' :: s, found⟩ = some ([.hole], ⟨s, found⟩) := by
  have hblank : blank ⟨w ++ ']' :: s, found⟩ = some ((), ⟨']' :: s, found⟩) := by
    rw [blank, skipBlank_append_token hw s (by decide)]
  rw [slotsUpTo, bind_of_eq hblank]
  rfl

/-- A list in front of what ends a value is an operand. -/
theorem operandPhrase_array {inside : List Char} {slots : List Slot} {items : List Literal}
    (h : EndsValue s) (hread : g.slotsUpTo ']' (g.bound + 1) ⟨inside ++ ']' :: s, found⟩
      = some (slots, ⟨s, found⟩)) (hmeans : SlotsMean slots items) (ctx : Context) (level : Nat) :
    ∃ o, g.operandPhrase ctx level ⟨'[' :: (inside ++ ']' :: s), found⟩ = some (o, ⟨s, found⟩) ∧
      o.Means (.array items) := by
  refine ⟨{
    expr := .array (elementsOf slots)
    shape := .bracketed (slots.all Slot.isTarget)
    isValue := slots.all Slot.isValue }, ?_, hmeans.isValue, ?_⟩
  · apply g.operandPhrase_of_primary found (by decide)
      (g.simpleOperand_of_mem_literalHeads (by decide) ctx _) _ rfl h
    change g.arrayBody ⟨inside ++ ']' :: s, found⟩ = _
    rw [arrayBody, Inner.slots, bind_of_eq hread]
    rfl
  · rw [Expr.literal?, hmeans.literals?]

end Inner

/-! ## Literals -/

/-- There are as many levels as rows may have phrases. -/
@[simp] theorem bound_grammar (n : Nat) : (grammar n).bound = n := by
  cases n <;> rfl

/-- A value in front of more slots is worth its literal in front of theirs. -/
theorem SlotsMean.cons {o : Operand} {l : Literal} {slots : List Slot} {items : List Literal}
    (ho : o.Means l) (h : SlotsMean slots items) (place : Place) :
    SlotsMean (.item place o :: slots) (l :: items) := by
  refine ⟨?_, ?_⟩
  · rw [List.all_cons, Slot.isValue, ho.isValue, h.isValue, Bool.and_self]
  · rw [elementsOf, Slot.element, Script.literals?, ho.literal?, h.literals?]
    exact fun hslot => nomatch hslot

/-- No slots are worth no literals. -/
theorem slotsMean_nil : SlotsMean [] [] := ⟨rfl, rfl⟩

mutual

/-- **A text that writes a literal is read as an operand that is worth it**, in front of anything
that ends a value and with as many levels as the text has characters. -/
theorem Written.operandPhrase {s : List Char} {l : Literal} :
    Written s l → ∀ {n : Nat} {after : List Char}, s.length ≤ n → EndsValue after →
      ∀ (ctx : Context) (level : Nat) (found : List Declarator),
        ∃ o, (grammar n).operandPhrase ctx level ⟨s ++ after, found⟩ = some (o, ⟨after, found⟩) ∧
          o.Means l
  | .null, n, _, _, hend, ctx, level, found => (grammar n).operandPhrase_null found hend ctx level
  | .string hd text, n, _, _, hend, ctx, level, found =>
      (grammar n).operandPhrase_quoteChars found hd text hend ctx level
  | .flag b, n, _, _, hend, ctx, level, found =>
      (grammar n).operandPhrase_flag found b hend ctx level
  | @Written.array inside items h, n, after, hn, hend, ctx, level, found => by
      rw [List.length_cons, List.length_append, List.length_singleton] at hn
      obtain ⟨slots, hread, hmeans⟩ : ∃ slots,
          (grammar n).slotsUpTo ']' (n + 1) ⟨inside ++ ']' :: after, found⟩
            = some (slots, ⟨after, found⟩) ∧ SlotsMean slots items :=
        h.slotsUpTo (by omega) (by omega) found
      rw [List.cons_append, List.append_assoc, List.singleton_append]
      exact (grammar n).operandPhrase_array found hend (by rwa [bound_grammar]) hmeans ctx level

/-- A text that writes the items of a list is read as slots that are worth them, up to the bracket
behind it. -/
theorem WrittenItems.slotsUpTo {s : List Char} {items : List Literal} :
    WrittenItems s items → ∀ {n k : Nat} {after : List Char}, s.length < n → s.length < k →
      ∀ found : List Declarator,
        ∃ slots, (grammar n).slotsUpTo ']' k ⟨s ++ ']' :: after, found⟩
            = some (slots, ⟨after, found⟩) ∧ SlotsMean slots items
  | .none hw, n, k + 1, after, _, _, found =>
      ⟨[.hole], (grammar n).slotsUpTo_hole found hw k, rfl, rfl⟩
  | .last (w := w) (s := s) (v := v) hw h hv, n + 1, k + 1, after, hn, hk, found => by
      rw [List.length_append, List.length_append] at hn
      -- The level that is left over is spent on the item.
      have hend : EndsValue (v ++ ']' :: after) := endsValue_append hv (by decide) after
      obtain ⟨o, hread, hmeans⟩ := h.operandPhrase (n := n) (by omega) hend .closed 0 found
      obtain ⟨c, rest, rfl, hc⟩ := h.head
      refine ⟨[.item (c :: rest ++ (v ++ ']' :: after)) o], ?_, slotsMean_nil.cons hmeans _⟩
      rw [List.append_assoc, List.append_assoc]
      exact (grammar (n + 1)).slotsUpTo_last found hw hc hread
        (skipBlank_append_token hv after (by decide)) k
  | @WrittenItems.cons w s v rest item more hw h hv hrest, n + 1, k + 1, after, hn, hk, found => by
      simp only [List.length_append, List.length_cons] at hn hk
      have hend : EndsValue (v ++ ',' :: (rest ++ ']' :: after)) :=
        endsValue_append hv (by decide) _
      obtain ⟨o, hread, hmeans⟩ := h.operandPhrase (n := n) (by omega) hend .closed 0 found
      obtain ⟨slots, hmore, hslots⟩ : ∃ slots,
          (grammar (n + 1)).slotsUpTo ']' k ⟨rest ++ ']' :: after, found⟩
            = some (slots, ⟨after, found⟩) ∧ SlotsMean slots more :=
        hrest.slotsUpTo (by omega) (by omega) found
      obtain ⟨c, tail, rfl, hc⟩ := h.head
      refine ⟨.item (c :: tail ++ (v ++ ',' :: (rest ++ ']' :: after))) o :: slots, ?_,
        hslots.cons hmeans _⟩
      rw [List.append_assoc, List.append_assoc, List.append_assoc, List.cons_append]
      exact (grammar (n + 1)).slotsUpTo_cons found hw hc hread
        (skipBlank_append_token hv _ (by decide)) hmore

end

end DocSite.Script

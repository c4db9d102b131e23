import DocSite.Proofs.Script.NumberValue
import DocSite.Proofs.Script.Written
import DocSite.Script

/-! # Which initialisers are data

Data is generated from `null`, truth values, numbers and strings by arrays, objects and parentheses
(`IsData`). Notions of data differ in three respects only (`Latitude`): whether an array may have
holes, which keys an object may have, and what may stand behind a minus sign. Plain data has no
holes, keys that are strings, names or numbers, and a number behind the minus sign
(`Latitude.plain`). What a script may hold is more: holes are left out, every key stands for its own
text, and the text behind a minus sign is read like a numeral whatever it is
(`Latitude.accepted`).

The main statement is `parse_verdict`: a script is read exactly if all its initialisers are data in
the wider sense. Where holes, odd keys and odd signs are absent (`Expr.IsTidy`), that is the
narrower sense. -/

namespace DocSite.Script

open DocSite.Text

/-! ## Data -/

/-- How far a notion of data goes. -/
structure Latitude where
  /-- Whether arrays may have holes. -/
  holes : Prop
  /-- The keys that objects may have. -/
  key : Key → Prop
  /-- The texts of prefix operators with their operands that are data. -/
  signed : List Char → Prop

/-- What is data in the sense of a notion. -/
inductive IsData (l : Latitude) : Expr → Prop where
  /-- `null` or `undefined`. -/
  | null : IsData l .null
  /-- `true` or `false`. -/
  | bool (b : Bool) : IsData l (.bool b)
  /-- A number, unless it is a large integer or has too many digits behind a radix mark. -/
  | number (place : Place) {token : NumberToken} (h : IsPlainNumber token.chars) :
      IsData l (.number place token)
  /-- A string. -/
  | string (parts : List StringPart) : IsData l (.string parts)
  /-- An array of data. -/
  | array {elements : List Element} (hholes : .hole ∈ elements → l.holes)
      (h : ∀ value, .item value ∈ elements → IsData l value) : IsData l (.array elements)
  /-- An object of keys with data. -/
  | object {fields : List (Key × Expr)} (hkeys : ∀ field ∈ fields, l.key field.1)
      (h : ∀ field ∈ fields, IsData l field.2) :
      IsData l (.object (fields.map fun field => .pair field.1 field.2))
  /-- Data in parentheses. -/
  | paren {inner : Expr} (h : IsData l inner) : IsData l (.paren inner)
  /-- A sign with its operand. -/
  | signed (place : Place) {text : List Char} (h : l.signed text) : IsData l (.unary place text)

/-- Whether a key is a string, a name or a number. -/
def Key.IsPlain : Key → Prop
  | .quoted _ | .word _ | .number _ => True
  | .privateName _ | .computed _ => False

/-- Whether a text is a minus sign and a number with a value, with blanks and comments between
them. -/
def IsNegatedNumber (text : List Char) : Prop :=
  ∃ (gap : List Char) (token : NumberToken), text = '-' :: (gap ++ token.chars) ∧
    skipTrivia (gap ++ token.chars) = token.chars ∧ IsPlainNumber token.chars

/-- Whether a text is a minus sign and, but for blanks at its ends and underscores, a numeral, which
may have a sign of its own and may be a word. -/
def IsNegatedNumeral (text : List Char) : Prop :=
  ∃ rest, text = '-' :: rest ∧ Numeral.IsNumeral (Numeral.withoutSeparators (trim rest))

/-- Plain data. -/
def Latitude.plain : Latitude := ⟨False, Key.IsPlain, IsNegatedNumber⟩

/-- What is data in a script. -/
def Latitude.accepted : Latitude := ⟨True, fun _ => True, IsNegatedNumeral⟩

/-! ## Induction on expressions -/

/-- Whether a property goes from the parts of an expression to the whole. -/
structure Inherited (P : Expr → Prop) : Prop where
  /-- It holds of `null`. -/
  null : P .null
  /-- It holds of truth values. -/
  bool : ∀ b, P (.bool b)
  /-- It holds of numbers. -/
  number : ∀ place token, P (.number place token)
  /-- It holds of strings. -/
  string : ∀ parts, P (.string parts)
  /-- It goes from the items to an array. -/
  array : ∀ elements, (∀ value, .item value ∈ elements → P value) → P (.array elements)
  /-- It goes from the values to an object. -/
  object : ∀ entries, (∀ key value, .pair key value ∈ entries → P value) → P (.object entries)
  /-- It holds in parentheses too. -/
  paren : ∀ inner, P inner → P (.paren inner)
  /-- It holds of prefix operators with their operands. -/
  unary : ∀ place text, P (.unary place text)
  /-- It holds of all else. -/
  other : ∀ place construct, P (.other place construct)

mutual

/-- Such a property holds of every expression. -/
theorem Inherited.expr {P : Expr → Prop} (h : Inherited P) : (e : Expr) → P e
  | .null => h.null
  | .bool b => h.bool b
  | .number place token => h.number place token
  | .string parts => h.string parts
  | .array elements => h.array elements (h.items elements)
  | .object entries => h.object entries (h.values entries)
  | .paren inner => h.paren inner (h.expr inner)
  | .unary place text => h.unary place text
  | .other place construct => h.other place construct

/-- It holds of every item of an array. -/
theorem Inherited.items {P : Expr → Prop} (h : Inherited P) :
    (elements : List Element) → ∀ value, .item value ∈ elements → P value
  | .hole :: rest, value, hmem => h.items rest value (by simpa using hmem)
  | .item first :: rest, value, hmem => by
      -- Stated before the split, where `first` is still a part of the list.
      have hfirst : P first := h.expr first
      rcases List.mem_cons.1 hmem with heq | hrest
      · cases heq
        exact hfirst
      · exact h.items rest value hrest

/-- It holds of every value of an object. -/
theorem Inherited.values {P : Expr → Prop} (h : Inherited P) :
    (entries : List Entry) → ∀ key value, .pair key value ∈ entries → P value
  | .other _ _ :: rest, key, value, hmem => h.values rest key value (by simpa using hmem)
  | .pair _ first :: rest, key, value, hmem => by
      have hfirst : P first := h.expr first
      rcases List.mem_cons.1 hmem with heq | hrest
      · cases heq
        exact hfirst
      · exact h.values rest key value hrest

end

/-! ## What data is made of -/

/-- Entries that are keys with values are so many fields. -/
theorem exists_fields {entries : List Entry} {p : Key → Expr → Prop}
    (h : ∀ entry ∈ entries, ∃ key value, entry = .pair key value ∧ p key value) :
    ∃ fields : List (Key × Expr), entries = fields.map (fun field => .pair field.1 field.2) ∧
      ∀ field ∈ fields, p field.1 field.2 := by
  induction entries with
  | nil => exact ⟨[], rfl, List.forall_mem_nil _⟩
  | cons entry rest ih =>
      obtain ⟨⟨key, value, rfl, hp⟩, hrest⟩ := List.forall_mem_cons.1 h
      obtain ⟨fields, rfl, hfields⟩ := ih hrest
      exact ⟨(key, value) :: fields, rfl, List.forall_mem_cons.2 ⟨hp, hfields⟩⟩

section

variable {l : Latitude}

/-- A number is data if it is plain. -/
theorem isData_number_iff {place : Place} {token : NumberToken} :
    IsData l (.number place token) ↔ IsPlainNumber token.chars := by
  refine ⟨fun h => ?_, .number place⟩
  cases h with
  | number _ hplain => exact hplain

/-- An array is data if its items are, and if it may have the holes that it has. -/
theorem isData_array_iff {elements : List Element} : IsData l (.array elements) ↔
    (.hole ∈ elements → l.holes) ∧ ∀ value, .item value ∈ elements → IsData l value := by
  refine ⟨fun h => ?_, fun h => .array h.1 h.2⟩
  cases h with
  | array hholes h => exact ⟨hholes, h⟩

/-- An object is data if it holds keys with data and nothing else. -/
theorem isData_object_iff {entries : List Entry} : IsData l (.object entries) ↔
    ∀ entry ∈ entries, ∃ key value, entry = .pair key value ∧ l.key key ∧ IsData l value := by
  constructor
  · intro h
    cases h with
    | object hkeys h =>
        intro entry hentry
        obtain ⟨field, hfield, rfl⟩ := List.mem_map.1 hentry
        exact ⟨field.1, field.2, rfl, hkeys field hfield, h field hfield⟩
  · intro h
    obtain ⟨fields, rfl, hfields⟩ := exists_fields h
    exact .object (fun field hmem => (hfields field hmem).1) fun field hmem => (hfields field hmem).2

/-- Parentheses make no difference. -/
theorem isData_paren_iff {inner : Expr} : IsData l (.paren inner) ↔ IsData l inner := by
  refine ⟨fun h => ?_, .paren⟩
  cases h with
  | paren h => exact h

/-- A sign with its operand is data if its text is. -/
theorem isData_unary_iff {place : Place} {text : List Char} :
    IsData l (.unary place text) ↔ l.signed text := by
  refine ⟨fun h => ?_, .signed place⟩
  cases h with
  | signed _ h => exact h

/-- Nothing else is data. -/
theorem not_isData_other {place : Place} {construct : Construct} :
    ¬IsData l (.other place construct) := nofun

end

/-! ## Reading data -/

/-- A result is one exactly if it is no error. -/
theorem isOk_iff_exists {ε α : Type} {r : Except ε α} : r.isOk = true ↔ ∃ a, r = .ok a := by
  cases r with
  | ok a => exact ⟨fun _ => ⟨a, rfl⟩, fun _ => rfl⟩
  | error e => exact ⟨(fun h => nomatch h), (fun ⟨_, h⟩ => nomatch h)⟩

/-- Elements have values exactly if each item has one. -/
theorem isOk_literals?_iff {elements : List Element} :
    (literals? elements).isOk = true ↔
      ∀ value, .item value ∈ elements → value.literal?.isOk = true := by
  induction elements with
  | nil => simp [literals?, Except.isOk, Except.toBool]
  | cons element rest ih =>
      cases element with
      | hole => simpa [literals?] using ih
      | item first =>
          have hcons : (literals? (.item first :: rest)).isOk
              = (first.literal?.isOk && (literals? rest).isOk) := by
            rw [literals?]
            cases first.literal? with
            | error e => rfl
            | ok literal => cases literals? rest <;> rfl
          rw [hcons, Bool.and_eq_true, ih]
          simp

/-- Entries have values exactly if each of them is a key with a value. -/
theorem isOk_fields?_iff {entries : List Entry} :
    (fields? entries).isOk = true ↔ ∀ entry ∈ entries, ∃ key value,
      entry = .pair key value ∧ value.literal?.isOk = true := by
  induction entries with
  | nil => simp [fields?, Except.isOk, Except.toBool]
  | cons entry rest ih =>
      have hcons : (fields? (entry :: rest)).isOk = (entry.field?.isOk && (fields? rest).isOk) := by
        rw [fields?]
        cases entry.field? with
        | error e => rfl
        | ok field => cases fields? rest <;> rfl
      have hentry : entry.field?.isOk = true ↔ ∃ key value,
          entry = .pair key value ∧ value.literal?.isOk = true := by
        cases entry with
        | other place construct =>
            refine ⟨(fun h => nomatch h), ?_⟩
            rintro ⟨key, value, heq, -⟩
            cases heq
        | pair key value =>
            have hpair : (Entry.pair key value).field?.isOk = value.literal?.isOk := by
              rw [Entry.field?]
              cases value.literal? <;> rfl
            rw [hpair]
            constructor
            · exact fun h => ⟨key, value, rfl, h⟩
            · rintro ⟨_, _, heq, h⟩
              cases heq
              exact h
      rw [hcons, Bool.and_eq_true, hentry, ih, List.forall_mem_cons]

/-- A sign with its operand has a value exactly if a numeral stands behind a minus sign. -/
theorem isSome_negated?_iff {text : List Char} :
    (negated? text).isSome = true ↔ IsNegatedNumeral text := by
  rw [negated?.eq_def]
  split
  next rest =>
    rw [Option.isSome_map, Numeral.isSome_value?_iff]
    constructor
    · exact fun h => ⟨rest, rfl, h⟩
    · rintro ⟨_, heq, h⟩
      cases heq
      exact h
  next hne =>
    refine ⟨(fun h => nomatch h), ?_⟩
    rintro ⟨rest, rfl, -⟩
    exact absurd rfl (hne rest)

/-- **An expression has a value exactly if it is data.** -/
theorem isOk_literal?_iff (e : Expr) : e.literal?.isOk = true ↔ IsData .accepted e := by
  have hinherited : Inherited fun e => e.literal?.isOk = true ↔ IsData .accepted e := {
    null := ⟨fun _ => .null, fun _ => rfl⟩
    bool := fun b => ⟨fun _ => .bool b, fun _ => rfl⟩
    number := fun place token => by
      have hvalue : (Expr.number place token).literal?.isOk
          = (Numeral.value? token.chars).isSome := by
        rw [Expr.literal?]
        cases Numeral.value? token.chars <;> rfl
      rw [hvalue, token.isSome_value?_iff, isData_number_iff]
    string := fun parts => ⟨fun _ => .string parts, fun _ => rfl⟩
    array := fun elements ih => by
      have hitems : (Expr.array elements).literal?.isOk = (literals? elements).isOk := by
        rw [Expr.literal?]
        cases literals? elements <;> rfl
      rw [hitems, isOk_literals?_iff, isData_array_iff]
      constructor
      · exact fun h => ⟨fun _ => trivial, fun value hmem => (ih value hmem).1 (h value hmem)⟩
      · exact fun h value hmem => (ih value hmem).2 (h.2 value hmem)
    object := fun entries ih => by
      have hfields : (Expr.object entries).literal?.isOk = (fields? entries).isOk := by
        rw [Expr.literal?]
        cases fields? entries <;> rfl
      rw [hfields, isOk_fields?_iff, isData_object_iff]
      constructor
      · intro h entry hmem
        obtain ⟨key, value, rfl, hvalue⟩ := h entry hmem
        exact ⟨key, value, rfl, trivial, (ih key value hmem).1 hvalue⟩
      · intro h entry hmem
        obtain ⟨key, value, rfl, -, hvalue⟩ := h entry hmem
        exact ⟨key, value, rfl, (ih key value hmem).2 hvalue⟩
    paren := fun inner ih => by
      rw [isData_paren_iff, ← ih, Expr.literal?]
    unary := fun place text => by
      have hsigned : (Expr.unary place text).literal?.isOk = (negated? text).isSome := by
        rw [Expr.literal?]
        cases negated? text <;> rfl
      rw [hsigned, isSome_negated?_iff, isData_unary_iff]
      exact Iff.rfl
    other := fun place construct => ⟨(fun h => nomatch h), fun h => absurd h not_isData_other⟩ }
  exact hinherited.expr e

/-! ## Signs -/

/-- What is blank goes from in front of a text that holds no blank, and nothing else does. -/
theorem trim_append {gap s : List Char} (hgap : ∀ c ∈ gap, isWhiteSpace c = true)
    (hs : ∀ c ∈ s, isWhiteSpace c = false) : trim (gap ++ s) = s := by
  have hkeep {t : List Char} (ht : ∀ c ∈ t, isWhiteSpace c = false) :
      t.dropWhile isWhiteSpace = t := by
    cases t with
    | nil => rfl
    | cons c rest =>
        have hc : ¬isWhiteSpace c = true := by
          rw [ht c List.mem_cons_self]
          exact Bool.false_ne_true
        exact List.dropWhile_cons_of_neg hc
  rw [trim, trimBoth, List.dropWhile_append_of_pos hgap, hkeep hs,
    hkeep fun c hc => hs c (List.mem_reverse.1 hc), List.reverse_reverse]

/-- Whether a text is a minus sign and a number with nothing but blanks between them. -/
def IsSignedNumber (text : List Char) : Prop :=
  ∃ (gap : List Char) (token : NumberToken), text = '-' :: (gap ++ token.chars) ∧
    ∀ c ∈ gap, isScriptBlank c = true ∧ isWhiteSpace c = true

/-- A number begins where a token does. -/
theorem NumberToken.exists_beginsToken (token : NumberToken) :
    ∃ c rest, token.chars = c :: rest ∧ beginsToken c = true := by
  obtain ⟨text, s, after, hnumber⟩ := token
  obtain ⟨c, rest, rfl, hc⟩ := (numberForm_of_number? hnumber).head
  refine ⟨c, rest, rfl, ?_⟩
  rcases hc with hdigit | rfl
  · have hword := continuesWord_of_isDecimal hdigit
    refine beginsToken_iff.2 ⟨isScriptBlank_of_continuesWord hword, ?_, ?_, ?_⟩
    all_goals
      rintro rfl
      exact absurd hword (by decide)
  · decide

/-- **Behind a minus sign and blanks, a number is a numeral exactly if it is plain.** -/
theorem IsSignedNumber.isNegatedNumeral_iff {text : List Char} (h : IsSignedNumber text) :
    IsNegatedNumeral text ↔ IsNegatedNumber text := by
  obtain ⟨gap, token, rfl, hgap⟩ := h
  have hchars : ∀ c ∈ token.chars, isWhiteSpace c = false := by
    obtain ⟨s, after, hnumber⟩ := token.isNumber
    exact (numberForm_of_number? hnumber).isWhiteSpace_of_mem
  have htrim : trim (gap ++ token.chars) = token.chars :=
    trim_append (fun c hc => (hgap c hc).2) hchars
  have hskip : skipTrivia (gap ++ token.chars) = token.chars := by
    obtain ⟨c, rest, heq, hc⟩ := token.exists_beginsToken
    rw [heq]
    exact skipTrivia_append_token (fun c hc => (hgap c hc).1) rest hc
  have hplain := Numeral.isSome_value?_iff.symm.trans token.isSome_value?_iff
  -- Dropping blanks and skipping trivia come to the same text here, so both senses speak of it.
  constructor
  · rintro ⟨rest, heq, hnumeral⟩
    rw [← (List.cons.inj heq).2, htrim, hplain] at hnumeral
    exact ⟨gap, token, rfl, hskip, hnumeral⟩
  · rintro ⟨gap', token', heq, hskip', hnumber⟩
    rw [← (List.cons.inj heq).2, hskip] at hskip'
    refine ⟨gap ++ token.chars, rfl, ?_⟩
    rw [htrim, hplain, hskip']
    exact hnumber

/-! ## Parts of expressions -/

/-- Whether an expression is a part of another, or all of it. -/
inductive Expr.Within : Expr → Expr → Prop where
  /-- All of it. -/
  | self (e : Expr) : Within e e
  /-- A part of an item. -/
  | item {part value : Expr} {elements : List Element} (hmem : .item value ∈ elements)
      (h : Within part value) : Within part (.array elements)
  /-- A part of a value. -/
  | value {part value : Expr} {key : Key} {entries : List Entry}
      (hmem : .pair key value ∈ entries) (h : Within part value) : Within part (.object entries)
  /-- A part of what is in parentheses. -/
  | paren {part inner : Expr} (h : Within part inner) : Within part (.paren inner)

/-- **Every part of data is data.** -/
theorem IsData.of_within {l : Latitude} {part e : Expr} (h : part.Within e) (he : IsData l e) :
    IsData l part := by
  induction h with
  | self => exact he
  | item hmem _ ih => exact ih ((isData_array_iff.1 he).2 _ hmem)
  | value hmem _ ih =>
      obtain ⟨_, _, heq, -, hvalue⟩ := isData_object_iff.1 he _ hmem
      cases heq
      exact ih hvalue
  | paren _ ih => exact ih (isData_paren_iff.1 he)

/-- Whether something that is no literal stands among the parts of an expression. -/
def Expr.HoldsConstruct (e : Expr) : Prop :=
  (∃ place construct, (Expr.other place construct).Within e) ∨
    ∃ entries place construct, (Expr.object entries).Within e ∧ .other place construct ∈ entries

/-- What holds such a thing is no data. -/
theorem Expr.HoldsConstruct.not_isData {l : Latitude} {e : Expr} (h : e.HoldsConstruct) :
    ¬IsData l e := by
  intro he
  rcases h with ⟨place, construct, hwithin⟩ | ⟨entries, place, construct, hwithin, hmem⟩
  · exact not_isData_other (he.of_within hwithin)
  · obtain ⟨_, _, heq, -⟩ := isData_object_iff.1 (he.of_within hwithin) _ hmem
    cases heq

/-- Whether the two senses of data have nothing to differ in. -/
structure Expr.IsTidy (e : Expr) : Prop where
  /-- Arrays have no holes. -/
  noHoles : ∀ elements, (Expr.array elements).Within e → .hole ∉ elements
  /-- Keys are strings, names or numbers. -/
  plainKeys : ∀ entries, (Expr.object entries).Within e →
    ∀ key value, .pair key value ∈ entries → key.IsPlain
  /-- Minus signs stand in front of numbers. -/
  signedNumbers : ∀ place text, (Expr.unary place text).Within e → text.head? = some '-' →
    IsSignedNumber text

/-- Parts of what is tidy are tidy. -/
theorem Expr.IsTidy.of_forall {part e : Expr} (he : e.IsTidy)
    (h : ∀ inside : Expr, inside.Within part → inside.Within e) : part.IsTidy :=
  ⟨fun elements hwithin => he.noHoles elements (h _ hwithin),
    fun entries hwithin => he.plainKeys entries (h _ hwithin),
    fun place text hwithin => he.signedNumbers place text (h _ hwithin)⟩

/-- **In tidy expressions the two senses of data agree.** -/
theorem Expr.IsTidy.isData_iff {e : Expr} (he : e.IsTidy) :
    IsData .accepted e ↔ IsData .plain e := by
  have hinherited : Inherited fun e => e.IsTidy → (IsData .accepted e ↔ IsData .plain e) := {
    null := fun _ => ⟨fun _ => .null, fun _ => .null⟩
    bool := fun b _ => ⟨fun _ => .bool b, fun _ => .bool b⟩
    number := fun place token _ => isData_number_iff.trans isData_number_iff.symm
    string := fun parts _ => ⟨fun _ => .string parts, fun _ => .string parts⟩
    array := fun elements ih he => by
      have hnone : .hole ∉ elements := he.noHoles elements (.self _)
      have hitem (value : Expr) (hmem : .item value ∈ elements) :
          IsData .accepted value ↔ IsData .plain value :=
        ih value hmem (he.of_forall fun _ hwithin => .item hmem hwithin)
      rw [isData_array_iff, isData_array_iff]
      constructor
      · exact fun h => ⟨fun hhole => absurd hhole hnone,
          fun value hmem => (hitem value hmem).1 (h.2 value hmem)⟩
      · exact fun h => ⟨fun hhole => absurd hhole hnone,
          fun value hmem => (hitem value hmem).2 (h.2 value hmem)⟩
    object := fun entries ih he => by
      have hvalue (key : Key) (value : Expr) (hmem : .pair key value ∈ entries) :
          IsData .accepted value ↔ IsData .plain value :=
        ih key value hmem (he.of_forall fun _ hwithin => .value hmem hwithin)
      rw [isData_object_iff, isData_object_iff]
      constructor
      · intro h entry hmem
        obtain ⟨key, value, rfl, -, hdata⟩ := h entry hmem
        exact ⟨key, value, rfl, he.plainKeys entries (.self _) key value hmem,
          (hvalue key value hmem).1 hdata⟩
      · intro h entry hmem
        obtain ⟨key, value, rfl, -, hdata⟩ := h entry hmem
        exact ⟨key, value, rfl, trivial, (hvalue key value hmem).2 hdata⟩
    paren := fun inner ih he => by
      rw [isData_paren_iff, isData_paren_iff]
      exact ih (he.of_forall fun _ hwithin => .paren hwithin)
    unary := fun place text he => by
      rw [isData_unary_iff, isData_unary_iff]
      -- Without a minus sign in front it is data in neither sense.
      constructor
      · rintro ⟨rest, rfl, hnumeral⟩
        exact (he.signedNumbers place _ (.self _) rfl).isNegatedNumeral_iff.1 ⟨rest, rfl, hnumeral⟩
      · rintro ⟨gap, token, rfl, hrest⟩
        exact (he.signedNumbers place _ (.self _) rfl).isNegatedNumeral_iff.2
          ⟨gap, token, rfl, hrest⟩
    other := fun place construct _ =>
      ⟨fun h => absurd h not_isData_other, fun h => absurd h not_isData_other⟩ }
  exact hinherited.expr e he

/-! ## Scripts of data -/

/-- Declarations bind something exactly if all of them are worth a literal. -/
theorem isOk_bindings?_iff {declarators : List Declarator} :
    (bindings? declarators).isOk = true ↔ ∀ d ∈ declarators, d.value.literal?.isOk = true := by
  induction declarators with
  | nil => simp [bindings?, Except.isOk, Except.toBool]
  | cons d rest ih =>
      have hcons : (bindings? (d :: rest)).isOk = (d.value.literal?.isOk && (bindings? rest).isOk) := by
        rw [bindings?]
        cases d.value.literal? with
        | error e => rfl
        | ok literal => cases bindings? rest <;> rfl
      rw [hcons, Bool.and_eq_true, ih, List.forall_mem_cons]

/-- **A text that is a script is read exactly if its initialisers are data**, and refused for an
initialiser if not. Initialisers with a part that is no literal are not data. Where there are no
holes, no odd keys and no signs but in front of numbers, data is plain data. -/
theorem parse_verdict {source : String} {declarators : List Declarator}
    (h : declarators? source.toList = some declarators) :
    ((∃ script, Script.parse source = .ok script) ↔
        ∀ d ∈ declarators, IsData .accepted d.value) ∧
      ((∃ script, Script.parse source = .ok script) ∨ ∃ what line column,
        Script.parse source = .error (.unsupported what line column)) ∧
      (∀ d ∈ declarators, d.value.HoldsConstruct → ∃ what line column,
        Script.parse source = .error (.unsupported what line column)) ∧
      ((∀ d ∈ declarators, d.value.IsTidy) → ((∃ script, Script.parse source = .ok script) ↔
        ∀ d ∈ declarators, IsData .plain d.value)) := by
  have hread : (∃ script, Script.parse source = .ok script) ↔
      ∀ d ∈ declarators, IsData .accepted d.value := by
    have hparse : (Script.parse source).isOk = (bindings? declarators).isOk := by
      rw [Script.parse]
      simp only [h]
      cases bindings? declarators <;> rfl
    rw [← isOk_iff_exists, hparse, isOk_bindings?_iff]
    exact forall₂_congr fun d _ => isOk_literal?_iff d.value
  have hrefused : (∃ script, Script.parse source = .ok script) ∨ ∃ what line column,
      Script.parse source = .error (.unsupported what line column) := by
    rw [Script.parse]
    simp only [h]
    cases bindings? declarators with
    | ok bindings => exact Or.inl ⟨⟨bindings⟩, rfl⟩
    | error e => exact Or.inr ⟨e.what, _, _, rfl⟩
  -- The rest follows from the first part: no initialiser with a construct is data, and tidy ones are
  -- data in one sense if in the other.
  refine ⟨hread, hrefused, fun d hd hholds => ?_, fun htidy => ?_⟩
  · exact hrefused.resolve_left fun hok => hholds.not_isData (hread.1 hok d hd)
  · rw [hread]
    exact forall₂_congr fun d hd => (htidy d hd).isData_iff

/-- A script of plain data in brackets, braces and parentheses, and behind a sign. -/
def plainScript : String := "var A = [0x1f, \x7bk: - 2.5\x7d], B = (undefined);"

/-- A script that calls something inside of an array. -/
def callingScript : String := "var A = [f()];"

/-- Whether an expression is an array with a construct in it. -/
def Expr.callsInArray : Expr → Bool
  | .array [.item (.other _ _)] => true
  | _ => false

/-- The script of plain data is read, the one with a call is refused. -/
theorem parse_verdict_plainScript : ∃ plain calling,
    (declarators? plainScript.toList = some plain ∧
        declarators? callingScript.toList = some calling) ∧
      (∀ d ∈ plain, IsData .accepted d.value) ∧ (∃ d ∈ calling, d.value.HoldsConstruct) ∧
        ∃ what line column, Script.parse callingScript = .error (.unsupported what line column) := by
  have hcall : (declarators? callingScript.toList).any (·.any (·.value.callsInArray)) = true := by
    decide +kernel
  have hscript : (Script.parse plainScript).isOk = true := by decide +kernel
  obtain ⟨plain, hplain⟩ := Option.isSome_iff_exists.1
    (by decide +kernel : (declarators? plainScript.toList).isSome = true)
  obtain ⟨calling, hcalling, hany⟩ := (Option.any_eq_true _ _).1 hcall
  obtain ⟨d, hd, hvalue⟩ := List.any_eq_true.1 hany
  have hholds : d.value.HoldsConstruct := by
    rw [Expr.callsInArray.eq_def] at hvalue
    split at hvalue
    next place construct heq =>
      exact Or.inl ⟨place, construct, heq ▸ .item List.mem_cons_self (.self _)⟩
    next => cases hvalue
  exact ⟨plain, calling, ⟨hplain, hcalling⟩, (parse_verdict hplain).1.1 (isOk_iff_exists.1 hscript),
    ⟨d, hd, hholds⟩, (parse_verdict hcalling).2.2.1 d hd hholds⟩

/-- A script whose object computes its key by a call. -/
def computingScript : String := "var A = \x7b[f()]: 1\x7d;"

/-- A script with a comment between a sign and its number. -/
def commentedScript : String := "var A = -/*c*/1;"

/-- Whether an expression is an object with a computed key. -/
def Expr.computesKey : Expr → Bool
  | .object [.pair (.computed _) _] => true
  | _ => false

/-- Whether an expression is a number with a comment behind its sign. -/
def Expr.commentsSign : Expr → Bool
  | .unary _ text => text == '-' :: ("/*c*/".toList ++ ['1'])
  | _ => false

/-- **A script may hold more than plain data, and not all plain data.** A key may be computed, though
that is not plain, and a comment behind a sign is refused, though it is. -/
theorem read_scripts_not_plain :
    (∃ declarators, declarators? computingScript.toList = some declarators ∧
        (∃ script, Script.parse computingScript = .ok script) ∧
          ¬∀ d ∈ declarators, IsData .plain d.value) ∧
      ∃ declarators, declarators? commentedScript.toList = some declarators ∧
        (¬∃ script, Script.parse commentedScript = .ok script) ∧
          ∀ d ∈ declarators, IsData .plain d.value := by
  have hcomputing : (declarators? computingScript.toList).any (·.any (·.value.computesKey))
      = true := by
    decide +kernel
  have hcommented : (declarators? commentedScript.toList).any (·.all (·.value.commentsSign))
      = true := by
    decide +kernel
  have hread : (Script.parse computingScript).isOk = true := by decide +kernel
  have hrefused : (Script.parse commentedScript).isOk = false := by decide +kernel
  constructor
  · obtain ⟨declarators, hdeclarators, hany⟩ := (Option.any_eq_true _ _).1 hcomputing
    obtain ⟨d, hd, hvalue⟩ := List.any_eq_true.1 hany
    refine ⟨declarators, hdeclarators, isOk_iff_exists.1 hread, fun hplain => ?_⟩
    have hdata := hplain d hd
    rw [Expr.computesKey.eq_def] at hvalue
    split at hvalue
    next text value heq =>
      rw [heq, isData_object_iff] at hdata
      obtain ⟨_, _, hpair, hkey, -⟩ := hdata _ List.mem_cons_self
      cases hpair
      exact hkey
    next => cases hvalue
  · obtain ⟨declarators, hdeclarators, hall⟩ := (Option.any_eq_true _ _).1 hcommented
    refine ⟨declarators, hdeclarators, fun hok => ?_, fun d hd => ?_⟩
    · rw [isOk_iff_exists.2 hok] at hrefused
      cases hrefused
    · have hvalue := List.all_eq_true.1 hall d hd
      rw [Expr.commentsSign.eq_def] at hvalue
      split at hvalue
      next place text heq =>
        have hnumber : number? ['1'] = some (['1'], []) := by decide
        have hskip : skipTrivia ("/*c*/".toList ++ ['1']) = ['1'] := by decide +kernel
        have hsome : (Numeral.value? ['1']).isSome = true := by decide
        let one : NumberToken := ⟨['1'], ['1'], [], hnumber⟩
        rw [heq, eq_of_beq hvalue]
        exact .signed place ⟨"/*c*/".toList, one, rfl, hskip, one.isSome_value?_iff.1 hsome⟩
      next => cases hvalue

end DocSite.Script

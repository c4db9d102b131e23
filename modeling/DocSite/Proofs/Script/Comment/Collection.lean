import DocSite.Proofs.Script.Comment.Phrase
import DocSite.Script.Grammar.Object

/-! # Collections around a comment

The phrases that the grammar shares, rows of slots, and objects are read alike with and without a
comment, if the phrases one level down are (`Insertion.InnerAlike`). -/

namespace DocSite.Script

open DocSite.Script.Parser

namespace Insertion

variable {i : Insertion} {n : Nat} {g g' : Inner} {s s' : List Char}

/-- Whether the parsers one level down are alike on texts of fewer than `n` characters. An element
is read on such a level without a character in front of it, but its expressions stand behind two
signs. -/
structure InnerAlike (i : Insertion) (n : Nat) (g g' : Inner) : Prop where
  /-- Rows may be long enough. -/
  bound : n ≤ g.bound
  /-- In the other reading too. -/
  bound' : n ≤ g'.bound
  /-- Operands with operators are alike. -/
  operand : ∀ ctx level, i.Opens n Operand.Alike (g.operand ctx level) (g'.operand ctx level)
  /-- Operands without operators are alike. -/
  unary : ∀ ctx, i.Opens n Operand.Alike (g.unary ctx) (g'.unary ctx)
  /-- Statements are alike. -/
  statement : i.Opens n Eq g.statement g'.statement
  /-- Elements are alike. They stand behind the comment. -/
  markup : Alike i.Same i.Past (n + 1) 1 Eq g.markup g'.markup

namespace InnerAlike

variable (h : i.InnerAlike n g g')

include h

/-! ## Shared phrases -/

/-- Rows of phrases are alike. -/
theorem many {α : Type} {E : α → α → Prop} {p p' : Parser α} {m : Nat} (hp : i.Opens m E p p')
    (hm : m ≤ n + 1) :
    i.Keeps m (List.Forall₂ E) (Parser.many g.bound p) (Parser.many g'.bound p') :=
  hp.row.many (hm.trans (Nat.succ_le_succ h.bound)) (hm.trans (Nat.succ_le_succ h.bound'))

/-- Expressions are alike. -/
theorem expression (ctx : Context) :
    i.Opens n Expr.Alike (g.expression ctx) (g'.expression ctx) :=
  (h.operand ctx 0).followed fun _ _ ho => Alike.guard_bind ho.isValue fun _ => .pure ho.expr

/-- Further expressions are alike. -/
theorem sequenceFrom (ctx : Context) (start start' : Place) {first first' : Expr}
    (hfirst : first.Alike first') : i.Keeps n Expr.Alike (g.sequenceFrom ctx start first)
      (g'.sequenceFrom ctx start' first') := by
  have hitem : i.Opens n Expr.Alike (do symbol [',']; g.expression ctx)
      (do symbol [',']; g'.expression ctx) :=
    (opens_symbol (by decide)).followed fun _ _ _ => (h.expression ctx).keeps
  refine (h.many hitem (Nat.le_succ n)).bind fun more more' hmore => .pure ?_
  cases hmore with
  | nil => exact hfirst
  | cons => exact .other ..

/-- Sequences of expressions are alike. -/
theorem expressions (ctx : Context) :
    i.Opens n Expr.Alike (g.expressions ctx) (g'.expressions ctx) :=
  trivia_rest_bind fun _ _ hs _ => ((h.expression ctx).at hs).followed fun _ _ hfirst =>
    h.sequenceFrom ctx _ _ hfirst

/-- Expressions in parentheses are alike. -/
theorem parenthesized : i.Opens (n + 1) Eq g.parenthesized g'.parenthesized :=
  (opens_symbol (by decide)).andThen fun _ _ _ => (h.expressions _).keeps.bind fun _ _ _ =>
    (opens_symbol (by decide)).keeps

/-- Blocks are alike. -/
theorem block : i.Opens (n + 1) Eq g.block g'.block :=
  (opens_symbol (by decide)).andThen fun _ _ _ => (h.many h.statement (Nat.le_succ n)).bind
    fun _ _ _ => (opens_symbol (by decide)).behind_trivia.keeps

/-! ## Slots -/

/-- Slots that are not empty are alike. -/
theorem filledSlot (hs : i.Begins s s') :
    Alike (At s s') i.Follows n 1 Slot.Alike g.filledSlot g'.filledSlot := by
  refine Alike.rest_bind fun t t' ht hlen => ?_
  obtain ⟨rfl, rfl⟩ := ht
  obtain ⟨u, u', rfl, rfl, hu⟩ | ⟨hne, hne'⟩ := hs.sign ['.', '.', '.'] (by decide)
  · exact (goTo_at hu (length_lt_append ..)).followed fun _ _ _ => (h.operand _ 0).keeps.bind
      fun _ _ ho => .pure (.spread _ _ ho)
  · have hitem : Alike (At t t') i.Follows n 1 Slot.Alike
        (do return .item t (← g.operand .closed 0)) (do return .item t' (← g'.operand .closed 0)) :=
      ((h.operand _ 0).at hs).followed fun _ _ ho => .pure (.item _ _ ho)
    split
    next after => exact absurd rfl (hne after)
    next =>
      split
      next after => exact absurd rfl (hne' after)
      next => exact hitem

/-- Rows of slots are alike. -/
theorem slotsUpTo {close : Char} (hclose : isSymbol [close] = true) {k k' m : Nat} (hm : m ≤ n)
    (hk : m ≤ k) (hk' : m ≤ k') : i.Opens m (List.Forall₂ Slot.Alike)
      (g.slotsUpTo close k) (g'.slotsUpTo close k') := by
  have hquote : close ≠ '"' ∧ close ≠ '\'' := by
    simp only [isSymbol, Bool.and_eq_true, bne_iff_ne] at hclose
    exact hclose.1.1
  refine Alike.bounded (p := g.slotsUpTo close) (q := g'.slotsUpTo close)
    (fun m k l hm ih => ?_) hm hk hk'
  have hmore : i.Keeps m (List.Forall₂ Slot.Alike) (g.slotsUpTo close k) (g'.slotsUpTo close l) :=
    Opens.keeps ih
  refine blank_rest_bind fun s s' hs _ => ?_
  obtain ⟨hr, hr'⟩ | ⟨r, r', hr, hr', hfollows, hlen, -⟩ := eq_of_rel hs.markupComment?_alike
  · rw [hr, hr']
    obtain ⟨rfl, rfl⟩ | ⟨c, t, t', rfl, rfl, htail⟩ := hs.exists_cons
    · exact Alike.failure
    · have hgoTo (hquote : c ≠ '"' ∧ c ≠ '\'') :
          Alike (At (c :: t) (c :: t')) i.Follows (m + 1) 1 Eq (goTo t) (goTo t') :=
        goTo_at (htail hquote.1 hquote.2).1 (Nat.lt_succ_self _)
      dsimp only
      split
      next hc =>
        subst hc
        exact (hgoTo hquote).followed fun _ _ _ => .pure (.cons .hole .nil)
      next =>
        split
        next hc =>
          subst hc
          exact (hgoTo (by decide)).andThen fun _ _ _ => hmore.bind fun _ _ hrest =>
            .pure (.cons .hole hrest)
        next =>
          refine ((h.filledSlot hs).less hm).andThen fun _ _ hslot => ?_
          exact .accept_bind (opens_symbol (by decide)).keeps
            (hmore.bind fun _ _ hrest => .pure (.cons hslot hrest))
            ((opens_symbol hclose).keeps.bind fun _ _ _ => .pure (.cons hslot .nil))
  · rw [hr, hr']
    exact (goTo_at hfollows hlen).andThen fun _ _ _ => hmore.bind fun _ _ hrest =>
      .pure (.cons (.remark _ _) hrest)

/-- The slots of a collection are alike. -/
theorem slots {close : Char} (hclose : isSymbol [close] = true) :
    i.Opens n (List.Forall₂ Slot.Alike) (g.slots close) (g'.slots close) :=
  h.slotsUpTo hclose le_rfl (h.bound.trans (Nat.le_succ _)) (h.bound'.trans (Nat.le_succ _))

/-- Arrays are alike. -/
theorem arrayBody : i.Opens n Operand.Alike g.arrayBody g'.arrayBody :=
  (h.slots (by decide)).followed fun _ _ hslots => .pure (arrayOperand_alike hslots)

/-- Arguments are alike. -/
theorem arguments : i.Opens n Eq g.arguments g'.arguments :=
  (h.slots (by decide)).followed fun _ _ hslots =>
    Alike.guard (all_eq_of_forall₂ (fun _ _ h => h.isValue) hslots)

/-- Parameters are alike. -/
theorem parameters : i.Opens (n + 1) Eq g.parameters g'.parameters :=
  (opens_symbol (by decide)).andThen fun _ _ _ => (h.slots (by decide)).keeps.bind
    fun _ _ hslots => Alike.guard (areParameters_eq hslots)

/-! ## Objects -/

/-- Keys that are no words are alike. -/
theorem specialKey : i.Opens (n + 1) Key.Alike g.specialKey g'.specialKey := by
  refine blank_rest_bind fun s s' hs hlen => ?_
  have hnumber : Alike (At s s') i.Follows (n + 1) 1 Key.Alike
      (do return .number (← immediate asNumber?)) (do return .number (← immediate asNumber?)) :=
    (immediate_alike fun _ _ ⟨ht, ht'⟩ => ht ▸ ht' ▸ hs.asNumber?_alike).followed
      fun _ _ htoken => .pure (.of_eq (congrArg Key.number htoken))
  have hquoted : Alike (At s s') i.Follows (n + 1) 1 Key.Alike
      (do return .quoted (← string)) (do return .quoted (← string)) :=
    (opens_string.at hs).followed fun _ _ hparts => .pure (.of_eq (congrArg Key.quoted hparts))
  obtain ⟨rfl, rfl⟩ | ⟨c, t, t', rfl, rfl, htail⟩ := hs.exists_cons
  · exact hnumber
  · by_cases hprivate : c = '#'
    · subst hprivate
      have hpast := hs.past_of_cons (by decide) (by decide)
      have hword : Alike i.Past i.Past n 0 Key.Alike (do return .privateName (← immediate word?))
          (do return .privateName (← immediate word?)) :=
        ((past_immediate fun _ _ _ => length_word?).followed fun _ _ hw =>
          .pure (.of_eq (congrArg Key.privateName hw))).atLeast (Nat.zero_le 1)
      exact follows_of_past ((goTo_past hpast (Nat.lt_succ_self _)).andThen fun _ _ _ => hword)
    by_cases hcomputed : c = '['
    · subst hcomputed
      refine Alike.rest_bind fun u u' hu _ => ?_
      obtain ⟨rfl, rfl⟩ := hu
      refine (goTo_at (htail (by decide) (by decide)).1 (Nat.lt_succ_self _)).andThen ?_
      exact fun _ _ _ => (h.expression _).keeps.bind fun _ _ _ =>
        (opens_symbol (by decide)).keeps.bind fun _ _ _ => Alike.rest_bind fun _ _ hr _ =>
          Keeps.at (.pure (.computed (hs.taken_alike hr))) hr
    by_cases hdouble : c = '"'
    · subst hdouble
      exact hquoted
    by_cases hsingle : c = '\''
    · subst hsingle
      exact hquoted
    split
    case h_5 =>
      split
      case h_5 => exact hnumber
      all_goals
        injections
        contradiction
    all_goals
      injections
      contradiction

/-- Keys are alike. -/
theorem key : i.Opens (n + 1) Key.Alike g.key g'.key :=
  (opens_word.followed fun _ _ hw => .pure (.of_eq (congrArg Key.word hw))).orElse h.specialKey

/-- Methods behind their names are alike. -/
theorem methodBody : i.Opens (n + 1) Eq g.methodBody g'.methodBody :=
  h.parameters.andThen fun _ _ _ => h.block.later

/-- Methods are alike, whatever modifiers are in front of their names. -/
theorem methodFrom (k : Nat) (first : List Char) :
    i.Keeps n Eq (g.methodFrom k first) (g'.methodFrom k first) := by
  induction k generalizing first with
  | zero => exact Alike.failure
  | succ k ih =>
      refine keeps_ahead_bind fun s s' hs _ => Alike.cond (by rw [hs.head?_eq]) ?_ ?_
      · exact before h.methodBody.later
      · refine before (Alike.guard_bind rfl fun _ => keeps_wordAhead.bind fun _ _ hw => ?_)
        refine Alike.cond (by rw [hw]) ?_ ?_
        · refine opens_word.keeps.bind fun w w' hw => ?_
          subst hw
          exact ih w
        · exact (opens_symbol (by decide)).row.accept.bind fun _ _ _ => h.key.later.bind
            fun _ _ _ => h.methodBody.later

/-- Decorators are alike, behind a token or in front of one. -/
theorem decorators {R : Correspondence} (hleads : ∀ s s', R s s' → i.Leads s s')
    (hfollows : ∀ s s', i.Follows s s' → R s s') :
    Alike R R (n + 1) 0 Eq g.decorators g'.decorators := by
  have harguments : i.Opens (n + 1) Eq (do symbol ['(']; g.arguments)
      (do symbol ['(']; g'.arguments) :=
    (opens_symbol (by decide)).andThen fun _ _ _ => h.arguments.keeps
  have hname : i.Opens n (List.Forall₂ Eq) (separated g.bound (symbol ['.']) word)
      (separated g'.bound (symbol ['.']) word) :=
    opens_word.separated (Opens.row ((opens_symbol (by decide)).followed fun _ _ _ =>
      opens_word.keeps)) (h.bound.trans (Nat.le_succ _)) (h.bound'.trans (Nat.le_succ _))
  have hdecorator : i.Opens (n + 1) Eq
      (do
        symbol ['@']
        let _ ← separated g.bound (symbol ['.']) word
        let _ ← accept (do symbol ['(']; g.arguments))
      (do
        symbol ['@']
        let _ ← separated g'.bound (symbol ['.']) word
        let _ ← accept (do symbol ['(']; g'.arguments)) :=
    (opens_symbol (by decide)).andThen fun _ _ _ => hname.keeps.bind fun _ _ _ =>
      (Opens.row (harguments.less (Nat.le_succ n))).accept.bind fun _ _ _ => .pure rfl
  refine (Alike.many (hdecorator.mono hleads hfollows le_rfl le_rfl) (Nat.succ_le_succ h.bound)
    (Nat.succ_le_succ h.bound')).bind fun _ _ _ => .pure rfl

/-- Values of entries are alike. -/
theorem pair {key key' : Key} (hkey : key.Alike key') :
    i.Opens n Field.Alike (Inner.field.pair g key) (Inner.field.pair g' key') :=
  (h.operand _ 0).followed fun _ _ ho =>
    .pure ⟨.pair hkey ho.expr, ho.isValue, congrArg Shape.isDefaultedTarget ho.shape⟩

/-- Entries of objects are alike. -/
theorem field (hs : i.Begins s s') :
    Alike (At s s') i.Follows n 1 Field.Alike g.field g'.field := by
  refine Alike.rest_bind fun t t' ht hlen => ?_
  obtain ⟨rfl, rfl⟩ := ht
  obtain ⟨u, u', rfl, rfl, hu⟩ | ⟨hspread, hspread'⟩ := hs.sign ['.', '.', '.'] (by decide)
  · refine (goTo_at hu (length_lt_append ..)).followed fun _ _ _ => (h.operand _ 0).keeps.bind ?_
    exact fun _ _ ho => .pure ⟨.other .., ho.isValue, congrArg Shape.isTarget ho.shape⟩
  obtain ⟨u, u', rfl, rfl, hu⟩ | ⟨hstar, hstar'⟩ := hs.sign ['*'] (by decide)
  · refine (goTo_at hu (length_lt_append ..)).followed fun _ _ _ => h.key.later.bind fun _ _ _ => ?_
    exact h.methodBody.later.bind fun _ _ _ => .pure (.other ..)
  obtain ⟨u, u', rfl, rfl, hu⟩ | ⟨hmark, hmark'⟩ := hs.sign ['@'] (by decide)
  · have hdecorators : Alike i.Leads i.Leads n 0 Eq g.decorators g'.decorators :=
      (h.decorators (fun _ _ h => h) fun _ _ => Follows.leads).less (Nat.le_succ n)
    refine (hdecorators.pre ?_).bind fun _ _ _ => ?_
    · exact fun _ _ ⟨ht, ht'⟩ => ht ▸ ht' ▸ hs.leads
    · have hmethod : i.Opens n Field.Alike
          (do let _ ← g.key; g.methodBody; return { entry := .other ('@' :: u) .method })
          (do let _ ← g'.key; g'.methodBody; return { entry := .other ('@' :: u') .method }) :=
        (h.key.less (Nat.le_succ n)).followed fun _ _ _ => h.methodBody.later.bind
          fun _ _ _ => .pure (.other ..)
      refine Alike.accept_followed (opens_symbol (by decide)) ?_ ?_
      · exact h.key.later.bind fun _ _ _ => h.methodBody.later.bind fun _ _ _ => .pure (.other ..)
      · refine (wordAhead_alike fun _ _ h => h).bind fun _ _ hw => .cond (by rw [hw]) ?_ hmethod
        refine opens_word.followed fun w w' hw => ?_
        subst hw
        exact (h.methodFrom 4 w).bind fun _ _ _ => .pure (.other ..)
  split
  case h_4 =>
    -- Or else the condition would be split, and not the other text.
    generalize hp : ite ((word? t).isSome = true) _ _ = p
    split
    case h_4 =>
      subst hp
      refine Alike.cond (by rw [hs.isSome_word?_eq]) ?_ ?_
      · refine (opens_word.at hs).followed fun w w' hw => ?_
        subst hw
        refine .accept_bind (opens_symbol (by decide)).keeps (h.pair (.of_eq rfl)).keeps ?_
        refine .accept_bind opens_equals.keeps ?_ ?_
        · exact (h.expression _).keeps.bind fun _ _ _ => .pure (.other ..)
        · refine keeps_ahead_bind fun u u' hu _ => before ?_
          rw [hu.head?_eq]
          split
          next => exact .pure (.other ..)
          next => exact .pure (.other ..)
          next => exact (h.methodFrom 4 w).bind fun _ _ _ => .pure (.other ..)
      · refine (Opens.at (h.specialKey.less (Nat.le_succ n)) hs).followed fun key key' hkey => ?_
        refine .accept_bind (opens_symbol (by decide)).keeps (h.pair hkey).keeps ?_
        exact h.methodBody.later.bind fun _ _ _ => .pure (.other ..)
    all_goals first
      | exact absurd rfl (hspread' _)
      | exact absurd rfl (hstar' _)
      | exact absurd rfl (hmark' _)
  all_goals first
    | exact absurd rfl (hspread _)
    | exact absurd rfl (hstar _)
    | exact absurd rfl (hmark _)

/-- Rows of entries are alike. -/
theorem fieldsUpTo {k k' m : Nat} (hm : m ≤ n) (hk : m ≤ k) (hk' : m ≤ k') :
    i.Opens m (List.Forall₂ Field.Alike) (g.fieldsUpTo k) (g'.fieldsUpTo k') := by
  refine Alike.bounded (p := g.fieldsUpTo) (q := g'.fieldsUpTo) (fun m k l hm ih => ?_) hm hk hk'
  have hmore : i.Keeps m (List.Forall₂ Field.Alike) (g.fieldsUpTo k) (g'.fieldsUpTo l) :=
    Opens.keeps ih
  refine blank_rest_bind fun s s' hs hlen => ?_
  obtain ⟨hr, hr'⟩ | ⟨r, r', hr, hr', hfollows, hlen, -⟩ := eq_of_rel hs.markupComment?_alike
  · rw [hr, hr']
    obtain ⟨u, u', rfl, rfl, hu⟩ | ⟨hclose, hclose'⟩ := hs.sign ['\x7d'] (by decide)
    · exact (goTo_at hu (length_lt_append ..)).followed fun _ _ _ => .pure .nil
    obtain ⟨u, u', rfl, rfl, hu⟩ | ⟨hcomma, hcomma'⟩ := hs.sign [','] (by decide)
    · exact (goTo_at hu (length_lt_append ..)).andThen fun _ _ _ => hmore
    dsimp only
    split
    case h_3 =>
      split
      case h_3 =>
        refine ((h.field hs).less hm).andThen fun _ _ hfield => ?_
        exact .accept_bind (opens_symbol (by decide)).keeps
          (hmore.bind fun _ _ hrest => .pure (.cons hfield hrest))
          ((opens_symbol (by decide)).keeps.bind fun _ _ _ => .pure (.cons hfield .nil))
      all_goals first
        | exact absurd rfl (hclose' _)
        | exact absurd rfl (hcomma' _)
    all_goals first
      | exact absurd rfl (hclose _)
      | exact absurd rfl (hcomma _)
  · rw [hr, hr']
    exact (goTo_at hfollows hlen).andThen fun _ _ _ => hmore.bind fun _ _ hrest =>
      .pure (.cons (.other ..) hrest)

/-- Objects are alike. -/
theorem objectBody : i.Opens n Operand.Alike g.objectBody g'.objectBody :=
  (h.fieldsUpTo le_rfl (h.bound.trans (Nat.le_succ _)) (h.bound'.trans (Nat.le_succ _))).followed
    fun _ _ hfields => .pure (objectOperand_alike hfields)

/-- What is bound is alike. -/
theorem bindingTarget : i.Opens (n + 1) Eq g.bindingTarget g'.bindingTarget := by
  refine trivia_rest_bind fun s s' hs hlen => ?_
  obtain ⟨u, u', rfl, rfl, hu⟩ | ⟨harray, harray'⟩ := hs.sign ['['] (by decide)
  · refine (goTo_at hu (length_lt_append ..)).andThen fun _ _ _ => h.arrayBody.keeps.bind ?_
    exact fun _ _ ho => .guard_bind (congrArg Shape.isTarget ho.shape) fun _ => .pure rfl
  obtain ⟨u, u', rfl, rfl, hu⟩ | ⟨hobject, hobject'⟩ := hs.sign ['\x7b'] (by decide)
  · refine (goTo_at hu (length_lt_append ..)).andThen fun _ _ _ => h.objectBody.keeps.bind ?_
    exact fun _ _ ho => .guard_bind (congrArg Shape.isTarget ho.shape) fun _ => .pure rfl
  split
  case h_3 =>
    split
    case h_3 => exact (opens_name.at hs).followed fun _ _ hw => .pure (congrArg some hw)
    all_goals first
      | exact absurd rfl (harray' _)
      | exact absurd rfl (hobject' _)
  all_goals first
    | exact absurd rfl (harray _)
    | exact absurd rfl (hobject _)

end InnerAlike

end Insertion

end DocSite.Script

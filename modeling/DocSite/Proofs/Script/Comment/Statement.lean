import DocSite.Proofs.Script.Comment.Expression
import DocSite.Script.Grammar.Statement

/-! # Statements around a comment

Statements are read alike with and without a comment, and so are their declarations. -/

namespace DocSite.Script

open DocSite.Script.Parser

/-- A statement that begins with no sign of its own: a declaration, what another word begins, or an
expression. -/
def Inner.otherStatement (g : Inner) (start : Place) : Parser Unit :=
  match g.declaration? start with
  | some declaration => declaration
  | none =>
      match word? start with
      | some (w, after) => g.wordStatement w after
      | none => g.expressionStatement

namespace Insertion

variable {i : Insertion} {n : Nat} {g g' : Inner} {s s' : List Char}

/-! ## Signs that statements begin with -/

section

variable {R Q : Correspondence} {d : Nat}

/-- What is exported in one of three ways is alike. -/
theorem match_export {p p' : List Char → Parser Unit} {q q' r r' : Parser Unit}
    (hq : Alike R Q n d Eq q q') (hr : Alike R Q n d Eq r r') :
    i.Begins s s' →
    (∀ t t', i.Follows t t' → t.length < s.length → Alike R Q n d Eq (p t) (p' t')) →
    Alike R Q n d Eq
      (match s with
        | '*' :: after => p after
        | '\x7b' :: _ => q
        | _ => r)
      (match s' with
        | '*' :: after => p' after
        | '\x7b' :: _ => q'
        | _ => r') := by
  intro hs hp
  obtain ⟨u, u', rfl, rfl, hu⟩ | ⟨hstar, hstar'⟩ := hs.sign ['*'] (by decide)
  · exact hp u u' hu (length_lt_append ..)
  obtain ⟨u, u', rfl, rfl, -⟩ | ⟨hlist, hlist'⟩ := hs.sign ['\x7b'] (by decide)
  · exact hq
  split
  case h_3 =>
    split
    case h_3 => exact hr
    all_goals first
      | exact absurd rfl (hstar' _)
      | exact absurd rfl (hlist' _)
  all_goals first
    | exact absurd rfl (hstar _)
    | exact absurd rfl (hlist _)

/-- Statements are alike if they are for each sign that they may begin with. -/
theorem match_statement {p p' : List Char → Parser Unit} {q q' r r' v v' : Parser Unit}
    (hq : Alike R Q n d Eq q q') (hr : Alike R Q n d Eq r r') (hv : Alike R Q n d Eq v v') :
    i.Begins s s' →
    (∀ t t', i.Follows t t' → t.length < s.length → Alike R Q n d Eq (p t) (p' t')) →
    Alike R Q n d Eq
      (match s with
        | [] => failure
        | ';' :: after => p after
        | '\x7b' :: _ => q
        | '@' :: _ => r
        | _ => v)
      (match s' with
        | [] => failure
        | ';' :: after => p' after
        | '\x7b' :: _ => q'
        | '@' :: _ => r'
        | _ => v') := by
  intro hs hp
  obtain ⟨u, u', rfl, rfl, hu⟩ | ⟨hempty, hempty'⟩ := hs.sign [';'] (by decide)
  · exact hp u u' hu (length_lt_append ..)
  obtain ⟨u, u', rfl, rfl, -⟩ | ⟨hblock, hblock'⟩ := hs.sign ['\x7b'] (by decide)
  · exact hq
  obtain ⟨u, u', rfl, rfl, -⟩ | ⟨hmark, hmark'⟩ := hs.sign ['@'] (by decide)
  · exact hr
  have hends := hs.exists_cons
  split
  case h_1 =>
    obtain ⟨-, rfl⟩ | ⟨_, _, _, heq, -⟩ := hends
    · exact Alike.failure
    · cases heq
  case h_5 hne _ _ _ =>
    split
    case h_5 => exact hv
    case h_1 =>
      obtain ⟨heq, -⟩ | ⟨_, _, _, -, heq, -⟩ := hends
      · exact absurd heq hne
      · cases heq
    all_goals first
      | exact absurd rfl (hempty' _)
      | exact absurd rfl (hblock' _)
      | exact absurd rfl (hmark' _)
  all_goals first
    | exact absurd rfl (hempty _)
    | exact absurd rfl (hblock _)
    | exact absurd rfl (hmark _)

end

namespace InnerAlike

variable (h : i.InnerAlike n g g')

include h

/-! ## Declarations -/

/-- Initialisers are alike, with what they declare. -/
theorem initializer (takesIn : Bool) (name : Option Word) :
    i.Keeps n Eq (g.initializer takesIn name) (g'.initializer takesIn name) := by
  refine .accept_bind opens_equals.keeps ?_ (.pure rfl)
  refine (h.expression _).keeps.collecting.bind ?_
  rintro ⟨value, inside⟩ ⟨value', inside'⟩ ⟨hvalue, hinside⟩
  cases name with
  | none => exact (Alike.declare hinside).bind fun _ _ _ => .pure rfl
  | some name =>
      have hnamed : Declarator.Alike ⟨name, value⟩ ⟨name, value'⟩ := ⟨rfl, hvalue⟩
      exact (Alike.declare (List.rel_append hinside (.cons hnamed .nil))).bind
        fun _ _ _ => .pure rfl

/-- Declarators are alike. -/
theorem declarator : i.Opens (n + 1) Eq g.declarator g'.declarator := by
  refine h.bindingTarget.andThen ?_
  rintro name _ rfl
  exact h.initializer true name

/-- Further declarators are alike. -/
theorem moreDeclarators {first first' : Bool} (hfirst : first = first') :
    i.Keeps (n + 1) Eq (g.moreDeclarators first) (g'.moreDeclarators first') := by
  have hitem : i.Opens (n + 1) Eq (do symbol [',']; g.declarator)
      (do symbol [',']; g'.declarator) :=
    (opens_symbol (by decide)).andThen fun _ _ _ => h.declarator.later
  refine (h.many hitem le_rfl).bind fun more more' hmore => .pure ?_
  rw [List.forall₂_eq_eq_eq] at hmore
  rw [hmore, hfirst]

/-- Declarations behind their keyword are alike. -/
theorem declaration : i.Opens (n + 1) Eq g.declaration g'.declaration := by
  refine h.declarator.andThen fun _ _ hfirst => ?_
  refine ((h.moreDeclarators hfirst).less (Nat.le_succ n)).bind ?_
  rintro initialized _ rfl
  exact keeps_statementEnd initialized

/-! ## Loops -/

/-- Expressions as statements are alike. -/
theorem expressionStatement : i.Opens (n + 1) Eq g.expressionStatement g'.expressionStatement :=
  trivia_rest_bind fun s s' hs _ => ((h.operandPhrase .open 0).at hs).andThen fun _ _ ho =>
    .guard_bind ho.isValue fun _ => (h.sequenceFrom .open s s' ho.expr).bind fun _ _ _ =>
      keeps_statementEnd true

/-- Expressions in front of a sign are alike. -/
theorem expressionsUpTo {close : Char} (hclose : isSymbol [close] = true) :
    i.Opens n Eq (do let _ ← g.expressions .closed; symbol [close])
      (do let _ ← g'.expressions .closed; symbol [close]) :=
  (h.expressions _).followed fun _ _ _ => (opens_symbol hclose).keeps

/-- The rests of loop headers are alike. -/
theorem loopRest : i.Keeps n Eq g.loopRest g'.loopRest := by
  have hclosed : i.Keeps n Eq
      (do
        if !(← accept (symbol [')'])) then
          let _ ← g.expressions .closed
          symbol [')'])
      (do
        if !(← accept (symbol [')'])) then
          let _ ← g'.expressions .closed
          symbol [')']) :=
    .accept_bind (opens_symbol (by decide)).keeps (.pure rfl) (h.expressionsUpTo (by decide)).keeps
  refine .accept_bind (opens_symbol (by decide)).keeps hclosed ?_
  exact (h.expressions _).keeps.bind fun _ _ _ => (opens_symbol (by decide)).keeps.bind
    fun _ _ _ => hclosed

/-- Subjects of loops are alike. -/
theorem loopSubject : i.Opens n Eq g.loopSubject g'.loopSubject :=
  ((opens_keyword _).orElse (opens_keyword _)).followed fun _ _ _ =>
    (h.expressionsUpTo (by decide)).keeps

/-- Subjects of loops behind targets that are declared are alike. -/
theorem boundSubject (isVar : Bool) : i.Keeps n Eq (Inner.forRest.boundSubject g isVar)
    (Inner.forRest.boundSubject g' isVar) :=
  .cond rfl ((h.initializer false none).bind fun _ _ _ => h.loopSubject.keeps) h.loopSubject.keeps

/-- Subjects of loops behind other targets are alike. -/
theorem assignedSubject :
    i.Opens n Eq (Inner.forRest.assignedSubject g) (Inner.forRest.assignedSubject g') :=
  (h.operand ⟨false, false⟩ 0).followed fun _ _ hfirst =>
    .guard_bind (congrArg Shape.isAssignable hfirst.shape) fun _ => h.loopSubject.keeps

/-- Loops behind their keyword are alike. -/
theorem forRest : i.Keeps n Eq g.forRest g'.forRest := by
  have hbody : i.Keeps n Eq g.statement g'.statement := h.statement.keeps
  refine (opens_keyword _).row.accept.bind fun _ _ _ => (opens_symbol (by decide)).keeps.bind
    fun _ _ _ => keeps_ahead_bind fun s s' hs _ => before ?_
  refine .cond (by simp only [hs.startsWithWord_eq]) ?_ ?_
  · refine opens_word.keeps.bind fun _ _ _ => h.bindingTarget.later.bind ?_
    rintro name _ rfl
    rw [hs.startsWithWord_eq]
    refine ((h.boundSubject _).orElse ?_).bind fun _ _ _ => hbody
    refine (h.initializer true name).bind fun _ _ hinitialized => ?_
    refine ((h.moreDeclarators hinitialized).less (Nat.le_succ n)).bind ?_
    rintro initialized _ rfl
    exact (keeps_statementEnd initialized).bind fun _ _ _ => h.loopRest
  · refine .accept_bind (opens_symbol (by decide)).keeps (h.loopRest.bind fun _ _ _ => hbody) ?_
    have hparts : i.Keeps n Eq (do let _ ← g.expressions .closed; symbol [';']; g.loopRest)
        (do let _ ← g'.expressions .closed; symbol [';']; g'.loopRest) :=
      (h.expressions _).keeps.bind fun _ _ _ => (opens_symbol (by decide)).keeps.bind
        fun _ _ _ => h.loopRest
    exact (h.assignedSubject.keeps.orElse hparts).bind fun _ _ _ => hbody

/-! ## Branches and jumps -/

/-- The statements of cases are alike. -/
theorem caseBody : i.Keeps n Eq g.caseBody g'.caseBody := by
  have hitem : i.Opens n Eq
      (do
        trivia
        let s ← rest
        guard (!(startsWithWord "case" s || startsWithWord "default" s))
        g.statement)
      (do
        trivia
        let s ← rest
        guard (!(startsWithWord "case" s || startsWithWord "default" s))
        g'.statement) :=
    trivia_rest_bind fun s s' hs _ =>
      .guard_bind (by rw [hs.startsWithWord_eq, hs.startsWithWord_eq]) fun _ => h.statement.at hs
  exact (h.many hitem (Nat.le_succ n)).bind fun _ _ _ => .pure rfl

/-- Branches are alike. -/
theorem switchCase : i.Opens (n + 1) Eq g.switchCase g'.switchCase := by
  have hbody : i.Keeps n Eq (do symbol [':']; g.caseBody) (do symbol [':']; g'.caseBody) :=
    (opens_symbol (by decide)).keeps.bind fun _ _ _ => h.caseBody
  refine leads_trivia.bind fun _ _ _ => Alike.pre ?_ fun _ _ => Begins.leads
  refine .accept_andThen (opens_keyword _) ((h.expressions _).keeps.bind fun _ _ _ => hbody) ?_
  exact (opens_keyword _).andThen fun _ _ _ => hbody

/-- What follows the word `try` is alike. -/
theorem tryRest : i.Keeps n Eq g.tryRest g'.tryRest := by
  have hfinally : i.Opens n Eq (do keyword "finally"; g.block) (do keyword "finally"; g'.block) :=
    (opens_keyword _).followed fun _ _ _ => h.block.later
  have hcatch : i.Opens n Eq
      (do
        keyword "catch"
        if ← accept (symbol ['(']) then
          let _ ← g.bindingTarget
          symbol [')']
        g.block)
      (do
        keyword "catch"
        if ← accept (symbol ['(']) then
          let _ ← g'.bindingTarget
          symbol [')']
        g'.block) :=
    (opens_keyword _).followed fun _ _ _ => .accept_bind (opens_symbol (by decide)).keeps
      (h.bindingTarget.later.bind fun _ _ _ => (opens_symbol (by decide)).keeps.bind
        fun _ _ _ => h.block.later)
      h.block.later
  exact h.block.later.bind fun _ _ _ => hcatch.row.accept.bind fun _ _ _ =>
    hfinally.row.accept.bind fun _ _ _ => .pure rfl

end InnerAlike

/-! ## Modules -/

/-- The ends of jumps are alike. -/
theorem keeps_jumpRest : i.Keeps n Eq Inner.jumpRest Inner.jumpRest :=
  (keeps_statementEnd false).orElse (opens_word.keeps.bind fun _ _ _ => keeps_statementEnd false)

/-- Names in lists of modules are alike. -/
theorem opens_moduleName : i.Opens n Eq Inner.moduleName Inner.moduleName :=
  (opens_word.followed fun _ _ _ => .pure rfl).orElse (opens_string.followed fun _ _ _ => .pure rfl)

/-- Items of lists of modules are alike. -/
theorem opens_moduleItem : i.Opens n Eq Inner.moduleItem Inner.moduleItem :=
  opens_moduleName.followed fun _ _ _ => .accept_bind (opens_keyword _).keeps
    opens_moduleName.keeps (.pure rfl)

namespace InnerAlike

variable (h : i.InnerAlike n g g')

include h

/-- Lists of names of modules are alike. -/
theorem moduleList : i.Keeps n Eq g.moduleList g'.moduleList := by
  have hitem : i.Opens n Eq (do Inner.moduleItem; symbol [','])
      (do Inner.moduleItem; symbol [',']) :=
    opens_moduleItem.followed fun _ _ _ => (opens_symbol (by decide)).keeps
  exact (opens_symbol (by decide)).keeps.bind fun _ _ _ => (h.many hitem (Nat.le_succ n)).bind
    fun _ _ _ => opens_moduleItem.row.accept.bind fun _ _ _ => (opens_symbol (by decide)).keeps

/-- Sources of names of modules are alike. -/
theorem moduleSource : i.Keeps n Eq g.moduleSource g'.moduleSource :=
  opens_string.keeps.bind fun _ _ _ => .accept_bind (opens_keyword _).keeps
    ((opens_symbol (by decide)).keeps.bind fun _ _ _ => h.objectBody.keeps.bind
      fun _ _ _ => keeps_statementEnd false)
    (keeps_statementEnd false)

/-- What follows the word `import` is alike. -/
theorem importRest : i.Keeps n Eq g.importRest g'.importRest := by
  have hnames : i.Keeps n Eq (Inner.importRest.importNames g) (Inner.importRest.importNames g') :=
    .accept_bind (opens_symbol (by decide)).keeps
      ((opens_keyword _).keeps.bind fun _ _ _ => opens_word.keeps.bind fun _ _ _ => .pure rfl)
      h.moduleList
  have hfrom : i.Keeps n Eq (do keyword "from"; g.moduleSource)
      (do keyword "from"; g'.moduleSource) :=
    (opens_keyword _).keeps.bind fun _ _ _ => h.moduleSource
  refine keeps_ahead_bind fun s s' hs _ => before (.cond hs.isSome_string?_eq h.moduleSource ?_)
  refine keeps_wordAhead.bind fun _ _ hw => .cond (by rw [hw]) ?_ (hnames.bind fun _ _ _ => hfrom)
  exact opens_word.keeps.bind fun _ _ _ => .accept_bind (opens_symbol (by decide)).keeps
    (hnames.bind fun _ _ _ => hfrom) hfrom

/-! ## Functions and classes -/

/-- Class declarations behind their keyword are alike. -/
theorem classDeclaration : i.Keeps n Eq g.classDeclaration g'.classDeclaration :=
  opens_word.keeps.bind fun _ _ _ => h.classBody

/-- Function declarations behind their keyword are alike. -/
theorem functionDeclaration : i.Keeps n Eq g.functionDeclaration g'.functionDeclaration :=
  (opens_symbol (by decide)).row.accept.bind fun _ _ _ => opens_word.keeps.bind fun _ _ _ =>
    h.parameters.later.bind fun _ _ _ => h.block.later

end InnerAlike

/-- A function is named in both readings or in none. -/
theorem Follows.namesFunction_eq (h : i.Follows s s') :
    Inner.namesFunction s = Inner.namesFunction s' := by
  rw [Inner.namesFunction.eq_def, Inner.namesFunction.eq_def]
  have hs := h.begins
  obtain ⟨u, u', heq, heq', hu⟩ | ⟨hstar, hstar'⟩ := hs.sign ['*'] (by decide)
  · rw [heq, heq']
    exact hu.begins.isSome_word?_eq
  · split
    case h_1 heq => exact absurd heq (hstar _)
    case h_2 =>
      split
      case h_1 heq => exact absurd heq (hstar' _)
      case h_2 => exact hs.isSome_word?_eq

/-- The word `let` begins a declaration in both readings or in none. -/
theorem Follows.declaresBehindLet_eq (h : i.Follows s s') :
    Inner.declaresBehindLet s = Inner.declaresBehindLet s' := by
  rw [Inner.declaresBehindLet.eq_def, Inner.declaresBehindLet.eq_def, h.endsStatement_alike]
  have hs := h.begins
  split
  next => rfl
  next =>
    obtain ⟨u, u', heq, heq', -⟩ | ⟨harray, harray'⟩ := hs.sign ['['] (by decide)
    · rw [heq, heq']
      rfl
    obtain ⟨u, u', heq, heq', -⟩ | ⟨hobject, hobject'⟩ := hs.sign ['\x7b'] (by decide)
    · rw [heq, heq']
      rfl
    dsimp only
    split
    case h_1 heq => exact absurd heq (harray _)
    case h_2 heq => exact absurd heq (hobject _)
    case h_3 =>
      split
      case h_1 heq => exact absurd heq (harray' _)
      case h_2 heq => exact absurd heq (hobject' _)
      case h_3 =>
        rw [hs.isSome_word?_eq, hs.startsWithWord_eq, hs.startsWithWord_eq]

/-- The word `async` begins a declaration in both readings or in none. -/
theorem Follows.declaresBehindAsync_eq (h : i.Follows s s') :
    Inner.declaresBehindAsync s = Inner.declaresBehindAsync s' := by
  rw [Inner.declaresBehindAsync.eq_def, Inner.declaresBehindAsync.eq_def, h.endsStatement_alike]
  obtain ⟨hr, hr'⟩ | ⟨⟨w, after⟩, ⟨w', after'⟩, hr, hr', hw, hafter, -⟩ :=
    eq_of_rel h.begins.word?_alike
  · rw [hr, hr']
  · obtain rfl : w = w' := hw
    rw [hr, hr']
    dsimp only
    rw [Follows.namesFunction_eq hafter]

/-- A class is named in both readings or in none. -/
theorem Follows.namesClass_eq (h : i.Follows s s') :
    Inner.namesClass s = Inner.namesClass s' := by
  rw [Inner.namesClass, Inner.namesClass, h.begins.isSome_word?_eq, h.begins.startsWithWord_eq]

namespace InnerAlike

variable (h : i.InnerAlike n g g')

include h

/-- The declarations that words begin are alike. -/
theorem declaration? (hs : i.Begins s s') :
    Option.Rel (Alike (At s s') i.Follows (n + 1) 1 Eq) (g.declaration? s)
      (g'.declaration? s') := by
  rw [Inner.declaration?.eq_def, Inner.declaration?.eq_def]
  obtain ⟨hr, hr'⟩ | ⟨⟨w, after⟩, ⟨w', after'⟩, hr, hr', hw, hafter, hlen, -⟩ :=
    eq_of_rel hs.word?_alike
  · rw [hr, hr']
    exact .none
  · obtain rfl : w = w' := hw
    rw [hr, hr']
    have hgoTo : Alike (At s s') i.Follows (n + 1) 1 Eq (goTo after) (goTo after') :=
      goTo_at hafter hlen
    dsimp only at hafter ⊢
    rw [hafter.declaresBehindLet_eq, hafter.namesFunction_eq, hafter.declaresBehindAsync_eq,
      hafter.namesClass_eq]
    have hdeclaration := hgoTo.andThen fun _ _ _ => h.declaration.later
    split
    case h_1 | h_2 => exact .some hdeclaration
    case h_3 =>
      split
      next => exact .some hdeclaration
      next => exact .none
    case h_4 =>
      split
      next => exact .some (hgoTo.andThen fun _ _ _ => h.functionDeclaration)
      next => exact .none
    case h_5 =>
      split
      next =>
        exact .some (hgoTo.andThen fun _ _ _ => (opens_keyword _).keeps.bind fun _ _ _ =>
          h.functionDeclaration)
      next => exact .none
    case h_6 =>
      split
      next => exact .some (hgoTo.andThen fun _ _ _ => h.classDeclaration)
      next => exact .none
    case h_7 => exact .none

/-- Declarations behind what is skipped are alike, and what stands there otherwise. -/
theorem declared (hs : i.Begins s s') {p p' : Parser Unit} (hp : i.Keeps n Eq p p') :
    Alike (Before i.Follows s s') i.Follows n 0 Eq
      (match g.declaration? s with
        | some declaration => do
            goTo s
            declaration
        | none => p)
      (match g'.declaration? s' with
        | some declaration => do
            goTo s'
            declaration
        | none => p') := by
  -- The declaration begins at the token that has been seen ahead.
  have hgoTo : Alike (Before i.Follows s s') (At s s') n 0 Eq (goTo s) (goTo s') := by
    refine Alike.goTo ?_
    rintro t _ ⟨-, rfl, rfl⟩
    exact ⟨⟨rfl, rfl⟩, length_skipBlank_le t⟩
  obtain ⟨hr, hr'⟩ | ⟨r, r', hr, hr', hdeclaration⟩ := eq_of_rel (h.declaration? hs)
  · rw [hr, hr']
    exact before hp
  · rw [hr, hr']
    exact hgoTo.bind fun _ _ _ => (hdeclaration.less (Nat.le_succ n)).atLeast (Nat.zero_le 1)

/-- What follows the word `export` is alike. -/
theorem exportRest : i.Keeps n Eq g.exportRest g'.exportRest := by
  refine keeps_ahead_bind fun s s' hs _ => match_export ?_ ?_ hs fun u u' hu hlen => ?_
  · exact before (h.moduleList.bind fun _ _ _ => .accept_bind (opens_keyword _).keeps h.moduleSource
      (keeps_statementEnd false))
  · refine before (.accept_bind (opens_keyword _).keeps ?_ ?_)
    · exact keeps_ahead_bind fun _ _ hs _ => h.declared hs <| (h.expression _).keeps.bind
        fun _ _ _ => keeps_statementEnd true
    · refine ((h.decorators (fun _ _ => Follows.leads) fun _ _ h => h).less (Nat.le_succ n)).bind ?_
      exact fun _ _ _ => keeps_ahead_bind fun _ _ hs _ => h.declared hs Alike.failure
  · have hfrom : i.Keeps n Eq (do keyword "from"; g.moduleSource)
        (do keyword "from"; g'.moduleSource) :=
      (opens_keyword _).keeps.bind fun _ _ _ => h.moduleSource
    refine ((goTo_before hu hlen).atLeast (Nat.zero_le 1)).bind fun _ _ _ => ?_
    exact .accept_bind (opens_keyword _).keeps (opens_moduleName.keeps.bind fun _ _ _ => hfrom)
      hfrom

/-! ## All statements -/

/-- Statements that begin with a word are alike. -/
theorem wordStatement (w : List Char) {after after' : List Char} (hs : i.Begins s s')
    (hafter : i.Follows after after') (hlen : after.length < s.length) :
    Alike (At s s') i.Follows (n + 1) 1 Eq (g.wordStatement w after)
      (g'.wordStatement w after') := by
  have hgoTo : Alike (At s s') i.Follows (n + 1) 1 Eq (goTo after) (goTo after') :=
    goTo_at hafter hlen
  have hexpression := h.expressionStatement.at hs
  have hcondition : i.Keeps n Eq (do g.parenthesized; g.statement)
      (do g'.parenthesized; g'.statement) :=
    h.parenthesized.later.bind fun _ _ _ => h.statement.keeps
  unfold Inner.wordStatement
  split
  case h_1 =>
    refine hgoTo.andThen fun _ _ _ => h.parenthesized.later.bind fun _ _ _ =>
      h.statement.keeps.bind fun _ _ _ => ?_
    exact .accept_bind (opens_keyword _).keeps h.statement.keeps (.pure rfl)
  case h_2 => exact hgoTo.andThen fun _ _ _ => h.forRest
  case h_3 | h_7 => exact hgoTo.andThen fun _ _ _ => hcondition
  case h_4 =>
    exact hgoTo.andThen fun _ _ _ => h.statement.keeps.bind fun _ _ _ =>
      (opens_keyword _).keeps.bind fun _ _ _ => h.parenthesized.later.bind fun _ _ _ =>
        (opens_symbol (by decide)).row.accept.bind fun _ _ _ => .pure rfl
  case h_5 =>
    exact hgoTo.andThen fun _ _ _ => h.parenthesized.later.bind fun _ _ _ =>
      (opens_symbol (by decide)).keeps.bind fun _ _ _ =>
        ((h.many h.switchCase le_rfl).less (Nat.le_succ n)).bind fun _ _ _ =>
          (opens_symbol (by decide)).behind_trivia.keeps
  case h_6 => exact hgoTo.andThen fun _ _ _ => h.tryRest
  case h_8 | h_9 => exact hgoTo.andThen fun _ _ _ => keeps_jumpRest
  case h_10 =>
    exact hgoTo.andThen fun _ _ _ => (keeps_statementEnd false).orElse <|
      (h.expressions _).keeps.bind fun _ _ _ => keeps_statementEnd true
  case h_11 =>
    exact hgoTo.andThen fun _ _ _ => (h.expressions _).keeps.bind fun _ _ _ =>
      keeps_statementEnd true
  case h_12 => exact hgoTo.andThen fun _ _ _ => keeps_statementEnd false
  case h_13 =>
    obtain ⟨u, u', heq, heq', -⟩ | ⟨hcall, hcall'⟩ := hafter.begins.sign ['('] (by decide)
    · rw [heq, heq']
      exact hexpression
    obtain ⟨u, u', heq, heq', -⟩ | ⟨hpoint, hpoint'⟩ := hafter.begins.sign ['.'] (by decide)
    · rw [heq, heq']
      exact hexpression
    split
    case h_1 heq => exact absurd heq (hcall _)
    case h_2 heq => exact absurd heq (hpoint _)
    case h_3 =>
      split
      case h_1 heq => exact absurd heq (hcall' _)
      case h_2 heq => exact absurd heq (hpoint' _)
      case h_3 => exact hgoTo.andThen fun _ _ _ => h.importRest
  case h_14 => exact (hgoTo.andThen fun _ _ _ => h.exportRest).orElse hexpression
  case h_15 =>
    refine .cond rfl hexpression ?_
    obtain ⟨u, u', heq, heq', hu⟩ | ⟨hlabel, hlabel'⟩ := hafter.begins.sign [':'] (by decide)
    · have hread := heq ▸ length_lt_append ':' [] u
      have hskip := length_skipBlank_le after
      rw [heq, heq']
      exact (goTo_at hu (hread.trans_le (hskip.trans hlen.le))).andThen fun _ _ _ =>
        h.statement.keeps
    split
    case h_1 heq => exact absurd heq (hlabel _)
    case h_2 =>
      split
      case h_1 heq => exact absurd heq (hlabel' _)
      case h_2 => exact hexpression

/-- Statements that begin with no sign of their own are alike. -/
theorem otherStatement (hs : i.Begins s s') :
    Alike (At s s') i.Follows (n + 1) 1 Eq (g.otherStatement s) (g'.otherStatement s') := by
  rw [Inner.otherStatement, Inner.otherStatement]
  obtain ⟨hr, hr'⟩ | ⟨r, r', hr, hr', hdeclaration⟩ := eq_of_rel (h.declaration? hs)
  · rw [hr, hr']
    obtain ⟨hr, hr'⟩ | ⟨⟨w, after⟩, ⟨w', after'⟩, hr, hr', hw, hafter, hlen, -⟩ :=
      eq_of_rel hs.word?_alike
    · rw [hr, hr']
      exact h.expressionStatement.at hs
    · obtain rfl : w = w' := hw
      rw [hr, hr']
      exact h.wordStatement w hs hafter hlen
  · rw [hr, hr']
    exact hdeclaration

/-- Statements are alike. -/
theorem statementPhrase : i.Opens (n + 1) Eq g.statementPhrase g'.statementPhrase := by
  refine trivia_rest_bind fun s s' hs _ => ?_
  refine match_statement ?_ ?_ (h.otherStatement hs) hs fun u u' hu hlen => goTo_at hu hlen
  · exact (h.block.at hs).orElse
      (.guard_bind hs.looksLikeObject_alike fun _ => h.expressionStatement.at hs)
  · refine ((h.decorators (fun _ _ h => h) fun _ _ => Follows.leads).pre ?_).bind fun _ _ _ => ?_
    · exact fun _ _ ⟨ht, ht'⟩ => ht ▸ ht' ▸ hs.leads
    · exact .accept_andThen (opens_keyword _) h.exportRest ((opens_keyword _).andThen
        fun _ _ _ => h.classRest)

end InnerAlike

end Insertion

end DocSite.Script

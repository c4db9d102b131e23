import DocSite.Proofs.Script.Comment.Reach
import DocSite.Proofs.Script.Comment.Value

/-! # Parsers in two readings

Two parsers are alike (`Parser.Alike`) if, from texts that correspond to each other, both fail or
both find things that correspond and leave texts that do. The relation of the texts in front of a
phrase and that of the texts behind it differ in general.

Levels and bounds of a grammar are counted by the text of the first reading, because a phrase takes
as many steps in the one as in the other. Each way of composing parsers has a lemma here. -/

namespace DocSite.Script

namespace Parser

/-- How texts correspond that are left in two readings. -/
abbrev Correspondence := List Char → List Char → Prop

variable {α β : Type} {R Q S : Correspondence} {n d : Nat} {E : α → α → Prop} {F : β → β → Prop}
  {p p' q q' : Parser α} {f f' : α → Parser β}

/-- Whether results of two parsers correspond, by what has been found and by the texts behind. At
least `d` characters have been read from a text of `m` characters. -/
structure EndAlike (Q : Correspondence) (m d : Nat) (E : α → α → Prop) (r r' : α × Cursor) :
    Prop where
  /-- What has been found corresponds. -/
  value : E r.1 r'.1
  /-- The texts behind correspond. -/
  rest : Q r.2.rest r'.2.rest
  /-- The declarations mean the same. -/
  found : List.Forall₂ Declarator.Alike r.2.found r'.2.found
  /-- As much has been read. -/
  length : r.2.rest.length + d ≤ m

/-- Whether two parsers are alike on texts of fewer than `n` characters. The relations `R` and `Q`
are those of the texts in front and behind, `d` is a number of characters that are read at least,
and `E` is how the results correspond. -/
structure Alike (R Q : Correspondence) (n d : Nat) (E : α → α → Prop) (p p' : Parser α) : Prop where
  /-- From texts that correspond, the results correspond. -/
  run : ∀ c c' : Cursor, R c.rest c'.rest → List.Forall₂ Declarator.Alike c.found c'.found →
    c.rest.length < n → Option.Rel (EndAlike Q c.rest.length d E) (p c) (p' c')

/-- Two readings stand at given texts. -/
def At (s s' : List Char) : Correspondence := fun t t' => t = s ∧ t' = s'

/-- Two readings stand at given texts but for what is skipped in front of them. -/
def Before (R : Correspondence) (s s' : List Char) : Correspondence :=
  fun t t' => R t t' ∧ skipBlank t = s ∧ skipBlank t' = s'

namespace Alike

/-- Less is asked for. -/
theorem mono {R' Q' : Correspondence} {m e : Nat} (hp : Alike R Q n d E p p')
    (hR : ∀ s s', R' s s' → R s s') (hQ : ∀ s s', Q s s' → Q' s s') (hn : m ≤ n) (hd : e ≤ d) :
    Alike R' Q' m e E p p' := by
  refine ⟨fun c c' hrest hfound hlen => ?_⟩
  obtain ⟨hr, hr'⟩ | ⟨r, r', hr, hr', h⟩ :=
    eq_of_rel (hp.run c c' (hR _ _ hrest) hfound (hlen.trans_le hn))
  · rw [hr, hr']
    exact .none
  · rw [hr, hr']
    exact .some ⟨h.value, hQ _ _ h.rest, h.found, le_trans (Nat.add_le_add_left hd _) h.length⟩

/-- More is known in front. -/
theorem pre {R' : Correspondence} (hp : Alike R Q n d E p p') (hR : ∀ s s', R' s s' → R s s') :
    Alike R' Q n d E p p' :=
  hp.mono hR (fun _ _ h => h) le_rfl le_rfl

/-- The text is shorter. -/
theorem less {m : Nat} (hp : Alike R Q n d E p p') (hm : m ≤ n) : Alike R Q m d E p p' :=
  hp.mono (fun _ _ h => h) (fun _ _ h => h) hm le_rfl

/-- Fewer characters may be read. -/
theorem atLeast {e : Nat} (hp : Alike R Q n d E p p') (he : e ≤ d) : Alike R Q n e E p p' :=
  hp.mono (fun _ _ h => h) (fun _ _ h => h) le_rfl he

/-- There are no texts of fewer than no characters. -/
theorem of_zero : Alike R Q 0 d E p p' :=
  ⟨fun _ _ _ _ hlen => absurd hlen (Nat.not_lt_zero _)⟩

/-- What gives corresponding results without reading. -/
theorem pure {a a' : α} (h : E a a') : Alike R R n 0 E (Pure.pure a) (Pure.pure a') :=
  ⟨fun _ _ hrest hfound _ => .some ⟨h, hrest, hfound, le_rfl⟩⟩

/-- What fails. -/
theorem failure : Alike R Q n d E Alternative.failure Alternative.failure :=
  ⟨fun _ _ _ _ _ => .none⟩

/-- A phrase behind another one, which has been read. -/
theorem behind {e m : Nat} {q q' : Parser β} (hq : Alike Q S n e F q q') {r r' : α × Cursor}
    (h : EndAlike Q m d E r r') (hlen : r.2.rest.length < n) :
    Option.Rel (EndAlike S m (d + e) F) (q r.2) (q' r'.2) := by
  obtain ⟨ht, ht'⟩ | ⟨t, t', ht, ht', hend⟩ := eq_of_rel (hq.run r.2 r'.2 h.rest h.found hlen)
  · rw [ht, ht']
    exact .none
  · rw [ht, ht']
    have hfirst := h.length
    have hsecond := hend.length
    exact .some ⟨hend.value, hend.rest, hend.found, by omega⟩

/-- One phrase behind another, where `d` characters are read by the first one and `e` by the
second one. -/
theorem bind_add {e : Nat} (hp : Alike R Q (n + d) d E p p')
    (hf : ∀ a a', E a a' → Alike Q S n e F (f a) (f' a')) :
    Alike R S (n + d) (d + e) F (p >>= f) (p' >>= f') := by
  refine ⟨fun c c' hrest hfound hlen => ?_⟩
  obtain ⟨hr, hr'⟩ | ⟨r, r', hr, hr', h⟩ := eq_of_rel (hp.run c c' hrest hfound hlen)
  · rw [bind_of_none hr, bind_of_none hr']
    exact .none
  · have hread := h.length
    rw [bind_of_eq hr, bind_of_eq hr']
    exact (hf _ _ h.value).behind h (by omega)

/-- One phrase behind another. -/
theorem bind (hp : Alike R Q n 0 E p p') (hf : ∀ a a', E a a' → Alike Q S n d F (f a) (f' a')) :
    Alike R S n d F (p >>= f) (p' >>= f') :=
  Nat.zero_add d ▸ bind_add (d := 0) hp hf

/-- One phrase behind another that reads something. -/
theorem andThen (hp : Alike R Q (n + 1) 1 E p p')
    (hf : ∀ a a', E a a' → Alike Q S n 0 F (f a) (f' a')) :
    Alike R S (n + 1) 1 F (p >>= f) (p' >>= f') :=
  bind_add (d := 1) hp hf

/-- A phrase that reads something, and what follows it. -/
theorem followed (hp : Alike R Q n 1 E p p') (hf : ∀ a a', E a a' → Alike Q S n 0 F (f a) (f' a')) :
    Alike R S n 1 F (p >>= f) (p' >>= f') := by
  cases n with
  | zero => exact of_zero
  | succ n =>
      exact hp.andThen fun a a' ha =>
        (hf a a' ha).less (Nat.le_succ n)

/-- One phrase or another. -/
theorem orElse (hp : Alike R Q n d E p p') (hq : Alike R Q n d E q q') :
    Alike R Q n d E (p <|> q) (p' <|> q') := by
  refine ⟨fun c c' hrest hfound hlen => ?_⟩
  obtain ⟨hr, hr'⟩ | ⟨r, r', hr, hr', h⟩ := eq_of_rel (hp.run c c' hrest hfound hlen)
  · rw [orElse_of_none hr, orElse_of_none hr']
    exact hq.run c c' hrest hfound hlen
  · rw [orElse_of_eq hr, orElse_of_eq hr']
    exact .some h

/-- One phrase or another, by a condition. -/
theorem cond {b b' : Bool} (h : b = b') (hp : Alike R Q n d E p p') (hq : Alike R Q n d E q q') :
    Alike R Q n d E (if b = true then p else q) (if b' = true then p' else q') := by
  subst h
  split
  · exact hp
  · exact hq

/-- A condition in front of a phrase. -/
theorem guard_bind {b b' : Bool} {f f' : Unit → Parser β} (h : b = b')
    (hf : b = true → Alike R Q n d F (f ()) (f' ())) :
    Alike R Q n d F (guard (b = true) >>= f) (guard (b' = true) >>= f') := by
  subst h
  refine ⟨fun c c' hrest hfound hlen => ?_⟩
  by_cases hb : b = true
  · rw [bind_of_eq (guard_of_pos hb c), bind_of_eq (guard_of_pos hb c')]
    exact (hf hb).run c c' hrest hfound hlen
  · rw [bind_of_none (guard_of_neg hb c), bind_of_none (guard_of_neg hb c')]
    exact .none

/-- A condition. -/
theorem guard {b b' : Bool} (h : b = b') :
    Alike R R n 0 Eq (guard (b = true)) (guard (b' = true)) := by
  have hbind := guard_bind (R := R) (n := n) h fun _ => pure (rfl : () = ())
  rwa [bind_pure, bind_pure] at hbind

/-- A phrase that may be missing, and what follows it in either case. -/
theorem accept_bind {p p' : Parser Unit} {f f' : Bool → Parser β}
    (hp : Alike R Q n 0 Eq p p') (htrue : Alike Q S n d F (f true) (f' true))
    (hfalse : Alike R S n d F (f false) (f' false)) :
    Alike R S n d F (accept p >>= f) (accept p' >>= f') := by
  refine ⟨fun c c' hrest hfound hlen => ?_⟩
  obtain ⟨hr, hr'⟩ | ⟨r, r', hr, hr', h⟩ := eq_of_rel (hp.run c c' hrest hfound hlen)
  · rw [bind_of_eq (accept_of_none hr), bind_of_eq (accept_of_none hr')]
    exact hfalse.run c c' hrest hfound hlen
  · have hread := h.length
    rw [bind_of_eq (accept_of_eq hr), bind_of_eq (accept_of_eq hr')]
    exact Nat.zero_add d ▸ htrue.behind h (by omega)

/-- A phrase that may be missing, and what follows it in either case, where something is read and
what follows is shorter. -/
theorem accept_andThen {p p' : Parser Unit} {f f' : Bool → Parser β}
    (hp : Alike R Q (n + 1) 1 Eq p p') (htrue : Alike Q S n 0 F (f true) (f' true))
    (hfalse : Alike R S (n + 1) 1 F (f false) (f' false)) :
    Alike R S (n + 1) 1 F (accept p >>= f) (accept p' >>= f') := by
  refine ⟨fun c c' hrest hfound hlen => ?_⟩
  obtain ⟨hr, hr'⟩ | ⟨r, r', hr, hr', h⟩ := eq_of_rel (hp.run c c' hrest hfound hlen)
  · rw [bind_of_eq (accept_of_none hr), bind_of_eq (accept_of_none hr')]
    exact hfalse.run c c' hrest hfound hlen
  · have hread := h.length
    rw [bind_of_eq (accept_of_eq hr), bind_of_eq (accept_of_eq hr')]
    exact htrue.behind h (by omega)

/-- A phrase that may be missing, and what follows it in either case, where something is read. -/
theorem accept_followed {p p' : Parser Unit} {f f' : Bool → Parser β}
    (hp : Alike R Q n 1 Eq p p') (htrue : Alike Q S n 0 F (f true) (f' true))
    (hfalse : Alike R S n 1 F (f false) (f' false)) :
    Alike R S n 1 F (accept p >>= f) (accept p' >>= f') := by
  cases n with
  | zero => exact of_zero
  | succ n => exact accept_andThen hp (htrue.less (Nat.le_succ n)) hfalse

/-- A phrase that may be missing. -/
theorem accept {p p' : Parser Unit} (hp : Alike R R n d Eq p p') :
    Alike R R n 0 Eq (Parser.accept p) (Parser.accept p') := by
  have hbind := accept_bind (hp.mono (fun _ _ h => h) (fun _ _ h => h) le_rfl (Nat.zero_le d))
    (pure (rfl : true = true)) (pure (rfl : false = false))
  rwa [bind_pure, bind_pure] at hbind

/-- Phrases that go on from what has been read, one step for each character at most, are alike if
they are with one more step. -/
theorem bounded_from {ι : Type} {A : ι → ι → Prop} {p q : Nat → ι → Parser α}
    (hstep : ∀ m k l, m < n → (∀ x y, A x y → Alike R Q m d E (p k x) (q l y)) →
      ∀ x y, A x y → Alike R Q (m + 1) d E (p (k + 1) x) (q (l + 1) y))
    {m k l : Nat} (hm : m ≤ n) (hk : m ≤ k) (hl : m ≤ l) {x y : ι} (h : A x y) :
    Alike R Q m d E (p k x) (q l y) := by
  -- The bounds may differ, but the text of the first reading is shorter than both.
  induction m generalizing k l x y with
  | zero => exact of_zero
  | succ m ih =>
      obtain ⟨k, rfl⟩ : ∃ j, k = j + 1 := ⟨k - 1, by omega⟩
      obtain ⟨l, rfl⟩ : ∃ j, l = j + 1 := ⟨l - 1, by omega⟩
      have hless (x y : ι) (h : A x y) : Alike R Q m d E (p k x) (q l y) :=
        ih (Nat.le_of_succ_le hm) (Nat.le_of_succ_le_succ hk) (Nat.le_of_succ_le_succ hl) h
      exact hstep m k l hm hless x y h

/-- So are phrases that go on from nothing. -/
theorem bounded {p q : Nat → Parser α}
    (hstep : ∀ m k l, m < n → Alike R Q m d E (p k) (q l) →
      Alike R Q (m + 1) d E (p (k + 1)) (q (l + 1)))
    {m k l : Nat} (hm : m ≤ n) (hk : m ≤ k) (hl : m ≤ l) : Alike R Q m d E (p k) (q l) :=
  bounded_from (p := fun k (_ : Unit) => p k) (q := fun l (_ : Unit) => q l) (A := Eq)
    (fun m k l hm ih _ _ _ => hstep m k l hm (ih () () rfl)) hm hk hl (rfl : () = ())

/-- At the end of the text there is no row of phrases, whatever the bounds are. -/
theorem many_of_le_one (hp : Alike R R n 1 E p p') (hn : n ≤ 1) (k k' : Nat) :
    Alike R R n 0 (List.Forall₂ E) (Parser.many k p) (Parser.many k' p') := by
  refine ⟨fun c c' hrest hfound hlen => ?_⟩
  obtain ⟨hr, hr'⟩ | ⟨r, r', -, -, h⟩ := eq_of_rel (hp.run c c' hrest hfound hlen)
  · rw [many_of_none k hr, many_of_none k' hr']
    exact .some ⟨.nil, hrest, hfound, le_rfl⟩
  · have hread := h.length
    omega

/-- A row of phrases, each of which reads something. -/
theorem many {k k' : Nat} (hp : Alike R R n 1 E p p') (hk : n ≤ k + 1) (hk' : n ≤ k' + 1) :
    Alike R R n 0 (List.Forall₂ E) (Parser.many k p) (Parser.many k' p') := by
  -- On the bound of the first reading; as each phrase reads something, neither bound is reached.
  induction k generalizing n k' with
  | zero => exact many_of_le_one hp hk 0 k'
  | succ k ih =>
      rcases Nat.lt_or_ge 1 n with hn | hn
      · obtain ⟨m, rfl⟩ : ∃ m, n = m + 1 := ⟨n - 1, by omega⟩
        obtain ⟨l, rfl⟩ : ∃ l, k' = l + 1 := ⟨k' - 1, by omega⟩
        have hmore : Alike R R m 0 (List.Forall₂ E) (Parser.many k p) (Parser.many l p') :=
          ih (hp.less (Nat.le_succ m)) (Nat.le_of_succ_le_succ hk) (Nat.le_of_succ_le_succ hk')
        have hrow : Alike R R (m + 1) 1 (List.Forall₂ E)
            (do return (← p) :: (← Parser.many k p)) (do return (← p') :: (← Parser.many l p')) :=
          hp.andThen fun _ _ hfirst => hmore.bind fun _ _ hrest => pure (.cons hfirst hrest)
        exact (hrow.atLeast (Nat.zero_le 1)).orElse (pure .nil)
      · exact many_of_le_one hp hn (k + 1) k'

/-- A row of phrases with others between them. -/
theorem separated {k k' : Nat} {sep sep' : Parser Unit} (hp : Alike R Q n 1 E p p')
    (hmore : Alike Q Q n 1 E (do sep; p) (do sep'; p')) (hk : n ≤ k + 1) (hk' : n ≤ k' + 1) :
    Alike R Q n 1 (List.Forall₂ E) (Parser.separated k sep p) (Parser.separated k' sep' p') :=
  hp.followed fun _ _ hfirst => (hmore.many hk hk').bind fun _ _ hrest => pure (.cons hfirst hrest)

/-- What depends on the text that follows. -/
theorem rest_bind {f f' : List Char → Parser β}
    (hf : ∀ s s', R s s' → s.length < n → Alike (At s s') Q n d F (f s) (f' s')) :
    Alike R Q n d F (rest >>= f) (rest >>= f') := by
  refine ⟨fun c c' hrest hfound hlen => ?_⟩
  have hplace (c : Cursor) : rest c = some (c.rest, c) := rfl
  rw [bind_of_eq (hplace c), bind_of_eq (hplace c')]
  exact (hf _ _ hrest hlen).run c c' ⟨rfl, rfl⟩ hfound hlen

/-- Going on at texts that correspond. -/
theorem goTo {s s' : List Char} (h : ∀ t t', R t t' → Q s s' ∧ s.length + d ≤ t.length) :
    Alike R Q n d Eq (Parser.goTo s) (Parser.goTo s') := by
  refine ⟨fun c c' hrest hfound _ => ?_⟩
  obtain ⟨hs, hlen⟩ := h _ _ hrest
  exact .some ⟨rfl, hs, hfound, hlen⟩

/-- A condition on the text that follows. -/
theorem require {b b' : List Char → Bool} (h : ∀ s s', R s s' → b s = b' s') :
    Alike R R n 0 Eq (Parser.require b) (Parser.require b') := by
  refine ⟨fun c c' hrest hfound _ => ?_⟩
  rw [Parser.require, Parser.require, h _ _ hrest]
  split
  · exact .some ⟨rfl, hrest, hfound, le_rfl⟩
  · exact .none

/-- Declarations are collected alike. -/
theorem collecting (hp : Alike R Q n d E p p') :
    Alike R Q n d (fun r r' => E r.1 r'.1 ∧ List.Forall₂ Declarator.Alike r.2 r'.2)
      (Parser.collecting p) (Parser.collecting p') := by
  refine ⟨fun c c' hrest hfound hlen => ?_⟩
  rw [Parser.collecting, Parser.collecting]
  obtain ⟨hr, hr'⟩ | ⟨r, r', hr, hr', h⟩ :=
    eq_of_rel (hp.run { c with found := [] } { c' with found := [] } hrest .nil hlen)
  · rw [hr, hr']
    exact .none
  · rw [hr, hr']
    exact .some ⟨⟨h.value, h.found⟩, h.rest, hfound, h.length⟩

/-- Declarations are added alike. -/
theorem declare {found found' : List Declarator}
    (h : List.Forall₂ Declarator.Alike found found') :
    Alike R R n 0 Eq (Parser.declare found) (Parser.declare found') :=
  ⟨fun _ _ hrest hfound _ => .some ⟨rfl, hrest, List.rel_append h hfound, le_rfl⟩⟩

end Alike

end Parser

end DocSite.Script

import DocSite.Proofs.Nav.Growth

/-! # Loading each name once

A forest is resolved by going through it in document order and, where a name is met first, into the
children that its script gives. `Resolves` tells this course of things without a bound on how deep
it goes: it only has the courses that come to an end, and it lists the names in the order in which
they are loaded. A growth whose marks are followed has such a course (`resolves_of_follows`), and
there is one only (`Resolves.unique`).

Each load adds a name that has not been tried to those that have, so none is loaded twice
(`Resolves.nodup_tried`), however the scripts refer to each other. The main statement is
`resolve_loads_once`. -/

namespace DocSite.Nav

/-! ## The course of resolving -/

/-- Whether resolving a forest from some progress on comes to an end, with these names loaded on the
way, this forest as the result and this progress made. -/
inductive Resolves (load : Loader) :
    Progress → List Node → List String → List Node → Progress → Prop where
  /-- Nothing is left to do. -/
  | nil (progress : Progress) : Resolves load progress [] [] [] progress
  /-- There is nothing to do below a leaf. -/
  | leaf {before after : Progress} {rest rest' : List Node} {loads : List String}
      (label link : String) (hrest : Resolves load before rest loads rest' after) :
      Resolves load before (.leaf label link :: rest) loads (.leaf label link :: rest') after
  /-- What is below a branch is resolved before what is behind it. -/
  | branch {before between after : Progress} {children children' rest rest' : List Node}
      {loads more : List String} (label link : String)
      (hbelow : Resolves load before children loads children' between)
      (hrest : Resolves load between rest more rest' after) :
      Resolves load before (.branch label link children :: rest) (loads ++ more)
        (.branch label link children' :: rest') after
  /-- A name that has been tried is not loaded again. -/
  | again {before after : Progress} {rest rest' : List Node} {loads : List String}
      (label link : String) {name : String} (htried : name ∈ before.tried)
      (hrest : Resolves load before rest loads rest' after) :
      Resolves load before (.deferred label link name :: rest) loads
        (.deferred label link name :: rest') after
  /-- A name that fails counts as tried, and there is a warning. -/
  | failed {before after : Progress} {rest rest' : List Node} {loads : List String}
      (label link : String) {name : String} {e : Error} (htried : name ∉ before.tried)
      (hload : load name = .error e)
      (hrest : Resolves load
        { before with
          tried := name :: before.tried
          notices := before.notices ++
            [.warning ("leaving subtree " ++ name ++ " unresolved: " ++ e.message)] }
        rest loads rest' after) :
      Resolves load before (.deferred label link name :: rest) (name :: loads)
        (.deferred label link name :: rest') after
  /-- What a script gives is put in place and resolved in turn. -/
  | found {before between after : Progress} {children children' rest rest' : List Node}
      {loads more : List String} (label link : String) {name : String}
      (htried : name ∉ before.tried) (hload : load name = .ok children)
      (hbelow : Resolves load
        { before with tried := name :: before.tried, resolved := before.resolved + 1 }
        children loads children' between)
      (hrest : Resolves load between rest more rest' after) :
      Resolves load before (.deferred label link name :: rest) (name :: (loads ++ more))
        (.branch label link children' :: rest') after

namespace Resolves

variable {load : Loader} {before after after' : Progress} {forest forest' forest'' : List Node}
  {loads loads' : List String}

/-- **There is one course only.** -/
theorem unique (h : Resolves load before forest loads forest' after)
    (h' : Resolves load before forest loads' forest'' after') :
    loads' = loads ∧ forest'' = forest' ∧ after' = after := by
  induction h generalizing loads' forest'' after' with
  | nil progress =>
      cases h'
      exact ⟨rfl, rfl, rfl⟩
  | leaf label link _ ih =>
      cases h' with
      | leaf _ _ hrest =>
          obtain ⟨rfl, rfl, rfl⟩ := ih hrest
          exact ⟨rfl, rfl, rfl⟩
  | branch label link _ _ ihbelow ihrest =>
      cases h' with
      | branch _ _ hbelow hrest =>
          obtain ⟨rfl, rfl, rfl⟩ := ihbelow hbelow
          obtain ⟨rfl, rfl, rfl⟩ := ihrest hrest
          exact ⟨rfl, rfl, rfl⟩
  | again label link htried _ ih =>
      cases h' with
      | again _ _ _ hrest =>
          obtain ⟨rfl, rfl, rfl⟩ := ih hrest
          exact ⟨rfl, rfl, rfl⟩
      | failed _ _ hnew => exact absurd htried hnew
      | found _ _ hnew => exact absurd htried hnew
  | failed label link hnew hload _ ih =>
      cases h' with
      | again _ _ htried => exact absurd htried hnew
      | failed _ _ _ hload' hrest =>
          cases hload.symm.trans hload'
          obtain ⟨rfl, rfl, rfl⟩ := ih hrest
          exact ⟨rfl, rfl, rfl⟩
      | found _ _ _ hload' => cases hload.symm.trans hload'
  | found label link hnew hload _ _ ihbelow ihrest =>
      cases h' with
      | again _ _ htried => exact absurd htried hnew
      | failed _ _ _ hload' => cases hload.symm.trans hload'
      | found _ _ _ hload' hbelow hrest =>
          cases hload.symm.trans hload'
          obtain ⟨rfl, rfl, rfl⟩ := ihbelow hbelow
          obtain ⟨rfl, rfl, rfl⟩ := ihrest hrest
          exact ⟨rfl, rfl, rfl⟩

/-- The names that are loaded are those that count as tried afterwards. -/
theorem tried_eq (h : Resolves load before forest loads forest' after) :
    after.tried = loads.reverse ++ before.tried := by
  induction h with
  | nil progress => rfl
  | leaf label link _ ih => exact ih
  | branch label link _ _ ihbelow ihrest =>
      rw [ihrest, ihbelow, List.reverse_append, List.append_assoc]
  | again label link _ _ ih => exact ih
  | failed label link _ _ _ ih =>
      rw [ih, List.reverse_cons, List.append_assoc]
      rfl
  | found label link _ _ _ _ ihbelow ihrest =>
      rw [ihrest, ihbelow, List.reverse_cons, List.reverse_append, List.append_assoc,
        List.append_assoc]
      rfl

/-- **No name is tried twice.** -/
theorem nodup_tried (h : Resolves load before forest loads forest' after)
    (hbefore : before.tried.Nodup) : after.tried.Nodup := by
  induction h with
  | nil progress => exact hbefore
  | leaf label link _ ih => exact ih hbefore
  | branch label link _ _ ihbelow ihrest => exact ihrest (ihbelow hbefore)
  | again label link _ _ ih => exact ih hbefore
  | failed label link hnew _ _ ih => exact ih (List.nodup_cons.2 ⟨hnew, hbefore⟩)
  | found label link hnew _ _ _ ihbelow ihrest =>
      exact ihrest (ihbelow (List.nodup_cons.2 ⟨hnew, hbefore⟩))

/-- The loads that give something are counted. -/
theorem resolved_eq (h : Resolves load before forest loads forest' after) :
    after.resolved = before.resolved + loads.countP fun name => (load name).toOption.isSome := by
  induction h with
  | nil progress => rfl
  | leaf label link _ ih => exact ih
  | branch label link _ _ ihbelow ihrest =>
      rw [ihrest, ihbelow, List.countP_append, Nat.add_assoc]
  | again label link _ _ ih => exact ih
  | failed label link _ hload _ ih =>
      rw [ih, List.countP_cons_of_neg]
      rw [hload]
      exact Bool.false_ne_true
  | found label link _ hload _ _ ihbelow ihrest =>
      rw [ihrest, ihbelow, List.countP_cons_of_pos, List.countP_append]
      · dsimp only
        omega
      · rw [hload]
        rfl

end Resolves

/-! ## Growth takes its course -/

variable {load : Loader}

/-- **A forest that grows is resolved to the end**, if the marks are followed on the way. -/
theorem resolves_of_follows {before after : Progress} : (grown : List Growth) →
    Follows load before (forestMarks grown) after →
      ∃ loads, Resolves load before (forestBefore grown) loads (forestAfter grown) after
  | [], h => by
      cases h
      exact ⟨[], .nil before⟩
  | .leaf label link :: rest, h => by
      obtain ⟨loads, hrest⟩ := resolves_of_follows rest h
      exact ⟨loads, .leaf label link hrest⟩
  | .branch label link below :: rest, h => by
      rw [forestMarks_cons] at h
      obtain ⟨between, hbelow, hrest⟩ := h.split
      obtain ⟨loads, hbelow⟩ := resolves_of_follows below hbelow
      obtain ⟨more, hrest⟩ := resolves_of_follows rest hrest
      exact ⟨loads ++ more, .branch label link hbelow hrest⟩
  | .kept label link name :: rest, h => by
      have hmarks : Follows load before (⟨name, none⟩ :: forestMarks rest) after := h
      obtain ⟨hoffer, h⟩ := hmarks.of_cons
      by_cases htried : name ∈ before.tried
      · rw [Progress.meet_of_mem htried] at h
        obtain ⟨loads, hrest⟩ := resolves_of_follows rest h
        exact ⟨loads, .again label link htried hrest⟩
      · obtain ⟨e, hload⟩ := (Progress.offer_eq_none_iff.1 hoffer).resolve_left htried
        rw [Progress.meet_of_error htried hload] at h
        obtain ⟨loads, hrest⟩ := resolves_of_follows rest h
        exact ⟨name :: loads, .failed label link htried hload hrest⟩
  | .spliced label link name below :: rest, h => by
      rw [forestMarks_cons, marks_spliced, List.cons_append] at h
      obtain ⟨hoffer, h⟩ := h.of_cons
      obtain ⟨htried, hload⟩ := Progress.offer_eq_some_iff.1 hoffer
      rw [Progress.meet_of_ok htried hload] at h
      obtain ⟨between, hbelow, hrest⟩ := h.split
      obtain ⟨loads, hbelow⟩ := resolves_of_follows below hbelow
      obtain ⟨more, hrest⟩ := resolves_of_follows rest hrest
      exact ⟨name :: (loads ++ more), .found label link htried hload hbelow hrest⟩

/-! ## Directories -/

section Directory

variable {files : Files} {dir : Path}

/-- A name is loaded with success exactly if a script gives its subtree. -/
theorem isSome_loadSubtree_iff {name : String} :
    (loadSubtree files dir name).toOption.isSome ↔ ∃ forest, Gives files dir name forest := by
  simp only [← loadSubtree_eq_ok_iff]
  cases loadSubtree files dir name with
  | error e => simp [Except.toOption]
  | ok forest => simp [Except.toOption]

/-- The names whose scripts give a subtree are finitely many, no more than there are files. -/
theorem exists_given_names (files : Files) (dir : Path) : ∃ names : Finset String,
    (∀ name, name ∈ names ↔ ∃ forest, Gives files dir name forest) ∧ names.card ≤ files.count := by
  obtain ⟨all, hcard, hload⟩ := exists_loadable files dir
  refine ⟨all.filter fun name => (loadSubtree files dir name).toOption.isSome, fun name => ?_,
    Nat.le_trans (Finset.card_filter_le _ _) hcard⟩
  rw [Finset.mem_filter, isSome_loadSubtree_iff]
  refine and_iff_right_of_imp ?_
  rintro ⟨forest, hgives⟩
  exact hload name forest (loadSubtree_eq_ok_iff.2 hgives)

/-- If no name is loaded twice, no more loads give something than there are names that can. -/
theorem countP_loads_le {loads : List String} (hloads : loads.Nodup) {names : Finset String}
    (hnames : ∀ name, name ∈ names ↔ ∃ forest, Gives files dir name forest) :
    loads.countP (fun name => (loadSubtree files dir name).toOption.isSome) ≤ names.card := by
  rw [List.countP_eq_length_filter, ← List.toFinset_card_of_nodup (hloads.filter _)]
  refine Finset.card_le_card fun name hname => ?_
  rw [List.mem_toFinset, List.mem_filter] at hname
  exact (hnames name).2 (isSome_loadSubtree_iff.1 hname.2)

end Directory

/-- Whether the deferred subtrees of a tree were resolved by loading these names, in this order. -/
structure Resolution.Course (resolution : Resolution) (tree : Tree) (files : Files) (dir : Path)
    (loads : List String) : Prop where
  /-- Resolving comes to an end, and it does so in this way only. -/
  resolves_iff : ∀ loads' forest after,
    Resolves (loadSubtree files dir) .start tree.roots loads' forest after ↔
      loads' = loads ∧ forest = resolution.tree.roots ∧
        after = ⟨loads.reverse, resolution.resolved, resolution.notices⟩
  /-- No name is loaded twice. -/
  nodup_loads : loads.Nodup
  /-- No more entries are counted than there are scripts that give a subtree. -/
  resolved_le : ∃ names : Finset String,
    (∀ name, name ∈ names ↔ ∃ forest, Gives files dir name forest) ∧
      resolution.resolved ≤ names.card ∧ names.card ≤ files.count

/-- **Resolving deferred subtrees comes to an end, and each name is loaded at most once**, whatever
the scripts refer to. -/
theorem resolve_loads_once (tree : Tree) (files : Files) (dir : Path) :
    ∃ loads, (tree.resolve files dir).Course tree files dir loads := by
  obtain ⟨grown, hbefore, hafter, hfollows⟩ := tree.grows_resolve files dir
  obtain ⟨loads, hresolves⟩ := resolves_of_follows grown hfollows
  rw [hbefore, hafter] at hresolves
  have htried := hresolves.tried_eq.trans (List.append_nil _)
  have hloads : loads.Nodup := by
    rw [← List.nodup_reverse, ← htried]
    exact hresolves.nodup_tried List.nodup_nil
  have hafter : (resolveDeep (loadSubtree files dir) (files.count + 1) .start tree.roots).2
      = ⟨loads.reverse, (tree.resolve files dir).resolved, (tree.resolve files dir).notices⟩ := by
    rw [← htried]
    rfl
  refine ⟨loads, fun loads' forest after => ⟨fun h => ?_, ?_⟩, hloads, ?_⟩
  · obtain ⟨hsame, hforest, hend⟩ := hresolves.unique h
    exact ⟨hsame, hforest, hend.trans hafter⟩
  · rintro ⟨rfl, rfl, rfl⟩
    rw [← hafter]
    exact hresolves
  · obtain ⟨names, hnames, hcard⟩ := exists_given_names files dir
    have hcount := hresolves.resolved_eq.trans (Nat.zero_add _)
    exact ⟨names, hnames, Nat.le_trans (Nat.le_of_eq hcount) (countP_loads_le hloads hnames), hcard⟩

/-- A directory with two scripts that name each other and themselves. -/
def cycleFiles : Files :=
  ⟨.directory [
    ("a.js", .file (some "var a = [['to b', 'b.html', 'b'], ['to a', 'a.html', 'a']];")),
    ("b.js", .file (some "var b = [['to a', 'a.html', 'a'], ['to b', 'b.html', 'b']];"))], []⟩

-- Both scripts are put in place once, one inside of the other.
example : ((Tree.ofParts [.deferred "root" "index.html" "a"] .empty).resolve
    cycleFiles "").resolved = 2 := by
  decide +kernel

end DocSite.Nav

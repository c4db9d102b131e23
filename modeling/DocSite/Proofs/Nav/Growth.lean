import DocSite.Proofs.Nav.Subtree
import DocSite.Proofs.Nav.Walk
import Mathlib.Data.List.Induction

/-! # What becomes of deferred subtrees

A forest whose deferred subtrees are resolved is kept together with what it was before: each entry
is a `Growth`, from which the entry before and the entry after can be read. In document order of the
forest afterwards, the deferred entries leave `Mark`s, and what a mark says depends on the marks in
front of it alone: the first one of a name has what the name's script gives, if it gives anything
(`Follows`). Resolving a forest follows its marks one by one (`exists_growth`).

Scripts are put inside of each other only as deep as there are scripts left to try
(`Progress.left`), and there are no more of them than files, so resolving does not end too early.
The main statement is `resolve_outcome`. -/

namespace DocSite.Nav

/-! ## Growth -/

/-- An entry and what became of it. -/
inductive Growth where
  /-- An entry with nothing below it. -/
  | leaf (label link : String)
  /-- An entry with entries below it. -/
  | branch (label link : String) (below : List Growth)
  /-- An entry whose children stay deferred. -/
  | kept (label link name : String)
  /-- An entry whose children were deferred and have been put in place. -/
  | spliced (label link name : String) (below : List Growth)

mutual

/-- The entry before. -/
def Growth.before : Growth → Node
  | .leaf label link => .leaf label link
  | .branch label link below => .branch label link (forestBefore below)
  | .kept label link name => .deferred label link name
  | .spliced label link name _ => .deferred label link name

/-- The forest before. -/
def forestBefore : List Growth → List Node
  | [] => []
  | growth :: rest => growth.before :: forestBefore rest

end

mutual

/-- The entry after. -/
def Growth.after : Growth → Node
  | .leaf label link => .leaf label link
  | .branch label link below => .branch label link (forestAfter below)
  | .kept label link name => .deferred label link name
  | .spliced label link _ below => .branch label link (forestAfter below)

/-- The forest after. -/
def forestAfter : List Growth → List Node
  | [] => []
  | growth :: rest => growth.after :: forestAfter rest

end

mutual

/-- The entries from this one down after, in document order. -/
def Growth.all : Growth → List Growth
  | .leaf label link => [.leaf label link]
  | .branch label link below => .branch label link below :: forestAll below
  | .kept label link name => [.kept label link name]
  | .spliced label link name below => .spliced label link name below :: forestAll below

/-- The entries of the forest after, in document order. -/
def forestAll : List Growth → List Growth
  | [] => []
  | growth :: rest => growth.all ++ forestAll rest

end

/-- An entry whose children were deferred, and the forest that was put in place, if any. -/
structure Mark where
  /-- The script's name. -/
  name : String
  /-- The forest that was put in place, as the script gives it. -/
  given : Option (List Node)

/-- The mark that an entry leaves. -/
def Growth.mark? : Growth → Option Mark
  | .leaf .. => none
  | .branch .. => none
  | .kept _ _ name => some ⟨name, none⟩
  | .spliced _ _ name below => some ⟨name, some (forestBefore below)⟩

/-- The marks that the entries leave from this one down. -/
def Growth.marks (growth : Growth) : List Mark :=
  growth.all.filterMap Growth.mark?

/-- The marks that the entries of a forest leave. -/
def forestMarks (grown : List Growth) : List Mark :=
  (forestAll grown).filterMap Growth.mark?

@[simp] theorem forestMarks_cons (growth : Growth) (rest : List Growth) :
    forestMarks (growth :: rest) = growth.marks ++ forestMarks rest := by
  rw [forestMarks, forestAll, List.filterMap_append]
  rfl

@[simp] theorem marks_spliced (label link name : String) (below : List Growth) :
    (Growth.spliced label link name below).marks
      = ⟨name, some (forestBefore below)⟩ :: forestMarks below := rfl

mutual

/-- The entries after are those of a walk. -/
theorem Growth.map_all (depth : Nat) : (growth : Growth) →
    (growth.after.preorder depth).map (fun step => (step.label, step.link, step.deferred))
      = growth.all.map fun g => (g.after.label, g.after.link, g.after.deferred?)
  | .leaf label link => rfl
  | .kept label link name => rfl
  | .branch label link below => by
      rw [Growth.after, Node.preorder, Growth.all, List.map_cons, List.map_cons,
        map_forestAll (depth + 1) below]
      rfl
  | .spliced label link name below => by
      rw [Growth.after, Node.preorder, Growth.all, List.map_cons, List.map_cons,
        map_forestAll (depth + 1) below]
      rfl

/-- The entries of a forest after are those of a walk. -/
theorem map_forestAll (depth : Nat) : (grown : List Growth) →
    (forestPreorder depth (forestAfter grown)).map
        (fun step => (step.label, step.link, step.deferred))
      = (forestAll grown).map fun g => (g.after.label, g.after.link, g.after.deferred?)
  | [] => rfl
  | growth :: rest => by
      rw [forestAfter, forestPreorder, forestAll, List.map_append, List.map_append,
        growth.map_all depth, map_forestAll depth rest]

end

/-! ## Marks -/

/-- The warning for a name, if its children cannot be had. -/
def failure? (load : Loader) (name : String) : Option Notice :=
  match load name with
  | .ok _ => none
  | .error e => some (.warning ("leaving subtree " ++ name ++ " unresolved: " ++ e.message))

namespace Progress

variable (load : Loader)

/-- What is put in place where a name is met: only where it is met first, and only if it can be
had. -/
def offer (progress : Progress) (name : String) : Option (List Node) :=
  if name ∈ progress.tried then none else (load name).toOption

/-- Progress where a name is met. -/
def meet (progress : Progress) (name : String) : Progress :=
  if name ∈ progress.tried then progress
  else
    ⟨name :: progress.tried,
      progress.resolved + (if (load name).toOption.isSome then 1 else 0),
      progress.notices ++ (failure? load name).toList⟩

variable {load}
variable {progress : Progress} {name : String}

/-- A name that has been tried is passed over. -/
theorem meet_of_mem (h : name ∈ progress.tried) : progress.meet load name = progress := by
  rw [meet, if_pos h]

/-- A name is tried where it is met first. -/
theorem meet_of_ok {forest : List Node} (h : name ∉ progress.tried)
    (hload : load name = .ok forest) : progress.meet load name
      = { progress with tried := name :: progress.tried, resolved := progress.resolved + 1 } := by
  simp [meet, h, hload, failure?, Except.toOption]

/-- If it fails, there is a warning. -/
theorem meet_of_error {e : Error} (h : name ∉ progress.tried) (hload : load name = .error e) :
    progress.meet load name
      = { progress with
          tried := name :: progress.tried
          notices := progress.notices ++
            [.warning ("leaving subtree " ++ name ++ " unresolved: " ++ e.message)] } := by
  simp [meet, h, hload, failure?, Except.toOption]

/-- What is put in place where a name is met is what its script gives. -/
theorem offer_eq_some_iff {forest : List Node} :
    progress.offer load name = some forest ↔ name ∉ progress.tried ∧ load name = .ok forest := by
  rw [offer]
  by_cases htried : name ∈ progress.tried
  · simp [htried]
  · cases hload : load name with
    | error e => simp [htried, Except.toOption]
    | ok given => simp [htried, Except.toOption]

/-- Nothing is put in place if the name has been tried or fails. -/
theorem offer_eq_none_iff :
    progress.offer load name = none ↔ name ∈ progress.tried ∨ ∃ e, load name = .error e := by
  rw [offer]
  by_cases htried : name ∈ progress.tried
  · simp [htried]
  · cases hload : load name with
    | error e => simp [htried, Except.toOption]
    | ok given => simp [htried, Except.toOption]

/-- A name that is met counts as tried. -/
theorem mem_tried_meet {other : String} :
    other ∈ (progress.meet load name).tried ↔ other ∈ progress.tried ∨ other = name := by
  rw [meet]
  split
  next h =>
    constructor
    · exact .inl
    · rintro (hother | rfl)
      · exact hother
      · exact h
  next => rw [List.mem_cons, or_comm]

/-- Each forest that is put in place counts. -/
theorem resolved_meet : (progress.meet load name).resolved
    = progress.resolved + if (progress.offer load name).isSome then 1 else 0 := by
  rw [meet, offer]
  split
  · rfl
  · rfl

/-- There is a warning where a name is met first that fails. -/
theorem notices_meet : (progress.meet load name).notices
    = progress.notices ++ if name ∈ progress.tried then [] else (failure? load name).toList := by
  rw [meet]
  split
  · exact (List.append_nil _).symm
  · rfl

/-! ## Names left -/

/-- The number of names that have not been tried, of those given. -/
def left (names : Finset String) (progress : Progress) : Nat :=
  (names.filter (· ∉ progress.tried)).card

variable {names : Finset String}

/-- The more names have been tried, the fewer are left. -/
theorem left_le {before after : Progress} (h : before.tried ⊆ after.tried) :
    after.left names ≤ before.left names := by
  refine Finset.card_le_card fun name hname => ?_
  rw [Finset.mem_filter] at hname ⊢
  exact ⟨hname.1, fun hbefore => hname.2 (h hbefore)⟩

/-- Where a name is met first, it is left no more. -/
theorem left_meet_lt (hname : name ∈ names) (h : name ∉ progress.tried) :
    (progress.meet load name).left names < progress.left names := by
  refine Finset.card_lt_card ((Finset.ssubset_iff_of_subset ?_).2 ⟨name, ?_, ?_⟩)
  · intro other hother
    rw [Finset.mem_filter] at hother ⊢
    exact ⟨hother.1, fun htried => hother.2 (mem_tried_meet.2 (.inl htried))⟩
  · exact Finset.mem_filter.2 ⟨hname, h⟩
  · intro hmem
    exact (Finset.mem_filter.1 hmem).2 (mem_tried_meet.2 (.inr rfl))

end Progress

/-! ## Following marks -/

/-- Whether marks are met one after another, from some progress on, and say what is put in place. -/
inductive Follows (load : Loader) : Progress → List Mark → Progress → Prop where
  /-- No marks change nothing. -/
  | nil (progress : Progress) : Follows load progress [] progress
  /-- A mark says what is put in place where its name is met. -/
  | cons {before after : Progress} (name : String) {rest : List Mark}
      (h : Follows load (before.meet load name) rest after) :
      Follows load before (⟨name, before.offer load name⟩ :: rest) after

namespace Follows

variable {load : Loader} {before between after : Progress} {marks more : List Mark}

/-- Marks that are met one after another are met together. -/
theorem append (h : Follows load before marks between) (hmore : Follows load between more after) :
    Follows load before (marks ++ more) after := by
  induction h with
  | nil progress => exact hmore
  | cons name h ih => exact .cons name (ih hmore)

/-- The first of several marks says what is put in place where its name is met. -/
theorem of_cons {mark : Mark} (h : Follows load before (mark :: marks) after) :
    before.offer load mark.name = mark.given ∧
      Follows load (before.meet load mark.name) marks after := by
  cases h with
  | cons name h => exact ⟨rfl, h⟩

/-- What is put in place somewhere is what the script of its name gives. -/
theorem load_eq {mark : Mark} {forest : List Node} (h : Follows load before marks after)
    (hmark : mark ∈ marks) (hgiven : mark.given = some forest) : load mark.name = .ok forest := by
  induction h with
  | nil progress => cases hmark
  | cons name h ih =>
      rcases List.mem_cons.1 hmark with rfl | hmark
      · exact (Progress.offer_eq_some_iff.1 hgiven).2
      · exact ih hmark

/-- The names of marks count as tried. -/
theorem mem_tried_iff (h : Follows load before marks after) {name : String} :
    name ∈ after.tried ↔ name ∈ before.tried ∨ name ∈ marks.map Mark.name := by
  induction h with
  | nil progress => simp
  | cons name h ih => rw [ih, Progress.mem_tried_meet, List.map_cons, List.mem_cons, or_assoc]

/-- Where marks are met, no more names are left. -/
theorem left_le (h : Follows load before marks after) (names : Finset String) :
    after.left names ≤ before.left names :=
  Progress.left_le fun _ hname => h.mem_tried_iff.2 (.inl hname)

/-- Among marks, each is met after those in front of it. -/
theorem split (h : Follows load before (marks ++ more) after) :
    ∃ between, Follows load before marks between ∧ Follows load between more after := by
  induction marks generalizing before with
  | nil => exact ⟨before, .nil before, h⟩
  | cons mark rest ih =>
      cases h with
      | cons name h =>
          obtain ⟨between, hrest, hmore⟩ := ih h
          exact ⟨between, .cons name hrest, hmore⟩

/-- **What a mark says depends on the marks in front of it.** -/
theorem given_eq {mark : Mark} (h : Follows load before (marks ++ mark :: more) after) :
    mark.given = if mark.name ∈ before.tried ∨ mark.name ∈ marks.map Mark.name then none
      else (load mark.name).toOption := by
  obtain ⟨between, hmarks, hrest⟩ := h.split
  cases hrest with
  | cons name hrest => simp only [Progress.offer, hmarks.mem_tried_iff]

/-- Each mark of a forest that was put in place counts. -/
theorem resolved_eq (h : Follows load before marks after) :
    after.resolved = before.resolved + marks.countP fun mark => mark.given.isSome := by
  induction h with
  | nil progress => rfl
  | cons name h ih =>
      rw [ih, Progress.resolved_meet, List.countP_cons, Nat.add_assoc]
      congr 1
      exact Nat.add_comm _ _

/-- A name is new among others, or it is not. -/
theorem removeAll_singleton (name : String) (names : List String) :
    [name].removeAll names = if name ∈ names then [] else [name] := by
  by_cases h : name ∈ names
  · simp [List.removeAll, h]
  · simp [List.removeAll, h]

/-- **Each name that fails gives one warning.** -/
theorem notices_eq {before : Progress} (hbefore : before.tried = [])
    (h : Follows load before marks after) : after.notices
      = before.notices ++ (marks.map Mark.name).eraseDups.filterMap (failure? load) := by
  induction marks using List.reverseRecOn generalizing after with
  | nil =>
      cases h
      exact (List.append_nil _).symm
  | append_singleton marks mark ih =>
      -- Only the last mark can add a warning to those of the marks in front of it.
      obtain ⟨between, hmarks, hlast⟩ := h.split
      cases hlast with
      | cons name hlast =>
          cases hlast
          rw [Progress.notices_meet, ih hmarks, List.map_append, List.eraseDups_append,
            List.filterMap_append, List.append_assoc]
          congr 2
          have htried : name ∈ between.tried ↔ name ∈ marks.map Mark.name := by
            rw [hmarks.mem_tried_iff, hbefore]
            simp
          -- The name is new among the names exactly where it has not been tried.
          rw [List.map_singleton, removeAll_singleton, if_congr htried rfl rfl]
          split
          · rfl
          · rw [List.eraseDups_cons, List.filter_nil, List.eraseDups_nil]
            cases hfailure : failure? load name with
            | none => simp [hfailure]
            | some notice => simp [hfailure]

end Follows

/-! ## Resolving -/

/-- Whether a forest that is resolved grows: it is what a growth was before, the outcome is what the
growth is after, and the marks of the growth are followed on the way. -/
def Grows (load : Loader) (progress : Progress) (forest : List Node)
    (outcome : List Node × Progress) : Prop :=
  ∃ grown, forestBefore grown = forest ∧ forestAfter grown = outcome.1 ∧
    Follows load progress (forestMarks grown) outcome.2

variable {load : Loader} {progress : Progress}

/-- An entry whose name has been tried stays deferred. -/
theorem follows_of_mem {name : String} (h : name ∈ progress.tried) :
    Follows load progress [⟨name, none⟩] progress := by
  have hmark : Follows load progress [⟨name, progress.offer load name⟩] _ := .cons name (.nil _)
  rwa [Progress.offer, if_pos h, Progress.meet_of_mem h] at hmark

/-- An entry whose name fails stays deferred. -/
theorem follows_of_error {name : String} {e : Error} (h : name ∉ progress.tried)
    (hload : load name = .error e) :
    Follows load progress [⟨name, none⟩] (progress.meet load name) := by
  have hmark : Follows load progress [⟨name, progress.offer load name⟩] _ := .cons name (.nil _)
  rwa [Progress.offer, if_neg h, hload] at hmark

/-- An entry is followed by what is put in place for it. -/
theorem follows_of_ok {name : String} {forest : List Node} {marks : List Mark} {after : Progress}
    (h : name ∉ progress.tried) (hload : load name = .ok forest)
    (hmarks : Follows load (progress.meet load name) marks after) :
    Follows load progress (⟨name, some forest⟩ :: marks) after := by
  have hmark := Follows.cons name hmarks
  rwa [Progress.offer, if_neg h, hload] at hmark

section Resolve

variable {deeper : Resolver} {names : Finset String} {n : Nat}

mutual

/-- An entry grows as it is resolved, if what is put in place does. -/
theorem Node.exists_growth (hload : ∀ name forest, load name = .ok forest → name ∈ names)
    (hdeeper : ∀ progress forest, progress.left names < n →
      Grows load progress forest (deeper progress forest))
    (progress : Progress) (hleft : progress.left names < n + 1) :
    (node : Node) → ∃ growth : Growth, growth.before = node ∧
      growth.after = (node.resolve load deeper progress).1 ∧
        Follows load progress growth.marks (node.resolve load deeper progress).2
  | .leaf label link => ⟨.leaf label link, rfl, rfl, .nil progress⟩
  | .branch label link children => by
      obtain ⟨grown, hbefore, hafter, hfollows⟩ :=
        grows_resolveForest hload hdeeper progress hleft children
      refine ⟨.branch label link grown, ?_, ?_, ?_⟩
      · rw [Growth.before, hbefore]
      · rw [Growth.after, hafter, Node.resolve]
      · rw [Node.resolve]
        exact hfollows
  | .deferred label link name => by
      rw [Node.resolve]
      by_cases htried : name ∈ progress.tried
      · rw [if_pos htried]
        exact ⟨.kept label link name, rfl, rfl, follows_of_mem htried⟩
      · rw [if_neg htried]
        cases hname : load name with
        | error e =>
            have hfollows := follows_of_error htried hname
            rw [Progress.meet_of_error htried hname] at hfollows
            exact ⟨.kept label link name, rfl, rfl, hfollows⟩
        | ok children =>
            -- The name has been tried from here on, so fewer are left for what is put in place.
            have hfewer : (progress.meet load name).left names < progress.left names :=
              Progress.left_meet_lt (hload name children hname) htried
            obtain ⟨grown, hbefore, hafter, hfollows⟩ :=
              hdeeper (progress.meet load name) children (by omega)
            have hmark := follows_of_ok htried hname hfollows
            rw [Progress.meet_of_ok htried hname] at hafter hmark
            refine ⟨.spliced label link name grown, rfl, ?_, ?_⟩
            · rw [Growth.after, hafter]
            · rw [marks_spliced, hbefore]
              exact hmark

/-- A forest grows as it is resolved, if what is put in place does. -/
theorem grows_resolveForest (hload : ∀ name forest, load name = .ok forest → name ∈ names)
    (hdeeper : ∀ progress forest, progress.left names < n →
      Grows load progress forest (deeper progress forest))
    (progress : Progress) (hleft : progress.left names < n + 1) :
    (forest : List Node) → Grows load progress forest (resolveForest load deeper progress forest)
  | [] => ⟨[], rfl, rfl, .nil progress⟩
  | node :: rest => by
      obtain ⟨growth, hbefore, hafter, hfollows⟩ :=
        node.exists_growth hload hdeeper progress hleft
      have hrest := Nat.lt_of_le_of_lt (hfollows.left_le names) hleft
      obtain ⟨grown, hbefores, hafters, hmore⟩ :=
        grows_resolveForest hload hdeeper _ hrest rest
      refine ⟨growth :: grown, ?_, ?_, ?_⟩
      · rw [forestBefore, hbefore, hbefores]
      · rw [forestAfter, hafter, hafters, resolveForest]
      · rw [forestMarks_cons, resolveForest]
        exact hfollows.append hmore

end

/-- **Resolving makes a forest grow**, if there is a level over for every name that is left. -/
theorem grows_resolveDeep (hload : ∀ name forest, load name = .ok forest → name ∈ names) (n : Nat)
    (progress : Progress) (forest : List Node) (hleft : progress.left names < n) :
    Grows load progress forest (resolveDeep load n progress forest) := by
  induction n generalizing progress forest with
  | zero => exact absurd hleft (Nat.not_lt_zero _)
  | succ n ih => exact grows_resolveForest hload ih progress hleft forest

end Resolve

/-- **Resolving the deferred subtrees of a tree makes its forest grow**: there is a level over for
every script that could be put in place inside of others. -/
theorem Tree.grows_resolve (tree : Tree) (files : Files) (dir : Path) :
    Grows (loadSubtree files dir) .start tree.roots
      (resolveDeep (loadSubtree files dir) (files.count + 1) .start tree.roots) := by
  obtain ⟨names, hcard, hload⟩ := exists_loadable files dir
  refine grows_resolveDeep hload _ .start tree.roots ?_
  exact Nat.lt_succ_of_le (Nat.le_trans (Finset.card_filter_le _ _) hcard)

/-! ## The outcome -/

/-- Whether resolving the deferred subtrees of a tree made its entries grow like this. -/
structure Resolution.Outcome (resolution : Resolution) (tree : Tree) (files : Files) (dir : Path)
    (grown : List Growth) : Prop where
  /-- The tree's forest grew. -/
  before_eq : forestBefore grown = tree.roots
  /-- Everything else in the tree stays as it was. -/
  tree_eq : resolution.tree = { tree with roots := forestAfter grown }
  /-- In document order, the entries are those of a walk through the tree afterwards. -/
  map_walk : resolution.tree.walk.map (fun step => (step.label, step.link, step.deferred))
    = (forestAll grown).map fun g => (g.after.label, g.after.link, g.after.deferred?)
  /-- Children were put in place exactly where the script gives them and no entry in front has the
  same name. -/
  given_iff : ∀ earlier mark later, forestMarks grown = earlier ++ mark :: later →
    ∀ forest, mark.given = some forest ↔
      Gives files dir mark.name forest ∧ mark.name ∉ earlier.map Mark.name
  /-- The entries at which this happened are counted. -/
  resolved_eq : resolution.resolved = (forestMarks grown).countP fun mark => mark.given.isSome
  /-- Each name that fails gives one warning, in the order of first occurrence. -/
  notices_eq : resolution.notices = ((forestMarks grown).map Mark.name).eraseDups.filterMap
    (failure? (loadSubtree files dir))

/-- **What becomes of deferred subtrees** depends on the scripts and on the document order of the
names. -/
theorem resolve_outcome (tree : Tree) (files : Files) (dir : Path) :
    ∃ grown, (tree.resolve files dir).Outcome tree files dir grown := by
  obtain ⟨names, hcard, hload⟩ := exists_loadable files dir
  -- There is a level over for every script that could be put in place inside of others.
  have hleft : Progress.start.left names < files.count + 1 :=
    Nat.lt_succ_of_le (Nat.le_trans (Finset.card_filter_le _ _) hcard)
  obtain ⟨grown, hbefore, hafter, hfollows⟩ :=
    grows_resolveDeep hload _ .start tree.roots hleft
  refine ⟨grown, hbefore, ?_, ?_, ?_, ?_, ?_⟩
  · rw [hafter]
    rfl
  · rw [Tree.walk_eq, ← map_forestAll 0 grown, hafter]
    rfl
  · intro earlier mark later hmarks forest
    rw [hmarks] at hfollows
    have hgiven := hfollows.given_eq
    have hstart : mark.name ∉ Progress.start.tried := List.not_mem_nil
    rw [hgiven, ← loadSubtree_eq_ok_iff]
    by_cases hearlier : mark.name ∈ earlier.map Mark.name
    · simp [hearlier]
    · rw [if_neg (not_or.2 ⟨hstart, hearlier⟩)]
      cases loadSubtree files dir mark.name with
      | error e => simp [Except.toOption]
      | ok given => simp [Except.toOption, hearlier]
  · exact hfollows.resolved_eq.trans (Nat.zero_add _)
  · exact hfollows.notices_eq rfl

/-- A directory with a script that names itself. -/
def loopFiles : Files :=
  ⟨.directory [("loop.js", .file (some "var loop = [[\"again\", \"again.html\", \"loop\"]];"))], []⟩

-- The second entry of the name stays deferred.
example : ((Tree.ofParts [.deferred "root" "index.html" "loop"] .empty).resolve
    loopFiles "").tree.roots
      = [.branch "root" "index.html" [.deferred "again" "again.html" "loop"]] := by
  decide +kernel

end DocSite.Nav

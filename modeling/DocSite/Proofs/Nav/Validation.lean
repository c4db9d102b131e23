import DocSite.Proofs.Nav.RoundTrip
import DocSite.Proofs.Nav.WellFormed

/-! # What descriptors are accepted

Reading a part of a navigation literal either gives what the part tells, which then is well formed,
or complains about the first part of it that does not have the shape of its role (`Verdict`). The
parts are read from the first to the last, so the verdict on an entry is put together from those on
its fields, and the verdict on a forest from those on its entries.

The main statement is `ofScript_verdict`: a descriptor is accepted exactly if its navigation literal
is well formed and its pages can be told apart. -/

namespace DocSite.Nav

/-! ## Verdicts -/

/-- What reading a part in a role comes to, where `Tells` says what the part tells. -/
inductive Verdict {α : Type} (role : Role) (location : String) (l : Literal) (Tells : α → Prop) :
    Except Error α → Prop where
  /-- It is well formed and tells what is read. -/
  | read {a : α} (hwell : WellFormed role l) (htells : Tells a) :
      Verdict role location l Tells (.ok a)
  /-- Its first fault is complained about. -/
  | fault {path : List Nat} (reason : String) (h : FirstFault role l path) :
      Verdict role location l Tells
        (.error (.malformedNavigation (path.foldl itemLocation location) reason))

/-- What reading items comes to that stand from position `i` on in the array at a place. -/
inductive ItemsVerdict (location : String) (i : Nat) (items : List Literal) :
    Except Error (List Node) → Prop where
  /-- They are well formed and tell what is read. -/
  | read {nodes : List Node} (hwell : ∀ item ∈ items, WellFormed .entry item)
      (htells : items = forestLiterals nodes) : ItemsVerdict location i items (.ok nodes)
  /-- The first fault of the first item with a fault is complained about. -/
  | fault {k : Nat} {item : Literal} {path : List Nat} (reason : String)
      (hitem : items[k]? = some item)
      (hfront : ∀ j < k, ∃ sub, items[j]? = some sub ∧ WellFormed .entry sub)
      (h : FirstFault .entry item path) : ItemsVerdict location i items
        (.error (.malformedNavigation
          (path.foldl itemLocation (itemLocation location (i + k))) reason))

namespace Verdict

variable {role : Role} {location : String} {l : Literal} {α : Type} {Tells : α → Prop}
  {result : Except Error α}

/-- A part of another shape is a fault itself. -/
theorem of_not_fits (reason : String) (h : ¬role.Fits l) :
    Verdict role location l Tells (.error (.malformedNavigation location reason)) :=
  .fault reason (.here h)

/-- A part is read exactly if it is well formed. -/
theorem exists_ok_iff (h : Verdict role location l Tells result) :
    (∃ a, result = .ok a) ↔ WellFormed role l := by
  cases h with
  | read hwell htells => exact ⟨fun _ => hwell, fun _ => ⟨_, rfl⟩⟩
  | fault reason h =>
      constructor
      · rintro ⟨a, ha⟩
        cases ha
      · exact fun hwell => absurd hwell h.not_wellFormed

/-- What is read is what the part tells. -/
theorem tells {a : α} (h : Verdict role location l Tells (.ok a)) : Tells a := by
  cases h with
  | read hwell htells => exact htells

end Verdict

/-- An array of items in a role in which all items are entries has the verdict on its items. -/
theorem ItemsVerdict.verdict {role : Role} {location : String} {items : List Literal}
    {result : Except Error (List Node)} (h : ItemsVerdict location 0 items result)
    (hrole : role = .forest ∨ role = .children) :
    Verdict role location (.array items) (fun nodes => items = forestLiterals nodes) result := by
  have hentry : ∀ i, role.item? i = some .entry := by
    rcases hrole with rfl | rfl
    · exact fun i => rfl
    · exact fun i => rfl
  cases h with
  | read hwell htells =>
      rcases hrole with rfl | rfl
      · exact .read (.forest hwell) htells
      · exact .read (.children hwell) htells
  | @fault k item path reason hitem hfront h =>
      have hfits : role.Fits (.array items) := by
        rcases hrole with rfl | rfl
        · trivial
        · trivial
      have hfault : FirstFault role (.array items) (k :: path) := by
        refine .cons hfits (hentry k) hitem (fun j hj => ?_) h
        obtain ⟨sub, hsub, hwell⟩ := hfront j hj
        exact ⟨.entry, sub, hentry j, hsub, hwell⟩
      rw [Nat.zero_add]
      exact .fault reason hfault

/-! ## Fields -/

/-- The verdict on a label. -/
theorem verdict_labelOf (location : String) (l : Literal) :
    Verdict .label (itemLocation location 0) l (fun label => l = .string label)
      (labelOf location l) := by
  cases l with
  | string text => exact .read (.label text) rfl
  | _ => exact .of_not_fits _ id

/-- The verdict on a link. -/
theorem verdict_linkOf (location : String) (l : Literal) :
    Verdict .link (itemLocation location 1) l (fun link => l = .string link)
      (linkOf location l) := by
  cases l with
  | string text =>
      rw [linkOf]
      split
      next hempty => exact .of_not_fits _ fun hne => hne hempty
      next hne => exact .read (.link hne) rfl
  | _ => exact .of_not_fits _ id

/-! ## Entries -/

/-- The first field of an entry without a label is its fault. -/
theorem firstFault_label {label link children : Literal} {path : List Nat}
    (h : FirstFault .label label path) :
    FirstFault .entry (.array [label, link, children]) (0 :: path) :=
  .cons trivial rfl rfl (fun j hj => absurd hj (Nat.not_lt_zero j)) h

/-- The second one of an entry with a label, but without a link. -/
theorem firstFault_link {label link children : Literal} {path : List Nat}
    (hlabel : WellFormed .label label) (h : FirstFault .link link path) :
    FirstFault .entry (.array [label, link, children]) (1 :: path) := by
  refine .cons trivial rfl rfl (fun j hj => ?_) h
  obtain rfl : j = 0 := by omega
  exact ⟨.label, label, rfl, rfl, hlabel⟩

/-- The third one, or something in it, of an entry with a label and a link. -/
theorem firstFault_children {label link children : Literal} {path : List Nat}
    (hlabel : WellFormed .label label) (hlink : WellFormed .link link)
    (h : FirstFault .children children path) :
    FirstFault .entry (.array [label, link, children]) (2 :: path) := by
  refine .cons trivial rfl rfl (fun j hj => ?_) h
  obtain rfl | rfl : j = 0 ∨ j = 1 := by omega
  · exact ⟨.label, label, rfl, rfl, hlabel⟩
  · exact ⟨.link, link, rfl, rfl, hlink⟩

mutual

/-- **The verdict on an entry.** -/
theorem verdict_nodeOf (location : String) : (l : Literal) →
    Verdict .entry location l (fun node => l = node.literal) (nodeOf location l)
  | .array fields => by
      rw [nodeOf]
      exact verdict_nodeOfFields location fields
  | .null => .of_not_fits _ id
  | .bool _ => .of_not_fits _ id
  | .number _ => .of_not_fits _ id
  | .string _ => .of_not_fits _ id
  | .object _ => .of_not_fits _ id

/-- The verdict on the fields of an entry. -/
theorem verdict_nodeOfFields (location : String) : (fields : List Literal) →
    Verdict .entry location (.array fields) (fun node => .array fields = node.literal)
      (nodeOfFields location fields)
  | [label, link, children] => by
      -- A field is read only where those in front of it are well formed.
      have hlabel := verdict_labelOf location label
      have hlink := verdict_linkOf location link
      rw [nodeOfFields]
      generalize labelOf location label = read at hlabel
      cases hlabel with
      | fault reason h => exact .fault reason (firstFault_label h)
      | @read text hlabel htext =>
          generalize linkOf location link = read at hlink
          cases hlink with
          | fault reason h => exact .fault reason (firstFault_link hlabel h)
          | @read target hlink htarget =>
              have hchildren := verdict_nodeAbove location text target children
              simp only
              generalize nodeAbove location text target children = read at hchildren
              cases hchildren with
              | fault reason h => exact .fault reason (firstFault_children hlabel hlink h)
              | read hchildren htells =>
                  subst htext htarget
                  exact .read (.entry hlabel hlink hchildren) htells
  | [] => .of_not_fits _ id
  | [_] => .of_not_fits _ id
  | [_, _] => .of_not_fits _ id
  | _ :: _ :: _ :: _ :: _ => .of_not_fits _ id

/-- The verdict on what is below an entry. -/
theorem verdict_nodeAbove (location label link : String) : (children : Literal) →
    Verdict .children (itemLocation location 2) children
      (fun node => .array [.string label, .string link, children] = node.literal)
      (nodeAbove location label link children)
  | .null => .read .none rfl
  | .array items => by
      have hitems := (verdict_nodesOf (itemLocation location 2) 0 items).verdict
        (.inr (Eq.refl Role.children))
      rw [nodeAbove]
      generalize nodesOf (itemLocation location 2) 0 items = read at hitems
      cases hitems with
      | fault reason h => exact .fault reason h
      | read hwell htells => exact .read hwell (by rw [htells]; rfl)
  | .string name => by
      rw [nodeAbove]
      split
      next hempty => exact .of_not_fits _ fun hne => hne hempty
      next hne => exact .read (.deferred hne) rfl
  | .bool _ => .of_not_fits _ id
  | .number _ => .of_not_fits _ id
  | .object _ => .of_not_fits _ id

/-- **The verdict on entries in a row.** -/
theorem verdict_nodesOf (location : String) (i : Nat) : (items : List Literal) →
    ItemsVerdict location i items (nodesOf location i items)
  | [] => .read (List.forall_mem_nil _) rfl
  | item :: rest => by
      have hitem := verdict_nodeOf (itemLocation location i) item
      have hrest := verdict_nodesOf location (i + 1) rest
      rw [nodesOf]
      generalize nodeOf (itemLocation location i) item = read at hitem
      cases hitem with
      | fault reason h =>
          exact .fault (k := 0) reason rfl (fun j hj => absurd hj (Nat.not_lt_zero j)) h
      | @read node hitem htells =>
          simp only
          generalize nodesOf location (i + 1) rest = read at hrest
          cases hrest with
          | read hwell hmore =>
              refine .read (List.forall_mem_cons.2 ⟨hitem, hwell⟩) ?_
              rw [forestLiterals, htells, hmore]
          | @fault k sub path reason hsub hfront h =>
              -- A fault behind the first item stands one position further on from here.
              have hplace : i + 1 + k = i + (k + 1) := by omega
              rw [hplace]
              refine .fault (k := k + 1) reason hsub (fun j hj => ?_) h
              cases j with
              | zero => exact ⟨item, rfl, hitem⟩
              | succ j => exact hfront j (Nat.lt_of_succ_lt_succ hj)

end

/-- **The verdict on a table of contents.** -/
theorem verdict_forestOf (location : String) (l : Literal) :
    Verdict .forest location l (fun roots => l = .array (forestLiterals roots))
      (forestOf location l) := by
  cases l with
  | array items =>
      have hitems := (verdict_nodesOf location 0 items).verdict (.inl (Eq.refl Role.forest))
      rw [forestOf]
      generalize nodesOf location 0 items = read at hitems
      cases hitems with
      | read hwell htells => exact .read hwell (by rw [htells])
      | fault reason h => exact .fault reason h
  | _ => exact .of_not_fits _ id

/-! ## Pages -/

/-- Whether a literal lists pages that can be told apart. -/
def ListsPages (l : Literal) : Prop :=
  ∃ pages : List String, l = .array (pages.map .string) ∧ pages.Nodup ∧ ∀ page ∈ pages, page ≠ ""

/-- The names of pages that are read are those that the items tell. -/
theorem eq_map_of_pageNamesOf {i : Nat} {items : List Literal} {pages : List String}
    (h : pageNamesOf i items = .ok pages) : items = pages.map .string := by
  induction items generalizing i pages with
  | nil =>
      cases h
      rfl
  | cons item rest ih =>
      cases item with
      | string page =>
          rw [pageNamesOf] at h
          split at h
          next more hmore =>
            cases h
            rw [List.map_cons, ih hmore]
          next => cases h
      | _ => cases h

/-- The pages of an order that is made from a list are those of the list. -/
theorem PageIndex.pages_of_ofList {pages : List String} {index : PageIndex}
    (h : PageIndex.ofList pages = .ok index) : index.pages = pages := by
  rw [ofList] at h
  split at h
  next => cases h
  next =>
    cases h
    rfl

/-- **The pages that a declaration lists** can be put in order exactly if they can be told apart. -/
theorem exists_index_iff (declared : Option Literal) :
    (∃ pages index, pagesOf declared = .ok pages ∧ PageIndex.ofList pages = .ok index) ↔
      ∀ l ∈ declared, ListsPages l := by
  constructor
  · rintro ⟨pages, index, hpages, hindex⟩ l hl
    cases hl
    cases l with
    | array items =>
        refine ⟨pages, ?_, ?_, ?_⟩
        · rw [eq_map_of_pageNamesOf hpages]
        · rw [← PageIndex.pages_of_ofList hindex]
          exact index.nodup
        · rw [← PageIndex.pages_of_ofList hindex]
          exact index.nonempty
    | _ => cases hpages
  · intro h
    cases declared with
    | none => exact ⟨[], .empty, rfl, PageIndex.empty.ofList_pages⟩
    | some l =>
        obtain ⟨pages, rfl, hnodup, hne⟩ := h l rfl
        exact ⟨pages, ⟨pages, hnodup, hne⟩, pageNamesOf_map pages 0,
          PageIndex.ofList_pages ⟨pages, hnodup, hne⟩⟩

/-! ## Descriptors -/

/-- A descriptor's tree is put together from what its declarations tell. -/
theorem ofScript_eq_ok_iff {script : Script} {tree : Tree} : Tree.ofScript script = .ok tree ↔
    (∃ l, script.get? treeVariable = some l ∧ forestOf treeVariable l = .ok tree.roots) ∧
      (∃ pages, pagesOf (script.get? PageIndex.variableName) = .ok pages ∧
        PageIndex.ofList pages = .ok tree.index) ∧ tree.sync = Tree.syncOf script := by
  obtain ⟨roots, index, sync⟩ := tree
  rw [Tree.ofScript]
  constructor
  · intro h
    split at h
    · cases h
    next l hget =>
      split at h
      · cases h
      next roots hroots =>
        split at h
        · cases h
        next pages hpages =>
          split at h
          · cases h
          next index hindex =>
            cases h
            exact ⟨⟨l, hget, hroots⟩, ⟨pages, hpages, hindex⟩, rfl⟩
  · rintro ⟨⟨l, hget, hroots⟩, ⟨pages, hpages, hindex⟩, rfl⟩
    simp only [hget, hroots, hpages, hindex]

/-- **What a descriptor comes to.** It is accepted exactly if its table of contents is well formed
and its pages can be told apart, and then the tree tells its literal. If its table of contents is
not well formed, the first fault is complained about, by a name that no other part has. -/
theorem ofScript_verdict (script : Script) :
    ((∃ tree, Tree.ofScript script = .ok tree) ↔
      (∃ l, script.get? treeVariable = some l ∧ WellFormed .forest l) ∧
        ∀ l ∈ script.get? PageIndex.variableName, ListsPages l) ∧
    (∀ tree, Tree.ofScript script = .ok tree →
      script.get? treeVariable = some (.array (forestLiterals tree.roots))) ∧
    ∀ l, script.get? treeVariable = some l → ¬WellFormed .forest l → ∃ path reason,
      Tree.ofScript script = .error (.malformedNavigation (locationOf path) reason) ∧
        FirstFault .forest l path ∧ ∀ other, locationOf other = locationOf path → other = path := by
  refine ⟨⟨?_, ?_⟩, ?_, ?_⟩
  · rintro ⟨tree, htree⟩
    obtain ⟨⟨l, hget, hroots⟩, ⟨pages, hpages, hindex⟩, -⟩ := ofScript_eq_ok_iff.1 htree
    exact ⟨⟨l, hget, (verdict_forestOf treeVariable l).exists_ok_iff.1 ⟨_, hroots⟩⟩,
      (exists_index_iff _).1 ⟨pages, _, hpages, hindex⟩⟩
  · rintro ⟨⟨l, hget, hwell⟩, hlists⟩
    obtain ⟨roots, hroots⟩ := (verdict_forestOf treeVariable l).exists_ok_iff.2 hwell
    obtain ⟨pages, index, hpages, hindex⟩ := (exists_index_iff _).2 hlists
    exact ⟨⟨roots, index, Tree.syncOf script⟩,
      ofScript_eq_ok_iff.2 ⟨⟨l, hget, hroots⟩, ⟨pages, hpages, hindex⟩, rfl⟩⟩
  · intro tree htree
    obtain ⟨⟨l, hget, hroots⟩, -, -⟩ := ofScript_eq_ok_iff.1 htree
    have hverdict := verdict_forestOf treeVariable l
    rw [hroots] at hverdict
    rw [hget, hverdict.tells]
  · intro l hget hbad
    have hverdict := verdict_forestOf treeVariable l
    rw [Tree.ofScript, hget]
    simp only
    generalize forestOf treeVariable l = read at hverdict
    cases hverdict with
    | read hwell htells => exact absurd hwell hbad
    | @fault path reason h => exact ⟨path, reason, rfl, h, fun other => locationOf_inj⟩

/-- A table of contents whose second entry has an empty link. -/
def emptyLinkContents : Literal :=
  .array [.array [.string "First", .string "first.html", .array []],
    .array [.string "Second", .string "", .number .nan]]

/-- The empty link is complained about, not the number behind it. -/
theorem ofScript_verdict_emptyLink :
    Tree.ofScript ⟨[(treeVariable, emptyLinkContents)]⟩
        = .error (.malformedNavigation "NAVTREE[1][1]" "link is empty") ∧
      FirstFault .forest emptyLinkContents [1, 1] := by
  have hread : Tree.ofScript ⟨[(treeVariable, emptyLinkContents)]⟩
      = .error (.malformedNavigation (locationOf [1, 1]) "link is empty") := rfl
  have hbad : ¬WellFormed .forest emptyLinkContents := by
    intro h
    have hpart : partAt? .forest emptyLinkContents [1, 1] = some (.link, .string "") := rfl
    exact (h.partAt? hpart).fits rfl
  obtain ⟨-, -, hfault⟩ := ofScript_verdict ⟨[(treeVariable, emptyLinkContents)]⟩
  obtain ⟨path, reason, herror, hfirst, hunique⟩ := hfault emptyLinkContents rfl hbad
  rw [hread] at herror
  injection herror with herror
  injection herror with hlocation hreason
  rw [hunique [1, 1] hlocation]
  exact ⟨rfl, hfirst⟩

end DocSite.Nav

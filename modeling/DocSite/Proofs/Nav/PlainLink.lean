import DocSite.Nav.Link
import DocSite.Proofs.Nav.Validation
import DocSite.Proofs.Nav.Walk

/-! # Plain links of sound descriptors

The plain links of a descriptor are looked for without knowing what its parts stand for: any array
that begins with two strings, the second not empty, is taken for an entry. Where an entry is well
formed this finds what a walk finds: its label and link, nothing in its label, its link or the name
of its script, and nothing in the brackets around its children (`linksIn_literal`). A part's links
stand together in those of the whole (`isInfix_linksIn`), so sound parts of a faulty descriptor lose
nothing. The main statement is `links_agree_with_walk`. -/

namespace DocSite

/-- Whether a literal is reached from another one through arrays alone. -/
inductive Literal.Reaches : Literal → Literal → Prop where
  /-- It is that literal. -/
  | self (l : Literal) : Reaches l l
  /-- It is reached from an item of an array. -/
  | item {items : List Literal} {item sub : Literal} (h : item ∈ items)
      (hsub : Reaches item sub) : Reaches (.array items) sub

namespace Nav

open DocSite.Script

/-! ## Entries -/

/-- The link that a step of a walk shows. -/
def Step.asLink (step : Step) : Link :=
  ⟨step.label, step.link⟩

/-- An array of entries is no entry: it begins with an array. -/
theorem linkOfItems_forestLiterals (forest : List Node) :
    linkOfItems (forestLiterals forest) = [] := by
  cases forest with
  | nil => rfl
  | cons node rest =>
      cases node with
      | leaf => rfl
      | branch => rfl
      | deferred => rfl

/-- The array of an entry gives the entry's link, and then those in its third item. -/
theorem linksIn_entry {label link : String} (hlink : link ≠ "") (children : Literal) :
    linksIn (.array [.string label, .string link, children])
      = ⟨label, link⟩ :: linksIn children := by
  simp [linksIn, linksInItems, linkOfItems, hlink]

/-- An array of entries gives the links of the entries. -/
theorem linksIn_forestLiterals (forest : List Node) :
    linksIn (.array (forestLiterals forest)) = linksInItems (forestLiterals forest) := by
  rw [linksIn, linkOfItems_forestLiterals, List.nil_append]

mutual

/-- **The links in the literal of an entry are those that a walk passes**, if all entries have
one. -/
theorem Node.linksIn_literal (depth : Nat) : (node : Node) → node.IsWritable →
    linksIn node.literal = (node.preorder depth).map Step.asLink
  | .leaf label link, h => by
      rw [Node.literal, linksIn_entry h]
      rfl
  | .deferred label link name, h => by
      rw [Node.literal, linksIn_entry h.1]
      rfl
  | .branch label link children, h => by
      rw [Node.literal, linksIn_entry h.1, linksIn_forestLiterals,
        linksInItems_forestLiterals (depth + 1) children h.2]
      rfl

/-- The links in the literals of a forest are those that a walk passes. -/
theorem linksInItems_forestLiterals (depth : Nat) : (forest : List Node) → ForestIsWritable forest →
    linksInItems (forestLiterals forest) = (forestPreorder depth forest).map Step.asLink
  | [], _ => rfl
  | node :: rest, h => by
      rw [forestLiterals, linksInItems, forestPreorder, List.map_append,
        node.linksIn_literal depth h.1, linksInItems_forestLiterals depth rest h.2]

end

/-! ## Parts -/

/-- The links in an item stand together in those of all items. -/
theorem isInfix_linksInItems {items : List Literal} {item : Literal} (h : item ∈ items) :
    linksIn item <:+: linksInItems items := by
  induction items with
  | nil => cases h
  | cons first rest ih =>
      rw [linksInItems]
      rcases List.mem_cons.1 h with rfl | h
      · exact (List.prefix_append _ _).isInfix
      · exact (ih h).trans (List.suffix_append _ _).isInfix

/-- **The links in a part stand together in those of the whole.** -/
theorem isInfix_linksIn {l sub : Literal} (h : l.Reaches sub) :
    linksIn sub <:+: linksIn l := by
  induction h with
  | self l => exact List.infix_refl _
  | item hitem _ ih =>
      rw [linksIn]
      exact (ih.trans (isInfix_linksInItems hitem)).trans (List.suffix_append _ _).isInfix

/-- The beginning of an array gives no empty link. -/
theorem ne_empty_of_mem_linkOfItems {items : List Literal} {link : Link}
    (h : link ∈ linkOfItems items) : link.link ≠ "" := by
  rw [linkOfItems.eq_def] at h
  split at h
  · split at h
    next => cases h
    next hne =>
      rw [List.mem_singleton.1 h]
      exact hne
  · cases h

mutual

/-- No link in a literal is empty. -/
theorem ne_empty_of_mem_linksIn {link : Link} : (l : Literal) → link ∈ linksIn l → link.link ≠ ""
  | .array items, h => by
      rw [linksIn] at h
      rcases List.mem_append.1 h with h | h
      · exact ne_empty_of_mem_linkOfItems h
      · exact ne_empty_of_mem_linksInItems items h
  | .null, h => nomatch h
  | .bool _, h => nomatch h
  | .number _, h => nomatch h
  | .string _, h => nomatch h
  | .object _, h => nomatch h

/-- No link in literals in a row is empty. -/
theorem ne_empty_of_mem_linksInItems {link : Link} :
    (items : List Literal) → link ∈ linksInItems items → link.link ≠ ""
  | [], h => nomatch h
  | item :: rest, h => by
      rw [linksInItems] at h
      rcases List.mem_append.1 h with h | h
      · exact ne_empty_of_mem_linksIn item h
      · exact ne_empty_of_mem_linksInItems rest h

end

/-! ## Descriptors -/

/-- A well-formed entry is read, wherever it stands, and its links are those that a walk passes. -/
theorem WellFormed.exists_node {l : Literal} (h : WellFormed .entry l) : ∃ node : Node,
    l = node.literal ∧ (∀ location, nodeOf location l = .ok node) ∧
      linksIn l = (Walk.start [node]).toList.map Step.asLink := by
  obtain ⟨node, hnode⟩ := (verdict_nodeOf "" l).exists_ok_iff.2 h
  have htells : l = node.literal := by
    have hverdict := verdict_nodeOf "" l
    rw [hnode] at hverdict
    exact hverdict.tells
  have hwritable := isWritable_of_nodeOf l hnode
  refine ⟨node, htells, fun location => ?_, ?_⟩
  · rw [htells]
    exact (nodeOf_literal node location).eq_ok_iff.2 hwritable
  · rw [htells, node.linksIn_literal 0 hwritable, Walk.toList_start, forestPreorder, forestPreorder,
      List.append_nil]

/-- A table of contents that is read tells its entries, and nothing else. -/
theorem eq_of_forestOf {location : String} {l : Literal} {roots : List Node}
    (h : forestOf location l = .ok roots) : l = .array (forestLiterals roots) := by
  have hverdict := verdict_forestOf location l
  rw [h] at hverdict
  exact hverdict.tells

/-- The links in a well-formed table of contents are those that a walk passes. -/
theorem linksIn_of_forestOf {location : String} {l : Literal} {roots : List Node}
    (h : forestOf location l = .ok roots) :
    linksIn l = (Walk.start roots).toList.map Step.asLink := by
  rw [eq_of_forestOf h, linksIn_forestLiterals,
    linksInItems_forestLiterals 0 roots (isWritable_of_forestOf h), Walk.toList_start]

/-- If a script can be read, the plain links are those in its table of contents. -/
theorem fallbackLinks_eq {source : String} {script : Script} {l : Literal}
    (hparse : Script.parse source = .ok script) (hget : script.get? treeVariable = some l) :
    fallbackLinks source = (linksIn l, []) := by
  rw [fallbackLinks, hparse]
  simp only [linksOfScript, hget]

/-- A descriptor that is accepted has a script and a table of contents in it. -/
theorem Tree.exists_of_parse {source : String} {tree : Tree} (h : Tree.parse source = .ok tree) :
    ∃ script l, Script.parse source = .ok script ∧ script.get? treeVariable = some l ∧
      forestOf treeVariable l = .ok tree.roots := by
  rw [Tree.parse] at h
  split at h
  · cases h
  next script hparse =>
    obtain ⟨⟨l, hget, hroots⟩, -, -⟩ := ofScript_eq_ok_iff.1 h
    exact ⟨script, l, hparse, hget, hroots⟩

/-- No plain link is empty, whatever the text. -/
theorem ne_empty_of_mem_fallbackLinks {source : String} {link : Link}
    (h : link ∈ (fallbackLinks source).1) : link.link ≠ "" := by
  rw [fallbackLinks] at h
  split at h
  next script _ =>
    rw [linksOfScript] at h
    split at h
    next l _ => exact ne_empty_of_mem_linksIn l h
    next => cases h
  next => cases h

/-- **Plain links agree with a walk.** If the script can be read and its table of contents is well
formed, the plain links are those that a walk passes, whether or not the rest of the descriptor is
accepted. In any table of contents, what a walk through a well-formed entry passes stands together
among the plain links, and none of these is empty. -/
theorem links_agree_with_walk (source : String) :
    (∀ script l, Script.parse source = .ok script → script.get? treeVariable = some l →
      (WellFormed .forest l → ∃ roots, forestOf treeVariable l = .ok roots ∧
        l = .array (forestLiterals roots) ∧
        fallbackLinks source = ((Walk.start roots).toList.map Step.asLink, [])) ∧
      ∀ sub, l.Reaches sub → WellFormed .entry sub → ∃ node : Node,
        (∀ location, nodeOf location sub = .ok node) ∧ sub = node.literal ∧
        (Walk.start [node]).toList.map Step.asLink <:+: (fallbackLinks source).1) ∧
    (∀ tree, Tree.parse source = .ok tree →
      fallbackLinks source = (tree.walk.map Step.asLink, [])) ∧
    ∀ link ∈ (fallbackLinks source).1, link.link ≠ "" := by
  refine ⟨fun script l hparse hget => ⟨fun hwell => ?_, fun sub hreaches hwell => ?_⟩,
    fun tree htree => ?_, fun link hlink => ne_empty_of_mem_fallbackLinks hlink⟩
  · obtain ⟨roots, hroots⟩ := (verdict_forestOf treeVariable l).exists_ok_iff.2 hwell
    refine ⟨roots, hroots, eq_of_forestOf hroots, ?_⟩
    rw [fallbackLinks_eq hparse hget, linksIn_of_forestOf hroots]
  · obtain ⟨node, htells, hread, hlinks⟩ := hwell.exists_node
    refine ⟨node, hread, htells, ?_⟩
    rw [fallbackLinks_eq hparse hget, ← hlinks]
    exact isInfix_linksIn hreaches
  · obtain ⟨script, l, hparse, hget, hroots⟩ := Tree.exists_of_parse htree
    rw [fallbackLinks_eq hparse hget, linksIn_of_forestOf hroots]
    rfl

/-- A descriptor with a sound table of contents that lists a page twice. -/
def repeatedPage : String :=
  "var NAVTREE = [['Home', 'index.html', [['Guide', 'guide.html', 'guide_dup']]]];"
    ++ "var NAVTREEINDEX = ['index.html', 'index.html'];"

/-- The entries of that descriptor. -/
def repeatedPageRoots : List Node :=
  [.branch "Home" "index.html" [.deferred "Guide" "guide.html" "guide_dup"]]

/-- A tree of which an entry leads nowhere, but not the entry below it. -/
def unlinkedTree : Tree :=
  .ofParts [.branch "Home" "" [.leaf "Guide" "guide.html"]] .empty

/-- What an outcome gives is what it succeeds with. -/
theorem eq_ok_of_toOption {ε α : Type} {r : Except ε α} {a : α} (h : r.toOption = some a) :
    r = .ok a := by
  cases r with
  | error e => cases h
  | ok b => rw [Option.some.inj h]

/-- The table of contents of the first is well formed. -/
theorem wellFormed_repeatedPage : ∃ script l, Script.parse repeatedPage = .ok script ∧
    script.get? treeVariable = some l ∧ forestOf treeVariable l = .ok repeatedPageRoots ∧
      WellFormed .forest l := by
  have hread : ((Script.parse repeatedPage).toOption.bind fun script =>
      (script.get? treeVariable).bind fun l => (forestOf treeVariable l).toOption)
        = some repeatedPageRoots := by
    decide +kernel
  obtain ⟨script, hscript, hread⟩ := Option.bind_eq_some_iff.1 hread
  obtain ⟨l, hget, hroots⟩ := Option.bind_eq_some_iff.1 hread
  have hforest := eq_ok_of_toOption hroots
  exact ⟨script, l, eq_ok_of_toOption hscript, hget, hforest,
    (verdict_forestOf treeVariable l).exists_ok_iff.1 ⟨_, hforest⟩⟩

/-- The table of contents of the second is not, but its inner entry is. -/
theorem not_wellFormed_unlinkedTree :
    Script.parse unlinkedTree.render = .ok ⟨unlinkedTree.bindings⟩ ∧
    ¬WellFormed .forest (.array (forestLiterals unlinkedTree.roots)) ∧
    (Literal.array (forestLiterals unlinkedTree.roots)).Reaches
      (Node.leaf "Guide" "guide.html").literal ∧
    WellFormed .entry (Node.leaf "Guide" "guide.html").literal := by
  refine ⟨parse_of_declares (declares_render unlinkedTree), fun h => ?_, ?_, ?_⟩
  · have hpart : partAt? .forest (.array (forestLiterals unlinkedTree.roots)) [0, 1]
        = some (.link, .string "") := rfl
    exact (h.partAt? hpart).fits rfl
  · exact .item (List.mem_singleton_self _)
      (.item (.tail _ (.tail _ (.head _))) (.item (List.mem_singleton_self _) (.self _)))
  · exact .entry (.label "Guide") (.link (by decide)) .none

/-- The descriptor with a page listed twice is refused, but its plain links are those of its
entries; and of a table of contents with a faulty entry the sound one below it is kept. -/
theorem links_agree_with_walk_repeatedPage :
    (¬(∃ tree, Tree.parse repeatedPage = .ok tree) ∧
      fallbackLinks repeatedPage = ([⟨"Home", "index.html"⟩, ⟨"Guide", "guide.html"⟩], [])) ∧
    ¬WellFormed .forest (.array (forestLiterals unlinkedTree.roots)) ∧
      [⟨"Guide", "guide.html"⟩] <:+: (fallbackLinks unlinkedTree.render).1 := by
  refine ⟨⟨?_, ?_⟩, not_wellFormed_unlinkedTree.2.1, ?_⟩
  · rintro ⟨tree, htree⟩
    have hrefused : (Tree.parse repeatedPage).isOk = false := by decide +kernel
    rw [htree] at hrefused
    cases hrefused
  · obtain ⟨script, l, hparse, hget, hroots, hwell⟩ := wellFormed_repeatedPage
    obtain ⟨roots, hread, -, hlinks⟩ :=
      ((links_agree_with_walk repeatedPage).1 script l hparse hget).1 hwell
    rw [hlinks, ← Except.ok.inj (hroots.symm.trans hread)]
    rfl
  · obtain ⟨hparse, -, hreaches, hwell⟩ := not_wellFormed_unlinkedTree
    obtain ⟨node, hread, -, hlinks⟩ :=
      ((links_agree_with_walk unlinkedTree.render).1 _ _ hparse rfl).2 _ hreaches hwell
    have hleaf : nodeOf "" (Node.leaf "Guide" "guide.html").literal
        = .ok (.leaf "Guide" "guide.html") := rfl
    rw [← Except.ok.inj (hleaf.symm.trans (hread ""))] at hlinks
    exact hlinks

end Nav

end DocSite

import DocSite.Nav.Printer
import DocSite.Proofs.Nav.Writable
import DocSite.Proofs.Readback
import DocSite.Proofs.Script.Declared

/-! # Descriptors read back

A tree that is written as a descriptor and read again is the same tree, as long as a descriptor can
tell it; otherwise reading complains about the descriptor.

* **`declares_render`** — the text of a tree is a script, whatever is in the tree: it declares the
  literals of the forest, of the order of pages and of the texts for the switch.
* **`nodeOf_literal`**, **`nodesOf_forestLiterals`** — an entry or a forest is read back from its
  literals if it can be told; the two go through the tree together.
* **`parse_render_tree`** — the same of whole trees, from text to text. -/

namespace DocSite.Nav

open DocSite.Script

/-! ## Literals -/

mutual

/-- The literal that tells an entry. -/
def Node.literal : Node → Literal
  | .leaf label link => .array [.string label, .string link, .null]
  | .branch label link children =>
      .array [.string label, .string link, .array (forestLiterals children)]
  | .deferred label link name => .array [.string label, .string link, .string name]

/-- The literals that tell the entries of a forest. -/
def forestLiterals : List Node → List Literal
  | [] => []
  | node :: rest => node.literal :: forestLiterals rest

end

/-- What the text of a tree declares for the switch. -/
def syncBindings : Option SyncMessages → List (String × Literal)
  | none => []
  | some sync => [(syncOnVariable, .string sync.on), (syncOffVariable, .string sync.off)]

/-- What the text of a tree declares. -/
def Tree.bindings (tree : Tree) : List (String × Literal) :=
  (treeVariable, .array (forestLiterals tree.roots))
    :: (PageIndex.variableName, .array (tree.index.pages.map .string))
    :: syncBindings tree.sync

/-! ## Writing -/

/-- The blanks in front of an entry. -/
theorem isBlank_indent (depth : Nat) : IsBlank (indent depth).toList := by
  intro c hc
  rw [indent, String.toList_ofList] at hc
  rw [List.eq_of_mem_replicate hc]
  decide

/-- The brackets of an entry around its three fields. -/
theorem written_entry {s : List Char} {children : Literal} (label link : String)
    (h : Written s children) :
    Written ('[' :: (' ' :: (quoteChars '"' label.toList ++ ',' :: ' ' ::
        (quoteChars '"' link.toList ++ ',' :: ' ' :: (s ++ [' ']))) ++ [']']))
      (.array [.string label, .string link, children]) := by
  have hchildren : WrittenItems (' ' :: (s ++ [' '])) [children] :=
    .last isBlank_space h isBlank_space
  have hlink := WrittenItems.cons isBlank_space (.string isDelimiter_double link) isBlank_nil
    hchildren
  exact .array (.cons isBlank_space (.string isDelimiter_double label) isBlank_nil hlink)

mutual

/-- **An entry is written as its literal**, behind the blanks of its depth. -/
theorem written_renderNode (depth : Nat) : (node : Node) → ∃ s,
    (renderNode depth node).toList = (indent depth).toList ++ s ∧ Written s node.literal
  | .leaf label link => by
      refine ⟨_, ?_, written_entry label link .null⟩
      simp [renderNode, opening]
  | .deferred label link name => by
      refine ⟨_, ?_, written_entry label link (.string isDelimiter_double name)⟩
      simp [renderNode, opening]
  | .branch label link children => by
      -- Without children there are only blanks between the brackets, and those are no items.
      have hforest := writtenItems_renderForest (depth + 1) children
      have hitems := (hforest.blank_append isBlank_break).append_blank (isBlank_indent depth)
      refine ⟨_, ?_, written_entry label link (.array hitems)⟩
      simp [renderNode, opening]

/-- **A forest is written as its literals**, with commas and line breaks between them. -/
theorem writtenItems_renderForest (depth : Nat) :
    (forest : List Node) → WrittenItems (renderForest depth forest).toList (forestLiterals forest)
  | [] => .none isBlank_nil
  | node :: rest => by
      obtain ⟨s, hs, hnode⟩ := written_renderNode depth node
      have hrest := writtenItems_renderForest depth rest
      cases rest with
      | nil =>
          have hlast := WrittenItems.last (isBlank_indent depth) hnode isBlank_break
          simpa [renderForest, forestLiterals, hs] using hlast
      | cons next more =>
          have hcons := WrittenItems.cons (isBlank_indent depth) hnode isBlank_nil
            (hrest.blank_append isBlank_break)
          simpa [renderForest, forestLiterals, hs] using hcons

end

/-- The names of pages are written as literals, with commas and line breaks between them. -/
theorem writtenItems_renderPages (pages : List String) :
    WrittenItems (renderPages pages).toList (pages.map .string) := by
  induction pages with
  | nil => exact .none isBlank_nil
  | cons page rest ih =>
      cases rest with
      | nil =>
          have hlast := WrittenItems.last isBlank_nil (.string isDelimiter_double page)
            isBlank_break
          simpa [renderPages] using hlast
      | cons next more =>
          have hcons := WrittenItems.cons isBlank_nil (.string isDelimiter_double page) isBlank_nil
            (ih.blank_append isBlank_break)
          simpa [renderPages] using hcons

/-- The texts for the switch are written as declarations. -/
theorem declares_renderSync (sync : Option SyncMessages) :
    Declares (renderSync sync).toList (syncBindings sync) := by
  cases sync with
  | none => exact .nil isBlank_nil
  | some sync =>
      have hoff := Declares.cons syncOffVariable isBlank_break (by decide) isBlank_space
        isBlank_space (.string isDelimiter_single sync.off) (.nil isBlank_break)
      have hon := Declares.cons syncOnVariable isBlank_break (by decide) isBlank_space
        isBlank_space (.string isDelimiter_single sync.on) hoff
      simpa [renderSync, syncBindings] using hon

/-- **The text of a tree is a script of declarations**, whatever is in the tree. -/
theorem declares_render (tree : Tree) : Declares tree.render.toList tree.bindings := by
  -- A declaration goes in front of others, so the text is put together from its end.
  have hpages := (writtenItems_renderPages tree.index.pages).blank_append isBlank_break
  have hroots := (writtenItems_renderForest 1 tree.roots).blank_append isBlank_break
  have hsync := declares_renderSync tree.sync
  have hindex := Declares.cons PageIndex.variableName (isBlank_break.append isBlank_break)
    (by decide) isBlank_space isBlank_break (.array hpages) (hsync.blank_append isBlank_break)
  have htree := Declares.cons treeVariable isBlank_nil (by decide) isBlank_space isBlank_break
    (.array hroots) hindex
  simpa [Tree.render, Tree.bindings] using htree

/-! ## Reading back -/

/-- A complaint about the descriptor. -/
def IsComplaint (e : Error) : Prop := ∃ location reason, e = .malformedNavigation location reason

/-- A link is read back unless it is empty. -/
theorem linkOf_string (location link : String) :
    Readback IsComplaint (link ≠ "") link (linkOf location (.string link)) := by
  by_cases h : link = ""
  · rw [linkOf, if_pos h]
    exact Or.inr ⟨fun hne => hne h, _, rfl, _, _, rfl⟩
  · rw [linkOf, if_neg h]
    exact Or.inl ⟨h, rfl⟩

/-- An entry is read back if its link and its children are. -/
theorem nodeOf_entry {location label link : String} {children : Literal} {node : Node} {p : Prop}
    (h : Readback IsComplaint p node (nodeAbove location label link children)) :
    Readback IsComplaint (link ≠ "" ∧ p) node
      (nodeOf location (.array [.string label, .string link, children])) := by
  refine (linkOf_string location link).and (fun hlink => ?_) (fun e hlink he => ⟨e, ?_, he⟩)
  · rw [nodeOf, nodeOfFields, labelOf]
    simp only [hlink]
    exact h
  · rw [nodeOf, nodeOfFields, labelOf]
    simp only [hlink]

/-- The name of a script is read back unless it is empty. -/
theorem nodeAbove_string (location label link name : String) :
    Readback IsComplaint (name ≠ "") (.deferred label link name)
      (nodeAbove location label link (.string name)) := by
  by_cases h : name = ""
  · rw [nodeAbove, if_pos h]
    exact Or.inr ⟨fun hne => hne h, _, rfl, _, _, rfl⟩
  · rw [nodeAbove, if_neg h]
    exact Or.inl ⟨h, rfl⟩

mutual

/-- **An entry is read back from its literal** if a descriptor can tell it. -/
theorem nodeOf_literal : (node : Node) → ∀ location : String,
    Readback IsComplaint node.IsWritable node (nodeOf location node.literal)
  | .leaf label link, location => by
      have hnull : nodeAbove location label link .null = .ok (.leaf label link) := rfl
      exact (nodeOf_entry (.of_eq hnull)).congr (by rw [and_true, Node.IsWritable])
  | .deferred label link name, location => nodeOf_entry (nodeAbove_string location label link name)
  | .branch label link children, location => by
      have hchildren := nodesOf_forestLiterals children (itemLocation location 2) 0
      refine nodeOf_entry (hchildren.map (fun h => ?_) (fun e h he => ⟨e, ?_, he⟩))
      · rw [nodeAbove, h]
      · rw [nodeAbove, h]

/-- **A forest is read back from its literals** if a descriptor can tell it. -/
theorem nodesOf_forestLiterals : (forest : List Node) → ∀ (location : String) (i : Nat),
    Readback IsComplaint (ForestIsWritable forest) forest
      (nodesOf location i (forestLiterals forest))
  | [], _, _ => .of_eq rfl
  | node :: rest, location, i => by
      have hnode := nodeOf_literal node (itemLocation location i)
      have hrest := nodesOf_forestLiterals rest location (i + 1)
      refine hnode.and (fun h => ?_) (fun e h he => ⟨e, ?_, he⟩)
      · refine hrest.map (fun hmore => ?_) (fun e hmore he => ⟨e, ?_, he⟩)
        · rw [forestLiterals, nodesOf, h, hmore]
        · rw [forestLiterals, nodesOf, h, hmore]
      · rw [forestLiterals, nodesOf, h]

end

/-- The names of pages are read back from their literals. -/
theorem pageNamesOf_map (pages : List String) (i : Nat) :
    pageNamesOf i (pages.map .string) = .ok pages := by
  induction pages generalizing i with
  | nil => rfl
  | cons page rest ih => rw [List.map_cons, pageNamesOf, ih]

namespace PageIndex

/-- Pages of which none is empty and none is repeated are without fault. -/
theorem fault?_eq_none {before pages : List String} (hnodup : (before ++ pages).Nodup)
    (hne : ∀ page ∈ pages, page ≠ "") : fault? before pages = none := by
  induction pages generalizing before with
  | nil => rfl
  | cons page rest ih =>
      have hpage : page ≠ "" := hne page List.mem_cons_self
      have hnew : before.idxOf? page = none := by
        rw [List.idxOf?_eq_none_iff]
        intro hmem
        exact (List.nodup_append.1 hnodup).2.2 page hmem page List.mem_cons_self rfl
      rw [fault?, if_neg hpage, hnew]
      apply ih
      · rwa [List.append_assoc, List.singleton_append]
      · exact fun x hx => hne x (List.mem_cons_of_mem page hx)

/-- The order of the pages of an order is that order. -/
theorem ofList_pages (index : PageIndex) : ofList index.pages = .ok index := by
  have hfault : fault? [] index.pages = none := fault?_eq_none index.nodup index.nonempty
  rw [ofList]
  split
  next h =>
      rw [hfault] at h
      cases h
  next => rfl

end PageIndex

/-- The texts for the switch are read back from what they declare. -/
theorem syncOf_bindings (tree : Tree) : Tree.syncOf ⟨tree.bindings⟩ = tree.sync := by
  obtain ⟨roots, index, sync⟩ := tree
  cases sync with
  | none => rfl
  | some sync => rfl

/-- **A tree is read back from what it declares** if a descriptor can tell it. -/
theorem ofScript_bindings (tree : Tree) :
    Readback IsComplaint tree.IsWritable tree (Tree.ofScript ⟨tree.bindings⟩) := by
  have hroots := nodesOf_forestLiterals tree.roots treeVariable 0
  have htree : Script.get? ⟨tree.bindings⟩ treeVariable
      = some (.array (forestLiterals tree.roots)) := rfl
  have hindex : Script.get? ⟨tree.bindings⟩ PageIndex.variableName
      = some (.array (tree.index.pages.map .string)) := rfl
  rw [tree.isWritable_iff]
  refine hroots.map (fun h => ?_) (fun e h he => ⟨e, ?_, he⟩)
  · rw [Tree.ofScript, htree]
    simp only [forestOf, h, hindex, pagesOf, pageNamesOf_map, PageIndex.ofList_pages,
      syncOf_bindings]
  · rw [Tree.ofScript, htree]
    simp only [forestOf, h]

/-- **A tree is read back from its text** if a descriptor can tell it. -/
theorem readback_parse_render (tree : Tree) :
    Readback IsComplaint tree.IsWritable tree (Tree.parse tree.render) := by
  have hscript : Script.parse tree.render = .ok ⟨tree.bindings⟩ :=
    parse_of_declares (declares_render tree)
  rw [Tree.parse, hscript]
  exact ofScript_bindings tree

/-- **Writing and reading.** A tree that is written and read again is the same tree exactly if a
descriptor can tell every entry in it; otherwise reading complains about the descriptor. A tree
that comes from descriptors is always read back. -/
theorem parse_render_tree (tree : Tree) :
    (Tree.parse tree.render = .ok tree ↔ tree.IsWritable) ∧
      (¬tree.IsWritable → ∃ location reason,
        Tree.parse tree.render = .error (.malformedNavigation location reason)) ∧
      (Loaded tree → Tree.parse tree.render = .ok tree) := by
  have h := readback_parse_render tree
  refine ⟨h.eq_ok_iff, fun hbad => ?_, fun hloaded => h.eq_ok_iff.2 hloaded.isWritable⟩
  obtain ⟨e, he, location, reason, rfl⟩ := h.eq_error hbad
  exact ⟨location, reason, he⟩

/-- A tree of all kinds of entries, with characters that have to be escaped. -/
def mixedTree : Tree where
  roots := [
    .branch "say \"hi\"" "index.html" [.leaf "\n\\" "a.html#'", .branch "" "b.html" []],
    .deferred "\u0000" "c.html" "annotated_dup"]
  index := ⟨["index.html", "é"], by decide, by decide⟩
  sync := some ⟨"it's on", ""⟩

/-- A tree of which an entry deep inside leads nowhere. -/
def linklessTree : Tree where
  roots := [.branch "a" "a.html" [.branch "b" "b.html" [.leaf "c" ""]]]
  index := .empty
  sync := none

/-- One tree comes from a descriptor and is read back, the other cannot be told by any. -/
theorem parse_render_mixedTree :
    (Loaded mixedTree ∧ Tree.parse mixedTree.render = .ok mixedTree) ∧
      (¬linklessTree.IsWritable ∧ ∃ location reason,
        Tree.parse linklessTree.render = .error (.malformedNavigation location reason)) := by
  have hloaded : Loaded mixedTree := .parsed ((parse_render_tree mixedTree).1.2 (by decide))
  have hlinkless : ¬linklessTree.IsWritable := by decide
  exact ⟨⟨hloaded, (parse_render_tree mixedTree).2.2 hloaded⟩,
    hlinkless, (parse_render_tree linklessTree).2.1 hlinkless⟩

end DocSite.Nav

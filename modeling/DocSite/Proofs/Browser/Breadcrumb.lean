import DocSite.Proofs.Browser.Relative
import DocSite.Proofs.Nav.Structure

/-! # The way to the current row

The breadcrumb names the current entry and those around it. It is made by going up: from a row to
the position that the row names as its parent, as long as it names one (`Climbs`). Nothing in this
bounds the number of rounds, and nothing sees to it that there is a row at each of the positions. It
comes to an end over rows that are there because a parent stands in front of its child
(`climbs_lineage`), and what it passes are the entries around the current one because the row of an
entry names the row of the entry above (`namesWay_lineage`). The main statement is
`breadcrumb_names_way`. -/

namespace DocSite.Browser

open DocSite.Nav

/-! ## Going up -/

/-- Whether going up comes to an end, with these labels on the way, the innermost first. A position
where no row is leads nowhere. -/
inductive Climbs (rows : List Row) : Option Nat → List String → Prop where
  /-- There is nothing to go on from. -/
  | top : Climbs rows none []
  /-- The row at the position is passed, then what is above it. -/
  | row {position : Nat} {row : Row} {labels : List String} (hrow : rows[position]? = some row)
      (habove : Climbs rows row.parent labels) : Climbs rows (some position) (row.label :: labels)

/-- There is one way up only. -/
theorem Climbs.unique {rows : List Row} {start : Option Nat} {labels others : List String}
    (h : Climbs rows start labels) (hothers : Climbs rows start others) : labels = others := by
  induction h generalizing others with
  | top =>
      cases hothers
      rfl
  | row hrow _ ih =>
      cases hothers with
      | row hrow' habove' =>
          cases hrow.symm.trans hrow'
          rw [ih habove']

/-- A row is shown behind the rows that it is below. -/
theorem lineage_eq {rows : List Row} {position : Nat} {row : Row}
    (hrow : rows[position]? = some row) (hparent : ∀ p ∈ row.parent, p < position) :
    lineage rows position = row.parent.elim [] (lineage rows) ++ [row.label] := by
  rw [lineage, hrow]
  cases habove : row.parent with
  | none => simp [habove]
  | some p =>
      have hp : p < position := hparent p habove
      simp [habove, hp]

/-- Without a row there is nothing to show. -/
theorem lineage_of_length_le {rows : List Row} {position : Nat} (h : rows.length ≤ position) :
    lineage rows position = [] := by
  rw [lineage, List.getElem?_eq_none h]

/-- **Where parents stand in front of their children, going up comes to an end**, and passes what is
shown. -/
theorem climbs_lineage {rows : List Row}
    (hparent : ∀ (position : Nat) (row : Row), rows[position]? = some row →
      ∀ p ∈ row.parent, p < position)
    {position : Nat} (h : position < rows.length) :
    Climbs rows (some position) (lineage rows position).reverse := by
  induction position using Nat.strongRecOn with
  | ind position ih =>
      have hrow : rows[position]? = some rows[position] := List.getElem?_eq_getElem h
      rw [lineage_eq hrow (hparent position _ hrow), List.reverse_append, List.reverse_singleton,
        List.singleton_append]
      apply Climbs.row hrow
      cases habove : rows[position].parent with
      | none => exact .top
      | some p =>
          have hp : p < position := hparent position _ hrow p habove
          exact ih p hp (Nat.lt_trans hp h)

/-! ## The entries on the way -/

/-- Whether labels are those of the entries on a path: one for each number, the label of the entry
that the numbers up to this one lead to. -/
def NamesWay (entries : List Node) (path : List Nat) (labels : List String) : Prop :=
  labels.map some
    = (List.range path.length).map fun k => (nodeAt? entries (path.take (k + 1))).map Node.label

variable {entries : List Node} {path : List Nat} {labels : List String}

/-- There is a label for each number of the path. -/
theorem NamesWay.length_eq (h : NamesWay entries path labels) : labels.length = path.length := by
  simpa using congrArg List.length h

/-- A path with one number more leads over one entry more. -/
theorem NamesWay.concat {i : Nat} {node : Node} (h : NamesWay entries path labels)
    (hnode : nodeAt? entries (path ++ [i]) = some node) :
    NamesWay entries (path ++ [i]) (labels ++ [node.label]) := by
  have hbefore : ∀ k ∈ List.range path.length,
      (nodeAt? entries (path.take (k + 1))).map Node.label
        = (nodeAt? entries ((path ++ [i]).take (k + 1))).map Node.label := by
    intro k hk
    rw [List.take_append_of_le_length (List.mem_range.1 hk)]
  have hlast : (path ++ [i]).take (path.length + 1) = path ++ [i] :=
    List.take_of_length_le (by simp)
  unfold NamesWay at h ⊢
  rw [List.map_append, h, List.length_append, List.length_singleton, List.range_succ,
    List.map_append, List.map_congr_left hbefore]
  simp [hlast, hnode]

/-- The parent of a row stands in front of it. -/
theorem parent_lt_of_getElem? {position : Nat} {row : Row}
    (hrow : (forestRows none 0 0 entries)[position]? = some row) :
    ∀ p ∈ row.parent, p < position := by
  intro p hp
  have hrows : (Tree.ofParts entries .empty).rows = forestRows none 0 0 entries :=
    (Tree.ofParts entries .empty).rows_eq
  rw [← hrows] at hrow
  exact ((Tree.ofParts entries .empty).above_of_parent hrow hp).1

/-- **What is shown at the row of an entry are the labels on the way to it.** -/
theorem namesWay_lineage {k : Nat} (hk : rowOf? entries path = some k) :
    NamesWay entries path (lineage (forestRows none 0 0 entries) k) := by
  induction path using List.reverseRecOn generalizing k with
  | nil => cases hk
  | append_singleton path i ih =>
      obtain ⟨node, hnode⟩ := exists_nodeAt? hk
      obtain ⟨k', hk', hrow, -⟩ := exists_row_of_nodeAt? hnode
      obtain rfl : k = k' := Option.some.inj (hk.symm.trans hk')
      rw [lineage_eq hrow (parent_lt_of_getElem? hrow)]
      -- The row names the row above, which is that of the rest of the path.
      show NamesWay entries (path ++ [i])
        ((rowOf? entries path).elim [] (lineage (forestRows none 0 0 entries)) ++ [node.label])
      apply NamesWay.concat _ hnode
      cases habove : rowOf? entries path with
      | none =>
          obtain ⟨siblings, hsiblings, -⟩ := exists_siblings hnode
          rw [eq_nil_of_rowOf?_eq_none hsiblings habove]
          rfl
      | some p => exact ih habove

/-! ## The breadcrumb -/

namespace State

/-- Whether a state's breadcrumb shows the way to the current one of some entries. -/
structure ShowsWay (state : State) (entries : List Node) : Prop where
  /-- Going up from the current row comes to an end over rows that are there, and what it passes is
  shown, the outermost first. -/
  climbs : ∃ labels, (∀ others, Climbs state.rows (state.currentRow.map fun _ => state.row) others
      ↔ others = labels) ∧ state.breadcrumb = " > ".intercalate labels.reverse
  /-- Without a current row nothing is shown. -/
  eq_empty : state.rows.length ≤ state.row → state.breadcrumb = ""
  /-- The current row is that of one entry, and the labels on the way to that entry are shown: one
  more than the row is deep. -/
  names_way : ∀ row ∈ state.currentRow, ∃ path,
    (∀ other, rowOf? entries other = some state.row ↔ other = path) ∧
      ∃ labels, NamesWay entries path labels ∧ labels.length = row.depth + 1 ∧
        state.breadcrumb = " > ".intercalate labels

/-- The breadcrumb at any row shows the way to its entry. -/
theorem showsWay {state : State} (hrows : state.rows = forestRows none 0 0 entries) :
    state.ShowsWay entries where
  climbs := by
    cases hcurrent : state.currentRow with
    | none =>
        have hlength : state.rows.length ≤ state.row := List.getElem?_eq_none_iff.1 hcurrent
        refine ⟨[], fun others => ⟨fun h => h.unique .top, ?_⟩, ?_⟩
        · rintro rfl
          exact .top
        · rw [breadcrumb, lineage_of_length_le hlength]
          rfl
    | some row =>
        have hlt : state.row < state.rows.length := (List.getElem?_eq_some_iff.1 hcurrent).1
        have hclimbs : Climbs state.rows (some state.row)
            (lineage state.rows state.row).reverse := by
          rw [hrows] at hlt ⊢
          exact climbs_lineage (fun _ _ => parent_lt_of_getElem?) hlt
        refine ⟨_, fun others => ⟨fun h => h.unique hclimbs, ?_⟩, ?_⟩
        · rintro rfl
          exact hclimbs
        · rw [List.reverse_reverse]
          rfl
  eq_empty := by
    intro h
    rw [breadcrumb, lineage_of_length_le h]
    rfl
  names_way := by
    intro row hrow
    obtain ⟨path, hpath, hunique⟩ :=
      (followsEntries hrows).existsUnique_path (List.getElem?_eq_some_iff.1 hrow).1
    obtain ⟨above, i, node, rfl, hnode⟩ := exists_concat_of_rowOf? hpath
    obtain ⟨_, _, _, _, hstands⟩ := exists_standsAt hrows hpath
    have hway := namesWay_lineage hpath
    refine ⟨above ++ [i], fun other => ⟨hunique other, ?_⟩, _, hway, ?_, ?_⟩
    · rintro rfl
      exact hpath
    · cases hrow.symm.trans hstands.currentRow_eq
      rw [hway.length_eq, List.length_append]
      rfl
    · rw [breadcrumb, hrows]

/-- **The breadcrumb names the way to the current row**, whichever row is the current one: the
entries around it from the top down, and itself. A plain link has nothing around it. -/
theorem breadcrumb_names_way (navigation : Navigation) (state : State)
    (h : state.rows = (State.ofNavigation navigation).rows) :
    state.ShowsWay navigation.entries ∧
      ∀ links, navigation = .links links → ∀ row ∈ state.currentRow,
        state.breadcrumb = row.label := by
  refine ⟨showsWay (h.trans (rows_ofNavigation navigation)), ?_⟩
  rintro links rfl row hrow
  have hparent : row.parent = none := by
    have hmem : row ∈ linkRows links := by
      rw [currentRow, h] at hrow
      exact List.mem_of_getElem? hrow
    obtain ⟨link, -, rfl⟩ := List.mem_map.1 hmem
    rfl
  have hlineage : lineage state.rows state.row = [row.label] := by
    rw [lineage_eq hrow (by simp [hparent]), hparent]
    rfl
  rw [breadcrumb, hlineage]
  rfl

/-- At the note below the first section of the first chapter all three are named, and behind the
last row nothing is. -/
theorem breadcrumb_names_way_book :
    ({ ofNavigation bookNavigation with row := 2 } : State).breadcrumb = "First > One > Note" ∧
      ({ ofNavigation bookNavigation with row := 5 } : State).breadcrumb = "" := by
  have hshows := fun row =>
    (breadcrumb_names_way bookNavigation { ofNavigation bookNavigation with row } rfl).1
  refine ⟨?_, (hshows 5).eq_empty (by decide)⟩
  obtain ⟨path, hpath, labels, hway, -, hshown⟩ :=
    (hshows 2).names_way ⟨"Note", "note.html", 2, some 1, [], false⟩ (by decide)
  obtain rfl : [0, 0, 0] = path := (hpath _).1 (by decide)
  have hlabels : labels.map some = ["First", "One", "Note"].map some := hway.trans (by decide)
  obtain rfl : labels = ["First", "One", "Note"] :=
    (List.map_inj_right fun _ _ => Option.some.inj).1 hlabels
  rw [hshown]
  decide

end State

end DocSite.Browser

import DocSite.Proofs.Search.Opening
import Mathlib.Data.List.Basic
import Mathlib.Data.List.Induction

/-! # The order of hits

The hits of a query are ranked: those of the entries that it names come first, then those that only
entries behind it have. Each hit is listed once, where it occurs first (`Ranks`). There is but one
such list (`Ranks.unique`), and a search without a limit gives it (`search_ranks`); a limit keeps
its beginning. The main statement is `ranking_of_hits`. -/

namespace DocSite.Search

/-! ## First occurrences -/

section

variable {α : Type} [BEq α] [LawfulBEq α]

/-- What stands behind a list is kept if it does not occur in the list. -/
theorem eraseDups_concat (l : List α) (x : α) :
    (l ++ [x]).eraseDups = if x ∈ l then l.eraseDups else l.eraseDups ++ [x] := by
  rw [List.eraseDups_append]
  by_cases hx : x ∈ l
  · simp [List.removeAll, hx]
  · simp [List.removeAll, hx, List.eraseDups_cons]

/-- **What is kept once stands in the order of first occurrence.** -/
theorem pairwise_idxOf_eraseDups (l : List α) :
    l.eraseDups.Pairwise fun a b => l.idxOf a < l.idxOf b := by
  induction l using List.reverseRecOn with
  | nil => exact List.Pairwise.nil
  | append_singleton l x ih =>
      -- What occurs in `l` keeps its position when `x` is put behind.
      have hkept : l.eraseDups.Pairwise fun a b => (l ++ [x]).idxOf a < (l ++ [x]).idxOf b := by
        refine ih.imp_of_mem fun ha hb hlt => ?_
        rw [List.mem_eraseDups] at ha hb
        rwa [List.idxOf_append_of_mem ha, List.idxOf_append_of_mem hb]
      rw [eraseDups_concat]
      by_cases hx : x ∈ l
      · rwa [if_pos hx]
      · rw [if_neg hx, List.pairwise_append]
        refine ⟨hkept, List.pairwise_singleton _ x, fun a ha b hb => ?_⟩
        rw [List.mem_eraseDups] at ha
        rw [List.mem_singleton] at hb
        have hlt : l.idxOf a < l.length := List.idxOf_lt_length_of_mem ha
        rw [hb, List.idxOf_append_of_mem ha, List.idxOf_append_of_notMem hx]
        omega

/-- Whether a list ranks what occurs in two others, of which the first goes before. -/
structure Ranks (first second ranked : List α) : Prop where
  /-- What occurs in one of the two is listed, and nothing else. -/
  mem_iff : ∀ a, a ∈ ranked ↔ a ∈ first ∨ a ∈ second
  /-- Nothing is listed twice. -/
  nodup : ranked.Nodup
  /-- Nothing that occurs in the second only stands before something that occurs in the first. -/
  first_before : ranked.Pairwise fun a b => b ∈ first → a ∈ first
  /-- What occurs in the first is listed in the order of its first occurrence there. -/
  first_order : ranked.Pairwise fun a b => a ∈ first → b ∈ first → first.idxOf a < first.idxOf b
  /-- What occurs in the second only is listed in the order of its first occurrence there. -/
  second_order : ranked.Pairwise fun a b =>
    a ∉ first → b ∉ first → second.idxOf a < second.idxOf b

/-- **Two lists, one behind the other, are ranked by keeping first occurrences.** -/
theorem ranks_eraseDups (first second : List α) :
    Ranks first second (first ++ second).eraseDups := by
  have horder := pairwise_idxOf_eraseDups (first ++ second)
  -- Positions in both lists tell the two apart, and are positions in one of them.
  have hfirst : ∀ {a : α}, a ∈ first → (first ++ second).idxOf a = first.idxOf a :=
    fun ha => List.idxOf_append_of_mem ha
  have hsecond : ∀ {a : α}, a ∉ first → (first ++ second).idxOf a = first.length + second.idxOf a :=
    fun ha => List.idxOf_append_of_notMem ha
  constructor
  · intro a
    rw [List.mem_eraseDups, List.mem_append]
  · refine horder.imp fun {a b} hlt hab => ?_
    rw [hab] at hlt
    exact Nat.lt_irrefl _ hlt
  · refine horder.imp fun {a b} hlt hb => ?_
    by_contra ha
    have hpos : first.idxOf b < first.length := List.idxOf_lt_length_of_mem hb
    rw [hfirst hb, hsecond ha] at hlt
    omega
  · refine horder.imp fun {a b} hlt ha hb => ?_
    rwa [hfirst ha, hfirst hb] at hlt
  · refine horder.imp fun {a b} hlt ha hb => ?_
    rw [hsecond ha, hsecond hb] at hlt
    omega

/-- **There is but one ranking.** -/
theorem Ranks.unique {first second ranked ranked' : List α} (h : Ranks first second ranked)
    (h' : Ranks first second ranked') : ranked = ranked' := by
  have hperm : ranked.Perm ranked' := by
    rw [List.perm_ext_iff_of_nodup h.nodup h'.nodup]
    exact fun a => (h.mem_iff a).trans (h'.mem_iff a).symm
  have horder {l : List α} (hl : Ranks first second l) :=
    (hl.first_before.and hl.first_order).and hl.second_order
  refine List.Perm.eq_of_pairwise (fun a b _ _ hab hba => ?_) (horder h) (horder h') hperm
  -- Neither of two different items can stand before the other in both lists.
  obtain ⟨⟨hbefore, hfirst⟩, hsecond⟩ := hab
  obtain ⟨⟨hbefore', hfirst'⟩, hsecond'⟩ := hba
  exfalso
  by_cases ha : a ∈ first
  · have hb := hbefore' ha
    exact Nat.lt_asymm (hfirst ha hb) (hfirst' hb ha)
  · have hb : b ∉ first := fun hb => ha (hbefore hb)
    exact Nat.lt_asymm (hsecond ha hb) (hsecond' hb ha)

end

/-! ## Hits -/

namespace Index

/-- The index with another limit to the number of hits. -/
def withLimit (index : Index) (n : Nat) : Index :=
  { index with options := { index.options with maxResults := n } }

@[simp] theorem maxResults_withLimit (index : Index) (n : Nat) :
    (index.withLimit n).options.maxResults = n := rfl

/-- What a query is about does not depend on the limit. -/
@[simp] theorem matching_withLimit (files : Files) (index : Index) (n : Nat) (query : String) :
    matching files (index.withLimit n) query = matching files index query := by
  rw [matching, matching, withLimit]

/-- Without a limit all hits are given. -/
theorem hits_search_withLimit_zero (files : Files) (index : Index) (query : String) :
    (search files (index.withLimit 0) query).hits
      = (exactHits files index query ++ extendingHits files index query).eraseDups := by
  rw [hits_search, maxResults_withLimit, limit_zero, exactHits, exactHits, extendingHits,
    extendingHits, matching_withLimit]

/-- **A search without a limit ranks the hits of the entries that the query names before those of
the entries that go on behind it.** -/
theorem search_ranks (files : Files) (index : Index) (query : String) :
    Ranks (exactHits files index query) (extendingHits files index query)
      (search files (index.withLimit 0) query).hits := by
  rw [hits_search_withLimit_zero]
  exact ranks_eraseDups _ _

/-- **The law of hits.** Without a limit the hits of a query are one for each record of an entry
that the query is about, and they are ranked: they are the only list in which each of these hits
stands once, those of entries that the query names before those that only other entries have, and
both in the order in which they occur first. A limit keeps the beginning of this list. What the
query is about is looked up in the files of the slots if the index was opened, else in the
partitions at hand. -/
theorem ranking_of_hits (files : Files) (index : Index) (query : String) :
    let unlimited := (search files (index.withLimit 0) query).hits
    (∀ hit, hit ∈ unlimited ↔ ∃ entry ∈ matching files index query, ∃ record ∈ entry.records,
        hit = ⟨entry.name, record.link, record.scope.getD ""⟩) ∧
      (∀ hits, Ranks (exactHits files index query) (extendingHits files index query) hits ↔
        hits = unlimited) ∧
      (search files index query).hits
        = (if index.options.maxResults = 0 then unlimited
          else unlimited.take index.options.maxResults) ∧
      (∀ dir options, (openDir files dir options).1.slots.map (·.content.entries files)
        = (openDir files dir options).1.slots.map
          fun slot => entriesAt files (dir.join slot.file)) ∧
      ∀ partitions options, (ofPartitions partitions options).slots.map (·.content.entries files)
        = partitions.map Partition.entries := by
  intro unlimited
  have hranks := search_ranks files index query
  refine ⟨fun hit => ?_, fun hits => ⟨fun h => h.unique hranks, fun h => h ▸ hranks⟩, ?_,
    fun dir options => ?_, fun partitions options => ?_⟩
  · rw [mem_hits_search (maxResults_withLimit index 0), matching_withLimit]
    simp only [hitsOf, List.mem_map, eq_comm]
  · rw [hits_search, ← hits_search_withLimit_zero, limit]
  · exact List.map_congr_left fun slot hslot => entries_of_mem_openDir hslot
  · rw [ofPartitions, List.map_map]
    rfl

end Index

end DocSite.Search

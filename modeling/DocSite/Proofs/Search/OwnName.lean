import DocSite.Proofs.Search.Hits
import DocSite.Proofs.Search.KeyForm
import DocSite.Proofs.Text.Lowercase

/-! # Symbols under their own names

A query loses its ends that are neither letters nor numbers, a key does not. What is lost behind a
name does no harm, because the name still begins with what is left. What is lost in front of it
does: then the key does not begin with the query. So a symbol is found under its own name exactly if
the name begins with a letter or a number (`found_under_own_name_iff`). -/

namespace DocSite.Search

open DocSite.Text

/-- Whether a text begins with a letter or a number. -/
def beginsAlphanumeric (s : List Char) : Bool := s.head?.any isAlphanumeric

/-- Whether a symbol is found under its own name, whatever index of partitions at hand it is in, as
long as neither the number of hits nor the sections are limited: the hits hold one for each record
of each entry that is stored under the name. -/
def FoundUnderOwnName (name : String) : Prop :=
  ∀ (files : Files) (partitions : List Partition) (options : SearchOptions),
    options.maxResults = 0 → options.sections = [] →
      ∀ partition ∈ partitions, ∀ entry ∈ partition.entries, entry.IsStoredUnder name →
        ∀ record ∈ entry.records, (⟨entry.name, record.link, record.scope.getD ""⟩ : Hit)
          ∈ (Index.search files (Index.ofPartitions partitions options) name).hits

/-! ## What is left of a name -/

section

variable {p : Char → Bool}

/-- What is not dropped at the front is not dropped from the end. -/
theorem trimBoth_cons {c : Char} (hc : p c = false) (rest : List Char) :
    trimBoth p (c :: rest) = c :: (rest.reverse.dropWhile p).reverse := by
  have hc' : ¬p c = true := by
    rw [hc]
    exact Bool.false_ne_true
  rw [trimBoth, List.dropWhile_cons_of_neg hc', List.reverse_cons, List.dropWhile_append]
  by_cases hrest : (rest.reverse.dropWhile p).isEmpty = true
  · rw [if_pos hrest, List.dropWhile_cons_of_neg hc', List.isEmpty_iff.1 hrest]
    rfl
  · rw [if_neg hrest, List.reverse_append]
    rfl

/-- If not everything is dropped from a text, what is left begins with something that is not. -/
theorem exists_trimBoth_eq_cons {s : List Char} (h : ∃ c ∈ s, p c = false) :
    ∃ c rest, trimBoth p s = c :: rest ∧ p c = false := by
  induction s with
  | nil =>
      obtain ⟨c, hc, -⟩ := h
      cases hc
  | cons x rest ih =>
      by_cases hx : p x = true
      · have hrest : ∃ c ∈ rest, p c = false := by
          obtain ⟨c, hc, hpc⟩ := h
          rcases List.mem_cons.1 hc with rfl | hc
          · rw [hx] at hpc
            cases hpc
          · exact ⟨c, hc, hpc⟩
        rw [trimBoth, List.dropWhile_cons_of_pos hx]
        exact ih hrest
      · rw [Bool.not_eq_true] at hx
        exact ⟨x, _, trimBoth_cons hx rest, hx⟩

/-- A text that begins with something that is not dropped begins with what is left of it. -/
theorem trimBoth_isPrefix {c : Char} (hc : p c = false) (rest : List Char) :
    trimBoth p (c :: rest) <+: c :: rest := by
  have hsuffix : rest.reverse.dropWhile p <:+ rest.reverse := List.dropWhile_suffix p
  rw [trimBoth_cons hc, List.cons_prefix_cons]
  refine ⟨rfl, ?_⟩
  rw [← List.reverse_suffix, List.reverse_reverse]
  exact hsuffix

end

/-- Lower case keeps beginnings. -/
theorem lowercaseAll_isPrefix {s t : List Char} (h : s <+: t) :
    lowercaseAll s <+: lowercaseAll t := by
  obtain ⟨rest, rfl⟩ := h
  rw [lowercaseAll, lowercaseAll, List.flatMap_append]
  exact List.prefix_append _ _

section

variable {name : String} (hname : ∃ c ∈ name.toList, isAlphanumeric c = true)

include hname

/-- What is left of a name begins with a letter or a number. -/
theorem exists_trimmed_eq_cons : ∃ c rest, trimmed name = c :: rest ∧ isAlphanumeric c = true := by
  have hkept : ∃ c ∈ name.toList, (!isAlphanumeric c) = false := by
    obtain ⟨c, hmem, hc⟩ := hname
    exact ⟨c, hmem, by rw [hc]; rfl⟩
  obtain ⟨c, rest, htrim, hc⟩ := exists_trimBoth_eq_cons hkept
  exact ⟨c, rest, htrim, by simpa using hc⟩

/-- Something is left of the key form of a name. -/
theorem normalizeQuery_ne_empty : normalizeQuery name ≠ "" := by
  obtain ⟨c, rest, htrim, -⟩ := exists_trimmed_eq_cons hname
  obtain ⟨x, more, hlower, -⟩ := exists_lowercase_eq_cons c
  intro hempty
  have hnil : encodeChars (trimmed name) = [] := by
    rw [← toList_normalizeQuery, hempty]
    rfl
  rw [encodeChars, htrim, lowercaseAll, List.flatMap_cons, hlower, List.cons_append,
    List.flatMap_cons] at hnil
  exact keyChar_ne_nil x (List.append_eq_nil_iff.1 hnil).1

/-- **A name begins with what is left of it exactly if nothing is lost in front**, up to case. -/
theorem lowercaseAll_trimmed_prefix_iff :
    lowercaseAll (trimmed name) <+: lowercaseAll name.toList ↔
      beginsAlphanumeric name.toList = true := by
  cases hchars : name.toList with
  | nil =>
      obtain ⟨c, hmem, -⟩ := hname
      rw [hchars] at hmem
      cases hmem
  | cons first rest =>
      rw [beginsAlphanumeric, List.head?_cons, Option.any_some]
      constructor
      · intro h
        obtain ⟨c, tail, htrim, hc⟩ := exists_trimmed_eq_cons hname
        obtain ⟨x, more, hx, hxc⟩ := exists_lowercase_eq_cons c
        obtain ⟨y, others, hy, hyfirst⟩ := exists_lowercase_eq_cons first
        -- The lower-case texts begin alike, and lower case keeps letters and numbers.
        rw [htrim, lowercaseAll, lowercaseAll, List.flatMap_cons, List.flatMap_cons, hx, hy,
          List.cons_append, List.cons_append, List.cons_prefix_cons] at h
        rw [← hyfirst, ← h.1, hxc, hc]
      · intro h
        have hkept : (!isAlphanumeric first) = false := by
          rw [h]
          rfl
        rw [trimmed, hchars]
        exact lowercaseAll_isPrefix (trimBoth_isPrefix hkept rest)

/-- The name as a query begins the stem of an entry stored under it exactly if nothing is lost in
front of the name. -/
theorem normalizeQuery_prefix_stem_iff {entry : Entry} (hentry : entry.IsStoredUnder name) :
    (normalizeQuery name).toList <+: entry.stem.toList ↔ beginsAlphanumeric name.toList = true := by
  rw [hentry.stem_eq, toList_normalizeQuery, toList_encode, encodeChars_prefix_iff,
    lowercaseAll_trimmed_prefix_iff hname]

end

/-! ## Searching -/

/-- An entry stored under a name. -/
def storedEntry (name : String) : Entry :=
  ⟨encode name ++ "_" ++ "0", name, [⟨"a.html", false, none⟩]⟩

/-- Such an entry is stored under the name. -/
theorem isStoredUnder_storedEntry (name : String) : (storedEntry name).IsStoredUnder name :=
  ⟨"0", by decide, rfl⟩

/-- A partition of nothing but such an entry. -/
def lonePartition (name : String) : Partition where
  name := "all_0.js"
  entries := [storedEntry name]
  nodup := by simp

/-- A symbol that is found under its own name is found in the partition that holds nothing else. -/
theorem FoundUnderOwnName.begins_stem {name : String} (hquery : normalizeQuery name ≠ "")
    (h : FoundUnderOwnName name) :
    (normalizeQuery name).toList <+: (storedEntry name).stem.toList := by
  have hmem : storedEntry name ∈ (lonePartition name).entries := List.mem_singleton_self _
  have hfound := h ⟨.directory [], []⟩ [lonePartition name] {} rfl rfl _ (List.mem_singleton_self _)
    _ hmem (isStoredUnder_storedEntry name) _ (List.mem_singleton_self _)
  rw [Index.mem_hits_search_ofPartitions rfl hquery] at hfound
  obtain ⟨partition, hpartition, entry, hentry, hbegins, -⟩ := hfound
  rw [List.mem_singleton] at hpartition
  rw [hpartition, lonePartition, List.mem_singleton] at hentry
  rwa [hentry] at hbegins

/-- **A symbol is found under its own name exactly if the name begins with a letter or a number**,
provided that it holds one at all. -/
theorem found_under_own_name_iff (name : String)
    (hname : ∃ c ∈ name.toList, isAlphanumeric c = true) :
    FoundUnderOwnName name ↔ beginsAlphanumeric name.toList = true := by
  have hquery := normalizeQuery_ne_empty hname
  constructor
  · intro h
    exact (normalizeQuery_prefix_stem_iff hname (isStoredUnder_storedEntry name)).1
      (h.begins_stem hquery)
  · intro h files partitions options hmax _ partition hpartition entry hentry hstored record hrecord
    have hbegins := (normalizeQuery_prefix_stem_iff hname hstored).2 h
    rw [Index.mem_hits_search_ofPartitions hmax hquery]
    exact ⟨partition, hpartition, entry, hentry, hbegins, List.mem_map_of_mem hrecord⟩

/-- A name that begins with a letter beyond ASCII and ends in other signs is found. -/
theorem found_under_own_name_call :
    (∃ c ∈ "Ärger()".toList, isAlphanumeric c = true) ∧ FoundUnderOwnName "Ärger()" := by
  have hname : ∃ c ∈ "Ärger()".toList, isAlphanumeric c = true := ⟨'g', by decide, by decide⟩
  exact ⟨hname, (found_under_own_name_iff "Ärger()" hname).2 (by decide +kernel)⟩

/-- The name of a destructor is not found, because the query loses the sign in front that the key
keeps. -/
theorem not_found_under_own_name_destructor :
    (∃ c ∈ "~Foo".toList, isAlphanumeric c = true) ∧ ¬FoundUnderOwnName "~Foo" := by
  refine ⟨⟨'F', by decide, by decide⟩, fun h => ?_⟩
  have hbegins := h.begins_stem (by decide +kernel)
  exact absurd hbegins (by decide +kernel)

end DocSite.Search

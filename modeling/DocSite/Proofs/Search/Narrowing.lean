import DocSite.Proofs.Search.OwnName
import DocSite.Proofs.Search.SectionFilter
import Mathlib.Data.List.DropRight

/-! # Going on with a query

Who goes on writing a query may see fewer hits, never another one. The key form of what was written
first begins the key form of the whole (`normalizeQuery_isPrefix`): what was trimmed from its end
may come back in the middle, but nothing in front of it changes. So the whole query is about entries
in the same slots whose stems begin with more (`matching_subset`). Signs that are neither letters
nor numbers make no difference at either end. The main statement is `refining_narrows`. -/

namespace DocSite.Search

open DocSite.Text

/-! ## Trimming -/

section

variable {p : Char → Bool}

/-- What is dropped from the end of two texts one after the other: it reaches the first one only if
nothing is left of the second. -/
theorem rdropWhile_append (s t : List Char) : (s ++ t).rdropWhile p
    = if (t.rdropWhile p).isEmpty then s.rdropWhile p else s ++ t.rdropWhile p := by
  rw [List.rdropWhile, List.reverse_append, List.dropWhile_append]
  by_cases ht : (t.reverse.dropWhile p).isEmpty = true
  · rw [if_pos ht, if_pos (by rw [List.rdropWhile, List.isEmpty_reverse, ht]), List.rdropWhile]
  · rw [if_neg ht, if_neg (by rwa [List.rdropWhile, List.isEmpty_reverse]), List.reverse_append,
      List.reverse_reverse, List.rdropWhile]

/-- What is left of a text begins what is left once it goes on. -/
theorem rdropWhile_isPrefix (s t : List Char) : s.rdropWhile p <+: (s ++ t).rdropWhile p := by
  rw [rdropWhile_append]
  split
  · exact List.prefix_rfl
  · exact (s.rdropWhile_prefix p).trans (List.prefix_append _ _)

/-- **What is left of a text that is trimmed at both ends begins what is left once it goes on.** -/
theorem trimBoth_isPrefix_append (s t : List Char) : trimBoth p s <+: trimBoth p (s ++ t) := by
  change (s.dropWhile p).rdropWhile p <+: ((s ++ t).dropWhile p).rdropWhile p
  -- The front is trimmed alike unless nothing is left of `s`.
  rw [List.dropWhile_append]
  by_cases hs : (s.dropWhile p).isEmpty = true
  · rw [List.isEmpty_iff.1 hs]
    exact List.nil_prefix
  · rw [if_neg hs]
    exact rdropWhile_isPrefix _ t

/-- **Trimming drops what is added at the ends.** -/
theorem trimBoth_padded {before behind : List Char} (hbefore : ∀ c ∈ before, p c = true)
    (hbehind : ∀ c ∈ behind, p c = true) (s : List Char) :
    trimBoth p (before ++ s ++ behind) = trimBoth p s := by
  change ((before ++ s ++ behind).dropWhile p).rdropWhile p = (s.dropWhile p).rdropWhile p
  rw [List.append_assoc, List.dropWhile_append_of_pos hbefore, List.dropWhile_append]
  by_cases hs : (s.dropWhile p).isEmpty = true
  · rw [if_pos hs, List.dropWhile_eq_nil_iff.2 hbehind, List.isEmpty_iff.1 hs]
  · have hdropped : behind.rdropWhile p = [] := List.rdropWhile_eq_nil_iff.2 hbehind
    rw [if_neg hs, rdropWhile_append, hdropped, if_pos List.isEmpty_nil]

end

/-! ## Key forms -/

/-- Whether a text holds neither letters nor numbers. -/
def IsPadding (s : String) : Prop := ∀ c ∈ s.toList, isAlphanumeric c = false

instance : DecidablePred IsPadding := fun s =>
  List.decidableBAll (fun c => isAlphanumeric c = false) s.toList

/-- **The key form of a query begins that of every query that goes on behind it.** -/
theorem normalizeQuery_isPrefix (query more : String) :
    (normalizeQuery query).toList <+: (normalizeQuery (query ++ more)).toList := by
  rw [toList_normalizeQuery, toList_normalizeQuery, encodeChars_prefix_iff, trimmed, trimmed,
    String.toList_append]
  exact lowercaseAll_isPrefix (trimBoth_isPrefix_append query.toList more.toList)

/-- **Signs at the ends of a query do not change its key form.** -/
theorem normalizeQuery_padded {before behind : String} (hbefore : IsPadding before)
    (hbehind : IsPadding behind) (query : String) :
    normalizeQuery (before ++ query ++ behind) = normalizeQuery query := by
  have htrimmed : trimmed (before ++ query ++ behind) = trimmed query := by
    rw [trimmed, String.toList_append, String.toList_append]
    exact trimBoth_padded (fun c hc => by rw [hbefore c hc]; rfl)
      (fun c hc => by rw [hbehind c hc]; rfl) query.toList
  rw [← String.toList_inj, toList_normalizeQuery, toList_normalizeQuery, htrimmed]

namespace Index

/-! ## Hits -/

variable {files : Files} {index : Index} {query query' : String}

/-- A query is about everything that another one is about if its key form begins the other's. -/
theorem matching_subset (hquery : normalizeQuery query ≠ "")
    (hbegins : (normalizeQuery query).toList <+: (normalizeQuery query').toList) :
    matching files index query' ⊆ matching files index query := by
  intro entry hentry
  obtain ⟨first, rest, hkey', hstem, slot, hslot, hcovers, hmem⟩ := mem_matching.1 hentry
  rw [hkey'] at hbegins
  cases hkey : (normalizeQuery query).toList with
  | nil => exact absurd (String.toList_eq_nil_iff.1 hkey) hquery
  | cons c tail =>
      -- Both key forms begin with the same character, so the same slots cover them.
      rw [hkey] at hbegins
      obtain ⟨rfl, -⟩ := List.cons_prefix_cons.1 hbegins
      exact mem_matching.2 ⟨c, tail, hkey, hbegins.trans hstem, slot, hslot, hcovers, hmem⟩

/-- Without a limit it finds everything that the other one finds. -/
theorem hits_subset (hmax : index.options.maxResults = 0) (hquery : normalizeQuery query ≠ "")
    (hbegins : (normalizeQuery query).toList <+: (normalizeQuery query').toList) :
    (search files index query').hits ⊆ (search files index query).hits := by
  intro hit hhit
  rw [mem_hits_search hmax] at hhit ⊢
  obtain ⟨entry, hentry, hmem⟩ := hhit
  exact ⟨entry, matching_subset hquery hbegins hentry, hmem⟩

/-- Queries with one key form find the same. -/
theorem hits_congr (h : normalizeQuery query = normalizeQuery query') :
    (search files index query).hits = (search files index query').hits := by
  rw [search, search, h]

/-- The index after queries while the files stay as they are. -/
def runOver (files : Files) (index : Index) (queries : List String) : Index :=
  index.run (queries.map fun query => (files, query))

/-- Such queries change nothing that another one can see. -/
theorem contents_runOver (files : Files) (index : Index) (queries : List String) :
    contents files (runOver files index queries) = contents files index := by
  induction queries generalizing index with
  | nil => rfl
  | cons query rest ih =>
      have hstep : runOver files index (query :: rest)
          = runOver files (search files index query).index rest := by
        rw [runOver, List.map_cons, run, runOver]
      rw [hstep, ih, contents_search]

/-- So they do not change what another one finds. -/
theorem hits_runOver (files : Files) (index : Index) (queries : List String) (query : String) :
    (search files (runOver files index queries) query).hits = (search files index query).hits := by
  have hoptions : (runOver files index queries).options = index.options := (labels_run index _).2
  exact hits_eq_of_contents (contents_runOver files index queries)
    (congrArg SearchOptions.maxResults hoptions) query

/-- **Going on with a query only narrows it, and signs at its ends make no difference**: the key
form of a query begins that of every query that goes on behind it. If there is a key form and no
limit, then whatever is found with the longer query is found with the shorter one, in whichever
order they are asked and whatever is asked before. -/
theorem refining_narrows (files : Files) (index : Index) (query : String) :
    (∀ more, (normalizeQuery query).toList <+: (normalizeQuery (query ++ more)).toList) ∧
      (normalizeQuery query ≠ "" → index.options.maxResults = 0 → ∀ more earlier later,
        (search files (runOver files index earlier) (query ++ more)).hits
          ⊆ (search files (runOver files index later) query).hits) ∧
      ∀ before behind, IsPadding before → IsPadding behind →
        normalizeQuery (before ++ query ++ behind) = normalizeQuery query ∧
          ∀ earlier later,
            (search files (runOver files index earlier) (before ++ query ++ behind)).hits
              = (search files (runOver files index later) query).hits := by
  refine ⟨normalizeQuery_isPrefix query, fun hquery hmax more earlier later => ?_,
    fun before behind hbefore hbehind => ?_⟩
  · rw [hits_runOver, hits_runOver]
    exact hits_subset hmax hquery (normalizeQuery_isPrefix query more)
  · have hkey := normalizeQuery_padded hbefore hbehind query
    refine ⟨hkey, fun earlier later => ?_⟩
    rw [hits_runOver, hits_runOver]
    exact hits_congr hkey

/-- A partition of a namespace and a symbol in it. -/
def namespacePartition : Partition where
  name := "all_0.js"
  entries := [⟨"std_0", "std", [⟨"std.html", true, none⟩]⟩,
    ⟨"std_3a_3amap_1", "std::map", [⟨"map.html", true, some "std"⟩]⟩]
  nodup := by decide

/-- A directory with this partition. -/
def namespaceSite : Files := ⟨.directory [("all_0.js", .file (some namespacePartition.render))], []⟩

/-- The index in this directory before anything is read. -/
def namespaceIndex : Index := ⟨[⟨"all_0.js", "all", some 'S', .unread "all_0.js"⟩], {}⟩

/-- The colon at the end of a query is trimmed, and another one brings it back in the middle: what
is found then was found before. -/
theorem refining_narrows_namespaceSite :
    (normalizeQuery "Std:").toList <+: (normalizeQuery ("Std:" ++ ":m")).toList ∧
      normalizeQuery "Std:" ≠ "" ∧ namespaceIndex.options.maxResults = 0 ∧
      (search namespaceSite (runOver namespaceSite namespaceIndex ["x"]) ("Std:" ++ ":m")).hits
        ⊆ [⟨"std", "std.html", ""⟩, ⟨"std::map", "map.html", "std"⟩] ∧
      IsPadding " (" ∧ IsPadding ") " ∧
      (search namespaceSite (runOver namespaceSite namespaceIndex ["s"]) " (Std:) ").hits
        = [⟨"std", "std.html", ""⟩, ⟨"std::map", "map.html", "std"⟩] := by
  obtain ⟨hbegins, hnarrows, hpadded⟩ := refining_narrows namespaceSite namespaceIndex "Std:"
  have hquery : normalizeQuery "Std:" ≠ "" := by decide +kernel
  have hbefore : IsPadding " (" := by decide +kernel
  have hbehind : IsPadding ") " := by decide +kernel
  have hhits : (search namespaceSite (runOver namespaceSite namespaceIndex []) "Std:").hits
      = [⟨"std", "std.html", ""⟩, ⟨"std::map", "map.html", "std"⟩] := by decide +kernel
  refine ⟨hbegins ":m", hquery, rfl, ?_, hbefore, hbehind, ?_⟩
  · rw [← hhits]
    exact hnarrows hquery rfl ":m" ["x"] []
  · rw [← hhits]
    exact (hpadded " (" ") " hbefore hbehind).2 ["s"] []

end Index

end DocSite.Search

import DocSite.Files

/-! # Files in a directory

The path of a name in a directory leads to the entry of this name (`Files.find_join`). What is found
in a tree is in it, so no directory has more names of files than the tree has files
(`Files.exists_fileNames`). -/

namespace DocSite

/-! ## Paths of entries -/

namespace Path

/-- Whether a text is the name of an entry, which stands for itself where paths are followed. -/
structure IsName (name : String) : Prop where
  /-- It is one part of a path. -/
  slash_not_mem : '/' ∉ name.toList
  /-- It is not passed over. -/
  ne_empty : name ≠ ""
  /-- Nor is it as a lone point. -/
  ne_point : name ≠ "."
  /-- It does not lead back. -/
  ne_points : name ≠ ".."

/-- A path has a first part. -/
theorem exists_parts_eq_cons (s : List Char) : ∃ part more, parts s = part :: more := by
  rw [parts.eq_def]
  split
  · exact ⟨_, _, rfl⟩
  · exact ⟨_, _, rfl⟩
  · split
    · exact ⟨_, _, rfl⟩
    · exact ⟨_, _, rfl⟩

/-- A character that is no slash is in the first part. -/
theorem parts_cons {c : Char} {s part : List Char} {more : List (List Char)} (hc : c ≠ '/')
    (hs : parts s = part :: more) : parts (c :: s) = (c :: part) :: more := by
  rw [parts.eq_def]
  split
  next h => cases h
  next h => exact absurd (List.cons.inj h).1 hc
  next h =>
    obtain ⟨rfl, rfl⟩ := List.cons.inj h
    simp only [hs]

/-- What is on both sides of a slash has its parts. -/
theorem parts_append_slash (s t : List Char) : parts (s ++ '/' :: t) = parts s ++ parts t := by
  induction s with
  | nil => rfl
  | cons c rest ih =>
      -- A slash begins a part of its own, any other character goes into the first part.
      by_cases hc : c = '/'
      · subst hc
        rw [List.cons_append, parts, parts, ih]
        rfl
      · obtain ⟨part, more, hrest⟩ := exists_parts_eq_cons rest
        have hboth : parts (rest ++ '/' :: t) = part :: (more ++ parts t) := by
          rw [ih, hrest, List.cons_append]
        rw [List.cons_append, parts_cons hc hboth, parts_cons hc hrest, List.cons_append]

/-- Without a slash there is one part. -/
theorem parts_of_not_mem {s : List Char} (h : '/' ∉ s) : parts s = [s] := by
  induction s with
  | nil => rfl
  | cons c rest ih =>
      rw [List.mem_cons, not_or] at h
      exact parts_cons (Ne.symm h.1) (ih h.2)

variable {name : String} (h : IsName name)

include h

/-- A name is the only one that leads to its own path's end. -/
theorem IsName.components_eq : components name = [name] := by
  have hempty : name.toList ≠ [] := fun hnil => h.ne_empty (String.toList_inj.1 hnil)
  have hpoint : name.toList ≠ ['.'] := fun hone => h.ne_point (String.toList_inj.1 hone)
  rw [components, parts_of_not_mem h.slash_not_mem]
  simp [hempty, hpoint]

/-- A name does not start at the root. -/
theorem IsName.isAbsolute_eq : isAbsolute name = false := by
  rw [isAbsolute]
  cases hname : name.toList with
  | nil => rfl
  | cons c rest =>
      have hc : c ≠ '/' := by
        rintro rfl
        exact h.slash_not_mem (by rw [hname]; exact List.mem_cons_self)
      simpa using hc

/-- A name goes behind the directory's path, which may end in a slash. -/
theorem toList_join {dir : Path} (hdir : dir ≠ "") : ∃ front : List Char,
    (dir.toList = front ∨ dir.toList = front ++ ['/']) ∧
      (dir.join name).toList = front ++ '/' :: name.toList := by
  have hempty : dir.isEmpty = false := by
    rw [← Bool.not_eq_true, String.isEmpty_iff]
    exact hdir
  rw [join, h.isAbsolute_eq, hempty, Bool.or_self, if_neg Bool.false_ne_true]
  by_cases hend : dir.toList.getLast? = some '/'
  · obtain ⟨front, hfront⟩ := List.getLast?_eq_some_iff.1 hend
    refine ⟨front, .inr hfront, ?_⟩
    rw [if_pos (beq_iff_eq.2 hend), String.toList_append, hfront, List.append_assoc]
    rfl
  · refine ⟨dir.toList, .inl rfl, ?_⟩
    rw [if_neg fun hslash => hend (beq_iff_eq.1 hslash), String.toList_append,
      String.toList_append, List.append_assoc]
    rfl

/-- The path of a name in a directory starts where the directory's does. -/
theorem isAbsolute_join (dir : Path) : isAbsolute (dir.join name) = isAbsolute dir := by
  by_cases hdir : dir = ""
  · subst hdir
    rw [join, String.isEmpty_iff.2 rfl, Bool.or_true, if_pos rfl, h.isAbsolute_eq]
    rfl
  · obtain ⟨front, hfront, hjoin⟩ := toList_join h hdir
    have hne : dir.toList ≠ [] := fun hnil => hdir (String.toList_inj.1 hnil)
    rw [isAbsolute, isAbsolute, hjoin]
    rcases hfront with hfront | hfront
    · rw [hfront] at hne ⊢
      cases front with
      | nil => exact absurd rfl hne
      | cons c rest => rfl
    · rw [hfront]
      cases front with
      | nil => rfl
      | cons c rest => rfl

/-- The path of a name in a directory leads through the directory to the name. -/
theorem components_join (dir : Path) : components (dir.join name) = components dir ++ [name] := by
  by_cases hdir : dir = ""
  · subst hdir
    rw [join, String.isEmpty_iff.2 rfl, Bool.or_true, if_pos rfl, h.components_eq]
    rfl
  · obtain ⟨front, hfront, hjoin⟩ := toList_join h hdir
    have hname := h.components_eq
    have hends : ∀ s : List Char, s = front ∨ s = front ++ ['/'] →
        (parts s).filter (fun part => part != [] && part != ['.'])
          = (parts front).filter fun part => part != [] && part != ['.'] := by
      rintro s (rfl | rfl)
      · rfl
      · rw [parts_append_slash, List.filter_append]
        exact List.append_nil _
    rw [components] at hname
    rw [components, components, hjoin, parts_append_slash, List.filter_append, List.map_append,
      hname, hends dir.toList hfront]

end Path

/-! ## Entries -/

namespace FileTree

variable {entries : List (String × FileTree)} {name : String} {tree : FileTree}

/-- What is found under a name is an entry. -/
theorem mem_of_child? (h : child? name entries = some tree) : (name, tree) ∈ entries := by
  induction entries with
  | nil => cases h
  | cons entry rest ih =>
      rw [child?] at h
      split at h
      next hname =>
        cases h
        subst hname
        exact List.mem_cons_self
      next => exact List.mem_cons_of_mem _ (ih h)

/-- An entry holds no more files than its directory. -/
theorem count_le_countEntries (h : (name, tree) ∈ entries) : tree.count ≤ countEntries entries := by
  induction entries with
  | nil => cases h
  | cons entry rest ih =>
      rw [countEntries]
      rcases List.mem_cons.1 h with rfl | h
      · exact Nat.le_add_right _ _
      · exact Nat.le_trans (ih h) (Nat.le_add_left _ _)

/-- The names of the files among the entries of a directory. -/
def fileNames : List (String × FileTree) → List String
  | [] => []
  | (name, .file _) :: rest => name :: fileNames rest
  | (_, .directory _) :: rest => fileNames rest

/-- A directory has no more of them than files. -/
theorem length_fileNames_le (entries : List (String × FileTree)) :
    (fileNames entries).length ≤ countEntries entries := by
  induction entries with
  | nil => exact Nat.le_refl 0
  | cons entry rest ih =>
      obtain ⟨name, tree⟩ := entry
      cases tree with
      | file text =>
          rw [fileNames, countEntries, count, List.length_cons]
          omega
      | directory below => exact Nat.le_trans ih (Nat.le_add_left _ _)

/-- Every file among the entries has its name among them. -/
theorem mem_fileNames {text : Option String} (h : (name, .file text) ∈ entries) :
    name ∈ fileNames entries := by
  induction entries with
  | nil => cases h
  | cons entry rest ih =>
      rcases List.mem_cons.1 h with rfl | hrest
      · exact List.mem_cons_self
      · obtain ⟨other, tree⟩ := entry
        cases tree with
        | file text' => exact List.mem_cons_of_mem other (ih hrest)
        | directory below => exact ih hrest

end FileTree

namespace Files

open FileTree

variable {above : List FileTree} {tree found : FileTree} {names : List String} {name : String}

/-- The last name on the way is that of an entry of the directory that the others lead to. -/
theorem follow_concat (hname : name ≠ "..")
    (h : follow above tree (names ++ [name]) = .ok found) :
    ∃ entries, follow above tree names = .ok (.directory entries) ∧
      child? name entries = some found := by
  -- The last name does not lead back, so it is looked up where the others have led.
  fun_induction follow above tree names with
  | case1 above tree =>
      rw [List.nil_append, follow.eq_def] at h
      cases tree with
      | file text => cases h
      | directory entries =>
          refine ⟨entries, rfl, ?_⟩
          simp only [if_neg hname] at h
          split at h
          · cases h
          · split at h
            next next hnext =>
              rw [follow] at h
              cases h
              exact hnext
            · cases h
  | case2 above text other rest =>
      rw [List.cons_append, follow] at h
      cases h
  | case3 entries rest ih =>
      rw [List.cons_append, follow, if_pos rfl] at h
      exact ih h
  | case4 entries rest parent outer ih =>
      rw [List.cons_append, follow, if_pos rfl] at h
      exact ih h
  | case5 above entries other rest hback hlong =>
      rw [List.cons_append, follow.eq_def] at h
      simp only [if_neg hback, if_pos hlong] at h
      cases h
  | case6 above entries other rest hback hlong next hnext ih =>
      rw [List.cons_append, follow.eq_def] at h
      simp only [if_neg hback, if_neg hlong, hnext] at h
      exact ih h
  | case7 above entries other rest hback hlong hnext =>
      rw [List.cons_append, follow.eq_def] at h
      simp only [if_neg hback, if_neg hlong, hnext] at h
      cases h

/-- What is found on the way holds no more files than what it is looked for in. -/
theorem count_follow_le {n : Nat} (h : follow above tree names = .ok found)
    (habove : ∀ outer ∈ above, outer.count ≤ n) (htree : tree.count ≤ n) : found.count ≤ n := by
  fun_induction follow above tree names with
  | case1 above tree =>
      cases h
      exact htree
  | case2 above text other rest => cases h
  | case3 entries rest ih => exact ih h habove htree
  | case4 entries rest parent outer ih =>
      rw [List.forall_mem_cons] at habove
      exact ih h habove.2 habove.1
  | case5 above entries other rest hback hlong => cases h
  | case6 above entries other rest hback hlong next hnext ih =>
      exact ih h (List.forall_mem_cons.2 ⟨htree, habove⟩)
        (Nat.le_trans (count_le_countEntries (mem_of_child? hnext)) htree)
  | case7 above entries other rest hback hlong hnext => cases h

/-- The names that lead from the root to the end of a path. -/
def way (files : Files) (p : Path) : List String :=
  if p.isAbsolute then p.components else files.current ++ p.components

/-- A file that is found at a path is at the end of its way. -/
theorem follow_of_find {files : Files} {p : Path} {text : Option String}
    (h : files.find p = .ok (.file text)) :
    follow [] files.root (files.way p) = .ok (.file text) := by
  rw [find.eq_def] at h
  split at h
  · cases h
  · split at h
    · cases h
    · simp only at h
      rw [way]
      split at h
      next text' hfound =>
        split at h
        · cases h
        · cases h
          exact hfound
      next => exact h

/-- The way to a name in a directory goes through the directory. -/
theorem way_join {files : Files} (hname : Path.IsName name) (dir : Path) :
    files.way (dir.join name) = files.way dir ++ [name] := by
  rw [way, way, Path.isAbsolute_join hname, Path.components_join hname]
  split
  · rfl
  · rw [List.append_assoc]

/-- **A file at a name in a directory is an entry of the directory.** -/
theorem find_join {files : Files} {dir : Path} {text : Option String} (hname : Path.IsName name)
    (h : files.find (dir.join name) = .ok (.file text)) :
    ∃ entries, follow [] files.root (files.way dir) = .ok (.directory entries) ∧
      (name, .file text) ∈ entries := by
  have hfound := follow_of_find h
  rw [way_join hname] at hfound
  obtain ⟨entries, hdir, hentry⟩ := follow_concat hname.ne_points hfound
  exact ⟨entries, hdir, mem_of_child? hentry⟩

/-- **A directory has no more names of files than there are files.** -/
theorem exists_fileNames (files : Files) (dir : Path) :
    ∃ names : List String, names.length ≤ files.count ∧
      ∀ name text, Path.IsName name → files.find (dir.join name) = .ok (.file text) →
        name ∈ names := by
  cases hdir : follow [] files.root (files.way dir) with
  | error e =>
      refine ⟨[], Nat.zero_le _, fun name text hname h => ?_⟩
      obtain ⟨entries, hentries, -⟩ := find_join hname h
      cases hdir.symm.trans hentries
  | ok below =>
      cases below with
      | file text =>
          refine ⟨[], Nat.zero_le _, fun name text hname h => ?_⟩
          obtain ⟨entries, hentries, -⟩ := find_join hname h
          cases hdir.symm.trans hentries
      | directory entries =>
          refine ⟨fileNames entries, ?_, fun name text hname h => ?_⟩
          · exact Nat.le_trans (length_fileNames_le entries)
              (count_follow_le hdir (List.forall_mem_nil _) (Nat.le_refl _))
          · obtain ⟨entries', hentries, hmem⟩ := find_join hname h
            cases hdir.symm.trans hentries
            exact mem_fileNames hmem

end Files

end DocSite

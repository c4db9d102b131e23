import DocSite.Nav.Resolve
import DocSite.Proofs.Files.Directory
import Mathlib.Data.Finset.Card

/-! # Scripts of subtrees

The script of a deferred subtree has the subtree's name, and declares it (`loadSubtree_eq_ok_iff`).
A declared name is a word, so it is no path that leads elsewhere: scripts of different names are
different files of one directory, and there are no more of them than there are files
(`exists_loadable`). -/

namespace DocSite

namespace Script

/-- A script that is loaded is in a file. -/
theorem find_of_load {files : Files} {p : Path} {script : Script} (h : load files p = .ok script) :
    ∃ source, files.find p = .ok (.file (some source)) ∧ parse source = .ok script := by
  rw [load.eq_def] at h
  split at h
  · rw [Files.read.eq_def] at h
    cases hfound : files.find p with
    | error e =>
        rw [hfound] at h
        cases h
    | ok tree =>
        rw [hfound] at h
        cases tree with
        | directory entries => cases h
        | file text =>
            cases text with
            | none => cases h
            | some source =>
                refine ⟨source, rfl, ?_⟩
                simp only at h
                split at h
                · cases h
                next script' hparse =>
                  cases h
                  exact hparse
  · cases h

/-- What declarations bind are words. -/
theorem exists_word_of_bindings? {declared : List Declarator} {bindings : List (String × Literal)}
    (h : bindings? declared = .ok bindings) :
    ∀ binding ∈ bindings, ∃ word : Word, binding.1 = String.ofList word.chars := by
  induction declared generalizing bindings with
  | nil =>
      cases h
      exact List.forall_mem_nil _
  | cons d rest ih =>
      rw [bindings?] at h
      split at h
      · split at h
        next more hmore =>
          cases h
          exact List.forall_mem_cons.2 ⟨⟨d.name, rfl⟩, ih hmore⟩
        · cases h
      · cases h

/-- A name that a script binds has no slash. -/
theorem slash_not_mem_of_get? {source : String} {script : Script} {name : String} {l : Literal}
    (hparse : parse source = .ok script) (h : script.get? name = some l) : '/' ∉ name.toList := by
  rw [parse] at hparse
  simp only at hparse
  split at hparse
  · cases hparse
  · split at hparse
    next bindings hbindings =>
      cases hparse
      obtain ⟨front, back, hsplit, -⟩ := List.lookup_eq_some_iff.1 h
      have hmem : (name, l) ∈ bindings := by
        rw [show bindings = front ++ (name, l) :: back from hsplit]
        exact List.mem_append_right front List.mem_cons_self
      obtain ⟨word, hword⟩ := exists_word_of_bindings? hbindings _ hmem
      rw [show name = String.ofList word.chars from hword, String.toList_ofList]
      intro hslash
      exact absurd (word.written '/' hslash) (by decide)
    · cases hparse

end Script

namespace Nav

variable {files : Files} {dir : Path} {name : String} {forest : List Node}

/-- Whether the script of a name in a directory can be read and declares the name as a forest. -/
def Gives (files : Files) (dir : Path) (name : String) (forest : List Node) : Prop :=
  ∃ script literal, Script.load files (dir.join (name ++ ".js")) = .ok script ∧
    script.get? name = some literal ∧ forestOf name literal = .ok forest

/-- **A subtree is loaded exactly from a script that gives it.** -/
theorem loadSubtree_eq_ok_iff :
    loadSubtree files dir name = .ok forest ↔ Gives files dir name forest := by
  rw [loadSubtree, Gives]
  cases hload : Script.load files (dir.join (name ++ ".js")) with
  | error e => simp
  | ok script =>
      cases hget : script.get? name with
      | none => simp [hget]
      | some literal => simp [hget]

/-- The name of the file of a script is the name of an entry. -/
theorem isName_script (h : '/' ∉ name.toList) : Path.IsName (name ++ ".js") := by
  have hlength : 3 ≤ (name ++ ".js").length := by
    rw [String.length_append]
    exact Nat.le_add_left 3 _
  refine ⟨?_, ?_, ?_, ?_⟩
  · rw [String.toList_append, List.mem_append, not_or]
    exact ⟨h, by decide⟩
  all_goals
    intro hname
    rw [hname] at hlength
    exact absurd hlength (by decide)

/-- The name in front of the ending of a script's file. -/
def stem (file : String) : String :=
  String.ofList (file.toList.dropLast.dropLast.dropLast)

/-- It is the script's name. -/
theorem stem_script (name : String) : stem (name ++ ".js") = name := by
  rw [stem, String.toList_append]
  simp

/-- **There are no more scripts to load subtrees from than there are files.** -/
theorem exists_loadable (files : Files) (dir : Path) : ∃ names : Finset String,
    names.card ≤ files.count ∧
      ∀ name forest, loadSubtree files dir name = .ok forest → name ∈ names := by
  obtain ⟨fileNames, hlength, hmem⟩ := files.exists_fileNames dir
  refine ⟨(fileNames.map stem).toFinset, ?_, fun name forest h => ?_⟩
  · refine Nat.le_trans (List.toFinset_card_le _) ?_
    rwa [List.length_map]
  · obtain ⟨script, literal, hload, hget, -⟩ := loadSubtree_eq_ok_iff.1 h
    obtain ⟨source, hfound, hparse⟩ := Script.find_of_load hload
    have hfile := hmem _ _ (isName_script (Script.slash_not_mem_of_get? hparse hget)) hfound
    rw [List.mem_toFinset, List.mem_map]
    exact ⟨name ++ ".js", hfile, stem_script name⟩

end Nav

end DocSite

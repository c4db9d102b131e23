import DocSite.Error
import DocSite.Text.Display

/-! # The order of pages

Beside its table of contents a site has a linear order of its pages. No page is named twice, and
none has an empty name. -/

namespace DocSite.Nav

open DocSite.Text

/-- The pages of a site in order. -/
structure PageIndex where
  /-- The names of the pages. -/
  pages : List String
  /-- No page is named twice. -/
  nodup : pages.Nodup
  /-- No name is empty. -/
  nonempty : ∀ page ∈ pages, page ≠ ""
  deriving DecidableEq

/-- The pages before and after a page. -/
structure Neighbours where
  /-- The page before. -/
  prev : Option String
  /-- The page after. -/
  next : Option String
  deriving DecidableEq

namespace PageIndex

/-- The declaration that lists the pages. -/
def variableName : String := "NAVTREEINDEX"

/-- The place of an entry of the list, as messages name it. -/
def location (i : Nat) : String :=
  variableName ++ "[" ++ decimal i ++ "]"

/-- No pages. -/
def empty : PageIndex := ⟨[], List.nodup_nil, by simp⟩

/-- The first entry that is empty or repeats an earlier one, among `pages` that follow `before`. -/
def fault? (before : List String) : List String → Option Error
  | [] => none
  | page :: rest =>
      if page = "" then
        some (.malformedNavigation (location before.length) "page identifier is empty")
      else
        match before.idxOf? page with
        | some first =>
            some (.malformedNavigation (location before.length)
              ("page identifier " ++ display page ++ " already listed at " ++ decimal first))
        | none => fault? (before ++ [page]) rest

/-- Pages without fault follow what is before them without repetition. -/
theorem valid_of_fault?_eq_none {before pages : List String} (h : fault? before pages = none)
    (hb : before.Nodup ∧ ∀ page ∈ before, page ≠ "") :
    (before ++ pages).Nodup ∧ ∀ page ∈ before ++ pages, page ≠ "" := by
  induction pages generalizing before with
  | nil => simpa using hb
  | cons page rest ih =>
    rw [fault?] at h
    split at h
    · cases h
    next hne =>
      split at h
      · cases h
      next hnew =>
        have hmem : page ∉ before := by
          simpa [List.idxOf?_eq_none_iff] using hnew
        have := ih h ⟨by
          rw [List.nodup_append]
          refine ⟨hb.1, by simp, ?_⟩
          intro a ha b hb' hab
          simp only [List.mem_singleton] at hb'
          exact hmem (hb' ▸ hab ▸ ha), by
          intro p hp
          rcases List.mem_append.1 hp with hp | hp
          · exact hb.2 p hp
          · simp only [List.mem_singleton] at hp
            exact hp ▸ hne⟩
        simpa using this

/-- The order of the given pages, unless one of them is empty or repeated. -/
def ofList (pages : List String) : Except Error PageIndex :=
  match h : fault? [] pages with
  | some e => .error e
  | none =>
      have valid := valid_of_fault?_eq_none h ⟨List.nodup_nil, by simp⟩
      .ok ⟨pages, by simpa using valid.1, by simpa using valid.2⟩

/-- Where a page stands in the order. -/
def position? (index : PageIndex) (page : String) : Option Nat :=
  index.pages.idxOf? page

/-- The neighbours of a page; an unknown page has none. -/
def neighbours (index : PageIndex) (page : String) : Neighbours :=
  match index.position? page with
  | none => ⟨none, none⟩
  | some 0 => ⟨none, index.pages[1]?⟩
  | some (i + 1) => ⟨index.pages[i]?, index.pages[i + 2]?⟩

end PageIndex

end DocSite.Nav

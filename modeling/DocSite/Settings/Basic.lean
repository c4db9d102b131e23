/-! # Settings

Where the parts of a site are, and how its search index is used. -/

namespace DocSite

/-- How a search index is loaded and asked. -/
structure SearchOptions where
  /-- Whether a partition is read only when a query needs it. -/
  lazy : Bool := true
  /-- The number of hits that a query has at most; zero sets no limit. -/
  maxResults : Nat := 0
  /-- The sections that are searched; none means all of them. -/
  sections : List String := []

/-- The settings of a site. -/
structure Settings where
  /-- The navigation descriptor, relative to the site. -/
  navFile : String := "navtreedata.js"
  /-- The directory of the search index, relative to the site. -/
  searchDir : String := "search"
  /-- How the search index is used. -/
  search : SearchOptions := {}

end DocSite

/-! # Notices

What is reported on the side while an operation goes on: something was left out, or replaced by a
poorer answer. -/

namespace DocSite

/-- How grave a notice is. -/
inductive Severity where
  | warning
  | error
  deriving DecidableEq

/-- A notice. -/
structure Notice where
  /-- How grave it is. -/
  severity : Severity
  /-- What it says. -/
  text : String
  deriving DecidableEq

/-- A warning. -/
def Notice.warning (text : String) : Notice := ⟨.warning, text⟩

end DocSite

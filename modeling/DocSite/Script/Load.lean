import DocSite.Files
import DocSite.Script

/-! # Scripts in files -/

namespace DocSite

/-- Reads the script in a file. A path at which nothing stands is an error of its own. -/
def Script.load (files : Files) (p : Path) : Except Error Script :=
  if files.exists? p then
    match files.read p with
    | .error e => .error (.file e)
    | .ok source =>
        match Script.parse source with
        | .error e => .error (.script e)
        | .ok script => .ok script
  else .error (.pathNotFound p)

end DocSite

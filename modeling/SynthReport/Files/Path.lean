/-! # File paths

* **`pathPieces`** — the texts between the slashes of a path;
* **`PathComponent`**, **`pathComponents`** — a path up to spelling: repeated slashes, a slash at
  the end and dots within do not count. Two paths with the same components name the same file; the
  converse does not hold, since `./a` and `a` differ. -/

namespace SynthReport

/-- **The names in a path**, without the empty ones of repeated slashes. -/
def pathPieces (path : String) : List String :=
  ((path.toList.splitOn '/').filter (· ≠ [])).map String.ofList

/-- A path that starts at the root. -/
def isAbsolute (path : String) : Bool := path.toList.head? = some '/'

/-- A path that ends in a slash, and so can only name a directory. -/
def endsInSlash (path : String) : Bool := path.toList.getLast? = some '/'

/-- **A component of a path.** -/
inductive PathComponent where
  | root
  | current
  | parent
  | name (text : String)
deriving DecidableEq

/-- The components of the pieces of a path; a dot counts only in front. -/
def componentsOfPieces : List String → List PathComponent
  | [] => []
  | piece :: rest =>
    (if piece = "." then [PathComponent.current] else []) ++
      (piece :: rest).filterMap fun p =>
        if p = "." then none
        else if p = ".." then some .parent
        else some (.name p)

/-- **The components of a path.** -/
def pathComponents (path : String) : List PathComponent :=
  if isAbsolute path then
    .root :: (componentsOfPieces (pathPieces path)).filter (· ≠ .current)
  else componentsOfPieces (pathPieces path)

end SynthReport

/-! # Paths

A path is kept as it is written. Slashes divide it into components. Slashes in a row count as one,
and a component that is a single point is skipped, except at the front of a relative path.
-/

namespace CallAudio

structure Path where
  text : String
  deriving DecidableEq

namespace Path

def pieces (text : List Char) : List (List Char) := text.splitOn '/'

/-- The slash of the root, or a point at the front of a relative path. It is a component that
stands for the place where the path begins. -/
def front (path : Path) : List Char :=
  match path.text.toList with
  | '/' :: _ => ['/']
  | ['.'] => ['.']
  | '.' :: '/' :: _ => ['.']
  | _ => []

def body (path : Path) : List Char := path.text.toList.drop path.front.length

def names (path : Path) : List String :=
  ((pieces path.body).filter fun piece => piece ≠ [] && piece ≠ ['.']).map String.ofList

def same (a b : Path) : Bool := a.front = b.front && a.names = b.names

/-- Drops from the front of a reversed text what is no component: slashes and single points. -/
def trimmed : List Char → List Char
  | '/' :: rest => trimmed rest
  | '.' :: '/' :: rest => trimmed rest
  | ['.'] => []
  | rest => rest

/-- The path without its last component. The root and the empty path have no parent; the parent
of a single component is the empty path. -/
def parent? (path : Path) : Option Path :=
  match trimmed path.body.reverse, path.front with
  | [], ['.'] => some ⟨""⟩
  | [], _ => none
  | last, front =>
    some ⟨String.ofList (front ++ (trimmed (last.dropWhile (· ≠ '/'))).reverse)⟩

def join (directory : Path) (below : String) : Path :=
  if directory.text = "" ∨ directory.text.toList.getLast? = some '/' then
    ⟨directory.text ++ below⟩
  else ⟨directory.text ++ "/" ++ below⟩

end Path

end CallAudio

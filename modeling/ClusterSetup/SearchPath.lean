import ClusterSetup.Path
import ClusterSetup.Text.Chars

namespace ClusterSetup

/-- The results of lookups under one search path. -/
structure SearchPath where
  path : Option String := none
  found : List (String × Bool) := []
  deriving Repr, DecidableEq

namespace SearchPath

/-- Forgets the results if the search path is another one. -/
def sync (s : SearchPath) (path : Option String) : SearchPath :=
  if s.path = path then s else ⟨path, []⟩

def directories (path : String) : List String :=
  (Chars.pieces (· == ':') path.toList).map String.ofList

def candidates (path : Option String) (program : String) : List String :=
  match path with
  | none => []
  | some path => (directories path).map fun dir => Path.under dir program

/-- Whether one of the directories of a search path has a program. -/
def search (isFile : String → Bool) (path : Option String) (program : String) : Bool :=
  (candidates path program).any isFile

/-- Tells whether a program can be found. A name with a slash in it is a path of its own and is
not looked up. -/
def lookup (isFile : String → Bool) (path : Option String) (s : SearchPath) (program : String) :
    Bool × SearchPath :=
  if program.toList.contains '/' then (isFile program, s)
  else
    let s := s.sync path
    match s.found.find? (·.1 == program) with
    | some (_, found) => (found, s)
    | none =>
      let found := search isFile path program
      (found, { s with found := (program, found) :: s.found })

end SearchPath

end ClusterSetup

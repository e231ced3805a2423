import ClusterSetup.Text.Chars

/-!
Files and directories held in memory, for rehearsing what depends on them. A written path is
followed name by name, so every name on the way has to be that of a directory, also in front of two
dots.
-/

namespace ClusterSetup

/-- A place in a tree: the names on the shortest way to it from the top. -/
abbrev TreePath := List String

/-- A path as it was written: what stands between its slashes. -/
abbrev WrittenPath := List String

namespace WrittenPath

def ofText (text : String) : WrittenPath :=
  (Chars.pieces (· == '/') text.toList).map String.ofList

def isAbsolute (p : WrittenPath) : Bool := p.head? == some ""

/-- The longest path and the longest name, in bytes of UTF-8. -/
def maxBytes : Nat := 4095

def maxNameBytes : Nat := 255

def byteSize (p : WrittenPath) : Nat :=
  p.foldr (fun name size => name.utf8ByteSize + 1 + size) 0 - 1

/-- Whether a path can be used at all: it is not too long and has no character U+0000. -/
def isUsable (p : WrittenPath) : Bool :=
  p.byteSize ≤ maxBytes && p.all fun name => !Chars.hasNul name.toList

/-- Whether a name means the directory that it stands in. -/
def staysHere (name : String) : Bool := name == "" || name == "."

/-- Whether a name can be given to a file. -/
def isName (name : String) : Bool :=
  !staysHere name && name != ".." && name.utf8ByteSize ≤ maxNameBytes

/-- A path without the names at its end that mean the directory in front of them. -/
def trim (p : WrittenPath) : WrittenPath := (p.reverse.dropWhile staysHere).reverse

def parent (p : WrittenPath) : WrittenPath := trim (trim p).dropLast

/-- Whether a path ends in a dot, behind which there can be slashes. -/
def endsInDot (p : WrittenPath) : Bool := (p.filter (· != "")).getLast? == some "."

end WrittenPath

structure FileTree where
  files : List TreePath := []
  directories : List TreePath := []
  deriving Repr, DecidableEq

namespace FileTree

def isFile (t : FileTree) (place : TreePath) : Bool := t.files.contains place

def isDirectory (t : FileTree) (place : TreePath) : Bool :=
  place.isEmpty || t.directories.contains place

/-- The directory to which a name leads from another one. The top is above itself. -/
def enter? (t : FileTree) (here : TreePath) (name : String) : Option TreePath :=
  if WrittenPath.staysHere name then some here
  else if name = ".." then some here.dropLast
  else if t.isDirectory (here ++ [name]) then some (here ++ [name])
  else none

def directory? (t : FileTree) (path : WrittenPath) : Option TreePath := path.foldlM t.enter? []

/-- The place of a file to which a path leads or that it would give to a new one. A path that ends
in a slash or in dots can only lead to a directory. -/
def place? (t : FileTree) (path : WrittenPath) : Option TreePath :=
  match path.getLast? with
  | some name =>
    if path.isUsable && WrittenPath.isName name then
      (t.directory? path.dropLast).map fun here => here ++ [name]
    else none
  | none => none

/-- Whether a written path leads to a file from the top of the tree. -/
def leadsToFile (t : FileTree) (path : String) : Bool :=
  let path := WrittenPath.ofText path
  path.isAbsolute && (t.place? path).any t.isFile

/-- Follows a path and creates the directories that are missing on the way. What was created in
front of an obstacle stays. -/
def createAlong (t : FileTree) (here : TreePath) : WrittenPath → Option TreePath × FileTree
  | [] => (some here, t)
  | name :: rest =>
    match t.enter? here name with
    | some there => t.createAlong there rest
    | none =>
      if WrittenPath.isName name && !t.isFile (here ++ [name]) then
        { t with directories := t.directories ++ [here ++ [name]] }.createAlong (here ++ [name])
          rest
      else (none, t)

/-- Creates the directories of a path, unless the path cannot be used. -/
def createAll (t : FileTree) (path : WrittenPath) : Option TreePath × FileTree :=
  if path.isUsable then t.createAlong [] path else (none, t)

/-- Creates a directory and those it lies in. A dot at the end creates nothing: what it stands
behind has to be there. -/
def makeDirectory (t : FileTree) (path : String) : Bool × FileTree :=
  let path := WrittenPath.ofText path
  if path.endsInDot && path.isUsable then
    let (_, t) := t.createAll path.parent
    ((t.directory? path).isSome, t)
  else
    let (place, t) := t.createAll path
    (place.isSome, t)

/-- Creates a file and the directories it lies in. -/
def makeFile (t : FileTree) (path : String) : Bool × FileTree :=
  let path := WrittenPath.ofText path
  let (_, t) := t.createAll path.parent
  match t.place? path with
  | none => (false, t)
  | some place =>
    if t.isDirectory place then (false, t)
    else if t.isFile place then (true, t)
    else (true, { t with files := t.files ++ [place] })

def removeFile (t : FileTree) (path : String) : Bool × FileTree :=
  match t.place? (WrittenPath.ofText path) with
  | some place =>
    if t.isFile place then (true, { t with files := t.files.erase place }) else (false, t)
  | none => (false, t)

end FileTree

end ClusterSetup

namespace ClusterSetup.Toml

/-- How a table came into being, which decides what may still be added to it. -/
inductive TableOrigin where
  /-- Named by a header of its own. -/
  | header
  /-- A parent in the header of another table. -/
  | implied
  /-- A parent in a dotted key. -/
  | dotted
  /-- Written in braces. -/
  | inline
  deriving Repr, DecidableEq

/-- The values of a document. Of floats and of dates and times only the presence counts. -/
inductive Value where
  | string (text : String)
  | integer (n : Int)
  | float
  | boolean (b : Bool)
  | moment
  | array (items : List Value)
  /-- The tables of one repeated header. -/
  | tables (items : List Value)
  | table (origin : TableOrigin) (entries : List (String × Value))

abbrev Entries := List (String × Value)

namespace Entries

def get? (es : Entries) (key : String) : Option Value :=
  (es.find? fun e => e.1 == key).map (·.2)

def set (es : Entries) (key : String) (v : Value) : Entries :=
  if es.any (·.1 == key) then es.map fun e => if e.1 == key then (key, v) else e
  else es ++ [(key, v)]

def erase (es : Entries) (key : String) : Entries := es.filter fun e => e.1 != key

/-- Adds a key that is not there yet. -/
def insertNew? (es : Entries) (key : String) (v : Value) : Option Entries :=
  if es.any (·.1 == key) then none else some (es ++ [(key, v)])

end Entries

/-- Changes the table that a path of keys leads to, creating the tables on the way. A path of
headers passes through tables of every origin but inline ones, and through the last table of a
repeated header; a path of a dotted key does not enter tables that have a header. -/
def descend (viaDots : Bool) (change : TableOrigin → Entries → Option Entries) :
    List String → TableOrigin → Entries → Option Entries
  | [], origin, es => change origin es
  | key :: path, _, es =>
    let enter (origin : TableOrigin) (inner : Entries) : Option Value :=
      (descend viaDots change path origin inner).map (.table origin)
    let entered : Option Value :=
      match es.get? key with
      | none => enter (if viaDots then .dotted else .implied) []
      | some (.table .inline _) => none
      | some (.table .header inner) => if viaDots then none else enter .header inner
      | some (.table origin inner) => enter origin inner
      | some (.tables items) =>
        match items.getLast? with
        | some (.table origin inner) =>
          (enter origin inner).map fun last => .tables (items.dropLast ++ [last])
        | _ => none
      | some _ => none
    entered.map (es.set key)

/-- Adds a key behind a path of dots. The table it goes into was made by dots if there are any,
and has no such key. -/
def addDotted (path : List String) (key : String) (v : Value) (es : Entries) : Option Entries :=
  descend true
    (fun origin es =>
      if (origin == .dotted) == path.isEmpty then none else es.insertNew? key v)
    path .header es

/-- The entries of a table in braces. -/
def ofPairs (pairs : List (List String × String × Value)) : Option Entries :=
  pairs.foldlM (fun es (path, key, v) => addDotted path key v es) []

/-- The last key of a path and those in front of it. -/
def splitPath (path : List String) : List String × String :=
  (path.dropLast, path.getLastD "")

/-- A document while it is read: what is complete, and the table that keys go into. -/
structure Draft where
  root : Entries := []
  path : List String := []
  repeated : Bool := false
  current : Entries := []

namespace Draft

/-- Puts the current table where its header says. -/
def close (d : Draft) : Option Entries :=
  if d.path.isEmpty then some d.current
  else
    let (parents, key) := splitPath d.path
    let here : Value := .table .header d.current
    descend false
      (fun _ es =>
        if d.repeated then
          match es.get? key with
          | none => some (es.set key (.tables [here]))
          | some (.tables items) => some (es.set key (.tables (items ++ [here])))
          | some _ => none
        else es.insertNew? key here)
      parents .header d.root

/-- Begins the table of a header. A table may have been implied before, and is given its header
then; no other table is opened again. -/
def openTable (path : List String) (d : Draft) : Option Draft := do
  let root ← d.close
  let (parents, key) := splitPath path
  let parent ← descend false (fun _ es => some es) parents .header root
  let found := parents.foldlM
    (fun es k =>
      match Entries.get? es k with
      | some (.table _ inner) => some inner
      | some (.tables items) =>
        match items.getLast? with
        | some (.table _ inner) => some inner
        | _ => none
      | _ => none)
    parent
  match (← found).get? key with
  | none => some { root := parent, path := path, current := [] }
  | some (.table .implied inner) =>
    let root ← descend false (fun _ es => some (es.erase key)) parents .header parent
    some { root := root, path := path, current := inner }
  | some _ => none

/-- Begins one more table of a repeated header. -/
def openRepeated (path : List String) (d : Draft) : Option Draft := do
  let root ← d.close
  let (parents, key) := splitPath path
  let root ← descend false
    (fun _ es =>
      match es.get? key with
      | none => some es
      | some (.tables _) => some es
      | some _ => none)
    parents .header root
  some { root := root, path := path, repeated := true, current := [] }

def add (path : List String) (key : String) (v : Value) (d : Draft) : Option Draft :=
  (addDotted path key v d.current).map fun es => { d with current := es }

end Draft

end ClusterSetup.Toml

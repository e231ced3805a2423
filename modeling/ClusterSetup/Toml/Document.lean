import ClusterSetup.Toml.Scalar

namespace ClusterSetup.Toml

def isBareKeyChar (c : Char) : Bool := Chars.isAlphanum c || c = '-' || c = '_'

/-- Takes one part of a key, in quotes or bare. -/
def simpleKey : Reader String
  | '"' :: r => singleLineString ('"' :: r)
  | '\x27' :: r => singleLineString ('\x27' :: r)
  | cs =>
    let bare := cs.takeWhile isBareKeyChar
    if bare.isEmpty then none else some (String.ofList bare, cs.drop bare.length)

/-- Takes the parts of a key with dots between them, blanks around each part allowed. -/
def keyPartsFor : Nat → Reader (List String)
  | 0, _ => none
  | fuel + 1, cs =>
    match simpleKey (skipSpaces cs) with
    | none => none
    | some (part, r) =>
      match skipSpaces r with
      | '.' :: r => (keyPartsFor fuel r).map fun more => (part :: more.1, more.2)
      | r => some ([part], r)

/-- The depth that arrays, inline tables and keys may not reach. -/
def depthLimit : Nat := 80

def key : Reader (List String) := fun cs =>
  match keyPartsFor (cs.length + 1) cs with
  | some (parts, r) => if parts.length < depthLimit then some (parts, r) else none
  | none => none

/-- Takes the values of an array up to its closing bracket. A comma may follow the last one. -/
def arrayRest (value : Reader Value) : Nat → List Value → Reader (List Value)
  | 0, _, _ => none
  | fuel + 1, acc, cs =>
    match skipLines cs with
    | ']' :: r => some (acc.reverse, r)
    | cs =>
      match value cs with
      | none => none
      | some (v, r) =>
        match skipLines r with
        | ',' :: r => arrayRest value fuel (v :: acc) r
        | ']' :: r => some ((v :: acc).reverse, r)
        | _ => none

/-- Takes a key, an equals sign and a value. -/
def keyValue (value : Reader Value) : Reader (List String × String × Value) := fun cs =>
  match key cs with
  | none => none
  | some (path, r) =>
    match r with
    | '=' :: r =>
      match value (skipSpaces r) with
      | none => none
      | some (v, r) =>
        let (parents, last) := splitPath path
        some ((parents, last, v), r)
    | _ => none

/-- Takes the pairs of an inline table up to its closing brace. -/
def inlineRest (value : Reader Value) :
    Nat → List (List String × String × Value) → Reader (List (List String × String × Value))
  | 0, _, _ => none
  | fuel + 1, acc, cs =>
    match keyValue value cs with
    | none => none
    | some (pair, r) =>
      match skipSpaces r with
      | ',' :: r => inlineRest value fuel (pair :: acc) r
      | '\x7d' :: r => some ((pair :: acc).reverse, r)
      | _ => none

def inlineTable (value : Reader Value) : Reader Value := fun cs =>
  match skipSpaces cs with
  | '\x7d' :: r => some (.table .inline [], r)
  | _ =>
    match inlineRest value (cs.length + 1) [] cs with
    | none => none
    | some (pairs, r) => (ofPairs pairs).map fun es => (.table .inline es, r)

/-- Takes a date, a number, or both forms of them. -/
def number : Reader Value := fun cs =>
  match moment cs with
  | some (_, r) => some (.moment, r)
  | none =>
    match float cs with
    | some (_, r) => some (.float, r)
    | none => (integer cs).map fun p => (.integer p.1, p.2)

def simpleValue : Reader Value := fun cs =>
  match cs with
  | '"' :: _ => (string cs).map fun p => (.string p.1, p.2)
  | '\x27' :: _ => (string cs).map fun p => (.string p.1, p.2)
  | _ =>
    if startsWith "true" cs then some (.boolean true, cs.drop 4)
    else if startsWith "false" cs then some (.boolean false, cs.drop 5)
    else number cs

/-- Takes a value in which arrays and inline tables are nested at most so deep. -/
def valueFor : Nat → Reader Value
  | 0, cs =>
    match cs with
    | '[' :: _ => none
    | '\x7b' :: _ => none
    | _ => simpleValue cs
  | depth + 1, cs =>
    match cs with
    | '[' :: r =>
      (arrayRest (valueFor depth) (r.length + 1) [] r).map fun p => (.array p.1, p.2)
    | '\x7b' :: r => inlineTable (valueFor depth) r
    | _ => simpleValue cs

def value : Reader Value := valueFor (depthLimit - 1)

/-- Takes the header of a table up to the end of its line. -/
def header (d : Draft) (cs : List Char) : Option (Draft × List Char) :=
  match cs with
  | '[' :: '[' :: r => do
    let (path, r) ← key r
    let (_, r) ← expect [']', ']'] r
    let r ← lineEnd r
    let d ← d.openRepeated path
    some (d, r)
  | '[' :: r => do
    let (path, r) ← key r
    let (_, r) ← expect [']'] r
    let r ← lineEnd r
    let d ← d.openTable path
    some (d, r)
  | _ => none

/-- Reads the lines of a document one after the other. -/
def readLines : Nat → Draft → List Char → Option Entries
  | 0, _, _ => none
  | fuel + 1, d, cs =>
    match skipSpaces cs with
    | [] => d.close
    | '[' :: r => do
      let (d, r) ← header d ('[' :: r)
      readLines fuel d r
    | cs =>
      match cs with
      | '#' :: _ => lineEnd cs >>= readLines fuel d
      | '\n' :: _ => lineEnd cs >>= readLines fuel d
      | '\r' :: _ => lineEnd cs >>= readLines fuel d
      | _ => do
        let ((path, key, v), r) ← keyValue value cs
        let r ← lineEnd r
        let d ← d.add path key v
        readLines fuel d r

/-- Reads a document, with or without a byte order mark in front. -/
def read (text : String) : Option Entries :=
  let cs := match text.toList with
    | '\uFEFF' :: r => r
    | cs => cs
  readLines (cs.length + 1) {} cs

end ClusterSetup.Toml

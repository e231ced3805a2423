import ClusterSetup.Text

namespace ClusterSetup

structure DistInfo where
  dist : Option String := none
  version : Option String := none
  arch : Option String := none
  kernel : Option String := none
  deriving Repr, DecidableEq

namespace DistInfo

/-- Fills the unknown fields from a detected distribution. -/
def mergeMissing (known detected : DistInfo) : DistInfo where
  dist := known.dist <|> detected.dist
  version := known.version <|> detected.version
  arch := known.arch <|> detected.arch
  kernel := known.kernel <|> detected.kernel

/-- Reads one line of the detection output, a field name and a value that is not blank; quotes
around the value are dropped. A later line replaces an earlier one. -/
def noteLine (info : DistInfo) (line : List Char) : DistInfo :=
  match Chars.cut? ':' line with
  | none => info
  | some (tag, value) =>
    let value := Chars.trim value
    if value.isEmpty then info
    else
      let text := some (String.ofList (Chars.strip '"' value))
      match String.ofList (Chars.trim tag) with
      | "dist" => { info with dist := text }
      | "version" => { info with version := text }
      | "arch" => { info with arch := text }
      | "kernel" => { info with kernel := text }
      | _ => info

/-- The part of a release number in front of its first dot. -/
def major (release : List Char) : List Char := release.takeWhile (· ≠ '.')

/-- Names the releases of the SUSE family as the resources do: `sles10`, `OPENSUSE11_1`. -/
def renameSuse (info : DistInfo) : DistInfo :=
  match info.dist with
  | none => info
  | some id =>
    let id := Text.lower id
    let release := info.version.map fun v => Chars.trim v.toList
    let renamed : Option (List Char → List Char) :=
      if id = "sles" ∨ id = "sled" then some fun v => "sles".toList ++ major v
      else if "opensuse".toList.isPrefixOf id.toList then
        some fun v => "OPENSUSE".toList ++ v.map fun c => if c = '.' then '_' else c
      else none
    match renamed with
    | none => info
    | some name =>
      { info with
        dist := some "suse"
        version := (release.map fun v => String.ofList (name v)) <|> info.version }

def ofReport (output : String) : DistInfo :=
  ((Chars.lines output.toList).foldl noteLine {}).renameSuse

end DistInfo

end ClusterSetup

import ClusterSetup.Text

namespace ClusterSetup.Text

/-- Puts a text on one line and keeps at most `limit` characters of it. Line feeds and carriage
returns become spaces, blanks at the ends of what is kept are dropped, and three dots mark that
something was left out. -/
def excerpt (limit : Nat) (s : String) : String :=
  if limit = 0 then ""
  else
    let flat := s.toList.map fun c => if c = '\n' ∨ c = '\r' then ' ' else c
    let kept := String.ofList (Chars.trim (flat.take limit))
    if flat.length ≤ limit then kept else kept ++ "..."

/-- The settings that ask for longer excerpts: `1`, `true`, `yes` and `on`. -/
def isSwitchedOn (setting : Option String) : Bool :=
  match setting with
  | none => false
  | some value => ["1", "true", "yes", "on"].contains (lower (trim value))

/-- The number of characters an excerpt keeps by default, and when diagnostics are on. -/
def excerptLimit (diagnostic : Bool) : Nat := if diagnostic then 1024 else 160

def snippet (setting : Option String) (s : String) : String :=
  excerpt (excerptLimit (isSwitchedOn setting)) s

/-- The last `count` lines that are not blank, without the blanks at their ends. -/
def tail (count : Nat) (s : String) : List String :=
  let kept := ((lines s).map trimRight).filter fun line => !isBlank line
  kept.drop (kept.length - count)

end ClusterSetup.Text

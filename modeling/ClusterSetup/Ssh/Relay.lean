import ClusterSetup.Address
import ClusterSetup.Ssh.Client
import ClusterSetup.Text

/-!
An ssh client that somebody else runs, and a name service that somebody else asks. What is known
about them is kept in a transcript; a session that is run again with a longer transcript comes as
far as that goes and then has one more question.
-/

namespace ClusterSetup.Ssh

/-- A run of the client with these arguments, or the lookup of a name. -/
inductive Question where
  | run (arguments : List String)
  | lookUp (name : String)
  deriving Repr, DecidableEq

/-- How runs of a client ended and what names were looked up to, and the first question of which
that is not known. -/
structure Transcript where
  ends : List SshRun := []
  lookups : List Lookup := []
  asked : Option Question := none
  deriving Repr, DecidableEq

def relay : Client Transcript where
  run t arguments _ :=
    match t.ends with
    | run :: rest => (some run, { t with ends := rest })
    | [] => (none, { t with asked := t.asked <|> some (.run arguments) })

/-- The lookups of a transcript. It has those of names; an address in numbers needs none. -/
def relayLookups : Resolver Transcript where
  lookUp t target _ :=
    match Address.lookUpLocally? target.address, t.lookups with
    | some lookup, _ => (some lookup, t)
    | none, lookup :: rest => (some lookup, { t with lookups := rest })
    | none, [] => (none, { t with asked := t.asked <|> some (.lookUp target.address) })

def marked (mark : String) (lines : List (String × String)) : String :=
  String.join ((lines.filter (·.1 == mark)).map fun line => line.2 ++ "\n")

/-- A line as its first word and the text behind the blank that follows it. -/
def splitMark (line : String) : String × String :=
  match Chars.cut? ' ' line.toList with
  | some (mark, text) => (String.ofList mark, String.ofList text)
  | none => (line, "")

/-- Reads how a run ended from lines that begin with a word: `exit` with the code, `killed`,
`timeout`, or `failed` with the reason. Lines that begin with `out` and `err` hold what the client
printed on its two streams. -/
def readEnd? (lines : List String) : Option SshRun :=
  let lines := lines.map splitMark
  match lines with
  | ("exit", code) :: printed =>
    (Chars.toNat? code.toList).map fun code =>
      .exited (marked "out" printed) (marked "err" printed) code
  | ("killed", _) :: _ => some .killed
  | ("timeout", _) :: _ => some .timedOut
  | ("failed", reason) :: _ => some (.notStarted reason)
  | _ => none

/-- Reads what came of a lookup: a line `timeout`, a line `failed` with the reason, or any number of
lines `address`. -/
def readLookup? (lines : List String) : Option Lookup :=
  let lines := lines.map splitMark
  match lines with
  | ("timeout", _) :: _ => some .timedOut
  | ("failed", reason) :: _ => some (.failed reason)
  | _ =>
    if lines.all (·.1 == "address") then some (.found (lines.map (·.2))) else none

end ClusterSetup.Ssh

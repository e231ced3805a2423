import ClusterSetup.Text.Chars

namespace ClusterSetup.Version

/-- A segment of a version: the number its leading digits denote, and the text behind them. -/
structure Segment where
  number : Nat
  suffix : List Char
  deriving Repr, DecidableEq

namespace Segment

def zero : Segment := ⟨0, []⟩

/-- The least number that does not fit into 64 bits. -/
def numberLimit : Nat := 0x10000000000000000

/-- Numbers of more than 64 bits count as zero, like a missing number. -/
def ofChars (cs : List Char) : Segment :=
  let number := Chars.toNat (cs.takeWhile Chars.isDigit)
  ⟨if number < numberLimit then number else 0, cs.dropWhile Chars.isDigit⟩

/-- Orders suffixes: any suffix comes before none, two suffixes in the order of their
characters. -/
def compareSuffix : List Char → List Char → Ordering
  | [], [] => .eq
  | [], _ :: _ => .gt
  | _ :: _, [] => .lt
  | a, b => compare a b

/-- Orders segments by number, then by suffix. -/
def cmp (a b : Segment) : Ordering :=
  (compare a.number b.number).then (compareSuffix a.suffix b.suffix)

end Segment

/-- The segments of a version. Dots and hyphens separate them, and empty ones are left out. -/
def segments (version : String) : List Segment :=
  ((Chars.pieces (fun c => c = '.' || c = '-') (Chars.trim version.toList)).filter
    (!·.isEmpty)).map Segment.ofChars

/-- Orders lists of segments by the first place where they differ; the shorter list is filled up
with zeros. -/
def compareSegments : List Segment → List Segment → Ordering
  | [], [] => .eq
  | a :: as, [] => (a.cmp .zero).then (compareSegments as [])
  | [], b :: bs => (Segment.zero.cmp b).then (compareSegments [] bs)
  | a :: as, b :: bs => (a.cmp b).then (compareSegments as bs)

def order (left right : String) : Ordering := compareSegments (segments left) (segments right)

/-- Whether the installed version is older than the latest one. -/
def isOlder (installed latest : String) : Bool := order installed latest == .lt

/-- Sorts versions from old to new; versions that compare alike keep their places. -/
def sort (versions : List String) : List String :=
  versions.mergeSort fun a b => order a b != .gt

/-- A version as it is compared and as it is shown. -/
structure Reading where
  compared : String
  shown : String
  deriving Repr, DecidableEq

/-- Heartbeat 2.1.3 as it comes with the release sles10 has the fixes of 2.1.4 and is read as
that version. -/
def readHeartbeat (version : String) (release : Option String) : Reading :=
  if version = "2.1.3" ∧ release = some "sles10" then ⟨"2.1.4", "2.1.3 (2.1.4)"⟩
  else ⟨version, version⟩

end ClusterSetup.Version

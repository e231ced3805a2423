namespace ClusterSetup

structure Duration where
  nanos : Nat
  deriving Repr, DecidableEq

namespace Duration

def zero : Duration := ⟨0⟩

def ofMillis (n : Nat) : Duration := ⟨n * 1000000⟩

def ofSeconds (n : Nat) : Duration := ⟨n * 1000000000⟩

/-- The longest span is shorter than this many seconds. -/
def secondsLimit : Nat := 18446744073709551616

def ofParts? (seconds nanos : Nat) : Option Duration :=
  if seconds + nanos / 1000000000 < secondsLimit then some ⟨seconds * 1000000000 + nanos⟩ else none

def toMillis (d : Duration) : Nat := d.nanos / 1000000

/-- The digits of a fraction below one, given as a count of units of size `1 / 10 ^ places`; zeros
at the end are left out. -/
def fractionDigits (places : Nat) (count : Nat) : String :=
  let digits := Nat.toDigits 10 count
  let padded := List.replicate (places - digits.length) '0' ++ digits
  String.ofList (padded.reverse.dropWhile (· == '0')).reverse

def render (whole fraction places : Nat) (unit : String) : String :=
  if fraction = 0 then toString whole ++ unit
  else toString whole ++ "." ++ fractionDigits places fraction ++ unit

/-- The largest of the units s, ms, µs and ns that is not longer than the span, with a decimal
fraction where the span is no whole number of them. -/
def text (d : Duration) : String :=
  if 1000000000 ≤ d.nanos then render (d.nanos / 1000000000) (d.nanos % 1000000000) 9 "s"
  else if 1000000 ≤ d.nanos then render (d.nanos / 1000000) (d.nanos % 1000000) 6 "ms"
  else if 1000 ≤ d.nanos then render (d.nanos / 1000) (d.nanos % 1000) 3 "µs"
  else render d.nanos 0 0 "ns"

end Duration

end ClusterSetup

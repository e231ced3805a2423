import ClusterSetup.Text.Chars

namespace ClusterSetup

/-- Variables with their values. -/
structure Environment where
  entries : List (String × String) := []
  deriving Repr, DecidableEq

namespace Environment

def empty : Environment := {}

def get? (e : Environment) (name : String) : Option String :=
  (e.entries.find? (·.1 == name)).map (·.2)

/-- Whether a variable can be set to a value. -/
def canHold (name value : String) : Bool :=
  !Chars.hasNul name.toList && !Chars.hasNul value.toList

def set? (e : Environment) (name value : String) : Option Environment :=
  if canHold name value then some ⟨(name, value) :: e.entries⟩ else none

/-- Sets variables one after the other; those without a value stay as they are. -/
def setAll? (e : Environment) : List (String × Option String) → Option Environment
  | [] => some e
  | (name, some value) :: rest => (e.set? name value).bind fun e => e.setAll? rest
  | (_, none) :: rest => e.setAll? rest

/-- A variable has the value that it was set to, and the other ones keep theirs. -/
theorem get?_of_set? {e changed : Environment} {name value : String}
    (h : e.set? name value = some changed) (other : String) :
    changed.get? other = if name = other then some value else e.get? other := by
  unfold set? at h
  split at h
  · cases h
    by_cases heq : name = other <;> simp [get?, heq]
  · cases h

end Environment

end ClusterSetup

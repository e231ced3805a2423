namespace ClusterSetup

/-- Storage replication, the Heartbeat stack, and the Corosync or OpenAIS stack, the stacks each
with Pacemaker. -/
inductive Component where
  | drbd
  | heartbeat
  | corosync
  deriving Repr, DecidableEq

namespace Component

/-- All components, in the order in which they are reported and installed. -/
def all : List Component := [drbd, heartbeat, corosync]

def tag : Component → String
  | drbd => "drbd"
  | heartbeat => "hb-pm"
  | corosync => "pm"

def ofTag? (s : String) : Option Component := all.find? (·.tag == s)

def label : Component → String
  | drbd => "DRBD"
  | heartbeat => "Pcmk/Heartbeat"
  | corosync => "Pcmk/Corosync"

/-- What the resource keys about installing a component start with. -/
def resourceStem : Component → String
  | drbd => "DrbdInst"
  | heartbeat => "HbPmInst"
  | corosync => "PmInst"

def isClusterStack : Component → Bool
  | drbd => false
  | _ => true

theorem mem_all (c : Component) : c ∈ all := by cases c <;> simp [all]

end Component

structure PerComponent (α : Type) where
  drbd : α
  heartbeat : α
  corosync : α
  deriving Repr, DecidableEq

namespace PerComponent

variable {α : Type}

def get (t : PerComponent α) : Component → α
  | .drbd => t.drbd
  | .heartbeat => t.heartbeat
  | .corosync => t.corosync

def set (t : PerComponent α) (c : Component) (a : α) : PerComponent α :=
  match c with
  | .drbd => { t with drbd := a }
  | .heartbeat => { t with heartbeat := a }
  | .corosync => { t with corosync := a }

def const (a : α) : PerComponent α := ⟨a, a, a⟩

def ofFn (f : Component → α) : PerComponent α := ⟨f .drbd, f .heartbeat, f .corosync⟩

def members (t : PerComponent Bool) : List Component := Component.all.filter t.get

/-- The present entries, in the order of the components. -/
def entries (t : PerComponent (Option α)) : List (Component × α) :=
  Component.all.filterMap fun c => (t.get c).map fun a => (c, a)

@[simp] theorem get_set (t : PerComponent α) (c d : Component) (a : α) :
    (t.set c a).get d = if d = c then a else t.get d := by
  cases c <;> cases d <;> rfl

@[simp] theorem get_const (a : α) (c : Component) : (const a).get c = a := by cases c <;> rfl

@[simp] theorem get_ofFn (f : Component → α) (c : Component) : (ofFn f).get c = f c := by
  cases c <;> rfl

theorem ext_get {t u : PerComponent α} (h : ∀ c, t.get c = u.get c) : t = u := by
  cases t
  cases u
  have h₁ := h .drbd
  have h₂ := h .heartbeat
  have h₃ := h .corosync
  simp_all [get]

end PerComponent

end ClusterSetup

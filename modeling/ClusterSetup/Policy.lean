import ClusterSetup.Component
import ClusterSetup.Duration

namespace ClusterSetup

/-- Which components are found installed. -/
abbrev Flags := PerComponent Bool

namespace Flags

def none : Flags := .const false

def clusterOk (f : Flags) : Bool := f.heartbeat || f.corosync

/-- Storage and at least one cluster stack. -/
def success (f : Flags) : Bool := f.drbd && f.clusterOk

end Flags

/-- What a session does without being told. -/
structure Policy where
  /-- Go on to the next step after one that succeeded. -/
  autoNext : Bool := false
  /-- The components to install with their default method where they are missing. -/
  autoInstall : PerComponent Bool := .const false
  /-- How long to wait before each of these. -/
  delay : Duration := .zero
  /-- How many installs of one component to start. -/
  maxInstallAttempts : Nat := 2
  deriving Repr, DecidableEq

namespace Policy

/-- Nothing happens without being told. -/
def manual : Policy := {}

/-- Goes on, and installs whatever is missing. -/
def unattended : Policy := { autoNext := true, autoInstall := .const true }

def installs (p : Policy) (c : Component) : Bool := p.autoInstall.get c

/-- The first component that is missing, to be installed, offered, and not yet given up. -/
def nextInstall (p : Policy) (flags : Flags) (offered : Component → Bool)
    (attempts : Component → Nat) : Option Component :=
  Component.all.find? fun c =>
    !flags.get c && p.installs c && offered c && attempts c < p.maxInstallAttempts

end Policy

end ClusterSetup

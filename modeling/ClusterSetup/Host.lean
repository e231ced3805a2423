import ClusterSetup.Component
import ClusterSetup.Dist
import ClusterSetup.Version.Installed

namespace ClusterSetup

structure HostId where
  val : Nat
  deriving Repr, DecidableEq

namespace HostId

def text (id : HostId) : String := "host-" ++ toString id.val

end HostId

/-- Whether a host could be reached when that was last tried. -/
inductive Connectivity where
  | disconnected
  | connected
  | failed
  deriving Repr, DecidableEq

namespace Connectivity

def tag : Connectivity → String
  | disconnected => "disconnected"
  | connected => "connected"
  | failed => "failed"

end Connectivity

structure Host where
  id : HostId
  name : String
  /-- The address the user entered, followed by what it resolved to. -/
  addresses : List String
  user : String := "root"
  port : Nat := 22
  dist : DistInfo := {}
  versions : InstalledVersions := {}
  /-- The install method last used for each component. -/
  installMethods : PerComponent (Option Nat) := .const none
  connectivity : Connectivity := .disconnected
  /-- The name of the cluster that the host belongs to. -/
  cluster : Option String := none
  /-- Whether a probe of the host has been completed. -/
  probed : Bool := false
  deriving Repr, DecidableEq

structure HostTarget where
  id : HostId
  name : String
  address : String
  user : String
  port : Nat
  deriving Repr, DecidableEq

namespace Host

def new (id : HostId) (name address : String) : Host where
  id := id
  name := name
  addresses := [address]

def primaryAddress (h : Host) : Option String := h.addresses.head?

/-- Keeps the first occurrence of each address that is not among the known ones. -/
def appendNew (known : List String) : List String → List String
  | [] => known
  | a :: rest => if known.contains a then appendNew known rest else appendNew (known ++ [a]) rest

/-- Keeps the entered address in front and puts the addresses it resolved to behind it. -/
def recordResolved (h : Host) (resolved : List String) : Host :=
  { h with addresses := appendNew h.addresses.head?.toList resolved }

def isConnected (h : Host) : Bool := h.connectivity == .connected

def rememberedMethod (h : Host) (c : Component) : Option Nat := h.installMethods.get c

/-- The first address of a host, or its name if it has none, and the account to use there. -/
def target (h : Host) : HostTarget where
  id := h.id
  name := h.name
  address := h.primaryAddress.getD h.name
  user := h.user
  port := h.port

end Host

end ClusterSetup

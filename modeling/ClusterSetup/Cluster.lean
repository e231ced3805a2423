import ClusterSetup.Refusal
import ClusterSetup.Text.Quoted

namespace ClusterSetup

def defaultStackPassword : String := "hacluster"

/-- A named set of hosts, in the order in which they entered. -/
structure Cluster where
  name : String
  stackPassword : String := defaultStackPassword
  hosts : List HostId := []
  deriving Repr, DecidableEq

namespace Cluster

def contains (c : Cluster) (id : HostId) : Bool := c.hosts.contains id

def size (c : Cluster) : Nat := c.hosts.length

def isEmpty (c : Cluster) : Bool := c.hosts.isEmpty

/-- Puts a host into the cluster and tells whether it was not in it before. A host of another
cluster is refused. -/
def addHost (c : Cluster) (h : Host) : Except AlreadyMember (Bool × Cluster × Host) :=
  let enter : Bool × Cluster × Host :=
    (!c.contains h.id,
      if c.contains h.id then c else { c with hosts := c.hosts ++ [h.id] },
      { h with cluster := some c.name })
  match h.cluster with
  | some other => if other = c.name then .ok enter else .error ⟨h.id, other⟩
  | none => .ok enter

def removeHost (c : Cluster) (h : Host) : Bool × Cluster × Host :=
  (c.contains h.id, { c with hosts := c.hosts.erase h.id },
    if h.cluster = some c.name then { h with cluster := none } else h)

/-- The cluster as it is written to a log, without its password. -/
def describe (c : Cluster) : String :=
  "Cluster \x7b name: " ++ Text.quoted c.name ++ ", hb_passwd: \"<redacted>\", hosts: \x7b" ++
    Text.join ", " (c.hosts.map fun id => "HostId(" ++ toString id.val ++ ")") ++ "\x7d \x7d"

end Cluster

end ClusterSetup

import ClusterSetup.Refusal

namespace ClusterSetup

/-- The right to work on one component of one host. -/
structure Guard where
  host : HostId
  component : Component
  deriving Repr, DecidableEq

/-- The guards that are held at the moment. -/
structure Guards where
  held : List Guard := []
  deriving Repr, DecidableEq

namespace Guards

def empty : Guards := {}

def isBusy (g : Guards) (host : HostId) (c : Component) : Bool := g.held.contains ⟨host, c⟩

def acquire (g : Guards) (host : HostId) (c : Component) : Except Refusal Guards :=
  if g.isBusy host c then .error (.componentBusy host c)
  else .ok ⟨⟨host, c⟩ :: g.held⟩

def release (g : Guards) (guard : Guard) : Guards := ⟨g.held.erase guard⟩

def releaseAll (g : Guards) (guards : List Guard) : Guards := guards.foldl release g

/-- Takes the guards of several components, one after the other, in addition to those taken so
far; at the first one that is held all of them are given back. -/
def acquireFrom (host : HostId) (g : Guards) (taken : List Guard) :
    List Component → Except Refusal (List Guard) × Guards
  | [] => (.ok taken, g)
  | c :: rest =>
    match g.acquire host c with
    | .ok g => acquireFrom host g (taken ++ [⟨host, c⟩]) rest
    | .error e => (.error e, g.releaseAll taken)

def acquireAll (g : Guards) (host : HostId) (components : List Component) :
    Except Refusal (List Guard) × Guards :=
  acquireFrom host g [] components

end Guards

end ClusterSetup

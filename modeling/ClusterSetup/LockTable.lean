import ClusterSetup.Guards

/-!
The registry of guards as it is kept. Each component of a host that a guard was ever asked for has a
lock of its own, and whoever has its guard holds that lock until the guard is dropped. `Guards` is
what is seen of it.
-/

namespace ClusterSetup

/-- A guard that was handed out: a lock that is held. It does not know what it guards. -/
structure ComponentGuard where
  lock : Nat
  deriving Repr, DecidableEq

/-- The locks by the components of hosts. -/
structure LockTable where
  /-- The numbers of the locks. -/
  slots : List (Guard × Nat) := []
  /-- Whether each of the locks is held. -/
  locked : List Bool := []
  deriving Repr, DecidableEq

namespace LockTable

/-- The lock of a component of a host; one that was never asked for gets a new lock. -/
def slot (t : LockTable) (place : Guard) : Nat × LockTable :=
  match t.slots.lookup place with
  | some lock => (lock, t)
  | none => (t.locked.length, ⟨(place, t.locked.length) :: t.slots, t.locked ++ [false]⟩)

def tryLock? (t : LockTable) (lock : Nat) : Option (ComponentGuard × LockTable) :=
  if t.locked[lock]? = some false then some (⟨lock⟩, { t with locked := t.locked.set lock true })
  else none

def drop (t : LockTable) (guard : ComponentGuard) : LockTable :=
  { t with locked := t.locked.set guard.lock false }

def dropAll (t : LockTable) (guards : List ComponentGuard) : LockTable := guards.foldl drop t

def tryAcquire (t : LockTable) (host : HostId) (c : Component) :
    Except Refusal ComponentGuard × LockTable :=
  let (lock, t) := t.slot ⟨host, c⟩
  match t.tryLock? lock with
  | some (guard, t) => (.ok guard, t)
  | none => (.error (.componentBusy host c), t)

/-- Takes the guards of several components, one after the other, in addition to those taken so
far; at the first one that cannot be taken all of them are dropped. -/
def tryAcquireFrom (host : HostId) (t : LockTable) (taken : List ComponentGuard) :
    List Component → Except Refusal (List ComponentGuard) × LockTable
  | [] => (.ok taken, t)
  | c :: rest =>
    match t.tryAcquire host c with
    | (.ok guard, t) => tryAcquireFrom host t (taken ++ [guard]) rest
    | (.error e, t) => (.error e, t.dropAll taken)

def tryAcquireAll (t : LockTable) (host : HostId) (components : List Component) :
    Except Refusal (List ComponentGuard) × LockTable :=
  tryAcquireFrom host t [] components

/-- Whether the lock of a component of a host cannot be taken. A component that was never asked for
has none, and a lock that can be taken is let go at once. -/
def isBusy (t : LockTable) (host : HostId) (c : Component) : Bool :=
  match t.slots.lookup ⟨host, c⟩ with
  | none => false
  | some lock => (t.tryLock? lock).isNone

end LockTable

end ClusterSetup

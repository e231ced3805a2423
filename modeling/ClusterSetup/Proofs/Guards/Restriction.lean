import ClusterSetup.Proofs.Guards.Acquiring

namespace ClusterSetup.Guards

/-- The guards that are held of a host. -/
def on (g : Guards) (host : HostId) : Guards := ⟨g.held.filter (·.host = host)⟩

theorem mem_held_on {g : Guards} {host : HostId} {guard : Guard} :
    guard ∈ (g.on host).held ↔ guard ∈ g.held ∧ guard.host = host := by
  simp [on]

theorem isBusy_on (g : Guards) (host : HostId) (c : Component) :
    (g.on host).isBusy host c = g.isBusy host c := by
  rw [Bool.eq_iff_iff, mem_held_iff_isBusy, mem_held_iff_isBusy, mem_held_on]
  exact and_iff_left rfl

theorem release_on (g : Guards) (guard : Guard) (host : HostId) :
    (g.on host).release guard = (g.release guard).on host := by
  rw [release, release, on, on, List.erase_filter]

theorem releaseAll_on (g : Guards) (guards : List Guard) (host : HostId) :
    (g.on host).releaseAll guards = (g.releaseAll guards).on host := by
  induction guards generalizing g with
  | nil => rfl
  | cons guard guards ih => rw [releaseAll_cons, releaseAll_cons, release_on, ih]

theorem acquire_on (g : Guards) (host : HostId) (c : Component) :
    (g.on host).acquire host c = (g.acquire host c).map (·.on host) := by
  rw [acquire, acquire, isBusy_on]
  split
  · rfl
  · simp [Except.map, on]

theorem acquireFrom_on (g : Guards) (host : HostId) (taken : List Guard) (cs : List Component) :
    acquireFrom host (g.on host) taken cs =
      ((acquireFrom host g taken cs).1, (acquireFrom host g taken cs).2.on host) := by
  induction cs generalizing g taken with
  | nil => rfl
  | cons c cs ih =>
      rw [acquireFrom, acquireFrom, acquire_on]
      cases g.acquire host c with
      | error e =>
          dsimp only [Except.map]
          rw [releaseAll_on]
      | ok g' => exact ih g' (taken ++ [⟨host, c⟩])

theorem acquireAll_on (g : Guards) (host : HostId) (cs : List Component) :
    (g.on host).acquireAll host cs =
      ((g.acquireAll host cs).1, (g.acquireAll host cs).2.on host) :=
  acquireFrom_on g host [] cs

theorem acquireProbes_on (g : Guards) (host : HostId) (taken : List (ProbeTarget × List Guard))
    (targets : List ProbeTarget) :
    (g.on host).acquireProbes host taken targets =
      ((g.acquireProbes host taken targets).1, (g.acquireProbes host taken targets).2.on host) := by
  induction targets generalizing g taken with
  | nil => rfl
  | cons target targets ih =>
      rw [acquireProbes, acquireProbes, acquireAll_on]
      rcases g.acquireAll host target.components with ⟨e | guards, g'⟩
      · dsimp only
        rw [releaseAll_on]
      · exact ih g' (taken ++ [(target, guards)])

theorem Took.on_elsewhere {g g' : Guards} {taken : List Guard} (h : Took g taken g')
    {host : HostId} (hother : ∀ guard ∈ taken, guard.host ≠ host) : g'.on host = g.on host := by
  have hnone : taken.reverse.filter (·.host = host) = [] := by
    rw [List.filter_eq_nil_iff]
    intro guard hguard
    simpa using hother guard (List.mem_reverse.mp hguard)
  rw [on, on, h.held_eq, List.filter_append, hnone, List.nil_append]

theorem releaseAll_on_elsewhere {g : Guards} {guards : List Guard} {host : HostId}
    (hother : ∀ guard ∈ guards, guard.host ≠ host) : (g.releaseAll guards).on host = g.on host := by
  induction guards generalizing g with
  | nil => rfl
  | cons guard guards ih =>
      have hfirst : guard ∉ (g.on host).held := by
        intro hguard
        exact hother guard List.mem_cons_self (mem_held_on.mp hguard).2
      rw [releaseAll_cons, ih fun other h => hother other (List.mem_cons_of_mem guard h),
        ← release_on, release, List.erase_of_not_mem hfirst]

end ClusterSetup.Guards

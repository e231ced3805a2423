import ClusterSetup.Proofs.Session.Histories

namespace ClusterSetup.Desk

/-- If an operation is refused, the session and the guards are those from before. -/
def RefusedWithoutTrace {α : Type} (operation : Operation α) (d : Desk) : Prop :=
  ∀ e, (operation d).1 = .error e → (operation d).2 = d

theorem Atomic.refusedWithoutTrace {α : Type} {operation : Operation α}
    {reasons : Refusal → Prop} {d : Desk} (h : Atomic operation reasons d) :
    RefusedWithoutTrace operation d :=
  fun _ he => (h.of_error he).2

/-- Whatever guards are held, an operation that is refused changes nothing, except that credentials
are kept which were given in vain. -/
theorem refusals_leave_no_trace {s : Session} (h : s.Reachable) (g : Guards) :
    RefusedWithoutTrace enter ⟨s, g⟩ ∧ RefusedWithoutTrace retry ⟨s, g⟩ ∧
    RefusedWithoutTrace next ⟨s, g⟩ ∧ RefusedWithoutTrace previous ⟨s, g⟩ ∧
    (∀ c method, RefusedWithoutTrace (chooseInstall c method) ⟨s, g⟩) ∧
    (∀ cluster, RefusedWithoutTrace (join cluster) ⟨s, g⟩) ∧
    ∀ credentials e, (setCredentials credentials ⟨s, g⟩).1 = .error e →
      (setCredentials credentials ⟨s, g⟩).2 =
        ⟨{ s with credentials := some credentials }, g⟩ := by
  obtain ⟨step, hstep⟩ := h.valid.placed.current
  refine ⟨(enter_atomic hstep).refusedWithoutTrace, (retry_atomic hstep).refusedWithoutTrace,
    (next_atomic hstep).refusedWithoutTrace, (previous_atomic hstep).refusedWithoutTrace,
    fun c method => (chooseInstall_atomic c method hstep).refusedWithoutTrace,
    fun cluster => (join_atomic s g cluster).refusedWithoutTrace, ?_⟩
  intro credentials e he
  rcases setCredentials_spec (g := g) credentials hstep with ⟨_, -, heq⟩ | ⟨outcome, d, heq, -⟩
  · rw [heq]
  · rw [heq] at he
    cases he

/-- With storage held by someone else an install of it is refused, and with one cluster stack held
so is a probe of everything, which takes the guard of storage first. -/
theorem refusals_leave_no_trace_sample :
    let storageHeld : Desk := ⟨Session.lackingPlayed 5, ⟨[⟨⟨1⟩, .drbd⟩]⟩⟩
    let stackHeld : Desk := ⟨Session.lackingPlayed 5, ⟨[⟨⟨1⟩, .corosync⟩]⟩⟩
    (chooseInstall .drbd 1 storageHeld).1 = .error (.componentBusy ⟨1⟩ .drbd) ∧
      (chooseInstall .drbd 1 storageHeld).2 = storageHeld ∧
      (retry stackHeld).1 = .error (.componentBusy ⟨1⟩ .corosync) ∧
      (retry stackHeld).2 = stackHeld := by
  intro storageHeld stackHeld
  have hchoice : (chooseInstall .drbd 1 storageHeld).1 =
      .error (.componentBusy ⟨1⟩ .drbd) := by decide
  have hretry : (retry stackHeld).1 = .error (.componentBusy ⟨1⟩ .corosync) := by decide
  obtain ⟨-, -, -, -, hinstall, -⟩ :=
    refusals_leave_no_trace (Session.lackingPlayed_reachable 5) storageHeld.guards
  obtain ⟨-, hprobe, -⟩ :=
    refusals_leave_no_trace (Session.lackingPlayed_reachable 5) stackHeld.guards
  exact ⟨hchoice, hinstall .drbd 1 _ hchoice, hretry, hprobe _ hretry⟩

end ClusterSetup.Desk

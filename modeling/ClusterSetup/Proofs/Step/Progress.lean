import ClusterSetup.Proofs.Step.Reporting

/-!
How far a step has come. A table says for each kind of step in which states it can be and what its
other fields tell in each of them; whatever is done with a step keeps to the table.
-/

namespace ClusterSetup

/-- What the fields of a step tell of how far it has come. -/
structure Progress where
  entered : Bool := true
  completed : Bool := false
  /-- Results are still to come. -/
  waits : Bool := false
  failed : Bool := false
  /-- The step that follows is decided on. -/
  decided : Bool := false
  deriving Repr, DecidableEq

namespace StepKind

/-- How far a step of a kind has come in a state; there is no such step without an entry. -/
@[simp] def progress? : StepKind → StepState → Option Progress
  | _, .init => some { entered := false }
  | connect, .connecting => some { waits := true }
  | connect, .connected => some { completed := true, decided := true }
  | connect, .connectFailed => some { completed := true, failed := true }
  | probe _, .probing => some { waits := true }
  | probe _, .needsInstall => some { completed := true }
  | probe _, .upToDate => some { completed := true, decided := true }
  | probe _, .upgradeAvailable => some { completed := true, decided := true }
  | probe _, .installMethodChosen => some { completed := true, decided := true }
  | install _ _, .installMethodChosen => some {}
  | install _ _, .installing => some { waits := true }
  | install _ _, .installOk => some { completed := true, decided := true }
  | install _ _, .proceeding => some { completed := true, decided := true }
  | install _ _, .installFailed => some { completed := true, failed := true }
  | confirm, .finished => some { completed := true }
  | _, _ => none

def states : StepKind → List StepState
  | connect => [.init, .connecting, .connected, .connectFailed]
  | probe _ =>
    [.init, .probing, .needsInstall, .upToDate, .upgradeAvailable, .installMethodChosen]
  | install _ _ =>
    [.init, .installMethodChosen, .installing, .installOk, .installFailed, .proceeding]
  | confirm => [.init, .finished]

theorem mem_states_iff {kind : StepKind} {state : StepState} :
    state ∈ kind.states ↔ (kind.progress? state).isSome = true := by
  cases kind <;> cases state <;> simp [states]

theorem progress?_workingState {kind : StepKind} (h : kind ≠ .confirm) :
    kind.progress? kind.workingState = some { waits := true } := by
  cases kind with
  | confirm => exact absurd rfl h
  | _ => rfl

section Entries

variable {kind : StepKind} {state : StepState} {p : Progress}
  (h : kind.progress? state = some p)
include h

theorem waits_iff :
    p.waits = true ↔ state ∈ [.connecting, .probing, .installing] := by
  cases kind <;> cases state <;> simp at h ⊢ <;> simp [← h]

theorem failed_iff : p.failed = true ↔ state ∈ [.connectFailed, .installFailed] := by
  cases kind <;> cases state <;> simp at h ⊢ <;> simp [← h]

theorem decided_iff : p.decided = true ↔
    state ∈ [.connected, .upToDate, .upgradeAvailable, .installOk, .proceeding] ∨
      state = .installMethodChosen ∧ ∃ scope, kind = .probe scope := by
  cases kind <;> cases state <;> simp at h ⊢ <;> simp [← h]

theorem completed_iff : p.completed = true ↔ p.entered = true ∧ p.waits = false ∧
    ¬ ((∃ c n, kind = .install c n) ∧ state = .installMethodChosen) := by
  cases kind <;> cases state <;> simp at h ⊢ <;> simp [← h]

theorem eq_working (hwaits : p.waits = true) :
    kind ≠ .confirm ∧ state = kind.workingState ∧ p = { waits := true } := by
  cases kind <;> cases state <;> simp at h <;> simp [← h] at hwaits ⊢ <;> rfl

end Entries

/-- A completed probe has not failed, whatever it has found. -/
theorem eq_of_completed_probe {scope : ProbeScope} {state : StepState} {p : Progress}
    (h : (probe scope).progress? state = some p) (hcompleted : p.completed = true) :
    p = { completed := true, decided := p.decided } := by
  cases state <;> simp at h <;> simp [← h] at hcompleted ⊢

end StepKind

namespace Step

def progress (s : Step) : Progress where
  entered := s.entered
  completed := s.completed
  waits := s.hasPending
  failed := s.failure.isSome
  decided := s.nextKind.isSome

/-- The fields of a step tell what the table says of its state. -/
def Coherent (s : Step) : Prop := s.kind.progress? s.state = some s.progress

theorem new_coherent (id : StepId) (kind : StepKind) (previous : Option StepId) :
    (new id kind previous).Coherent := by
  cases kind <;> rfl

theorem working_coherent {s : Step} (hkind : s.kind ≠ .confirm) : s.working.Coherent := by
  have hkeys : s.kind.keys.isEmpty = false := by
    cases h : s.kind with
    | confirm => exact absurd h hkind
    | probe scope => cases scope <;> rfl
    | _ => rfl
  rw [Coherent]
  simp only [working, reset, StepKind.progress?_workingState hkind, progress, hasPending, hkeys]
  rfl

theorem awaiting_coherent {s : Step} {c : Component} {n : Nat} (hkind : s.kind = .install c n) :
    Coherent { s.reset with state := .installMethodChosen } := by
  simp [Coherent, progress, hasPending, reset, hkind]

theorem finished_coherent {s : Step} (hkind : s.kind = .confirm) :
    Coherent { s.reset with state := .finished, completed := true } := by
  simp [Coherent, progress, hasPending, reset, hkind]

theorem fail_coherent {s : Step} (hkind : s.kind = .connect ∨ ∃ c n, s.kind = .install c n)
    (hentered : s.entered = true) (hidle : s.pending = []) (failure : ActionFailure) :
    (s.fail failure).Coherent := by
  rcases hkind with hkind | ⟨c, n, hkind⟩
  · simp [Coherent, progress, hasPending, fail, hkind, hentered, hidle]
  · simp [Coherent, progress, hasPending, fail, hkind, hentered, hidle]

theorem proceed_coherent {s : Step} (h : s.Coherent) : s.proceed.Coherent := by
  rw [proceed]
  split
  · rename_i hstate
    rw [Coherent, hstate] at h
    rw [Coherent]
    cases hkind : s.kind with
    | install c n =>
        rw [hkind] at h
        exact h
    | _ =>
        rw [hkind] at h
        cases h
  · exact h

theorem Coherent.of_pending {s : Step} (h : s.Coherent) (hpending : s.pending ≠ []) :
    s.state = s.kind.workingState ∧ s.entered = true ∧ s.completed = false ∧
      s.failure = none ∧ s.nextKind = none := by
  have hwaits : s.progress.waits = true := by simpa [progress, hasPending] using hpending
  obtain ⟨-, hstate, hprogress⟩ := StepKind.eq_working h hwaits
  simp only [progress, Progress.mk.injEq] at hprogress
  obtain ⟨hentered, hcompleted, -, hfailure, hdecided⟩ := hprogress
  exact ⟨hstate, hentered, hcompleted, by simpa using hfailure, by simpa using hdecided⟩

theorem Coherent.without {s : Step} (h : s.Coherent) {key : ActionKey} (hkey : key ∈ s.pending)
    (hpending : (s.without key).pending ≠ []) : (s.without key).Coherent := by
  have hbefore : s.hasPending = true := by simpa [hasPending] using List.ne_nil_of_mem hkey
  have hafter : (s.without key).hasPending = true := by simpa [hasPending] using hpending
  have hsame : (s.without key).progress = s.progress := by
    rw [progress, progress, hbefore, hafter]
    rfl
  rw [Coherent, hsame]
  exact h

theorem applyConnect_coherent {s : Step} (hkind : s.kind = .connect) (hentered : s.entered = true)
    (hidle : s.pending = []) (hfailure : s.failure = none) (outcome : Outcome) (f : Findings) :
    (s.applyConnect outcome f).1.Coherent := by
  cases outcome with
  | connected addresses dist =>
      simp [Coherent, progress, hasPending, applyConnect, hkind, hentered, hidle, hfailure]
  | _ => exact fail_coherent (.inl hkind) hentered hidle _

theorem applyInstall_coherent {s : Step} {c : Component} {n : Nat} (hkind : s.kind = .install c n)
    (hentered : s.entered = true) (hidle : s.pending = []) (hfailure : s.failure = none)
    (outcome : Outcome) (f : Findings) : (s.applyInstall c n outcome f).1.Coherent := by
  have hfail : ∀ failure, (s.fail failure).Coherent :=
    fail_coherent (.inr ⟨c, n, hkind⟩) hentered hidle
  cases outcome with
  | exited output =>
      rw [applyInstall]
      split
      · simp [Coherent, progress, hasPending, hkind, hentered, hidle, hfailure]
      · exact hfail _
  | _ => exact hfail _

theorem verdict_progress? (scope : ProbeScope) (statuses : List ComponentStatus) (flags : Flags) :
    (StepKind.probe scope).progress? (Probe.verdict scope statuses flags).state =
      some { completed := true, decided := (Probe.verdict scope statuses flags).next.isSome } := by
  by_cases hsatisfied : scope.Satisfied flags
  · obtain ⟨hstate, -, hnext⟩ := Probe.verdict_of_satisfied hsatisfied statuses
    rw [hstate, hnext, Probe.following_isSome hsatisfied]
    split <;> rfl
  · obtain ⟨hstate, -, hnext⟩ := Probe.verdict_of_lacking hsatisfied statuses
    rw [hstate, hnext]
    rfl

theorem applyProbe_coherent (t : Resources) {s : Step} {scope : ProbeScope}
    (hkind : s.kind = .probe scope) (hentered : s.entered = true) (hfailure : s.failure = none)
    (hwaiting : s.pending ≠ [] → s.Coherent) (target : ProbeTarget) (outcome : Outcome)
    (f : Findings) : (applyProbe t s scope target outcome f).1.Coherent := by
  rw [applyProbe]
  dsimp only
  split
  · rename_i hpending
    have hne : s.pending ≠ [] := by simpa [hasPending, noteStatuses] using hpending
    exact hwaiting hne
  · rename_i hpending
    have hidle : s.hasPending = false := by
      rw [← Bool.not_eq_true]
      exact hpending
    rw [Coherent]
    change s.kind.progress? _ = some ⟨s.entered, true, s.hasPending, s.failure.isSome, _⟩
    rw [hkind, hentered, hidle, hfailure]
    exact verdict_progress? scope _ _

theorem complete_coherent (t : Resources) {s : Step} {key : ActionKey} (outcome : Outcome)
    (f : Findings) (hkey : key ∈ s.pending) (hkeys : s.pending.Sublist s.kind.keys)
    (h : s.Coherent) : (s.complete t key outcome f).step.Coherent := by
  obtain ⟨-, hentered, -, hfailure, -⟩ := h.of_pending (List.ne_nil_of_mem hkey)
  cases awaits_of_pending hkey hkeys with
  | connect hkind hnil =>
      have hkind' : (s.without .connect).kind = .connect := hkind
      rw [complete_connect t hkind hkey]
      exact applyConnect_coherent hkind' hentered hnil hfailure outcome f
  | @probe scope target hkind =>
      have hkind' : (s.without (.probe target)).kind = .probe scope := hkind
      rw [complete_probe t hkind hkey]
      exact applyProbe_coherent t hkind' hentered hfailure (h.without hkey) target outcome f
  | @install c n hkind hnil =>
      have hkind' : (s.without (.install c)).kind = .install c n := hkind
      rw [complete_install t hkind hkey]
      exact applyInstall_coherent hkind' hentered hnil hfailure outcome f

end Step

end ClusterSetup

import ClusterSetup.Proofs.Step.Reporting

namespace ClusterSetup

/-- Whether a component is installed, going by the versions that were found. A stack needs Pacemaker
and a messaging layer, Heartbeat aside. -/
def InstalledVersions.lists (found : InstalledVersions) : Component → Bool
  | .drbd => found.drbd.isSome
  | .heartbeat => found.heartbeat.isSome
  | .corosync => found.pacemaker.isSome && (found.corosync.isSome || found.openais.isSome)

namespace Outcome

def succeeded : Outcome → Bool
  | exited output => output.exitCode == 0
  | _ => false

/-- Whether a component is among what a probe has printed. A probe that failed has found nothing. -/
def finds (c : Component) : Outcome → Bool
  | exited output => output.exitCode == 0 && (Probe.installedIn output.output).lists c
  | _ => false

/-- What the result of an action tells of a component, if it tells of it. -/
def evidence? (c : Component) (key : ActionKey) (outcome : Outcome) : Option Bool :=
  match key with
  | .connect => none
  | .probe target => if c ∈ target.components then some (outcome.finds c) else none
  | .install d => if d = c ∧ outcome.succeeded then some true else none

def method? (c : Component) (kind : StepKind) (outcome : Outcome) : Option Nat :=
  match kind with
  | .install d n => if d = c ∧ outcome.succeeded then some n else none
  | _ => none

theorem finds_of_nothing {outcome : Outcome} (h : ∀ output, outcome = exited output →
      output.exitCode ≠ 0 ∨ Text.isBlank output.output = true) (c : Component) :
    outcome.finds c = false := by
  cases outcome with
  | exited output =>
      rw [finds]
      rcases h output rfl with hfailed | hblank
      · rw [beq_eq_false_iff_ne.mpr hfailed, Bool.false_and]
      · rw [Probe.installedIn, if_pos hblank]
        cases c <;> exact Bool.and_false _
  | _ => rfl

end Outcome

namespace Probe

theorem installedIn_answer_lists (outcome : Outcome) (c : Component) :
    (installedIn (answer outcome)).lists c = outcome.finds c := by
  have hnothing : (installedIn "").lists c = false := by cases c <;> rfl
  cases outcome with
  | exited output =>
      rw [answer, Outcome.finds, CommandOutput.success]
      cases output.exitCode == 0 with
      | true => rfl
      | false => exact hnothing
  | _ => exact hnothing

theorem heartbeatStatus_isPresent (t : Resources) (info : DistInfo)
    (found : InstalledVersions) :
    (heartbeatStatus t info found).isPresent = found.lists .heartbeat := by
  rw [heartbeatStatus, InstalledVersions.lists]
  cases found.heartbeat with
  | none => rfl
  | some version =>
      dsimp only
      split
      · exact present_isPresent ..
      · split <;> exact present_isPresent ..

theorem corosyncStatus_isPresent (t : Resources) (info : DistInfo)
    (found : InstalledVersions) :
    (corosyncStatus t info found).isPresent = found.lists .corosync := by
  rw [corosyncStatus, messagingLayer, InstalledVersions.lists]
  cases found.pacemaker with
  | none => rfl
  | some pacemaker =>
      cases found.corosync with
      | some version => exact present_isPresent ..
      | none =>
          cases found.openais with
          | some version => exact present_isPresent ..
          | none => rfl

theorem apply_flags (t : Resources) (target : ProbeTarget) (output : String) (f : Findings)
    (c : Component) : (apply t target output f).2.flags.get c =
      if c ∈ target.components then (installedIn output).lists c else f.flags.get c := by
  cases target with
  | storage =>
      simp only [apply, applyStorage, PerComponent.get_set]
      cases c <;> rfl
  | clusterStack =>
      simp only [apply, applyStack, PerComponent.get_set, heartbeatStatus_isPresent,
        corosyncStatus_isPresent]
      cases c <;> rfl

theorem apply_installMethods (t : Resources) (target : ProbeTarget) (output : String)
    (f : Findings) :
    (apply t target output f).2.host.installMethods = f.host.installMethods := by
  cases target <;> rfl

end Probe

namespace Step

theorem applyConnect_flags (s : Step) (outcome : Outcome) (f : Findings) :
    (s.applyConnect outcome f).2.flags = f.flags := by
  cases outcome <;> rfl

theorem applyConnect_installMethods (s : Step) (outcome : Outcome) (f : Findings) :
    (s.applyConnect outcome f).2.host.installMethods = f.host.installMethods := by
  cases outcome <;> rfl

theorem applyProbe_flags (t : Resources) (s : Step) (scope : ProbeScope) (target : ProbeTarget)
    (outcome : Outcome) (f : Findings) : (applyProbe t s scope target outcome f).2.flags =
      (Probe.apply t target (Probe.answer outcome) f).2.flags := by
  rw [applyProbe]
  dsimp only
  split <;> rfl

theorem applyProbe_installMethods (t : Resources) (s : Step) (scope : ProbeScope)
    (target : ProbeTarget) (outcome : Outcome) (f : Findings) :
    (applyProbe t s scope target outcome f).2.host.installMethods = f.host.installMethods := by
  rw [applyProbe, ← Probe.apply_installMethods t target (Probe.answer outcome) f]
  dsimp only
  split <;> rfl

theorem applyInstall_findings (s : Step) (d : Component) (n : Nat) (outcome : Outcome)
    (f : Findings) :
    (outcome.succeeded = true ∧ (s.applyInstall d n outcome f).2 =
        { host := { f.host with installMethods := f.host.installMethods.set d (some n) }
          flags := f.flags.set d true }) ∨
      outcome.succeeded = false ∧ (s.applyInstall d n outcome f).2 = f := by
  cases outcome with
  | exited output =>
      rw [applyInstall, Outcome.succeeded, CommandOutput.success]
      cases output.exitCode == 0 with
      | true => exact .inl ⟨rfl, rfl⟩
      | false => exact .inr ⟨rfl, rfl⟩
  | _ => exact .inr ⟨rfl, rfl⟩

/-- What a step makes of a result for which it waits is the evidence, and for a successful install
the method. -/
theorem complete_evidence (t : Resources) {s : Step} {key : ActionKey} (outcome : Outcome)
    (f : Findings) (hkey : key ∈ s.pending) (hkeys : s.pending.Sublist s.kind.keys)
    (c : Component) :
    (s.complete t key outcome f).findings.flags.get c =
        (outcome.evidence? c key).getD (f.flags.get c) ∧
      (s.complete t key outcome f).findings.host.installMethods.get c =
        (outcome.method? c s.kind).or (f.host.installMethods.get c) := by
  cases awaits_of_pending hkey hkeys with
  | connect hkind =>
      rw [complete_connect t hkind hkey, applyConnect_flags, applyConnect_installMethods, hkind]
      exact ⟨rfl, rfl⟩
  | probe hkind =>
      rw [complete_probe t hkind hkey, applyProbe_flags, applyProbe_installMethods,
        Probe.apply_flags, Probe.installedIn_answer_lists, Outcome.evidence?, hkind]
      refine ⟨?_, rfl⟩
      split <;> rfl
  | @install d n hkind =>
      rw [complete_install t hkind hkey, Outcome.evidence?, hkind, Outcome.method?]
      rcases applyInstall_findings (s.without (.install d)) d n outcome f with
        ⟨hdone, hfound⟩ | ⟨hfailed, hfound⟩
      · rw [hfound, hdone, PerComponent.get_set, PerComponent.get_set]
        by_cases hc : c = d
        · simp [hc]
        · simp [hc, Ne.symm hc]
      · simp [hfound, hfailed]

theorem applyConnect_components (s : Step) (outcome : Outcome) (f : Findings) :
    (s.applyConnect outcome f).1.components = s.components := by
  cases outcome <;> rfl

theorem applyInstall_components (s : Step) (d : Component) (n : Nat) (outcome : Outcome)
    (f : Findings) : (s.applyInstall d n outcome f).1.components = s.components := by
  cases outcome with
  | exited output =>
      rw [applyInstall]
      split <;> rfl
  | _ => rfl

theorem applyProbe_components (t : Resources) (s : Step) (scope : ProbeScope)
    (target : ProbeTarget) (outcome : Outcome) (f : Findings) :
    (applyProbe t s scope target outcome f).1.components =
      (s.noteStatuses (Probe.apply t target (Probe.answer outcome) f).1).components := by
  rw [applyProbe]
  dsimp only
  split <;> rfl

theorem complete_holds (t : Resources) {s : Step} {key : ActionKey} (outcome : Outcome)
    (f : Findings) (hkey : key ∈ s.pending) (hkeys : s.pending.Sublist s.kind.keys)
    {c : Component} {status : ComponentStatus}
    (hstatus : (s.complete t key outcome f).step.components.get c = some status) :
    s.components.get c = some status ∨
      status.component = c ∧ (∃ scope target, s.kind = .probe scope ∧ key = .probe target) ∧
        outcome.evidence? c key = some status.isPresent := by
  cases awaits_of_pending hkey hkeys with
  | connect hkind =>
      rw [complete_connect t hkind hkey, applyConnect_components] at hstatus
      exact .inl hstatus
  | @probe scope target hkind =>
      have hfound := Probe.apply_found t target (Probe.answer outcome) f
      rw [complete_probe t hkind hkey, applyProbe_components] at hstatus
      rcases get_noteStatuses_of_found hfound (s.without (.probe target)) c with
        ⟨hc, noted, hcomponent, hget, hflag⟩ | ⟨-, hget, -⟩
      · rw [hget, Option.some.injEq] at hstatus
        subst hstatus
        rw [Probe.apply_flags, if_pos hc, Probe.installedIn_answer_lists] at hflag
        refine .inr ⟨hcomponent, ⟨scope, target, hkind, rfl⟩, ?_⟩
        rw [Outcome.evidence?, if_pos hc, hflag]
      · rw [hget] at hstatus
        exact .inl hstatus
  | install hkind =>
      rw [complete_install t hkind hkey, applyInstall_components] at hstatus
      exact .inl hstatus

end Step

end ClusterSetup

import ClusterSetup.Proofs.Step.Reporting

/-!
How many steps can follow a step without an install being chosen. A probe of one scope only leads
to the probe of the other one while that is known to lack something, and it does not change what is
known of the other scope; so the two cannot lead to each other for ever.
-/

namespace ClusterSetup

/-- The steps that can follow a step of a kind, one after the other, as long as no install is
chosen on them. -/
def StepKind.stepsAfter (flags : Flags) : StepKind → Nat
  | .confirm => 0
  | .probe .all => 1
  | .probe .storage => if flags.clusterOk then 1 else 2
  | .probe .clusterStack => if flags.drbd then 1 else 2
  | .connect => 2
  | .install _ _ => 3

theorem StepKind.stepsAfter_le (flags : Flags) (kind : StepKind) : kind.stepsAfter flags ≤ 3 := by
  fun_cases StepKind.stepsAfter flags kind <;> omega

theorem StepKind.stepsAfter_probe_pos (flags : Flags) (scope : ProbeScope) :
    0 < (StepKind.probe scope).stepsAfter flags := by
  cases scope with
  | all => exact Nat.zero_lt_one
  | _ =>
      simp only [stepsAfter]
      split <;> omega

namespace Probe

theorem Found.clusterOk_eq {before after : Flags} {statuses : List ComponentStatus}
    (h : Found .storage before after statuses) : after.clusterOk = before.clusterOk := by
  have hheartbeat : after.heartbeat = before.heartbeat := h.others .heartbeat (by decide)
  have hcorosync : after.corosync = before.corosync := h.others .corosync (by decide)
  rw [Flags.clusterOk, hheartbeat, hcorosync, Flags.clusterOk]

theorem Found.drbd_eq {before after : Flags} {statuses : List ComponentStatus}
    (h : Found .clusterStack before after statuses) : after.drbd = before.drbd :=
  h.others .drbd (by decide)

theorem verdict_next_cases {scope : ProbeScope} {statuses : List ComponentStatus} {flags : Flags}
    {kind : StepKind} (h : (verdict scope statuses flags).next = some kind) :
    kind = .confirm ∨ ∃ following, kind = .probe following := by
  rw [verdict] at h
  split at h
  · simp only [following] at h
    split at h
    · cases h
      exact .inl rfl
    · cases scope <;> cases h <;> exact .inr ⟨_, rfl⟩
  · cases h

/-- The verdict of a scope leads to a step with fewer steps after it. What the scope does not look
at is as it was before. -/
theorem stepsAfter_verdict_next {scope : ProbeScope} {before after : Flags}
    (hcluster : scope = .storage → after.clusterOk = before.clusterOk)
    (hdrbd : scope = .clusterStack → after.drbd = before.drbd) {statuses : List ComponentStatus}
    {kind : StepKind} (h : (verdict scope statuses after).next = some kind) :
    kind.stepsAfter after < (StepKind.probe scope).stepsAfter before := by
  rw [verdict] at h
  split at h
  · rename_i hok
    simp only [following] at h
    split at h
    · cases h
      exact StepKind.stepsAfter_probe_pos before scope
    · rename_i hlacking
      cases scope with
      | all => cases h
      | storage =>
          have hfound : after.drbd = true := hok
          have hcluster' : before.clusterOk = false := by
            rw [← hcluster rfl]
            simpa [Flags.success, hfound] using hlacking
          cases h
          simp [StepKind.stepsAfter, hfound, hcluster']
      | clusterStack =>
          have hfound : after.clusterOk = true := hok
          have hdrbd' : before.drbd = false := by
            rw [← hdrbd rfl]
            simpa [Flags.success, hfound] using hlacking
          cases h
          simp [StepKind.stepsAfter, hfound, hdrbd']
  · cases h

end Probe

namespace Step

theorem applyConnect_nextKind {s : Step} {outcome : Outcome} {f : Findings} {kind : StepKind}
    (h : (s.applyConnect outcome f).1.nextKind = some kind) : kind = .probe .all := by
  cases outcome with
  | connected addresses dist =>
      cases h
      rfl
  | _ => cases h

theorem applyInstall_nextKind {s : Step} {c : Component} {n : Nat} {outcome : Outcome}
    {f : Findings} {kind : StepKind} (h : (s.applyInstall c n outcome f).1.nextKind = some kind) :
    kind = .probe .clusterStack := by
  cases outcome with
  | exited output =>
      rw [applyInstall] at h
      split at h
      · cases h
        rfl
      · cases h
  | _ => cases h

theorem applyProbe_stepsAfter (t : Resources) {s : Step} {scope : ProbeScope}
    {target : ProbeTarget} (htarget : target ∈ scope.targets) (outcome : Outcome) (f : Findings)
    (hundecided : s.nextKind = none) {kind : StepKind}
    (h : (applyProbe t s scope target outcome f).1.nextKind = some kind) :
    kind.stepsAfter (applyProbe t s scope target outcome f).2.flags <
      (StepKind.probe scope).stepsAfter f.flags := by
  have hfound := Probe.apply_found t target (Probe.answer outcome) f
  rw [applyProbe] at h ⊢
  dsimp only at h ⊢
  split at h
  · change s.nextKind = some kind at h
    rw [hundecided] at h
    cases h
  · rename_i hlast
    rw [if_neg hlast]
    refine Probe.stepsAfter_verdict_next ?_ ?_ h
    · rintro rfl
      obtain rfl := List.mem_singleton.mp htarget
      exact hfound.clusterOk_eq
    · rintro rfl
      obtain rfl := List.mem_singleton.mp htarget
      exact hfound.drbd_eq

theorem applyProbe_nextKind_cases (t : Resources) {s : Step} (scope : ProbeScope)
    (target : ProbeTarget) (outcome : Outcome) (f : Findings) (hundecided : s.nextKind = none)
    {kind : StepKind} (h : (applyProbe t s scope target outcome f).1.nextKind = some kind) :
    kind = .confirm ∨ ∃ following, kind = .probe following := by
  rw [applyProbe] at h
  dsimp only at h
  split at h
  · change s.nextKind = some kind at h
    rw [hundecided] at h
    cases h
  · exact Probe.verdict_next_cases h

/-- What a result makes of a step leaves fewer steps to follow: a step that goes on waiting has as
many after it as before, and a step to which it leads has fewer. -/
theorem complete_stepsAfter (t : Resources) {s : Step} {key : ActionKey} (outcome : Outcome)
    (f : Findings) (hkey : key ∈ s.pending) (hkeys : s.pending.Sublist s.kind.keys)
    (hundecided : s.nextKind = none) :
    (s.pending.erase key ≠ [] → s.kind.stepsAfter (s.complete t key outcome f).findings.flags =
      s.kind.stepsAfter f.flags) ∧
    ∀ kind, (s.complete t key outcome f).step.nextKind = some kind →
      kind.stepsAfter (s.complete t key outcome f).findings.flags < s.kind.stepsAfter f.flags := by
  cases awaits_of_pending hkey hkeys with
  | connect hkind =>
      rw [complete_connect t hkind hkey, hkind]
      refine ⟨fun _ => rfl, ?_⟩
      intro kind hnext
      rw [applyConnect_nextKind hnext]
      exact Nat.one_lt_two
  | @install c n hkind =>
      rw [complete_install t hkind hkey, hkind]
      refine ⟨fun _ => rfl, ?_⟩
      intro kind hnext
      rw [applyInstall_nextKind hnext]
      simp only [StepKind.stepsAfter]
      split <;> omega
  | @probe scope target hkind htarget =>
      rw [hkind] at hkeys
      rw [complete_probe t hkind hkey, hkind]
      have hwithout : (s.without (.probe target)).nextKind = none := hundecided
      refine ⟨?_, fun _ => applyProbe_stepsAfter t htarget outcome f hwithout⟩
      -- A scope with a single probe is completed by it, so that only the scope of all can go on.
      intro hrest
      cases scope with
      | all => rfl
      | storage => exact absurd (erase_of_sublist_singleton hkeys hkey).2 hrest
      | clusterStack => exact absurd (erase_of_sublist_singleton hkeys hkey).2 hrest

theorem complete_nextKind_cases (t : Resources) {s : Step} {key : ActionKey}
    (outcome : Outcome) (f : Findings) (hkey : key ∈ s.pending)
    (hkeys : s.pending.Sublist s.kind.keys) (hundecided : s.nextKind = none) {kind : StepKind}
    (h : (s.complete t key outcome f).step.nextKind = some kind) :
    kind = .confirm ∨ ∃ scope, kind = .probe scope := by
  cases awaits_of_pending hkey hkeys with
  | connect hkind =>
      rw [complete_connect t hkind hkey] at h
      exact .inr ⟨_, applyConnect_nextKind h⟩
  | install hkind =>
      rw [complete_install t hkind hkey] at h
      exact .inr ⟨_, applyInstall_nextKind h⟩
  | @probe scope target hkind =>
      rw [complete_probe t hkind hkey] at h
      have hwithout : (s.without (.probe target)).nextKind = none := hundecided
      exact applyProbe_nextKind_cases t scope target outcome f hwithout h

end Step

end ClusterSetup

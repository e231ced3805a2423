import ClusterSetup.Proofs.Step.Completing

namespace ClusterSetup

/-- All that a scope asks for is installed. -/
def ProbeScope.Satisfied (scope : ProbeScope) (flags : Flags) : Prop :=
  match scope with
  | .all => flags.success = true
  | .storage => flags.drbd = true
  | .clusterStack => flags.heartbeat = true ∨ flags.corosync = true

namespace ProbeScope

theorem mem_components_iff (scope : ProbeScope) (c : Component) :
    c ∈ scope.components ↔ ∃ target ∈ scope.targets, c ∈ target.components := by
  cases scope <;> cases c <;> decide

theorem exists_lacking {scope : ProbeScope} {flags : Flags} (h : ¬ scope.Satisfied flags) :
    ∃ c ∈ scope.components, flags.get c = false := by
  by_contra hall
  have hget : ∀ c ∈ scope.components, flags.get c = true := by
    intro c hc
    rw [← Bool.not_eq_false]
    exact fun hlacks => hall ⟨c, hc, hlacks⟩
  apply h
  cases scope with
  | all =>
      have hdrbd : flags.drbd = true := hget .drbd (by decide)
      have hheartbeat : flags.heartbeat = true := hget .heartbeat (by decide)
      simp [Satisfied, Flags.success, Flags.clusterOk, hdrbd, hheartbeat]
  | storage => exact hget .drbd (by decide)
  | clusterStack => exact .inl (hget .heartbeat (by decide))

end ProbeScope

namespace Probe

theorem storageStatus_component (t : Resources) (info : DistInfo) (found : InstalledVersions) :
    (storageStatus t info found).component = .drbd := by
  rw [storageStatus]
  split <;> rfl

theorem heartbeatStatus_component (t : Resources) (info : DistInfo)
    (found : InstalledVersions) : (heartbeatStatus t info found).component = .heartbeat := by
  rw [heartbeatStatus]
  split
  · rfl
  · dsimp only
    split
    · rfl
    · split <;> rfl

theorem corosyncStatus_component (t : Resources) (info : DistInfo)
    (found : InstalledVersions) : (corosyncStatus t info found).component = .corosync := by
  rw [corosyncStatus]
  split <;> rfl

theorem present_isPresent (t : Resources) (info : DistInfo) (c : Component)
    (label compared shown : String) : (present t info c label compared shown).isPresent = true := by
  simp only [present, versionState, ComponentStatus.isPresent]
  split
  · split <;> rfl
  · rfl

theorem storageStatus_isPresent (t : Resources) (info : DistInfo)
    (found : InstalledVersions) :
    (storageStatus t info found).isPresent = found.drbd.isSome := by
  rw [storageStatus]
  split
  · rename_i hnone
    rw [hnone]
    rfl
  · rename_i version hsome
    rw [hsome, present_isPresent]
    rfl

/-- What a probe finds out: a status for each of its components, and flags that tell of these
components what the statuses tell and of the others what they told before. -/
structure Found (target : ProbeTarget) (before after : Flags) (statuses : List ComponentStatus) :
    Prop where
  components_eq : statuses.map (·.component) = target.components
  agrees : ∀ status ∈ statuses, after.get status.component = status.isPresent
  others : ∀ c, c ∉ target.components → after.get c = before.get c

theorem applyStorage_found (t : Resources) (output : String) (f : Findings) :
    Found .storage f.flags (applyStorage t output f).2.flags (applyStorage t output f).1 where
  components_eq := by
    simp [applyStorage, ProbeTarget.components, storageStatus_component]
  agrees status hstatus := by
    have hstatus' := List.mem_singleton.mp hstatus
    rw [hstatus', storageStatus_component, storageStatus_isPresent]
    simp only [applyStorage, PerComponent.get_set, if_true]
  others c hc := by
    have hne : c ≠ .drbd := by simpa [ProbeTarget.components] using hc
    simp [applyStorage, hne]

theorem applyStack_found (t : Resources) (output : String) (f : Findings) :
    Found .clusterStack f.flags (applyStack t output f).2.flags (applyStack t output f).1 where
  components_eq := by
    simp [applyStack, ProbeTarget.components, heartbeatStatus_component, corosyncStatus_component]
  agrees status hstatus := by
    have hstatus' : status = heartbeatStatus t f.host.dist (installedIn output) ∨
        status = corosyncStatus t f.host.dist (installedIn output) := by
      simpa [applyStack] using hstatus
    rcases hstatus' with rfl | rfl
    · rw [heartbeatStatus_component]
      simp [applyStack]
    · rw [corosyncStatus_component]
      simp [applyStack]
  others c hc := by
    have hne : c ≠ .heartbeat ∧ c ≠ .corosync := by simpa [ProbeTarget.components] using hc
    simp [applyStack, hne]

theorem apply_found (t : Resources) (target : ProbeTarget) (output : String) (f : Findings) :
    Found target f.flags (apply t target output f).2.flags (apply t target output f).1 := by
  cases target with
  | storage => exact applyStorage_found t output f
  | clusterStack => exact applyStack_found t output f

theorem scopeOk_iff (scope : ProbeScope) (flags : Flags) :
    scopeOk scope flags = true ↔ scope.Satisfied flags := by
  cases scope with
  | clusterStack => simp [scopeOk, ProbeScope.Satisfied, Flags.clusterOk]
  | _ => rfl

theorem verdict_of_lacking {scope : ProbeScope} {flags : Flags} (h : ¬ scope.Satisfied flags)
    (statuses : List ComponentStatus) :
    (verdict scope statuses flags).state = .needsInstall ∧
      (verdict scope statuses flags).policyFailure.isSome = true ∧
      (verdict scope statuses flags).next = none := by
  rw [← scopeOk_iff] at h
  rw [verdict, if_neg h]
  exact ⟨rfl, rfl, rfl⟩

theorem verdict_of_satisfied {scope : ProbeScope} {flags : Flags} (h : scope.Satisfied flags)
    (statuses : List ComponentStatus) :
    (verdict scope statuses flags).state =
        (if statuses.any (·.state == .upgradeAvailable) then .upgradeAvailable else .upToDate) ∧
      (verdict scope statuses flags).policyFailure = none ∧
      (verdict scope statuses flags).next = following scope flags := by
  rw [← scopeOk_iff] at h
  rw [verdict, if_pos h]
  exact ⟨rfl, rfl, rfl⟩

theorem following_eq_confirm_iff (scope : ProbeScope) (flags : Flags) :
    following scope flags = some .confirm ↔ flags.success = true := by
  cases hsuccess : flags.success with
  | true => simp [following, hsuccess]
  | false => cases scope <;> simp [following, hsuccess]

theorem following_isSome {scope : ProbeScope} {flags : Flags} (h : scope.Satisfied flags) :
    (following scope flags).isSome = true := by
  cases hsuccess : flags.success with
  | true => simp [following, hsuccess]
  | false =>
      cases scope with
      | all =>
          have hsuccess' : flags.success = true := h
          rw [hsuccess] at hsuccess'
          cases hsuccess'
      | _ => simp [following, hsuccess]

end Probe

namespace Step

theorem get_noteStatuses (s : Step) (statuses : List ComponentStatus) (c : Component) :
    (∃ status ∈ statuses, status.component = c ∧
        (s.noteStatuses statuses).components.get c = some status) ∨
      c ∉ statuses.map (·.component) ∧
        (s.noteStatuses statuses).components.get c = s.components.get c := by
  induction statuses generalizing s with
  | nil => exact .inr ⟨List.not_mem_nil, rfl⟩
  | cons status statuses ih =>
      -- The statuses are noted in order, and a later one of the same component wins.
      let noted : Step := { s with components := s.components.set status.component (some status) }
      have hget : noted.components.get c =
          if c = status.component then some status else s.components.get c :=
        PerComponent.get_set _ _ _ _
      rcases ih noted with ⟨other, hother, hcomponent, hlater⟩ | ⟨hnone, hsame⟩
      · exact .inl ⟨other, List.mem_cons_of_mem _ hother, hcomponent, hlater⟩
      · by_cases hc : c = status.component
        · rw [if_pos hc] at hget
          exact .inl ⟨status, List.mem_cons_self, hc.symm, hsame.trans hget⟩
        · rw [if_neg hc] at hget
          refine .inr ⟨?_, hsame.trans hget⟩
          rw [List.map_cons, List.mem_cons, not_or]
          exact ⟨hc, hnone⟩

theorem mem_statuses {s : Step} {status : ComponentStatus} :
    status ∈ s.statuses ↔ ∃ c, s.components.get c = some status := by
  simp [statuses, PerComponent.entries, Component.mem_all]

theorem get_noteStatuses_of_found {target : ProbeTarget} {before after : Flags}
    {statuses : List ComponentStatus} (h : Probe.Found target before after statuses) (s : Step)
    (c : Component) :
    (c ∈ target.components ∧ ∃ status, status.component = c ∧
        (s.noteStatuses statuses).components.get c = some status ∧
        after.get c = status.isPresent) ∨
      (c ∉ target.components ∧
        (s.noteStatuses statuses).components.get c = s.components.get c ∧
        after.get c = before.get c) := by
  rw [← h.components_eq]
  rcases get_noteStatuses s statuses c with ⟨status, hstatus, rfl, hget⟩ | ⟨hnone, hget⟩
  · exact .inl ⟨List.mem_map_of_mem hstatus, status, rfl, hget, h.agrees status hstatus⟩
  · refine .inr ⟨hnone, hget, h.others c ?_⟩
    rw [← h.components_eq]
    exact hnone

/-- A probe step holds a status for each component whose probe has answered, and the flags tell of
these components what the statuses tell. -/
structure Reports (s : Step) (scope : ProbeScope) (flags : Flags) : Prop where
  held_iff : ∀ c, (s.components.get c).isSome = true ↔
    ∃ target ∈ scope.targets, .probe target ∉ s.pending ∧ c ∈ target.components
  agrees : ∀ c status, s.components.get c = some status →
    status.component = c ∧ flags.get c = status.isPresent

theorem working_reports {s : Step} {scope : ProbeScope} (hkind : s.kind = .probe scope)
    (flags : Flags) : s.working.Reports scope flags where
  held_iff c := by
    have hpending : ∀ target ∈ scope.targets, .probe target ∈ s.working.pending := by
      intro target htarget
      simp only [working, hkind]
      exact List.mem_map_of_mem htarget
    refine iff_of_false (by simp [working, reset]) ?_
    rintro ⟨target, htarget, hanswered, -⟩
    exact hanswered (hpending target htarget)
  agrees c status hstatus := by
    simp [working, reset] at hstatus

theorem Reports.note {s : Step} {scope : ProbeScope} {target : ProbeTarget} {before after : Flags}
    {statuses : List ComponentStatus} (h : s.Reports scope before)
    (htarget : target ∈ scope.targets) (hnodup : s.pending.Nodup)
    (hfound : Probe.Found target before after statuses) :
    ((s.without (.probe target)).noteStatuses statuses).Reports scope after := by
  -- No key is pending twice, so the answered one is gone.
  have hanswered : ∀ other, .probe other ∉ s.pending.erase (.probe target) ↔
      .probe other ∉ s.pending ∨ other = target := by
    intro other
    rw [hnodup.mem_erase_iff, not_and_or, not_not, ActionKey.probe.injEq, or_comm]
  constructor
  · intro c
    change _ ↔ ∃ other ∈ scope.targets, .probe other ∉ s.pending.erase (.probe target) ∧ _
    simp only [hanswered]
    rcases get_noteStatuses_of_found hfound (s.without (.probe target)) c with
      ⟨hc, status, -, hget, -⟩ | ⟨hc, hget, -⟩
    · rw [hget]
      exact iff_of_true rfl ⟨target, htarget, .inr rfl, hc⟩
    · rw [hget]
      refine (h.held_iff c).trans ⟨?_, ?_⟩
      · rintro ⟨other, hother, hpending, hmem⟩
        exact ⟨other, hother, .inl hpending, hmem⟩
      · rintro ⟨other, hother, hpending | rfl, hmem⟩
        · exact ⟨other, hother, hpending, hmem⟩
        · exact absurd hmem hc
  · intro c status hstatus
    rcases get_noteStatuses_of_found hfound (s.without (.probe target)) c with
      ⟨-, found, hcomponent, hget, hflag⟩ | ⟨-, hget, hflag⟩
    · rw [hget, Option.some.injEq] at hstatus
      subst hstatus
      exact ⟨hcomponent, hflag⟩
    · rw [hget] at hstatus
      rw [hflag]
      exact h.agrees c status hstatus

/-- A probe step ends with the verdict on what it holds and on the flags. -/
structure Judged (s : Step) (scope : ProbeScope) (flags : Flags) : Prop where
  state_eq : s.state = (Probe.verdict scope s.statuses flags).state
  policyFailure_eq : s.policyFailure = (Probe.verdict scope s.statuses flags).policyFailure
  nextKind_eq : s.nextKind = (Probe.verdict scope s.statuses flags).next

/-- A result for which a probe step waits adds to its report, and brings the verdict if it is the
last one. -/
theorem complete_reports (t : Resources) {s : Step} {scope : ProbeScope} {key : ActionKey}
    (outcome : Outcome) {f : Findings} (hkind : s.kind = .probe scope) (hkey : key ∈ s.pending)
    (hkeys : s.pending.Sublist s.kind.keys) (h : s.Reports scope f.flags) :
    (s.complete t key outcome f).step.Reports scope (s.complete t key outcome f).findings.flags ∧
      (s.pending.erase key = [] →
        (s.complete t key outcome f).step.Judged scope
          (s.complete t key outcome f).findings.flags) := by
  have hmem : key ∈ s.kind.keys := hkeys.subset hkey
  rw [hkind] at hmem
  obtain ⟨target, htarget, rfl⟩ := List.mem_map.mp hmem
  have hfound := Probe.apply_found t target (Probe.answer outcome) f
  have hnoted := h.note htarget (hkeys.nodup s.kind.keys_nodup) hfound
  rw [complete_probe t hkind hkey, applyProbe]
  dsimp only
  split
  · rename_i hpending
    refine ⟨hnoted, ?_⟩
    intro hlast
    simp [hasPending, noteStatuses, without, hlast] at hpending
  · exact ⟨⟨hnoted.held_iff, hnoted.agrees⟩, fun _ => ⟨rfl, rfl, rfl⟩⟩

theorem reported_of_offersInstall {s : Step} {c : Component} (h : s.offersInstall c = true) :
    ∃ scope status, s.kind = .probe scope ∧ s.completed = true ∧
      s.components.get c = some status ∧
      (status.state = .needsInstall ∨ status.state = .upgradeAvailable) := by
  rw [offersInstall] at h
  split at h
  · rename_i scope hkind
    simp only [Bool.and_eq_true] at h
    obtain ⟨⟨hcompleted, -⟩, hstatus⟩ := h
    split at hstatus
    · rename_i status hget
      exact ⟨scope, status, hkind, hcompleted, hget, by simpa using hstatus⟩
    · cases hstatus
  · cases h

theorem Reports.held_iff_of_idle {s : Step} {scope : ProbeScope} {flags : Flags}
    (h : s.Reports scope flags) (hidle : s.pending = []) (c : Component) :
    (s.components.get c).isSome = true ↔ c ∈ scope.components := by
  rw [h.held_iff, scope.mem_components_iff, hidle]
  simp only [List.not_mem_nil, not_false_eq_true, true_and]

theorem Reports.exists_offered {s : Step} {scope : ProbeScope} {flags : Flags}
    (h : s.Reports scope flags) (hkind : s.kind = .probe scope) (hidle : s.pending = [])
    (hcompleted : s.completed = true) (hlacking : ¬ scope.Satisfied flags) :
    ∃ c, s.offersInstall c = true := by
  obtain ⟨c, hc, hflag⟩ := ProbeScope.exists_lacking hlacking
  obtain ⟨status, hstatus⟩ := Option.isSome_iff_exists.mp ((h.held_iff_of_idle hidle c).mpr hc)
  obtain ⟨-, hagrees⟩ := h.agrees c status hstatus
  have hstate : status.state = .needsInstall := by
    rw [hflag] at hagrees
    simpa [ComponentStatus.isPresent] using hagrees.symm
  exact ⟨c, by simp [offersInstall, hkind, hcompleted, hc, hstatus, hstate]⟩

theorem Judged.lacking_iff {s : Step} {scope : ProbeScope} {flags : Flags}
    (h : s.Judged scope flags) : s.state = .needsInstall ↔ ¬ scope.Satisfied flags := by
  rw [h.state_eq]
  by_cases hsatisfied : scope.Satisfied flags
  · obtain ⟨hstate, -, -⟩ := Probe.verdict_of_satisfied hsatisfied s.statuses
    rw [hstate]
    split <;> simp [hsatisfied]
  · obtain ⟨hstate, -, -⟩ := Probe.verdict_of_lacking hsatisfied s.statuses
    exact iff_of_true hstate hsatisfied

theorem Judged.state_of_satisfied {s : Step} {scope : ProbeScope} {flags : Flags}
    (h : s.Judged scope flags) (hsatisfied : scope.Satisfied flags) :
    (s.state = .upgradeAvailable ↔
        ∃ c status, s.components.get c = some status ∧ status.state = .upgradeAvailable) ∧
      (s.state = .upToDate ↔ s.state ≠ .upgradeAvailable) := by
  have hany : s.statuses.any (·.state == .upgradeAvailable) = true ↔
      ∃ c status, s.components.get c = some status ∧ status.state = .upgradeAvailable := by
    simp only [List.any_eq_true, mem_statuses, beq_iff_eq]
    constructor
    · rintro ⟨status, ⟨c, hstatus⟩, hstate⟩
      exact ⟨c, status, hstatus, hstate⟩
    · rintro ⟨c, status, hstatus, hstate⟩
      exact ⟨status, ⟨c, hstatus⟩, hstate⟩
  obtain ⟨hstate, -, -⟩ := Probe.verdict_of_satisfied hsatisfied s.statuses
  rw [h.state_eq, hstate, ← hany]
  split
  · rename_i hupgrade
    simp [hupgrade]
  · rename_i hnone
    simp [hnone]

end Step

end ClusterSetup

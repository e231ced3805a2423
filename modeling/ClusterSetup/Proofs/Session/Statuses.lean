import ClusterSetup.Proofs.Session.Evidence
import ClusterSetup.Summary

/-!
The statuses that a session reports. Each status that a step holds was told by the result of a probe
in the present run of the step. The summary shows of each component the status that is held by the
step which was created last among those that hold one, while the flags go by the evidence that was
read last; so the two agree if that status is the latest evidence.
-/

namespace ClusterSetup

/-- A receipt of a probe in the present run of a step, which tells of a component what a status
tells. -/
structure Receipt.Attests (r : Receipt) (i : StepId) (u : Step) (c : Component)
    (status : ComponentStatus) : Prop where
  kind_eq : r.kind = u.kind
  step_eq : r.result.step = i
  generation_eq : r.result.generation = u.generation
  probes : ∃ scope target, u.kind = .probe scope ∧ r.result.key = .probe target
  evidence : r.evidence? c = some status.isPresent

theorem not_held_of_blank {u : Step} (hblank : u.components = .const none) {c : Component}
    {status : ComponentStatus} (hstatus : u.components.get c = some status) : False := by
  rw [hblank, PerComponent.get_const] at hstatus
  cases hstatus

namespace Session

/-- Every status that a step holds was told in the present run of the step. -/
def Attested (log : List (Desk × Move)) (s : Session) : Prop :=
  ∀ (i : StepId) (u : Step), s.steps[i]? = some u → ∀ c status, u.components.get c = some status →
    status.component = c ∧ ∃ r ∈ receipts log, r.Attests i u c status

theorem Recorded.attested {s : Session} {log : List (Desk × Move)} (h : Recorded log s) :
    s.Attested log := by
  refine h.induct (P := fun log s => s.Attested log) ?_ ?_
  · intro host resources policy options credentials i u hu c status hstatus
    obtain rfl := List.mem_singleton.mp (List.mem_of_getElem? hu)
    exact (not_held_of_blank rfl hstatus).elim
  · intro log s g m hlog ih i u' hu' c status hstatus
    have hvalid := hlog.reachable.valid
    rw [receipts_snoc]
    cases Desk.perform_became hvalid g m hu' with
    | kept before _ _ _ _ _ eq =>
        subst eq
        obtain ⟨hcomponent, r, hr, hattests⟩ := ih i _ before c status hstatus
        exact ⟨hcomponent, r, List.mem_append_left _ hr, hattests.kind_eq, hattests.step_eq,
          hattests.generation_eq, hattests.probes, hattests.evidence⟩
    | fresh components_eq => exact (not_held_of_blank components_eq hstatus).elim
    | @applied r step step' receipt applying place next eq =>
        subst place eq
        have hkind := applying.reads.same.kind_eq
        have hgeneration := applying.reads.generation_eq
        have hkeys := (hvalid.placed.arena.sound applying.current).pending_sublist
        have hstatus' : step'.components.get c = some status := hstatus
        rw [← applying.step_eq] at hstatus'
        rcases Step.complete_holds s.resources r.result.outcome s.findings applying.pending hkeys
          hstatus' with hbefore | ⟨hcomponent, hprobes, hevidence⟩
        · obtain ⟨hcomponent, r', hr', hattests⟩ := ih _ step applying.current c status hbefore
          have hprobes := hattests.probes
          rw [← hkind] at hprobes
          exact ⟨hcomponent, r', List.mem_append_left _ hr', hattests.kind_eq.trans hkind.symm,
            hattests.step_eq, hattests.generation_eq.trans hgeneration.symm, hprobes,
            hattests.evidence⟩
        · rw [← hkind] at hprobes
          refine ⟨hcomponent, r, List.mem_append_right _ ?_, applying.kind_eq.trans hkind.symm,
            congrArg Ticket.step applying.ticket,
            (congrArg Ticket.generation applying.ticket).trans hgeneration.symm, hprobes,
            hevidence⟩
          rw [receipt]
          exact List.mem_singleton_self r

end Session

def Step.shownStatuses (u : Step) : List ComponentStatus :=
  match u.kind with
  | .probe _ => u.statuses
  | _ => []

namespace Session

theorem report_statuses (s : Session) :
    s.report.probes.flatMap (·.components) = s.steps.reverse.flatMap (·.shownStatuses) := by
  rw [SessionReport.probes, report, ← List.map_reverse]
  induction s.steps.reverse with
  | nil => rfl
  | cons u steps ih =>
      have hkind : (StepSummary.ofStep u).kind = u.kind := rfl
      have hstatuses : (StepSummary.ofStep u).components = u.statuses := rfl
      rw [List.map_cons, List.filter_cons, List.flatMap_cons, ← ih, hkind, hstatuses,
        Step.shownStatuses]
      cases u.kind with
      | probe scope =>
          cases hheld : u.statuses with
          | nil => rfl
          | cons status statuses => simp [hstatuses, hheld]
      | _ => rfl

/-- The status that is shown of a component is held by a step, and no step created after that one
has a status of the component to show. -/
theorem status?_eq_some {s : Session} {c : Component} {status : ComponentStatus}
    (h : s.report.status? c = some status) :
    ∃ before u after, s.steps = before ++ u :: after ∧ status ∈ u.shownStatuses ∧
      status.component = c ∧ ∀ v ∈ after, ∀ held ∈ v.shownStatuses, held.component ≠ c := by
  rw [SessionReport.status?, report_statuses, List.find?_flatMap] at h
  obtain ⟨later, u, earlier, hsteps, hfound, hnone⟩ := List.findSome?_eq_some_iff.mp h
  have hcomponent := List.find?_some hfound
  refine ⟨earlier.reverse, u, later.reverse, ?_, List.mem_of_find?_eq_some hfound,
    beq_iff_eq.mp hcomponent, ?_⟩
  · rw [← List.reverse_reverse s.steps, hsteps]
    simp
  · intro v hv held hheld heq
    have hnothing := List.find?_eq_none.mp (hnone v (List.mem_reverse.mp hv)) held hheld
    exact hnothing (beq_iff_eq.mpr heq)

theorem Attested.status_of_shown {s : Session} {log : List (Desk × Move)} (h : s.Attested log)
    {i : StepId} {u : Step} (hu : s.steps[i]? = some u) {status : ComponentStatus}
    (hshown : status ∈ u.shownStatuses) : u.components.get status.component = some status := by
  rw [Step.shownStatuses] at hshown
  split at hshown
  · obtain ⟨c, hget⟩ := Step.mem_statuses.mp hshown
    obtain ⟨rfl, -⟩ := h i u hu c status hget
    exact hget
  · cases hshown

theorem Attested.shown_of_status {s : Session} {log : List (Desk × Move)} (h : s.Attested log)
    {i : StepId} {u : Step} (hu : s.steps[i]? = some u) {c : Component} {status : ComponentStatus}
    (hget : u.components.get c = some status) :
    status ∈ u.shownStatuses ∧ status.component = c := by
  obtain ⟨hcomponent, r, -, hattests⟩ := h i u hu c status hget
  obtain ⟨scope, -, hkind, -⟩ := hattests.probes
  rw [Step.shownStatuses, hkind]
  exact ⟨Step.mem_statuses.mpr ⟨c, hget⟩, hcomponent⟩

/-- A summary shows of a component what was found in the last run of the step that was created last
among those with a status of it. That agrees with the flags if, and only if, the latest evidence on
the component tells the same; so it does as long as nothing was learned of the component since. -/
theorem shown_statuses_created_last {s : Session} (h : s.Reachable) {c : Component}
    {status : ComponentStatus} (hshown : s.report.status? c = some status) :
    status.line ∈ s.report.componentLines ∧ (∃ log, Recorded log s) ∧
    ∀ log, Recorded log s → ∃ before u after earlier r later,
      s.steps = before ++ u :: after ∧ u.components.get c = some status ∧
      (∀ v ∈ after, v.components.get c = none) ∧
      receipts log = earlier ++ r :: later ∧ r.Attests before.length u c status ∧
      ((status.state = .needsInstall ↔ s.flags.get c = false) ↔
        latest (·.evidence? c) log = r.evidence? c) ∧
      ((∀ r' ∈ later, r'.evidence? c = none) →
        (status.state = .needsInstall ↔ s.flags.get c = false)) := by
  refine ⟨?_, h.recorded, ?_⟩
  · refine List.mem_map_of_mem ?_
    exact List.mem_filterMap.mpr ⟨c, Component.mem_all c, hshown⟩
  intro log hlog
  have hattested := hlog.attested
  obtain ⟨before, u, after, hsteps, hmem, rfl, hlast⟩ := status?_eq_some hshown
  have hu : s.steps[before.length]? = some u := by
    rw [hsteps, List.getElem?_append_right (Nat.le_refl _), Nat.sub_self]
    rfl
  have hget := hattested.status_of_shown hu hmem
  obtain ⟨-, r, hr, hattests⟩ := hattested before.length u hu _ status hget
  obtain ⟨earlier, later, hsplit⟩ := List.append_of_mem hr
  obtain ⟨host, resources, policy, options, credentials, hlogged⟩ := hlog
  obtain ⟨hflag, -⟩ := hlogged.evidence
    (new_valid host resources policy options credentials) status.component
  have hnew : (new host resources policy options credentials).flags.get status.component = false :=
    PerComponent.get_const false _
  have hpresent : status.isPresent = false ↔ status.state = .needsInstall := by
    simp [ComponentStatus.isPresent]
  -- The receipt itself is evidence, so there is a latest one.
  have hagree : (status.state = .needsInstall ↔ s.flags.get status.component = false) ↔
      latest (·.evidence? status.component) log = r.evidence? status.component := by
    rw [← hpresent, hflag, hnew, hattests.evidence]
    cases hlatest : latest (·.evidence? status.component) log with
    | none =>
        have hnone := List.getLast?_eq_none_iff.mp hlatest
        rw [List.filterMap_eq_nil_iff] at hnone
        have hcontra := hnone r hr
        rw [hattests.evidence] at hcontra
        cases hcontra
    | some present => cases present <;> cases status.isPresent <;> simp
  refine ⟨before, u, after, earlier, r, later, hsteps, hget, ?_, hsplit, hattests, hagree, ?_⟩
  · intro v hv
    obtain ⟨i, hi⟩ := List.mem_iff_getElem?.mp
      (hsteps ▸ List.mem_append_right before (List.mem_cons_of_mem u hv))
    rw [Option.eq_none_iff_forall_ne_some]
    intro held hheld
    obtain ⟨hshown', hcomponent⟩ := hattested.shown_of_status hi hheld
    exact hlast v hv held hshown' hcomponent
  · intro hlater
    exact hagree.mpr ((latest_of_split hsplit hlater hattests.evidence).trans
      hattests.evidence.symm)

theorem shown_statuses_created_last_sample :
    let log := Desk.logAll ⟨sample, .empty⟩ (sampleMoves.take 7)
    let status : ComponentStatus := ⟨.drbd, "DRBD", .upToDate, some "8.4", none⟩
    (samplePlayed 7).report.status? .drbd = some status ∧
      status.line ∈ (samplePlayed 7).report.componentLines ∧
      latest (·.evidence? .drbd) log = some status.isPresent ∧
      (status.state = .needsInstall ↔ (samplePlayed 7).flags.get .drbd = false) := by
  intro log status
  have hlog : Recorded log (samplePlayed 7) :=
    ⟨_, _, _, _, _, Logged.performAll (d := ⟨sample, .empty⟩) .nil (sampleMoves.take 7)⟩
  have hshown : (samplePlayed 7).report.status? .drbd = some status := by decide +kernel
  have hlatest : latest (·.evidence? .drbd) log = some status.isPresent := by decide +kernel
  obtain ⟨hline, -, hfound⟩ := shown_statuses_created_last (samplePlayed_reachable 7) hshown
  obtain ⟨before, u, after, earlier, r, later, -, -, -, -, hattests, hagree, -⟩ :=
    hfound log hlog
  exact ⟨hshown, hline, hlatest, hagree.mpr (hlatest.trans hattests.evidence.symm)⟩

def stackless : Session :=
  .new { Host.new ⟨1⟩ "alpha" "10.0.0.1" with connectivity := .connected }
    (.ofTable ⟨[⟨"", ResourceKey.storageProbe, "drbd"⟩, ⟨"", ResourceKey.stackProbe, "stack"⟩,
      ⟨"", ResourceKey.methodLabel .heartbeat 1, "packages"⟩,
      ⟨"", ResourceKey.methodCommand .heartbeat 1, "install heartbeat"⟩]⟩)

/-- Heartbeat is installed but not found by the probe after that; the session goes back to its first
probe, which finds it, and finishes. -/
def revisitingMoves : List Move :=
  [.enter, .printed "8.4", .printed "", .read, .read,
    .chooseInstall .heartbeat 1, .printed "Complete!", .read, .next,
    .enter, .printed "", .read, .previous, .previous,
    .retry, .printed "8.4", .printed "hb: 3.0", .read, .read, .next, .enter]

def revisited : Session := (Desk.performAll ⟨stackless, .empty⟩ revisitingMoves).session

theorem revisited_reachable : Reachable revisited :=
  ⟨_, _, _, _, _, Later.of_moves ⟨stackless, .empty⟩ revisitingMoves⟩

/-- The summary of a session that has succeeded can show as not installed what the session has
found. -/
theorem shown_statuses_contradict_flags :
    Reachable revisited ∧ revisited.report.outcome = .succeeded ∧
      revisited.report.status? .heartbeat = some (.missing .heartbeat) ∧
      "  Pcmk/Heartbeat   -  not installed" ∈ revisited.report.componentLines ∧
      revisited.report.flags.get .heartbeat = true ∧
      ¬ ∀ s : Session, s.Reachable → ∀ c status, s.report.status? c = some status →
        (status.state = .needsInstall ↔ s.report.flags.get c = false) := by
  have hshown : revisited.report.status? .heartbeat = some (.missing .heartbeat) := by
    decide +kernel
  have hflag : revisited.report.flags.get .heartbeat = true := by decide +kernel
  refine ⟨revisited_reachable, by decide +kernel, hshown, by decide +kernel, hflag, ?_⟩
  intro hclaim
  have hmissing := (hclaim revisited revisited_reachable .heartbeat _ hshown).mp rfl
  rw [hflag] at hmissing
  cases hmissing

end Session

end ClusterSetup

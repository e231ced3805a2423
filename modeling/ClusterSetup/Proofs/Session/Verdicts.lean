import ClusterSetup.Proofs.Session.Histories
import ClusterSetup.Proofs.Step.Reporting

/-!
The verdicts of probe steps. The flags of a session outlive its steps, but while a probe step waits
for results only its own probes write them; so when the last one has answered the step and the flags
tell the same of every component on which the step reports.
-/

namespace ClusterSetup

namespace Session

/-- As long as the current step is a probe that waits for results, its report agrees with the
flags. -/
def Reported (s : Session) : Prop :=
  s.canceled = false → ∀ step scope, s.steps[s.current]? = some step →
    step.kind = .probe scope → step.pending ≠ [] → step.Reports scope s.flags

theorem Reported.of_idle {s : Session}
    (hidle : ∀ {step : Step}, s.steps[s.current]? = some step → step.pending = []) :
    s.Reported :=
  fun _ _ _ hstep _ hpending => absurd (hidle hstep) hpending

theorem Reported.of_set {s : Session} {steps : List Step} {t : Step}
    (hsteps : s.steps = steps.set s.current t) (hidle : t.pending = []) : s.Reported := by
  refine .of_idle ?_
  intro step hstep
  rw [hsteps] at hstep
  rcases getElem?_set_cases hstep with ⟨-, rfl⟩ | ⟨hne, -⟩
  · exact hidle
  · exact absurd rfl hne

theorem Reported.of_attach {s : Session} {steps : List Step} {t : Step}
    (hid : s.current < steps.length) (hsteps : s.steps = attach steps s.current t)
    (hidle : t.pending = []) : s.Reported := by
  refine .of_idle ?_
  intro step hstep
  obtain ⟨next, hself, -⟩ := getElem?_attach_self hid t
  rw [hsteps, hself, Option.some.injEq] at hstep
  rw [← hstep]
  exact hidle

theorem Reported.keeps {d d' : Desk} (hvalid : d.session.Valid) (h : d.session.Reported)
    (hchange : Desk.Change d d') : d'.session.Reported := by
  cases hchange with
  | credentials _ => exact h
  | attempt _ _ => exact h
  | join _ _ _ => exact h
  | cancel active =>
      obtain ⟨cluster, membership, heq⟩ := Desk.cancel_eq active
      rw [heq]
      intro hlive
      cases hlive
  | @start s g g' step active current live idle entry =>
      intro _ step' scope hstep hkind _
      rcases getElem?_set_cases hstep with ⟨-, rfl⟩ | ⟨hne, -⟩
      · have hkind' : step.kind = .probe scope := hkind
        exact Step.working_reports hkind' s.flags
      · exact absurd rfl hne
  | ask active current live idle kind_eq lacks => exact .of_set rfl rfl
  | fail active current live idle kind_eq lacks none => exact .of_set rfl rfl
  | finish active current live idle kind_eq => exact .of_set rfl rfl
  | @choose s g step c method active current live offers listed =>
      have hid := (List.getElem?_eq_some_iff.mp current).1
      have hcompleted := Desk.completed_of_offersInstall offers
      have hidle := (hvalid.placed.arena.sound current).idle hcompleted
      exact .of_attach (t := step.chosen c method) hid rfl hidle
  | @go s g step n active current completed next =>
      have hidle := (hvalid.placed.arena.sound current).idle completed
      have hidle' := (Step.proceed_sameLinks step).pending_eq.trans hidle
      refine .of_idle ?_
      intro step' hstep
      rcases getElem?_set_cases hstep with ⟨-, rfl⟩ | ⟨-, hstep⟩
      · exact hidle'
      · exact (hvalid.awaited active.live).waits.all_idle current hidle hstep
  | back active current idle previous =>
      exact .of_idle ((hvalid.awaited active.live).waits.all_idle current idle)
  | answer advance =>
      have hsame := (advance?_answered advance).same
      rw [hsame]
      exact h
  | discard canceled arrived =>
      intro hlive
      rw [canceled] at hlive
      cases hlive
  | @absorb s g result rest step step' f active arrived current ticket pending applied =>
      have hkeys := (hvalid.placed.arena.sound current).pending_sublist
      intro _ step'' scope hstep hkind _
      rcases getElem?_set_cases hstep with ⟨-, rfl⟩ | ⟨hne, -⟩
      · obtain ⟨hreads, -⟩ := hvalid.placed.reads current pending applied
        have hkind' : step.kind = .probe scope := hreads.same.kind_eq.symm.trans hkind
        have hbefore : step.Reports scope s.findings.flags :=
          h active.live step scope current hkind' (List.ne_nil_of_mem pending)
        obtain ⟨hreports, -⟩ := Step.complete_reports s.resources result.outcome hkind' pending
          hkeys hbefore
        rw [applied] at hreports
        exact hreports
      · exact absurd rfl hne
  | @complete s g result rest step step' f active arrived current ticket pending applied =>
      have hid := (List.getElem?_eq_some_iff.mp current).1
      obtain ⟨hreads, hcompleted⟩ := hvalid.placed.reads current pending applied
      exact .of_attach hid rfl (hreads.sound.idle hcompleted)

theorem Reachable.reported {s : Session} (h : Reachable s) : s.Reported := by
  obtain ⟨host, resources, policy, options, credentials, hlater⟩ := h
  refine (hlater.induct Reported.keeps (new_valid host resources policy options credentials)
    (.of_idle ?_)).1
  intro step hstep
  have hfirst := List.mem_singleton.mp (List.mem_of_getElem? hstep)
  rw [hfirst]
  rfl

/-- What a probe step and its session tell once all probes of the step have answered. -/
structure Concluded (s : Session) (scope : ProbeScope) (step : Step) : Prop where
  held_iff : ∀ c, (step.components.get c).isSome = true ↔ c ∈ scope.components
  agrees : ∀ c status, step.components.get c = some status →
    status.component = c ∧ s.flags.get c = status.isPresent
  lacking_iff : step.state = .needsInstall ↔ ¬ scope.Satisfied s.flags
  /-- A step that asks for an install leads nowhere and offers at least one. -/
  lacking : step.state = .needsInstall →
    step.policyFailure.isSome = true ∧ step.next = none ∧ ∃ c, step.offersInstall c = true
  upgradeable_iff : step.state ≠ .needsInstall →
    (step.state = .upgradeAvailable ↔
      ∃ c status, step.components.get c = some status ∧ status.state = .upgradeAvailable)
  upToDate_iff : step.state ≠ .needsInstall →
    (step.state = .upToDate ↔ step.state ≠ .upgradeAvailable)
  confirms : step.state ≠ .needsInstall →
    ∃ n next, step.next = some n ∧ s.steps[n]? = some next ∧
      (next.kind = .confirm ↔ s.flags.success = true)

theorem concluded_of_attach {s : Session} {steps : List Step} {i : StepId} {scope : ProbeScope}
    {t after : Step} (hid : i < steps.length) (hsteps : s.steps = attach steps i t)
    (hafter : s.steps[i]? = some after) (hkind : t.kind = .probe scope) (hidle : t.pending = [])
    (hcompleted : t.completed = true) (hunlinked : t.next = none)
    (hreports : t.Reports scope s.flags) (hjudged : t.Judged scope s.flags) :
    s.Concluded scope after := by
  obtain ⟨next, hself, hundecided, hdecided⟩ := getElem?_attach_self hid t
  rw [hsteps, hself, Option.some.injEq] at hafter
  subst hafter
  have hsatisfied : t.state ≠ .needsInstall → scope.Satisfied s.flags := by
    intro hstate
    by_contra hlacking
    exact hstate (hjudged.lacking_iff.mpr hlacking)
  constructor
  · exact hreports.held_iff_of_idle hidle
  · exact hreports.agrees
  · exact hjudged.lacking_iff
  · intro hstate
    have hlacking := hjudged.lacking_iff.mp hstate
    obtain ⟨-, hfailure, hnext⟩ := Probe.verdict_of_lacking hlacking t.statuses
    refine ⟨?_, ?_, hreports.exists_offered hkind hidle hcompleted hlacking⟩
    · exact (congrArg Option.isSome hjudged.policyFailure_eq).trans hfailure
    · exact (hundecided (hjudged.nextKind_eq.trans hnext)).trans hunlinked
  · intro hstate
    exact (hjudged.state_of_satisfied (hsatisfied hstate)).1
  · intro hstate
    exact (hjudged.state_of_satisfied (hsatisfied hstate)).2
  · intro hstate
    replace hsatisfied := hsatisfied hstate
    obtain ⟨-, -, hnext⟩ := Probe.verdict_of_satisfied hsatisfied t.statuses
    have hfollowing : t.nextKind = Probe.following scope s.flags := hjudged.nextKind_eq.trans hnext
    obtain ⟨kind, hkind⟩ := Option.isSome_iff_exists.mp (Probe.following_isSome hsatisfied)
    have hdecision : t.nextKind = some kind := hfollowing.trans hkind
    have hlinked : next = some steps.length := by
      refine hdecided ?_
      rw [hdecision]
      exact Option.some_ne_none kind
    refine ⟨steps.length, Step.new steps.length kind (some i), hlinked, ?_, ?_⟩
    · rw [hsteps]
      exact getElem?_attach_length hid hdecision
    · rw [← Probe.following_eq_confirm_iff scope, hkind, Option.some.injEq]
      rfl

theorem isCurrent_spec {s : Session} {result : ActionResult} (h : s.isCurrent result = true) :
    s.canceled = false ∧ ∃ step, s.steps[result.step]? = some step := by
  rw [isCurrent, Bool.and_eq_true, Bool.not_eq_true'] at h
  obtain ⟨hlive, hstep⟩ := h
  refine ⟨hlive, ?_⟩
  cases hnone : s.steps[result.step]? with
  | none =>
      rw [hnone] at hstep
      cases hstep
  | some step => exact ⟨step, rfl⟩

theorem applyResult_of_passed {s : Session} {result : ActionResult} {step : Step}
    (hstep : s.steps[result.step]? = some step) (hpending : result.key ∉ step.pending) :
    s.applyResult result = s := by
  have hpassed : step.complete s.resources result.key result.outcome s.findings =
      ⟨step, s.findings, false⟩ := by
    simp [Step.complete, hpending]
  rw [applyResult, stepAt_eq hstep]
  dsimp only
  rw [hpassed, setStep, set_eq_self hstep]
  rfl

end Session

namespace Desk

/-- A result that completes a step is the last one for which the current step waits. -/
theorem receive_completes {s : Session} {g : Guards} (hplaced : s.Placed)
    (hwaits : s.canceled = false → Session.WaitsOnlyAt s.steps s.current) {result : ActionResult}
    {i : StepId} {before after : Step} (hbefore : s.steps[i]? = some before)
    (hopen : before.completed = false)
    (hafter : (receive result ⟨s, g⟩).2.session.steps[i]? = some after)
    (hdone : after.completed = true) :
    i = s.current ∧ s.canceled = false ∧ result.key ∈ before.pending ∧
      ∃ step' f, before.complete s.resources result.key result.outcome s.findings =
          ⟨step', f, true⟩ ∧
        (receive result ⟨s, g⟩).2.session.steps = Session.attach s.steps s.current step' ∧
        (receive result ⟨s, g⟩).2.session.flags = f.flags := by
  -- A step that is what it was before is not completed.
  have hsame : s.steps[i]? ≠ some after := by
    intro hold
    rw [hbefore, Option.some.injEq] at hold
    rw [← hold, hopen] at hdone
    cases hdone
  let t : Session := { s with inFlight := s.inFlight - 1 }
  have hcurrent : t.isCurrent result = true := by
    by_contra hlate
    rw [receive, if_neg hlate] at hafter
    exact hsame hafter
  have hreceive : (receive result ⟨s, g⟩).2 =
      ⟨t.applyResult result, g.releaseAll result.guards⟩ := by
    rw [receive, if_pos hcurrent]
  obtain ⟨hlive, step, hstep⟩ := Session.isCurrent_spec hcurrent
  have hpending : result.key ∈ step.pending := by
    by_contra hpassed
    rw [hreceive, Session.applyResult_of_passed (s := t) hstep hpassed] at hafter
    exact hsame hafter
  have hid : result.step = s.current := by
    by_contra hne
    rw [(hwaits hlive).idle hstep hne] at hpending
    cases hpending
  rw [hid] at hstep
  rw [hreceive] at hafter ⊢
  generalize happlied :
    step.complete s.resources result.key result.outcome s.findings = applied
  obtain ⟨step', f, completed⟩ := applied
  obtain ⟨hreads, hcompleted⟩ := hplaced.reads hstep hpending happlied
  cases completed with
  | false =>
      rw [Session.applyResult_of_absorbed (s := t) hid hstep happlied] at hafter
      rcases getElem?_set_cases hafter with ⟨-, rfl⟩ | ⟨-, hold⟩
      · rw [hcompleted] at hdone
        cases hdone
      · exact absurd hold hsame
  | true =>
      rw [Session.applyResult_of_completed (s := t) hid hstep happlied hcompleted hreads.next_eq
        (hreads.unfinished hcompleted)] at hafter ⊢
      rcases Session.getElem?_attach_cases hafter with ⟨heq, -⟩ | ⟨-, hold⟩ | ⟨-, kind, -, rfl⟩
      · have hi : i = s.current := heq
        rw [hi, hstep, Option.some.injEq] at hbefore
        subst hbefore
        exact ⟨hi, hlive, hpending, step', f, happlied, rfl, rfl⟩
      · exact absurd hold hsame
      · cases hdone

end Desk

namespace Session

theorem concluded_of_received {s : Session} {g : Guards} (hplaced : s.Placed)
    (hwaits : s.canceled = false → WaitsOnlyAt s.steps s.current) (hreported : s.Reported)
    {result : ActionResult} {i : StepId} {before after : Step} {scope : ProbeScope}
    (hbefore : s.steps[i]? = some before) (hkind : before.kind = .probe scope)
    (hopen : before.completed = false)
    (hafter : (Desk.receive result ⟨s, g⟩).2.session.steps[i]? = some after)
    (hdone : after.completed = true) :
    (Desk.receive result ⟨s, g⟩).2.session.Concluded scope after := by
  obtain ⟨rfl, hlive, hpending, t, f, happlied, hsteps, hflags⟩ :=
    Desk.receive_completes hplaced hwaits hbefore hopen hafter hdone
  have hid : s.current < s.steps.length := (List.getElem?_eq_some_iff.mp hbefore).1
  obtain ⟨hreads, hcompleted⟩ := hplaced.reads hbefore hpending happlied
  have hlast := hreads.completed_iff.mp hcompleted
  have hbegun : before.Reports scope s.findings.flags :=
    hreported hlive before scope hbefore hkind (List.ne_nil_of_mem hpending)
  obtain ⟨hreports, hjudged⟩ := Step.complete_reports s.resources result.outcome hkind hpending
    (hplaced.arena.sound hbefore).pending_sublist hbegun
  replace hjudged := hjudged hlast
  rw [happlied] at hreports hjudged
  rw [← hflags] at hreports hjudged
  exact concluded_of_attach hid hsteps hafter (hreads.same.kind_eq.trans hkind)
    (hreads.pending_eq.trans hlast) hcompleted hreads.next_eq hreports hjudged

/-- Whatever result a session reads, when it completes a probe step the step reports on just the
components of its scope and the flags agree with it; the step asks for an install if and only if
the flags do not satisfy its scope, and otherwise tells of an upgrade if and only if some status
does, and leads to the confirmation if and only if the flags tell of success. -/
theorem probe_verdicts_agree {s : Session} (h : Reachable s) {result : ActionResult}
    {rest : List ActionResult} {g : Guards} {applied : Option StepId} {d : Desk}
    (hread : Desk.read? ⟨{ s with arrived := result :: rest }, g⟩ = some (applied, d)) {i : StepId}
    {before after : Step} {scope : ProbeScope} (hbefore : s.steps[i]? = some before)
    (hkind : before.kind = .probe scope) (hopen : before.completed = false)
    (hafter : d.session.steps[i]? = some after) (hdone : after.completed = true) :
    d.session.Concluded scope after := by
  have hvalid := h.valid
  have hplaced : Placed { s with arrived := rest } := hvalid.placed.keep rfl rfl rfl rfl
  have hreceive : (Desk.receive result ⟨{ s with arrived := rest }, g⟩).2 = d := by
    rw [Desk.read?, Option.some.injEq] at hread
    exact congrArg Prod.snd hread
  subst hreceive
  exact concluded_of_received hplaced (fun hlive => (hvalid.awaited hlive).waits) h.reported hbefore
    hkind hopen hafter hdone

def lackingAnswer : ActionResult where
  step := 0
  generation := 1
  key := .probe .clusterStack
  outcome := .exited ⟨"hb: 3.0", 0⟩
  guards := (ActionKey.probe .clusterStack).guards ⟨1⟩

theorem probe_verdicts_agree_sample :
    ∃ applied d before after,
      Desk.read? ⟨{ lackingPlayed 4 with arrived := [lackingAnswer] }, .empty⟩ = some (applied, d) ∧
        (lackingPlayed 4).steps[0]? = some before ∧ before.kind = .probe .all ∧
        before.completed = false ∧ d.session.steps[0]? = some after ∧ after.completed = true ∧
        after.state = .needsInstall ∧ ¬ ProbeScope.all.Satisfied d.session.flags ∧
        after.next = none ∧ ∃ c, after.offersInstall c = true := by
  let d := (Desk.receive lackingAnswer ⟨{ lackingPlayed 4 with arrived := [] }, .empty⟩).2
  have hread : Desk.read? ⟨{ lackingPlayed 4 with arrived := [lackingAnswer] }, .empty⟩ =
      some (_, d) := rfl
  have hbefore : (lackingPlayed 4).steps.map (fun step => (step.kind, step.completed)) =
      [(.probe .all, false)] := by decide
  have hafter : d.session.steps.map (fun step => (step.state, step.completed)) =
      [(.needsInstall, true)] := by decide
  obtain ⟨before, hsteps, hfields⟩ := List.map_eq_singleton_iff.mp hbefore
  obtain ⟨after, hsteps', hfields'⟩ := List.map_eq_singleton_iff.mp hafter
  obtain ⟨hkind, hopen⟩ : before.kind = .probe .all ∧ before.completed = false := by
    simpa using hfields
  obtain ⟨hstate, hdone⟩ : after.state = .needsInstall ∧ after.completed = true := by
    simpa using hfields'
  have hfirst : (lackingPlayed 4).steps[0]? = some before := by rw [hsteps]; rfl
  have hfirst' : d.session.steps[0]? = some after := by rw [hsteps']; rfl
  have hconcluded : d.session.Concluded .all after :=
    probe_verdicts_agree (lackingPlayed_reachable 4) hread hfirst hkind hopen hfirst' hdone
  obtain ⟨-, hnext, hoffers⟩ := hconcluded.lacking hstate
  exact ⟨_, d, before, after, hread, hfirst, hkind, hopen, hfirst', hdone, hstate,
    hconcluded.lacking_iff.mp hstate, hnext, hoffers⟩

end Session

end ClusterSetup

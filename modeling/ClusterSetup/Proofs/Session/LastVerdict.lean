import ClusterSetup.Proofs.Session.Statuses
import ClusterSetup.Proofs.Session.Success

namespace ClusterSetup

open Relation (ReflTransGen)

/-- A probe step that has statuses to show and has missed nothing. -/
structure Step.Affirms (u : Step) : Prop where
  probe : ∃ scope, u.kind = .probe scope
  passed : u.policyFailure = none
  shown : u.shownStatuses ≠ []

namespace Step

theorem shownStatuses_of_get {u : Step} {scope : ProbeScope} (hkind : u.kind = .probe scope)
    {c : Component} {status : ComponentStatus} (hget : u.components.get c = some status) :
    u.shownStatuses ≠ [] := by
  rw [shownStatuses, hkind]
  exact List.ne_nil_of_mem (mem_statuses.mpr ⟨c, hget⟩)

theorem passed_of_verdict {scope : ProbeScope} {statuses : List ComponentStatus} {flags : Flags}
    (h : (Probe.verdict scope statuses flags).next = some .confirm) :
    (Probe.verdict scope statuses flags).policyFailure = none := by
  rw [Probe.verdict] at h ⊢
  split
  · rfl
  · rename_i hlacking
    rw [if_neg hlacking] at h
    cases h

theorem complete_affirms (t : Resources) {s : Step} {key : ActionKey} (outcome : Outcome)
    (f : Findings) (hkey : key ∈ s.pending) (hkeys : s.pending.Sublist s.kind.keys)
    (hundecided : s.nextKind = none)
    (hconfirm : (s.complete t key outcome f).step.nextKind = some .confirm) :
    (∃ target, key = .probe target) ∧ (s.complete t key outcome f).step.Affirms := by
  cases awaits_of_pending hkey hkeys with
  | connect hkind =>
      rw [complete_connect t hkind hkey] at hconfirm
      cases applyConnect_nextKind hconfirm
  | @probe scope target hkind =>
      have hfound := Probe.apply_found t target (Probe.answer outcome) f
      obtain ⟨c, hc⟩ : ∃ c, c ∈ target.components := by
        cases target <;> exact ⟨_, List.mem_cons_self⟩
      obtain ⟨status, hget⟩ : ∃ status, ((s.without (.probe target)).noteStatuses
          (Probe.apply t target (Probe.answer outcome) f).1).components.get c = some status := by
        rcases get_noteStatuses_of_found hfound (s.without (.probe target)) c with
          ⟨-, status, -, hget, -⟩ | ⟨hnot, -⟩
        · exact ⟨status, hget⟩
        · exact absurd hc hnot
      rw [← applyProbe_components t _ scope target outcome f] at hget
      rw [complete_probe t hkind hkey] at hconfirm ⊢
      refine ⟨⟨target, rfl⟩, ?_⟩
      rw [applyProbe] at hconfirm hget ⊢
      dsimp only at hconfirm hget ⊢
      split at hconfirm
      · change s.nextKind = some .confirm at hconfirm
        rw [hundecided] at hconfirm
        cases hconfirm
      · rename_i hlast
        rw [if_neg hlast] at hget ⊢
        exact ⟨⟨scope, hkind⟩, passed_of_verdict hconfirm, shownStatuses_of_get hkind hget⟩
  | install hkind =>
      rw [complete_install t hkind hkey] at hconfirm
      cases applyInstall_nextKind hconfirm

end Step

namespace Session

/-- A step that leads to the confirmation affirms, and the confirmation comes after a step. -/
structure Affirmed (u : Step) : Prop where
  affirms : u.nextKind = some .confirm → u.Affirms
  follows : u.kind = .confirm → u.previous ≠ none

theorem Reachable.affirmed {s : Session} (h : s.Reachable) {i : StepId} {u : Step}
    (hu : s.steps[i]? = some u) : Affirmed u := by
  obtain ⟨log, hlog⟩ := h.recorded
  refine hlog.induct (P := fun _ s => ∀ i u, s.steps[i]? = some u → Affirmed u) ?_ ?_ i u hu
  · intro host resources policy options credentials i u hu
    obtain rfl := List.mem_singleton.mp (List.mem_of_getElem? hu)
    refine ⟨nofun, fun hkind => ?_⟩
    simp only [Step.new, firstKind] at hkind
    split at hkind <;> cases hkind
  · intro log s g m hlog ih i u' hu'
    have hvalid := hlog.reachable.valid
    cases Desk.perform_became hvalid g m hu' with
    | kept before state canceled next nextKind decides eq =>
        subst eq
        obtain ⟨haffirms, hfollows⟩ := ih i _ before
        refine ⟨fun hconfirm => ?_, hfollows⟩
        obtain ⟨hprobe, hpassed, hshown⟩ := haffirms (decides hconfirm)
        exact ⟨hprobe, hpassed, hshown⟩
    | fresh components_eq undecided origin =>
        refine ⟨fun hconfirm => ?_, fun hkind => ?_⟩
        · rw [undecided] at hconfirm
          cases hconfirm
        · rcases origin with hprevious | ⟨u, hu, hkind', hprevious⟩
          · exact hprevious
          · rw [hprevious]
            exact (ih i u hu).follows (hkind'.symm.trans hkind)
    | @applied r step step' receipt applying place next eq =>
        subst place eq
        have hsound := hvalid.placed.arena.sound applying.current
        have hsame := applying.reads.same
        have hundecided := hsound.undecided
          (hsound.not_completed (List.ne_nil_of_mem applying.pending))
        refine ⟨fun hconfirm => ?_, fun hkind => ?_⟩
        · have hconfirm' : step'.nextKind = some .confirm := hconfirm
          rw [← applying.step_eq] at hconfirm'
          obtain ⟨-, hprobe, hpassed, hshown⟩ := Step.complete_affirms s.resources
            r.result.outcome s.findings applying.pending hsound.pending_sublist hundecided hconfirm'
          rw [applying.step_eq] at hprobe hpassed hshown
          exact ⟨hprobe, hpassed, hshown⟩
        · change step'.previous ≠ none
          rw [hsame.previous_eq]
          exact (ih _ step applying.current).follows (hsame.kind_eq.symm.trans hkind)

theorem KeepsReports.onPath {steps steps' : List Step} (h : KeepsReports steps steps') {p : StepId}
    (hpath : OnPath steps' p) : OnPath steps p := by
  refine ReflTransGen.mono ?_ _ _ hpath
  rintro j n ⟨u', hu', hn⟩
  obtain ⟨u, hu, state, canceled, rfl⟩ := h j u' hu'
  exact ⟨u, hu, hn⟩

/-- A step on the path that leads to the confirmation. -/
structure Decisive (s : Session) (p : StepId) (u : Step) : Prop where
  onPath : OnPath s.steps p
  place : s.steps[p]? = some u
  confirms : u.nextKind = some .confirm

theorem Decisive.leadsToConfirm {s : Session} (h : s.Valid) {p : StepId} {u : Step}
    (hu : s.Decisive p u) : LeadsToConfirm s.steps := by
  have hlinked := h.placed.arena.linked hu.place
  have hnext : u.next ≠ none := by
    intro hnone
    have hundecided := hlinked.undecided hnone
    rw [hu.confirms] at hundecided
    cases hundecided
  obtain ⟨n, hn⟩ := Option.ne_none_iff_exists'.mp hnext
  obtain ⟨-, t, ht, -, hkind⟩ := hlinked.follows n hn
  rw [hu.confirms, Option.some.injEq] at hkind
  exact ⟨n, t, hu.onPath.tail ⟨u, hu.place, hn⟩, ht, hkind.symm⟩

end Session

namespace Desk

open Session (Decisive)

section Decisive

variable {s : Session} {g : Guards} {p : StepId} {u' : Step} {d : Desk}

theorem Entering.decisive {step : Step} {entered : Entered} (h : Entering s g step entered d)
    (hu' : d.session.Decisive p u') : s.Decisive p u' := by
  obtain ⟨hpath, hplace, hconfirms⟩ := hu'
  obtain ⟨-, hnext, -, -⟩ := h.entry.rerun
  obtain ⟨-, hundecided⟩ := h.entry.blank
  rw [h.session_eq] at hpath hplace
  rcases getElem?_set_cases hplace with ⟨-, rfl⟩ | ⟨-, hold⟩
  · rw [hundecided] at hconfirms
    cases hconfirms
  · refine ⟨hpath.of_set h.current ?_, hold, hconfirms⟩
    intro n hn
    rw [hnext] at hn
    cases hn

theorem decisive_of_attach {i : StepId} {step t : Step} {steps : List Step}
    (hstep : steps[i]? = some step) (hnext : t.next = none)
    (hpath : Session.OnPath (Session.attach steps i t) p)
    (hplace : (Session.attach steps i t)[p]? = some u') (hconfirms : u'.nextKind = some .confirm) :
    (p = i ∧ ∃ next, u' = { t with next := next }) ∨
      Session.OnPath steps p ∧ steps[p]? = some u' := by
  rcases Session.getElem?_attach_cases hplace with hself | ⟨-, hold⟩ | ⟨-, kind, -, rfl⟩
  · exact .inl hself
  · rcases hpath.of_attach hstep hnext with hbefore | ⟨hlast, -⟩
    · exact .inr ⟨hbefore, hold⟩
    · have hlt := (List.getElem?_eq_some_iff.mp hold).1
      rw [hlast] at hlt
      exact absurd hlt (Nat.lt_irrefl _)
  · cases hconfirms

theorem Choosing.decisive {step : Step} {c : Component} {n : Nat} (h : Choosing s g step c n d)
    (hu' : d.session.Decisive p u') : s.Decisive p u' := by
  obtain ⟨entered, entering⟩ := h.entering
  obtain ⟨hpath, hplace, hconfirms⟩ := entering.decisive hu'
  rcases decisive_of_attach (t := step.chosen c n) h.current rfl hpath hplace hconfirms with
    ⟨-, next, rfl⟩ | ⟨hbefore, hold⟩
  · cases hconfirms
  · exact ⟨hbefore, hold, hconfirms⟩

/-- A step that leads to the confirmation after a result was read did so before, when no receipt
came of it, or it is the one that the receipt has decided. -/
theorem readNext_decisive (h : s.Valid) (hu' : (readNext ⟨s, g⟩).session.Decisive p u') :
    (receipt? (⟨s, g⟩, .read) = none ∧ s.Decisive p u') ∨
      ∃ r target, receipt? (⟨s, g⟩, .read) = some r ∧
        r.result.ticket = ⟨p, u'.generation, .probe target⟩ := by
  obtain ⟨hpath, hplace, hconfirms⟩ := hu'
  rcases readNext_applying h g with ⟨hnone, hsteps, -⟩ | ⟨r, step, step', hreceipt, happlying⟩
  · rw [hsteps] at hpath hplace
    exact .inl ⟨hnone, hpath, hplace, hconfirms⟩
  · rw [happlying.steps_eq] at hpath hplace
    rcases decisive_of_attach happlying.current happlying.reads.next_eq hpath hplace hconfirms with
      ⟨rfl, next, rfl⟩ | ⟨hbefore, hold⟩
    · have hsound := h.placed.arena.sound happlying.current
      have hundecided := hsound.undecided
        (hsound.not_completed (List.ne_nil_of_mem happlying.pending))
      have hconfirms' : step'.nextKind = some .confirm := hconfirms
      rw [← happlying.step_eq] at hconfirms'
      obtain ⟨⟨target, hkey⟩, -⟩ := Step.complete_affirms s.resources r.result.outcome s.findings
        happlying.pending hsound.pending_sublist hundecided hconfirms'
      refine .inr ⟨r, target, hreceipt, ?_⟩
      rw [happlying.ticket, hkey, ← happlying.reads.generation_eq]
    · -- While a result is to be read, the path leads to no confirmation.
      have hnever := h.placed.not_leadsToConfirm happlying.current happlying.pending
      have hdecisive : s.Decisive p u' := ⟨hbefore, hold, hconfirms⟩
      exact absurd (hdecisive.leadsToConfirm h) hnever

theorem perform_decisive (h : s.Valid) (m : Move)
    (hu' : (m.perform ⟨s, g⟩).session.Decisive p u') :
    (receipt? (⟨s, g⟩, m) = none ∧
        ∃ u, s.Decisive p u ∧ u.generation = u'.generation) ∨
      ∃ r target, receipt? (⟨s, g⟩, m) = some r ∧
        r.result.ticket = ⟨p, u'.generation, .probe target⟩ := by
  by_cases hread : m = .read
  · subst hread
    rcases readNext_decisive h hu' with ⟨hnone, hbefore⟩ | hdecided
    · exact .inl ⟨hnone, u', hbefore, rfl⟩
    · exact .inr hdecided
  · left
    refine ⟨receipt?_of_other hread _, ?_⟩
    cases perform_spec h g m with
    | quiet _ _ _ _ _ reports =>
        obtain ⟨u, hu, state, canceled, rfl⟩ := reports p u' hu'.place
        exact ⟨u, ⟨reports.onPath hu'.onPath, hu, hu'.confirms⟩, rfl⟩
    | reads move => exact absurd move hread
    | answers advance =>
        rw [(Session.advance?_answered advance).same] at hu'
        exact ⟨u', ⟨hu'.onPath, hu'.place, hu'.confirms⟩, rfl⟩
    | enters _ _ entering =>
        have hbefore := entering.decisive hu'
        exact ⟨u', ⟨hbefore.onPath, hbefore.place, hbefore.confirms⟩, rfl⟩
    | chooses _ choosing =>
        have hbefore := choosing.decisive hu'
        exact ⟨u', ⟨hbefore.onPath, hbefore.place, hbefore.confirms⟩, rfl⟩

end Decisive

end Desk

namespace Session

/-- The result read last is the one that has decided on the confirmation. -/
theorem Recorded.decisive_read_last {s : Session} {log : List (Desk × Move)} (h : Recorded log s)
    {p : StepId} {u : Step} (hu : s.Decisive p u) :
    ∃ r target, (receipts log).getLast? = some r ∧
      r.result.ticket = ⟨p, u.generation, .probe target⟩ := by
  refine h.induct (P := fun log s => ∀ p u, s.Decisive p u → ∃ r target,
    (receipts log).getLast? = some r ∧ r.result.ticket = ⟨p, u.generation, .probe target⟩)
    ?_ ?_ p u hu
  · intro host resources policy options credentials p u hu
    obtain rfl := List.mem_singleton.mp (List.mem_of_getElem? hu.place)
    cases hu.confirms
  · intro log s g m hlog ih p u' hu'
    rw [receipts_snoc]
    rcases Desk.perform_decisive hlog.reachable.valid m hu' with
      ⟨hnone, u, hu, hgeneration⟩ | ⟨r, target, hreceipt, hticket⟩
    · obtain ⟨r, target, hlast, hticket⟩ := ih p u hu
      rw [hnone, ← hgeneration]
      exact ⟨r, target, by simpa using hlast, hticket⟩
    · rw [hreceipt]
      exact ⟨r, target, by simp, hticket⟩

/-- The step made last among those that have statuses to show. -/
def LastShown (steps : List Step) (u : Step) : Prop :=
  ∃ before after, steps = before ++ u :: after ∧ u.shownStatuses ≠ [] ∧
    ∀ v ∈ after, v.shownStatuses = []

theorem find?_shown_eq_some_iff {steps : List Step} {u : Step} :
    steps.reverse.find? (fun v => !v.shownStatuses.isEmpty) = some u ↔ LastShown steps u := by
  rw [List.find?_eq_some_iff_append]
  constructor
  · rintro ⟨hshown, later, earlier, hsteps, hnone⟩
    refine ⟨earlier.reverse, later.reverse, ?_, by simpa using hshown, ?_⟩
    · rw [← List.reverse_reverse steps, hsteps]
      simp
    · intro v hv
      simpa using hnone v (List.mem_reverse.mp hv)
  · rintro ⟨before, after, rfl, hshown, hnone⟩
    refine ⟨by simpa using hshown, after.reverse, before.reverse, by simp, ?_⟩
    intro v hv
    simpa using hnone v (List.mem_reverse.mp hv)

theorem head?_probes (s : Session) : s.report.probes.head? =
    (s.steps.reverse.find? fun v => !v.shownStatuses.isEmpty).map .ofStep := by
  rw [SessionReport.probes, report, ← List.map_reverse, List.head?_filter, List.find?_map]
  congr 2
  funext u
  have hkind : (StepSummary.ofStep u).kind = u.kind := rfl
  have hstatuses : (StepSummary.ofStep u).components = u.statuses := rfl
  rw [Function.comp_apply, hkind, hstatuses, Step.shownStatuses]
  cases u.kind <;> rfl

theorem policyLines_eq_nil_iff {s : Session} {before after : List Step} {u : Step}
    (hsteps : s.steps = before ++ u :: after) (hu : u.Affirms) :
    s.report.policyLines = [] ↔ ∀ v, LastShown after v → v.policyFailure = none := by
  have hself : (u :: before.reverse).find? (fun v => !v.shownStatuses.isEmpty) = some u := by
    simp [hu.shown]
  have hhead : s.report.probes.head? =
      some (.ofStep ((after.reverse.find? fun v => !v.shownStatuses.isEmpty).getD u)) := by
    rw [head?_probes, hsteps, List.reverse_append, List.reverse_cons, List.append_assoc,
      List.find?_append, List.singleton_append, hself]
    cases after.reverse.find? fun v => !v.shownStatuses.isEmpty <;> rfl
  have hlines : s.report.policyLines = [] ↔
      ((after.reverse.find? fun v => !v.shownStatuses.isEmpty).getD u).policyFailure = none := by
    rw [SessionReport.policyLines]
    cases hprobes : s.report.probes with
    | nil =>
        rw [hprobes] at hhead
        cases hhead
    | cons latest rest =>
        rw [hprobes, List.head?_cons, Option.some.injEq] at hhead
        rw [hhead]
        simp [StepSummary.ofStep]
  rw [hlines]
  cases hfound : after.reverse.find? fun v => !v.shownStatuses.isEmpty with
  | none =>
      refine iff_of_true hu.passed fun v hv => ?_
      rw [← find?_shown_eq_some_iff, hfound] at hv
      cases hv
  | some w =>
      have hw := find?_shown_eq_some_iff.mp hfound
      refine ⟨fun hpassed v hv => ?_, fun hall => hall w hw⟩
      rw [← find?_shown_eq_some_iff, hfound, Option.some.injEq] at hv
      rw [← hv]
      exact hpassed

/-- When a session has succeeded, the result read last is that of the probe that leads to the
confirmation, and that probe has missed nothing. The summary tells of no policy failure if, and only
if, the probe made last among those behind it has missed nothing either. -/
theorem succeeded_after_passed_probe {s : Session} (h : s.Reachable)
    (hs : s.report.outcome = .succeeded) :
    (∃ log, Recorded log s) ∧
    ∃ before u after, s.steps = before ++ u :: after ∧ u.Affirms ∧ u.next = some s.current ∧
      (∀ log, Recorded log s → ∃ r target, (receipts log).getLast? = some r ∧
        r.result.ticket = ⟨before.length, u.generation, .probe target⟩) ∧
      (s.report.policyLines = [] ↔ ∀ v, LastShown after v → v.policyFailure = none) := by
  refine ⟨h.recorded, ?_⟩
  have hplaced := h.valid.placed
  have hfinished := finished_of_succeeded hs
  obtain ⟨step, hstep⟩ := hplaced.current
  have hkind := (hplaced.finished hfinished).2 step hstep
  obtain ⟨p, hp⟩ := Option.ne_none_iff_exists'.mp ((h.affirmed hstep).follows hkind)
  obtain ⟨hpath, u, hu, hnext⟩ := hplaced.onPath.previous hplaced.arena hstep hp
  obtain ⟨-, t, ht, -, hdecided⟩ := (hplaced.arena.linked hu).follows _ hnext
  have hconfirms : u.nextKind = some .confirm := by
    rw [hstep, Option.some.injEq] at ht
    rw [hdecided, ← ht, hkind]
  have haffirms := (h.affirmed hu).affirms hconfirms
  obtain ⟨hlt, hget⟩ := List.getElem?_eq_some_iff.mp hu
  have hsteps : s.steps = s.steps.take p ++ u :: s.steps.drop (p + 1) := by
    rw [← hget, List.getElem_cons_drop, List.take_append_drop]
  have hlength : (s.steps.take p).length = p := List.length_take_of_le (Nat.le_of_lt hlt)
  refine ⟨_, u, _, hsteps, haffirms, hnext, ?_, policyLines_eq_nil_iff hsteps haffirms⟩
  intro log hlog
  rw [hlength]
  exact hlog.decisive_read_last ⟨hpath, hu, hconfirms⟩

theorem succeeded_after_passed_probe_sample :
    (samplePlayed 7).report.outcome = .succeeded ∧ (samplePlayed 7).report.policyLines = [] ∧
      ∃ u ∈ (samplePlayed 7).steps, u.Affirms ∧ u.next = some 1 := by
  have houtcome : (samplePlayed 7).report.outcome = .succeeded := by decide +kernel
  have hcurrent : (samplePlayed 7).current = 1 := by decide +kernel
  have hpassed : ∀ v ∈ (samplePlayed 7).steps, v.policyFailure = none := by decide +kernel
  obtain ⟨-, before, u, after, hsteps, haffirms, hnext, -, hlines⟩ :=
    succeeded_after_passed_probe (samplePlayed_reachable 7) houtcome
  have hmem : ∀ v ∈ u :: after, v ∈ (samplePlayed 7).steps := by
    intro v hv
    rw [hsteps]
    exact List.mem_append_right before hv
  rw [hcurrent] at hnext
  refine ⟨houtcome, hlines.mpr ?_, u, hmem u List.mem_cons_self, haffirms, hnext⟩
  rintro v ⟨between, rest, rfl, -, -⟩
  exact hpassed v (hmem v (by simp))

/-- The summary of a session that has succeeded can tell what an earlier probe had missed. -/
theorem policy_failure_outlives_success :
    Reachable revisited ∧ revisited.report.outcome = .succeeded ∧
      revisited.report.policyLines = ["  not installed: Pcmk/Heartbeat or Pcmk/Corosync"] ∧
      ¬ ∀ s : Session, s.Reachable → s.report.outcome = .succeeded →
        s.report.policyLines = [] := by
  have houtcome : revisited.report.outcome = .succeeded := by decide +kernel
  have hlines : revisited.report.policyLines =
      ["  not installed: Pcmk/Heartbeat or Pcmk/Corosync"] := by decide +kernel
  refine ⟨revisited_reachable, houtcome, hlines, ?_⟩
  intro hclaim
  rw [hclaim revisited revisited_reachable houtcome] at hlines
  cases hlines

end Session

end ClusterSetup

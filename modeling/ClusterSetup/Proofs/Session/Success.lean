import ClusterSetup.Proofs.Session.Histories
import ClusterSetup.Session.Report

/-!
A session finishes only with success. The flags are looked at when a probe leads on to the
confirmation and not when that is entered, so what counts is that as long as the confirmation can
be reached the flags do not change: a result can only come for a current step that leads nowhere.
-/

namespace ClusterSetup

open Relation (ReflTransGen)

namespace Session

/-- The path leads to a confirmation. -/
def LeadsToConfirm (steps : List Step) : Prop :=
  ∃ i u, OnPath steps i ∧ steps[i]? = some u ∧ u.kind = .confirm

/-- As long as the current step waits for a result the path leads to no confirmation. -/
theorem Placed.not_leadsToConfirm {s : Session} (h : s.Placed) {step : Step}
    (hstep : s.steps[s.current]? = some step) {key : ActionKey} (hpending : key ∈ step.pending) :
    ¬ LeadsToConfirm s.steps := by
  rintro ⟨i, u, hpath, hu, hkind⟩
  have hsound := h.arena.sound hstep
  have hopen := hsound.not_completed (List.ne_nil_of_mem hpending)
  have hunlinked := h.arena.next_eq_none hstep hopen
  -- Nothing lies behind a step without a link, and the confirmation never has one.
  have hlast : ∀ {j n : StepId} {v : Step}, s.steps[j]? = some v → v.next = none →
      ¬ LeadsTo s.steps j n := by
    rintro j n v hv hnext ⟨w, hw, hn⟩
    rw [hv, Option.some.injEq] at hw
    subst hw
    rw [hnext] at hn
    cases hn
  have huNext : u.next = none := by
    rcases Option.eq_none_or_eq_some u.next with hnone | ⟨n, hn⟩
    · exact hnone
    · obtain ⟨-, t, -, -, hdecided⟩ := (h.arena.linked hu).follows n hn
      rw [(h.arena.sound hu).last hkind] at hdecided
      cases hdecided
  have hsame : i = s.current := by
    rcases hpath.total h.onPath with hreach | hreach
    · rcases hreach.cases_head with heq | ⟨n, hlead, -⟩
      · exact heq
      · exact absurd hlead (hlast hu huNext)
    · rcases hreach.cases_head with heq | ⟨n, hlead, -⟩
      · exact heq.symm
      · exact absurd hlead (hlast hstep hunlinked)
  subst hsame
  rw [hstep, Option.some.injEq] at hu
  subst hu
  have hkeys := hsound.pending_sublist.subset hpending
  rw [hkind] at hkeys
  cases hkeys

theorem LeadsToConfirm.of_set {steps : List Step} {i : StepId} {step t : Step}
    (h : LeadsToConfirm (steps.set i t)) (hstep : steps[i]? = some step)
    (hkind : t.kind = step.kind) (hnext : ∀ n, t.next = some n → step.next = some n) :
    LeadsToConfirm steps := by
  obtain ⟨j, u, hpath, hu, hconfirm⟩ := h
  have hbefore := hpath.of_set hstep hnext
  rcases getElem?_set_cases hu with ⟨rfl, rfl⟩ | ⟨-, hu⟩
  · exact ⟨j, step, hbefore, hstep, hkind.symm.trans hconfirm⟩
  · exact ⟨j, u, hbefore, hu, hconfirm⟩

theorem LeadsToConfirm.of_unlinked {steps : List Step} {i : StepId} {step t : Step}
    (h : LeadsToConfirm (steps.set i t)) (hstep : steps[i]? = some step)
    (hkind : t.kind = step.kind) (hnext : t.next = none) : LeadsToConfirm steps := by
  refine h.of_set hstep hkind ?_
  intro n hn
  rw [hnext] at hn
  cases hn

/-- A step that is completed leads to a confirmation only if it has decided on one, or if the
confirmation was on the path already. -/
theorem LeadsToConfirm.of_attach {steps : List Step} {i : StepId} {step t : Step}
    (h : LeadsToConfirm (attach steps i t)) (hstep : steps[i]? = some step)
    (hkind : t.kind = step.kind) (hnext : t.next = none) :
    LeadsToConfirm steps ∨ t.nextKind = some .confirm := by
  obtain ⟨j, u, hpath, hu, hconfirm⟩ := h
  have hid : i < steps.length := (List.getElem?_eq_some_iff.mp hstep).1
  rcases getElem?_attach_cases hu with ⟨rfl, next, rfl⟩ | ⟨-, hu⟩ | ⟨-, kind, hdecided, rfl⟩
  · rcases hpath.of_attach hstep hnext with hbefore | ⟨heq, -⟩
    · exact .inl ⟨j, step, hbefore, hstep, hkind.symm.trans hconfirm⟩
    · exact absurd hid (Nat.not_lt_of_le (Nat.le_of_eq heq.symm))
  · rcases hpath.of_attach hstep hnext with hbefore | ⟨heq, -⟩
    · exact .inl ⟨j, u, hbefore, hu, hconfirm⟩
    · have hlt : j < steps.length := (List.getElem?_eq_some_iff.mp hu).1
      exact absurd hlt (Nat.not_lt_of_le (Nat.le_of_eq heq.symm))
  · right
    rw [hdecided]
    exact congrArg some hconfirm

/-- As long as the confirmation is within reach the flags tell of success, and nothing else was
told of the end of the session. -/
structure Confirmed (s : Session) : Prop where
  success : s.canceled = false → LeadsToConfirm s.steps → s.flags.success = true
  told : .finished false ∉ s.events

theorem completionEvents_ne_finished (id : StepId) (step : Step) :
    .finished false ∉ completionEvents id step := by
  rw [completionEvents, closingEvents, List.mem_append, not_or]
  constructor
  · split <;> simp [logLines]
  · split
    · simp [logLines]
    · split <;> simp

theorem Confirmed.of_steps {s s' : Session} (h : s.Confirmed) (hlive : s.canceled = false)
    (hflags : s'.flags = s.flags) (hevents : .finished false ∉ s'.events)
    (hsteps : LeadsToConfirm s'.steps → LeadsToConfirm s.steps) : s'.Confirmed where
  success _ hconfirm := by
    rw [hflags]
    exact h.success hlive (hsteps hconfirm)
  told := hevents

theorem Confirmed.keeps {d d' : Desk} (hvalid : d.session.Valid) (h : d.session.Confirmed)
    (hchange : Desk.Change d d') : d'.session.Confirmed := by
  have hstays : ∀ {events : List Event}, .finished false ∉ events →
      .finished false ∉ d.session.events ++ events := by
    intro events hnot
    rw [List.mem_append, not_or]
    exact ⟨h.told, hnot⟩
  cases hchange with
  | credentials _ => exact ⟨h.success, h.told⟩
  | attempt _ _ => exact ⟨h.success, h.told⟩
  | join _ _ _ => exact ⟨h.success, h.told⟩
  | cancel active =>
      obtain ⟨cluster, membership, heq⟩ := Desk.cancel_eq active
      rw [heq]
      refine ⟨fun hlive => (nomatch hlive), hstays ?_⟩
      simp
  | start active current live idle entry =>
      refine h.of_steps active.live rfl (hstays (by simp)) fun hconfirm => ?_
      exact hconfirm.of_unlinked current rfl rfl
  | ask active current live idle kind_eq lacks =>
      refine h.of_steps active.live rfl (hstays (by simp)) fun hconfirm => ?_
      exact hconfirm.of_unlinked current rfl rfl
  | @fail s g step c n active current live idle kind_eq lacks none =>
      refine h.of_steps active.live rfl ?_ fun hconfirm => ?_
      · rw [List.append_assoc]
        refine hstays ?_
        simp [completionEvents_ne_finished]
      · exact hconfirm.of_unlinked current rfl rfl
  | @finish s g step active current live idle kind_eq =>
      have hconfirm : LeadsToConfirm s.steps :=
        ⟨s.current, step, hvalid.placed.onPath, current, kind_eq⟩
      refine h.of_steps active.live rfl ?_ fun _ => hconfirm
      simp only [List.append_assoc]
      refine hstays ?_
      simp [h.success active.live hconfirm]
  | @choose s g step c method active current live offers listed =>
      refine h.of_steps active.live rfl h.told fun hconfirm => ?_
      rcases hconfirm.of_attach (t := step.chosen c method) current rfl rfl with hbefore | hkind
      · exact hbefore
      · cases hkind
  | @go s g step n active current completed next =>
      have hlinks := Step.proceed_sameLinks step
      refine h.of_steps active.live rfl h.told fun hconfirm => ?_
      refine hconfirm.of_set current hlinks.kind_eq fun n hn => ?_
      rw [← hlinks.next_eq, hn]
  | back active _ _ _ => exact h.of_steps active.live rfl h.told id
  | answer advance =>
      have hsame := (advance?_answered advance).same
      rw [hsame]
      exact ⟨h.success, h.told⟩
  | discard canceled arrived =>
      refine ⟨fun hlive => ?_, h.told⟩
      rw [canceled] at hlive
      cases hlive
  | @absorb s g result rest step step' f active arrived current ticket pending applied =>
      obtain ⟨hreads, -⟩ := hvalid.placed.reads current pending applied
      have hnever := hvalid.placed.not_leadsToConfirm current pending
      refine ⟨fun _ hconfirm => ?_, h.told⟩
      exact absurd (hconfirm.of_unlinked current hreads.same.kind_eq hreads.next_eq) hnever
  | @complete s g result rest step step' f active arrived current ticket pending applied =>
      obtain ⟨hreads, hcompleted⟩ := hvalid.placed.reads current pending applied
      have hnever := hvalid.placed.not_leadsToConfirm current pending
      refine ⟨fun _ hconfirm => ?_, hstays (completionEvents_ne_finished _ _)⟩
      rcases hconfirm.of_attach current hreads.same.kind_eq hreads.next_eq with hbefore | hkind
      · exact absurd hbefore hnever
      · exact hreads.success hcompleted hkind

theorem new_confirmed (host : Host) (resources : Resources) (policy : Policy)
    (options : SessionOptions) (credentials : Option VendorCredentials) :
    (new host resources policy options credentials).Confirmed where
  success _ hconfirm := by
    obtain ⟨i, u, -, hu, hkind⟩ := hconfirm
    have hfirst := List.mem_singleton.mp (List.mem_of_getElem? hu)
    rw [hfirst] at hkind
    simp only [Step.new, firstKind] at hkind
    split at hkind <;> cases hkind
  told h := nomatch h

theorem Reachable.confirmed {s : Session} (h : Reachable s) : s.Confirmed := by
  obtain ⟨host, resources, policy, options, credentials, hlater⟩ := h
  exact (hlater.induct Confirmed.keeps (new_valid host resources policy options credentials)
    (new_confirmed host resources policy options credentials)).1

theorem Later.finished {s t : Session} (h : Later s t) (hs : s.Valid)
    (hfinished : s.finished = true) : t.finished = true := by
  refine (h.induct (P := fun u => u.finished = true) ?_ hs hfinished).1
  intro d d' hvalid hd hchange
  have hlive := (hvalid.placed.finished hd).1
  cases hchange with
  | credentials _ => exact hd
  | answer advance =>
      have hsame := (advance?_answered advance).same
      rw [hsame]
      exact hd
  | finish active current live idle kind_eq => rfl
  | discard canceled arrived => exact hd
  | cancel active =>
      rw [active.open_] at hd
      cases hd
  | _ => exact hd

theorem Reachable.success_of_finished {s : Session} (h : Reachable s)
    (hfinished : s.finished = true) : s.canceled = false ∧ s.flags.success = true := by
  have hplaced := h.valid.placed
  obtain ⟨hlive, hkind⟩ := hplaced.finished hfinished
  obtain ⟨step, hstep⟩ := hplaced.current
  have hconfirm : LeadsToConfirm s.steps :=
    ⟨s.current, step, hplaced.onPath, hstep, hkind step hstep⟩
  exact ⟨hlive, h.confirmed.success hlive hconfirm⟩

theorem finished_of_succeeded {s : Session} (h : s.report.outcome = .succeeded) :
    s.finished = true := by
  simp only [report, outcome, isSuccess] at h
  by_contra hopen
  rw [Bool.not_eq_true] at hopen
  cases hcanceled : s.canceled <;> simp [hcanceled, hopen] at h

/-- A session that is finished has succeeded, is not canceled, and stays so; no other end is ever
told, and its report says so of finished sessions and of no others. -/
theorem finished_iff_succeeded {s : Session} (h : Reachable s) :
    (s.finished = true → ∀ t, Later s t → t.finished = true ∧ t.canceled = false ∧
      t.flags.success = true ∧ t.flags.drbd = true ∧
      (t.flags.heartbeat = true ∨ t.flags.corosync = true)) ∧
    .finished false ∉ s.events ∧
    (s.report.outcome = .succeeded ↔ s.finished = true) := by
  refine ⟨fun hfinished t hlater => ?_, h.confirmed.told, finished_of_succeeded,
    fun hfinished => ?_⟩
  · have hfinished' := hlater.finished h.valid hfinished
    obtain ⟨hlive, hsuccess⟩ := (h.later hlater).success_of_finished hfinished'
    refine ⟨hfinished', hlive, hsuccess, ?_⟩
    simpa [Flags.success, Flags.clusterOk] using hsuccess
  · obtain ⟨hlive, hsuccess⟩ := h.success_of_finished hfinished
    simp [report, outcome, isSuccess, hlive, hfinished, hsuccess]

theorem finished_iff_succeeded_sample :
    (samplePlayed 7).finished = true ∧ (samplePlayed 7).flags.success = true ∧
      (samplePlayed 7).report.outcome = .succeeded := by
  obtain ⟨hstays, -, houtcome⟩ := finished_iff_succeeded (samplePlayed_reachable 7)
  have hfinished : (samplePlayed 7).finished = true := by decide +kernel
  obtain ⟨-, -, hsuccess, -⟩ := hstays hfinished (samplePlayed 7) .refl
  exact ⟨hfinished, hsuccess, houtcome.mpr hfinished⟩

end Session

end ClusterSetup

import ClusterSetup.Proofs.Session.Evidence
import ClusterSetup.Proofs.Session.Occasions
import ClusterSetup.Proofs.Session.Termination

namespace ClusterSetup

theorem Move.Requests.not_runs {m : Move} (h : m.Requests) : ¬ m.Runs := by
  rintro (_ | ⟨⟨⟩⟩) <;> cases h

/-- An install that has succeeded. -/
structure Step.Installed (u : Step) : Prop where
  installs : ∃ c n, u.kind = .install c n
  completed : u.completed = true
  state : u.state = .installOk ∨ u.state = .proceeding

theorem Step.Entry.sends {ctx : EnterContext} {g : Guards} {s : Step} {entered : Entered}
    (h : s.Entry ctx g entered) {c : Component} {n : Nat} (hkind : s.kind = .install c n)
    (hstarted : entered.result = .ok .started) :
    entered.step.generation = s.generation + 1 ∧ ∃ a call, entered.started = [a] ∧
      a.step = s.id ∧ a.work.call? = some call ∧ call.Installs c n := by
  cases h with
  | started runs commanded took =>
      obtain ⟨command, hcommand⟩ := Option.isSome_iff_exists.mp (commanded c n hkind).2
      refine ⟨rfl, s.reset.actionFor ctx (.install c),
        .execute ctx.host.target command ctx.timeouts.install, ?_, rfl, ?_, ?_⟩
      · rw [hkind]
        rfl
      · have hkind' : s.reset.kind = .install c n := hkind
        simp only [actionFor, workOf, hkind', hcommand]
        rfl
      · exact ⟨_, command, _, rfl, key_of_installCommand hcommand⟩
  | awaiting _ _ => cases hstarted
  | failed _ _ _ => cases hstarted
  | finished _ => cases hstarted

namespace Desk

def Requests (d : Desk) (m : Move) (i : StepId) : Prop := m.Requests ∧ d.session.current = i

/-- A move sends the command of an install for a step: it makes the call, and an action of the step
runs that waits for the answer. -/
def SendsInstall (d : Desk) (m : Move) (i : StepId) : Prop :=
  ∃ made call c n, (m.perform d).session.calls = d.session.calls ++ made ∧ call ∈ made ∧
    call.Installs c n ∧
    ∃ a ∈ (m.perform d).session.running, a.step = i ∧ a.work.call? = some call

section Moves

variable {s : Session} {g : Guards} {m : Move} {i : StepId} {u : Step}

theorem current_of_sendsInstall (h : s.Reachable) (hsends : SendsInstall ⟨s, g⟩ m i) :
    (m.perform ⟨s, g⟩).session.current = i := by
  obtain ⟨made, call, c, n, hmade, hcall, hinstalls, a, ha, rfl, -⟩ := hsends
  obtain ⟨made', hmade', hsent⟩ := perform_calls h g m
  obtain rfl := List.append_cancel_left (hmade.symm.trans hmade')
  have hlive := (hsent call hcall c n hinstalls).2.live
  have hreachable := h.later (.single (.of_desk (.move m ⟨s, g⟩)))
  obtain ⟨step, hstep⟩ := hreachable.valid.placed.current
  have hmem : a.ticket ∈ (m.perform ⟨s, g⟩).session.outstanding := by
    rw [Session.outstanding, Session.charges, List.map_append, List.map_map]
    exact List.mem_append_left _ (List.mem_map_of_mem ha)
  have hticket := (hreachable.valid.expects_outstanding hlive hmem hstep).1
  exact (congrArg Ticket.step hticket).symm

theorem Entering.spares {step : Step} {entered : Entered} {d : Desk}
    (h : Entering s g step entered d) (hu : s.steps[i]? = some u) (hother : s.current ≠ i) :
    d.session.steps[i]? = some u ∧ d.session.current ≠ i := by
  rw [h.session_eq]
  exact ⟨(List.getElem?_set_ne hother).trans hu, hother⟩

theorem Choosing.spares {step : Step} {c : Component} {n : Nat} {d : Desk}
    (h : Choosing s g step c n d) (hu : s.steps[i]? = some u) :
    (∃ u', d.session.steps[i]? = some u' ∧ u.SameRun u') ∧ d.session.current ≠ i := by
  obtain ⟨entered, entering⟩ := h.entering
  have hi : i < s.steps.length := (List.getElem?_eq_some_iff.mp hu).1
  refine ⟨h.kept hu, ?_⟩
  rw [entering.session_eq]
  exact Nat.ne_of_gt hi

/-- What a move leaves of a step that was entered and does not wait for credentials: without a
request it is not entered once more, and what is sent while the session stands at it is no command
of an install. -/
theorem Occasion.spares {d : Desk} (h : Occasion s g m d) (hu : s.steps[i]? = some u)
    (hentered : u.entered = true) (hwaits : ¬ u.AwaitsCredentials)
    (hunasked : ¬ Requests ⟨s, g⟩ m i) :
    (∃ u', d.session.steps[i]? = some u' ∧ u.SameRun u') ∧
      (d.session.current = i → ∃ made, d.session.calls = s.calls ++ made ∧
        ∀ call ∈ made, call.Connects) := by
  cases h with
  | nothing runs _ _ silent => exact ⟨runs.kept hu, fun _ => silent⟩
  | requested asked entering =>
      have hother : s.current ≠ i := fun hi => hunasked ⟨asked, hi⟩
      obtain ⟨hkept, hcurrent⟩ := entering.spares hu hother
      exact ⟨⟨u, hkept, .refl u⟩, fun hi => absurd hi hcurrent⟩
  | @funded credentials step _ _ awaits entering =>
      have hother : s.current ≠ i := by
        rintro rfl
        have hstep : s.steps[s.current]? = some step := entering.current
        rw [hu, Option.some.injEq] at hstep
        exact hwaits (hstep ▸ awaits)
      obtain ⟨hkept, hcurrent⟩ :=
        entering.spares (s := { s with credentials := some credentials }) hu hother
      exact ⟨⟨u, hkept, .refl u⟩, fun hi => absurd hi hcurrent⟩
  | reached fresh entering =>
      have hother : s.current ≠ i := by
        rintro rfl
        rw [entering.current, Option.some.injEq] at hu
        rw [← hu, fresh] at hentered
        cases hentered
      obtain ⟨hkept, hcurrent⟩ := entering.spares hu hother
      exact ⟨⟨u, hkept, .refl u⟩, fun hi => absurd hi hcurrent⟩
  | @chosen _ attempts _ _ _ _ _ choosing =>
      obtain ⟨hkept, hcurrent⟩ := choosing.spares (s := { s with attempts := attempts }) hu
      exact ⟨hkept, fun hi => absurd hi hcurrent⟩

theorem perform_spares (h : s.Reachable) (hu : s.steps[i]? = some u) (hentered : u.entered = true)
    (hwaits : ¬ u.AwaitsCredentials) (hunasked : ¬ Requests ⟨s, g⟩ m i) :
    (∃ u', (m.perform ⟨s, g⟩).session.steps[i]? = some u' ∧ u.SameRun u') ∧
      ¬ SendsInstall ⟨s, g⟩ m i := by
  obtain ⟨hkept, hsilent⟩ := (perform_occasion h g m).spares hu hentered hwaits hunasked
  refine ⟨hkept, fun hsends => ?_⟩
  obtain ⟨made', hmade', hconnects⟩ := hsilent (current_of_sendsInstall h hsends)
  obtain ⟨made, call, c, n, hmade, hcall, hinstalls, -⟩ := hsends
  obtain rfl := List.append_cancel_left (hmade.symm.trans hmade')
  exact (hconnects call hcall).not_installs c n hinstalls

end Moves

theorem retry_of_completed {s : Session} (h : s.Valid) (hactive : s.Active) {step : Step}
    (hstep : s.steps[s.current]? = some step) (hcompleted : step.completed = true)
    (hkind : step.kind ≠ .confirm) (g : Guards) : retry ⟨s, g⟩ = enter ⟨s, g⟩ := by
  have hidle : step.pending = [] := (h.placed.arena.sound hstep).idle hcompleted
  have hlive : step.canceled = false := (h.awaited hactive.live).waits.live hstep
  rw [retry, whenActive_of_active _ hactive]
  simp [Session.currentStep_eq hstep, Step.hasPending, Step.canRetry, hidle, hlive, hcompleted,
    hkind]

theorem sendsInstall_of_started {s : Session} (h : s.Valid) (hactive : s.Active) {step : Step}
    (hstep : s.steps[s.current]? = some step) {c : Component} {n : Nat}
    (hkind : step.kind = .install c n) {g : Guards} {m : Move} {d : Desk}
    (henter : enter ⟨s, g⟩ = (.ok .started, d)) (hm : m.perform ⟨s, g⟩ = (enter ⟨s, g⟩).2) :
    SendsInstall ⟨s, g⟩ m s.current ∧
      ∃ u', d.session.steps[s.current]? = some u' ∧ u'.generation = step.generation + 1 := by
  have hcurrent := (List.getElem?_eq_some_iff.mp hstep).1
  rw [henter] at hm
  rw [enter, whenActive_of_active _ hactive] at henter
  rcases enterCurrent_spec g hactive hstep with
    ⟨e, -, heq⟩ | ⟨outcome, entered, d', heq, hresult, hentering⟩
  · rw [heq] at henter
    cases henter
  · rw [heq] at henter
    cases henter
    obtain ⟨hgeneration, a, call, hstarted, hid, hcall, hinstalls⟩ :=
      hentering.entry.sends hkind hresult
    refine ⟨⟨entered.firstCalls, call, c, n, ?_, ?_, hinstalls, a, ?_, ?_, hcall⟩,
      entered.step, ?_, hgeneration⟩
    · rw [hm, hentering.session_eq]
    · rw [Entered.firstCalls, hstarted]
      simp [hcall]
    · rw [hm, hentering.session_eq, hstarted]
      exact List.mem_append_right _ (List.mem_singleton_self a)
    · rw [hid]
      exact h.placed.arena.id_eq hstep
    · rw [hentering.session_eq]
      exact List.getElem?_set_self hcurrent

end Desk

namespace Session

theorem Logged.spares {s t : Session} (hs : s.Reachable) {more : List (Desk × Move)}
    (h : Logged s more t) {i : StepId} {u : Step} (hu : s.steps[i]? = some u)
    (hentered : u.entered = true) (hwaits : ¬ u.AwaitsCredentials)
    (hunasked : ∀ entry ∈ more, ¬ entry.1.Requests entry.2 i) :
    (∃ u', t.steps[i]? = some u' ∧ u.SameRun u') ∧
      ∀ entry ∈ more, ¬ entry.1.SendsInstall entry.2 i := by
  induction h with
  | nil => exact ⟨⟨u, hu, .refl u⟩, fun _ hentry => (nomatch hentry)⟩
  | @snoc log t before g m ih =>
      obtain ⟨⟨v, hv, hsame⟩, hsilent⟩ :=
        ih fun entry hentry => hunasked entry (List.mem_append_left _ hentry)
      have hlast := hunasked _ (List.mem_append_right _ (List.mem_singleton_self _))
      obtain ⟨⟨w, hw, hsame'⟩, hsends⟩ := Desk.perform_spares (hs.later before.later) hv
        (hsame.entered_eq.trans hentered) (fun hawaits => hwaits (hsame.awaits hawaits)) hlast
      refine ⟨⟨w, hw, hsame.trans hsame'⟩, fun entry hentry => ?_⟩
      rcases List.mem_append.mp hentry with hold | hnew
      · exact hsilent entry hold
      · rw [List.mem_singleton.mp hnew]
        exact hsends

theorem Reachable.entered_of_installed {s : Session} (h : s.Reachable) {i : StepId} {u : Step}
    (hu : s.steps[i]? = some u) (hinstalled : u.Installed) :
    u.entered = true ∧ ¬ u.AwaitsCredentials := by
  obtain ⟨c, n, hkind⟩ := hinstalled.installs
  refine ⟨h.installs_entered i u hu c n hkind, fun hawaits => ?_⟩
  have hopen := hawaits.open_
  rw [hinstalled.completed] at hopen
  cases hopen

/-- Whatever is done with a session, a step that was entered and does not wait for credentials is
not entered once more unless the caller asks for it while the session stands at it, and no command
of an install is sent for it. A run never asks. But a request is granted also for an install that
has succeeded: trying it again is entering it, and if that starts it, its command is sent again. -/
theorem steps_run_again_only_on_request {s : Session} (h : s.Reachable) {i : StepId} {u : Step}
    (hu : s.steps[i]? = some u) :
    (u.entered = true → ¬ u.AwaitsCredentials →
      (∀ more t, Logged s more t → (∀ entry ∈ more, ¬ entry.1.Requests entry.2 i) →
        (∃ u', t.steps[i]? = some u' ∧ u'.generation = u.generation) ∧
          ∀ entry ∈ more, ¬ entry.1.SendsInstall entry.2 i) ∧
      ∀ (σ : Type) (remote : Remote σ) (memory : σ) g, ∃ more,
        Logged s more (Desk.run remote memory ⟨s, g⟩).2.2.2.session ∧
          ∀ entry ∈ more, entry.2.Runs ∧ ¬ entry.1.SendsInstall entry.2 i) ∧
    (u.Installed → u.entered = true ∧ ¬ u.AwaitsCredentials) ∧
    (u.Installed → s.Active → s.current = i → ∀ g,
      Desk.retry ⟨s, g⟩ = Desk.enter ⟨s, g⟩ ∧
        ∀ d, Desk.retry ⟨s, g⟩ = (.ok .started, d) →
          Desk.SendsInstall ⟨s, g⟩ .enter i ∧ Desk.SendsInstall ⟨s, g⟩ .retry i ∧
            ∃ u', d.session.steps[i]? = some u' ∧ u'.generation = u.generation + 1) := by
  refine ⟨fun hentered hwaits => ⟨?_, ?_⟩, h.entered_of_installed hu, ?_⟩
  · intro more t hlog hunasked
    obtain ⟨⟨u', hu', hsame⟩, hsilent⟩ := hlog.spares h hu hentered hwaits hunasked
    exact ⟨⟨u', hu', hsame.generation_eq⟩, hsilent⟩
  · intro σ remote memory g
    have hruns := Desk.runFor_runs remote (Desk.turnLimit s) 0 memory ⟨s, g⟩
    obtain ⟨more, hkinds, hlog⟩ := (Logged.nil : Logged s [] s).append_moves hruns
    have hunasked : ∀ entry ∈ more, ¬ entry.1.Requests entry.2 i :=
      fun entry hentry hasks => hasks.1.not_runs (hkinds entry hentry)
    obtain ⟨-, hsilent⟩ := Logged.spares h hlog hu hentered hwaits hunasked
    exact ⟨more, hlog, fun entry hentry => ⟨hkinds entry hentry, hsilent entry hentry⟩⟩
  · rintro hinstalled hactive rfl g
    obtain ⟨c, n, hkind⟩ := hinstalled.installs
    have hretry := Desk.retry_of_completed h.valid hactive hu hinstalled.completed
      (by simp [hkind]) g
    refine ⟨hretry, fun d hstarted => ?_⟩
    rw [hretry] at hstarted
    obtain ⟨hsends, hagain⟩ :=
      Desk.sendsInstall_of_started h.valid hactive hu hkind hstarted (m := .enter) rfl
    obtain ⟨hsends', -⟩ := Desk.sendsInstall_of_started h.valid hactive hu hkind hstarted
      (m := .retry) (congrArg Prod.snd hretry)
    exact ⟨hsends, hsends', hagain⟩

def installedSample : Session := (Desk.performAll ⟨lackingSample, .empty⟩ installingMoves).session

theorem installedSample_reachable : installedSample.Reachable :=
  ⟨_, _, _, _, _, Later.of_moves ⟨lackingSample, .empty⟩ installingMoves⟩

theorem installedSample_installed :
    ∃ u, installedSample.steps[installedSample.current]? = some u ∧ u.Installed := by
  have hfields : installedSample.steps[installedSample.current]?.map
      (fun u => (u.kind, u.completed, u.state)) = some (.install .drbd 1, true, .installOk) := by
    decide +kernel
  obtain ⟨u, hu, heq⟩ := Option.map_eq_some_iff.mp hfields
  obtain ⟨hkind, hcompleted, hstate⟩ : u.kind = .install .drbd 1 ∧ u.completed = true ∧
      u.state = .installOk := by simpa using heq
  exact ⟨u, hu, ⟨.drbd, 1, hkind⟩, hcompleted, .inl hstate⟩

theorem installedSample_retried : installedSample.Active ∧
    Desk.retry ⟨installedSample, .empty⟩ =
      (.ok .started, (Desk.retry ⟨installedSample, .empty⟩).2) := by
  refine ⟨⟨by decide +kernel, by decide +kernel⟩, Prod.ext ?_ rfl⟩
  decide +kernel

theorem steps_run_again_only_on_request_sample :
    Desk.SendsInstall ⟨installedSample, .empty⟩ .retry installedSample.current ∧ ∃ more,
      Logged installedSample more
        (Desk.run (.always (.ok ⟨"8.4", 0⟩)) () ⟨installedSample, .empty⟩).2.2.2.session ∧
      ∀ entry ∈ more, ¬ entry.1.SendsInstall entry.2 installedSample.current := by
  obtain ⟨u, hu, hinstalled⟩ := installedSample_installed
  obtain ⟨hactive, hstarted⟩ := installedSample_retried
  obtain ⟨hspared, hran, hagain⟩ := steps_run_again_only_on_request installedSample_reachable hu
  obtain ⟨hentered, hwaits⟩ := hran hinstalled
  obtain ⟨-, hsends, -⟩ := (hagain hinstalled hactive rfl .empty).2 _ hstarted
  obtain ⟨more, hlog, hsilent⟩ :=
    (hspared hentered hwaits).2 Unit (.always (.ok ⟨"8.4", 0⟩)) () .empty
  exact ⟨hsends, more, hlog, fun entry hentry => (hsilent entry hentry).2⟩

/-- Trying a step again sends the command of an install that has succeeded. -/
theorem installed_step_sent_again :
    installedSample.Reachable ∧
      Desk.SendsInstall ⟨installedSample, .empty⟩ .retry installedSample.current ∧
      ¬ ∀ s : Session, s.Reachable → ∀ i u, s.steps[i]? = some u → u.Installed →
        ∀ g, ¬ Desk.SendsInstall ⟨s, g⟩ .retry i := by
  obtain ⟨u, hu, hinstalled⟩ := installedSample_installed
  obtain ⟨hactive, hstarted⟩ := installedSample_retried
  obtain ⟨c, n, hkind⟩ := hinstalled.installs
  have hvalid := installedSample_reachable.valid
  have hretry := Desk.retry_of_completed hvalid hactive hu hinstalled.completed
    (by simp [hkind]) .empty
  obtain ⟨hsends, -⟩ := Desk.sendsInstall_of_started hvalid hactive hu hkind
    (hretry.symm.trans hstarted) (m := .retry) (congrArg Prod.snd hretry)
  exact ⟨installedSample_reachable, hsends, fun hclaim =>
    hclaim _ installedSample_reachable _ u hu hinstalled .empty hsends⟩

end Session

end ClusterSetup

import ClusterSetup.Proofs.Session.Occasions
import ClusterSetup.Proofs.Session.Refusals

namespace ClusterSetup

/-- The session is at a step that was entered and does not wait for results. -/
structure Session.IdlesAt (s : Session) (step : Step) : Prop where
  active : s.Active
  current : s.steps[s.current]? = some step
  entered : step.entered = true
  idle : step.pending = []

namespace Desk

/-- What a run asks of the user at the current step, and why. -/
inductive Rests (s : Session) (step : Step) : RunStop → Prop
  | needsCredentials (awaits : step.AwaitsCredentials) :
      Rests s step (.needsCredentials s.current)
  /-- A step follows, but the session does not go on without being told. -/
  | linked {n : StepId} (completed : step.completed = true) (next : step.next = some n)
      (manual : s.policy.autoNext = false) : Rests s step (.awaitingUser s.current)
  /-- No step follows, and there is no install to start. -/
  | last (completed : step.completed = true) (next : step.next = none)
      (unplanned : ∀ c n, plannedInstall s ≠ some (c, some n)) :
      Rests s step (.awaitingUser s.current)

section Turn

variable {s : Session} {step : Step} {reason : RunStop}

theorem Rests.idlesAt (h : s.Reachable) (hactive : s.Active)
    (hstep : s.steps[s.current]? = some step) (hrests : Rests s step reason) :
    s.IdlesAt step := by
  have hcompleted : step.completed = true → s.IdlesAt step := fun hdone =>
    ⟨hactive, hstep, h.entered_of_completed hactive.live hstep hdone,
      (h.valid.placed.arena.sound hstep).idle hdone⟩
  cases hrests with
  | needsCredentials awaits => exact ⟨hactive, hstep, awaits.entered, awaits.idle⟩
  | linked completed _ _ => exact hcompleted completed
  | last completed _ _ => exact hcompleted completed

theorem turn_of_rests (h : s.Reachable) (hactive : s.Active)
    (hstep : s.steps[s.current]? = some step) (hrests : Rests s step reason) (g : Guards) :
    turn ⟨s, g⟩ = (.stop reason false, ⟨s, g⟩) := by
  obtain ⟨-, -, hentered, hidle⟩ := hrests.idlesAt h hactive hstep
  cases hrests with
  | needsCredentials awaits =>
      simp [turn, Session.currentStep_eq hstep, hactive.live, hactive.open_, hentered,
        Step.hasPending, hidle, awaits.open_]
  | linked completed next manual =>
      simp [turn, Session.currentStep_eq hstep, hactive.live, hactive.open_, hentered,
        Step.hasPending, hidle, completed, next, manual]
  | last completed next unplanned =>
      simp only [turn, Session.currentStep_eq hstep, hactive.live, hactive.open_, hentered,
        Step.hasPending, hidle, completed, next]
      rcases hplanned : plannedInstall s with _ | ⟨c, _ | n⟩
      · rfl
      · rfl
      · exact absurd hplanned (unplanned c n)

theorem turn_of_over (hover : ¬ s.Active) {g : Guards} :
    turn ⟨s, g⟩ = (.stop .canceled false, ⟨s, g⟩) ∨
      turn ⟨s, g⟩ = (.stop .finished false, ⟨s, g⟩) := by
  cases hcanceled : s.canceled with
  | true => exact .inl (by simp [turn, hcanceled])
  | false =>
      cases hfinished : s.finished with
      | true => exact .inr (by simp [turn, hcanceled, hfinished])
      | false => exact absurd ⟨hcanceled, hfinished⟩ hover

theorem turn_of_fresh (hactive : s.Active) (hstep : s.steps[s.current]? = some step)
    (hfresh : step.entered = false) (g : Guards) : (turn ⟨s, g⟩).2 = (enter ⟨s, g⟩).2 := by
  simp only [turn, Session.currentStep_eq hstep, hactive.live, hactive.open_, hfresh]
  rcases enter ⟨s, g⟩ with ⟨_ | _ | _ | _, d⟩ <;> rfl

theorem turn_of_pending (hactive : s.Active) (hstep : s.steps[s.current]? = some step)
    (hentered : step.entered = true) (hpending : step.pending ≠ []) (g : Guards) :
    turn ⟨s, g⟩ = (.wait, ⟨s, g⟩) := by
  simp [turn, Session.currentStep_eq hstep, hactive.live, hactive.open_, hentered,
    Step.hasPending, hpending]

theorem turn_of_planned (h : s.IdlesAt step) (hcompleted : step.completed = true)
    (hnext : step.next = none) {c : Component} {n : Nat}
    (hplanned : plannedInstall s = some (c, some n)) (g : Guards) :
    turn ⟨s, g⟩ = match chooseInstall c n ⟨s.counted c, g⟩ with
      | (.ok _, d) => (.goOn (s.policy.delay != .zero), d)
      | (.error e, d) => (.stop (.refused e) (s.policy.delay != .zero), d) := by
  rw [turn]
  simp only [Session.currentStep_eq h.current]
  rw [if_neg (by simp [h.active.live]), if_neg (by simp [h.active.open_]),
    if_neg (by simp [h.entered]), if_neg (by simp [Step.hasPending, h.idle]),
    if_neg (by simp [hcompleted]), if_neg (by simp [hnext]), hplanned]
  rfl

theorem turn_of_linked (h : s.IdlesAt step) (hcompleted : step.completed = true) {n : StepId}
    (hnext : step.next = some n) (hauto : s.policy.autoNext = true) (g : Guards) :
    turn ⟨s, g⟩ = (.goOn (s.policy.delay != .zero),
      ⟨{ s with steps := s.steps.set s.current step.proceed, current := n }, g⟩) := by
  simp [turn, Session.currentStep_eq h.current, h.active.live, h.active.open_, h.entered,
    Step.hasPending, h.idle, hcompleted, hnext, hauto,
    next_of_linked (g := g) h.active h.current hcompleted hnext]

theorem idle_cases (h : s.Reachable) (hidles : s.IdlesAt step) :
    (∃ reason, Rests s step reason) ∨
      step.completed = true ∧ ((∃ n, step.next = some n ∧ s.policy.autoNext = true) ∨
        step.next = none ∧ ∃ c n, plannedInstall s = some (c, some n)) := by
  cases hcompleted : step.completed with
  | false =>
      have hcoherent :=
        h.coherent hidles.active.live step (List.mem_of_getElem? hidles.current)
      exact .inl ⟨_, .needsCredentials (hcoherent.awaitsCredentials_iff.mpr
        ⟨hidles.entered, hidles.idle, hcompleted⟩)⟩
  | true =>
      rcases Option.eq_none_or_eq_some step.next with hnext | ⟨n, hnext⟩
      · rcases hplanned : plannedInstall s with _ | ⟨c, _ | n⟩
        · exact .inl ⟨_, .last hcompleted hnext (by simp [hplanned])⟩
        · exact .inl ⟨_, .last hcompleted hnext (by simp [hplanned])⟩
        · exact .inr ⟨rfl, .inr ⟨hnext, c, n, rfl⟩⟩
      · cases hauto : s.policy.autoNext with
        | false => exact .inl ⟨_, .linked hcompleted hnext hauto⟩
        | true => exact .inr ⟨rfl, .inl ⟨n, hnext, rfl⟩⟩

theorem not_asks_of_fresh (h : s.Reachable) {g : Guards} {entered : Entered} {d : Desk}
    (hfresh : step.entered = false) (hresult : entered.result = .ok .awaitingCredentials)
    (hentering : Entering s g step entered d) : False := by
  have hinstall : ∃ c n, step.kind = .install c n := by
    have hentry := hentering.entry
    cases hentry with
    | awaiting kind_eq _ => exact ⟨_, _, kind_eq⟩
    | started => cases hresult
    | failed => cases hresult
    | finished => cases hresult
  -- An install is entered as soon as its step is made.
  obtain ⟨c, n, hkind⟩ := hinstall
  have hentered := h.installs_entered s.current step hentering.current c n hkind
  rw [hfresh] at hentered
  cases hentered

theorem rests_of_turn (h : s.Reachable) (hstep : s.steps[s.current]? = some step) {g : Guards}
    {i : StepId} {paused : Bool} {d : Desk} (hturn : turn ⟨s, g⟩ = (.stop reason paused, d))
    (hasks : reason = .needsCredentials i ∨ reason = .awaitingUser i) :
    s.Active ∧ Rests s step reason ∧ d = ⟨s, g⟩ := by
  have hplain : ∀ e, reason ≠ .refused e := by
    rintro e rfl
    rcases hasks with hasks | hasks <;> cases hasks
  have hturned := turn_spec g hstep
  rw [hturn] at hturned
  cases hturned with
  | ended inactive _ =>
      rcases turn_of_over inactive with hover | hover
      · rw [hover] at hturn
        rcases hasks with rfl | rfl <;> cases hturn
      · rw [hover] at hturn
        rcases hasks with rfl | rfl <;> cases hturn
  | notEntered _ _ _ => exact absurd rfl (hplain _)
  | asks _ fresh result entering => exact (not_asks_of_fresh h fresh result entering).elim
  | notInstalled _ _ _ _ => exact absurd rfl (hplain _)
  | rests active entered idle _ =>
      have hidles : s.IdlesAt step := ⟨active, hstep, entered, idle⟩
      refine ⟨active, ?_, rfl⟩
      rcases idle_cases h hidles with
        ⟨_, hrests⟩ | ⟨hcompleted, ⟨n, hnext, hauto⟩ | ⟨hnext, c, n, hplanned⟩⟩
      · rw [turn_of_rests h active hstep hrests g] at hturn
        cases hturn
        exact hrests
      · rw [turn_of_linked hidles hcompleted hnext hauto] at hturn
        cases hturn
      · rw [turn_of_planned hidles hcompleted hnext hplanned] at hturn
        rcases hchosen : chooseInstall c n ⟨s.counted c, g⟩ with ⟨e | _, d'⟩
        · rw [hchosen] at hturn
          simp only [Prod.mk.injEq, Turn.stop.injEq] at hturn
          exact absurd hturn.1.1.symm (hplain e)
        · rw [hchosen] at hturn
          cases hturn

end Turn

section Run

variable {σ : Type} {s : Session} (h : s.Reachable)
include h

theorem rests_of_run (remote : Remote σ) (memory : σ) (g : Guards) {reason : RunStop} {i : StepId}
    (hasks : reason = .needsCredentials i ∨ reason = .awaitingUser i)
    (hrun : (run remote memory ⟨s, g⟩).1 = .stopped reason) :
    let t := (run remote memory ⟨s, g⟩).2.2.2.session
    Session.Later s t ∧ t.Active ∧ ∃ step, t.steps[t.current]? = some step ∧
      Rests t step reason := by
  intro t
  obtain ⟨⟨last, g'⟩, paused, hruns, hturn⟩ := last_turn_of_stopped remote hrun
  have hlater : Session.Later s last := MovesBy.later hruns
  have hlast := h.later hlater
  obtain ⟨step, hstep⟩ := hlast.valid.placed.current
  obtain ⟨hactive, hrests, hdesk⟩ := rests_of_turn hlast hstep hturn hasks
  have hsame : t = last := congrArg Desk.session hdesk
  rw [hsame]
  exact ⟨hlater, hactive, step, hstep, hrests⟩

theorem run_of_rests (hactive : s.Active) {step : Step} (hstep : s.steps[s.current]? = some step)
    {reason : RunStop} (hrests : Rests s step reason) (remote : Remote σ) (memory : σ)
    (g : Guards) : run remote memory ⟨s, g⟩ = (.stopped reason, 0, memory, ⟨s, g⟩) := by
  obtain ⟨fuel, hfuel⟩ : ∃ fuel, turnLimit s = fuel + 1 :=
    Nat.exists_eq_add_one_of_ne_zero (by simp [turnLimit])
  rw [run, hfuel, runFor_of_stop (turn_of_rests h hactive hstep hrests g)]
  rfl

end Run

end Desk

end ClusterSetup

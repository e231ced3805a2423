import ClusterSetup.Proofs.Session.Operations

namespace ClusterSetup

namespace Session

def counted (s : Session) (c : Component) : Session :=
  { s with attempts := s.attempts.set c (s.attempts.get c + 1) }

/-- The install that a policy has in mind: of a component that is missing, to be installed, offered
by the current step and not given up, with the method that is taken by default. -/
structure Plans (s : Session) (step : Step) (c : Component) (method : Nat) : Prop where
  lacking : s.flags.get c = false
  wanted : s.policy.installs c = true
  offers : step.offersInstall c = true
  left : s.attempts.get c < s.policy.maxInstallAttempts
  default : ∃ m, (s.methods c).default? = some m ∧ m.index = method

end Session

namespace Desk

open Relation (ReflTransGen)

theorem plans_of_plannedInstall {s : Session} {step : Step} {c : Component} {method : Nat}
    (hstep : s.steps[s.current]? = some step) (h : plannedInstall s = some (c, some method)) :
    s.Plans step c method := by
  rw [plannedInstall, Session.currentStep_eq hstep, Option.map_eq_some_iff] at h
  obtain ⟨d, hnext, heq⟩ := h
  obtain ⟨rfl, hdefault⟩ := Prod.mk.injEq .. ▸ heq
  have hchosen := List.find?_some hnext
  simp only [Bool.and_eq_true, Bool.not_eq_true', decide_eq_true_eq] at hchosen
  obtain ⟨⟨⟨hlacking, hwanted⟩, hoffers⟩, hleft⟩ := hchosen
  obtain ⟨m, hm, hindex⟩ := Option.map_eq_some_iff.mp hdefault
  exact ⟨hlacking, hwanted, hoffers, hleft, m, hm, hindex⟩

/-- What one turn of a run leads to. -/
inductive Turned (s : Session) (g : Guards) (step : Step) : Turn → Desk → Prop
  | ended {reason : RunStop} (inactive : ¬ s.Active) (plain : ∀ e, reason ≠ .refused e) :
      Turned s g step (.stop reason false) ⟨s, g⟩
  | notEntered {e : Refusal} (active : s.Active) (fresh : step.entered = false)
      (refused : step.EntryRefusal s.enterContext g e) :
      Turned s g step (.stop (.refused e) false) ⟨s, g⟩
  | asks {entered : Entered} {d : Desk} (active : s.Active) (fresh : step.entered = false)
      (result : entered.result = .ok .awaitingCredentials)
      (entering : Entering s g step entered d) :
      Turned s g step (.stop (.needsCredentials s.current) false) d
  | enters {entered : Entered} {outcome : EnterOutcome} {d : Desk} (active : s.Active)
      (fresh : step.entered = false) (result : entered.result = .ok outcome)
      (settles : outcome ≠ .awaitingCredentials) (entering : Entering s g step entered d) :
      Turned s g step (.goOn false) d
  | waits (active : s.Active) (entered : step.entered = true) (pending : step.pending ≠ []) :
      Turned s g step .wait ⟨s, g⟩
  /-- The step asks for credentials or for a decision. -/
  | rests {reason : RunStop} (active : s.Active) (entered : step.entered = true)
      (idle : step.pending = []) (asked : ∀ e, reason ≠ .refused e) :
      Turned s g step (.stop reason false) ⟨s, g⟩
  | goes {n : StepId} {paused : Bool} (active : s.Active) (entered : step.entered = true)
      (completed : step.completed = true) (next : step.next = some n) :
      Turned s g step (.goOn paused)
        ⟨{ s with steps := s.steps.set s.current step.proceed, current := n }, g⟩
  | notInstalled {c : Component} {method : Nat} {e : Refusal} {paused : Bool} (active : s.Active)
      (idle : step.pending = []) (plans : s.Plans step c method)
      (refused : InstallRefusal (s.counted c) g step c method e) :
      Turned s g step (.stop (.refused e) paused) ⟨s.counted c, g⟩
  | installs {c : Component} {method : Nat} {d : Desk} {paused : Bool} (active : s.Active)
      (entered : step.entered = true) (last : step.next = none) (plans : s.Plans step c method)
      (choosing : Choosing (s.counted c) g step c method d) :
      Turned s g step (.goOn paused) d

theorem turn_spec {s : Session} (g : Guards) {step : Step}
    (hstep : s.steps[s.current]? = some step) :
    Turned s g step (turn ⟨s, g⟩).1 (turn ⟨s, g⟩).2 := by
  rw [turn]
  simp only [Session.currentStep_eq hstep]
  split
  · rename_i hcanceled
    refine .ended (fun hactive => ?_) (by simp)
    rw [hactive.live] at hcanceled
    cases hcanceled
  rename_i hlive
  split
  · rename_i hfinished
    refine .ended (fun hactive => ?_) (by simp)
    rw [hactive.open_] at hfinished
    cases hfinished
  rename_i hopen
  have hactive : s.Active := ⟨by simpa using hlive, by simpa using hopen⟩
  split
  · rename_i hfresh
    rw [Bool.not_eq_true'] at hfresh
    rw [enter, whenActive_of_active _ hactive]
    rcases enterCurrent_spec g hactive hstep with
      ⟨e, hrefused, heq⟩ | ⟨outcome, entered, d, heq, hresult, hentering⟩
    · rw [heq]
      exact .notEntered hactive hfresh hrefused
    · rw [heq]
      cases outcome with
      | awaitingCredentials => exact .asks hactive hfresh hresult hentering
      | started => exact .enters hactive hfresh hresult (by simp) hentering
      | completed => exact .enters hactive hfresh hresult (by simp) hentering
  rename_i hentered
  simp only [Bool.not_eq_true, Bool.not_eq_false'] at hentered
  split
  · rename_i hpending
    exact .waits hactive hentered (by simpa [Step.hasPending] using hpending)
  rename_i hidle
  replace hidle : step.pending = [] := by simpa [Step.hasPending] using hidle
  split
  · exact .rests hactive hentered hidle (by simp)
  rename_i hcompleted
  replace hcompleted : step.completed = true := by simpa using hcompleted
  split
  · split
    · rcases next_spec g hactive hstep with ⟨e, hreason, heq⟩ | ⟨n, -, hnext, heq⟩
      · rename_i hlinked _
        cases hreason with
        | incomplete hopen => rw [hcompleted] at hopen; cases hopen
        | last hnext => rw [hnext] at hlinked; cases hlinked
      · rw [heq]
        exact .goes hactive hentered hcompleted hnext
    · exact .rests hactive hentered hidle (by simp)
  rename_i hlast
  replace hlast : step.next = none := by simpa using hlast
  split
  · exact .rests hactive hentered hidle (by simp)
  · exact .rests hactive hentered hidle (by simp)
  · rename_i c method hplanned
    have hplans := plans_of_plannedInstall hstep hplanned
    have hactive' : (s.counted c).Active := ⟨hactive.live, hactive.open_⟩
    rcases chooseInstall_chooses (g := g) c method hactive' hstep with
      ⟨e, hrefused, heq⟩ | ⟨d, heq, hchoosing⟩
    · rw [Session.counted] at heq
      rw [heq]
      exact .notInstalled hactive hidle hplans hrefused
    · rw [Session.counted] at heq
      rw [heq]
      exact .installs hactive hentered hlast hplans hchoosing

theorem turn_changes {s : Session} {g : Guards} {step : Step}
    (hstep : s.steps[s.current]? = some step) : ReflTransGen Change ⟨s, g⟩ (turn ⟨s, g⟩).2 := by
  have hturned := turn_spec g hstep
  generalize turn ⟨s, g⟩ = turned at hturned
  obtain ⟨result, d⟩ := turned
  dsimp only at hturned ⊢
  cases hturned with
  | ended => exact .refl
  | notEntered => exact .refl
  | asks _ _ _ entering => exact .single entering.change
  | enters _ _ _ _ entering => exact .single entering.change
  | waits => exact .refl
  | rests => exact .refl
  | goes active _ completed next => exact .single (.go active hstep completed next)
  | @notInstalled c _ _ _ active => exact .single (.attempt active c)
  | @installs c _ _ _ active _ _ _ choosing => exact .head (.attempt active c) choosing.all_changes

theorem waits_of_turn {s : Session} {g : Guards} {step : Step} {d : Desk}
    (hstep : s.steps[s.current]? = some step) (h : turn ⟨s, g⟩ = (.wait, d)) :
    d = ⟨s, g⟩ ∧ s.Active ∧ step.entered = true ∧ step.pending ≠ [] := by
  have hturned := turn_spec g hstep
  rw [h] at hturned
  cases hturned with
  | waits active entered pending => exact ⟨rfl, active, entered, pending⟩

section Run

variable {σ : Type} {remote : Remote σ} {fuel pauses : Nat} {memory memory' : σ} {d d' d'' : Desk}
  {reason : RunStop} {paused : Bool}

theorem runFor_of_stop (h : turn d = (.stop reason paused, d')) :
    runFor remote (fuel + 1) pauses memory d =
      (.stopped reason, pauses + paused.toNat, memory, d') := by
  rw [runFor, h]

theorem runFor_of_goOn (h : turn d = (.goOn paused, d')) :
    runFor remote (fuel + 1) pauses memory d =
      runFor remote fuel (pauses + paused.toNat) memory d' := by
  rw [runFor, h]

theorem runFor_of_silent (h : turn d = (.wait, d'))
    (hsettle : settle remote memory d' = (.silent, memory', d'')) :
    runFor remote (fuel + 1) pauses memory d = (.silent, pauses, memory', d'') := by
  rw [runFor, h]
  dsimp only
  rw [hsettle]

theorem runFor_of_settled (h : turn d = (.wait, d'))
    (hsettle : settle remote memory d' = (.arrived, memory', d'')) :
    runFor remote (fuel + 1) pauses memory d = runFor remote fuel pauses memory' d'' := by
  rw [runFor, h]
  dsimp only
  rw [hsettle]

end Run

end Desk

end ClusterSetup

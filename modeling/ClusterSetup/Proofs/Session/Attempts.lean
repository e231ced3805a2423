import ClusterSetup.Proofs.Session.AutomaticInstalls
import ClusterSetup.Proofs.Session.Resting

namespace ClusterSetup

/-- What an install came to that a run has counted. -/
inductive Attempt where
  /-- A step was made for it, and entered. -/
  | made (step : StepId)
  | refused (reason : Refusal)
  /-- The run was given up in the pause before it. -/
  | abandoned
  deriving Repr, DecidableEq

def Attempt.step? : Attempt → Option StepId
  | made step => some step
  | _ => none

/-- The install that is counted at an entry of a log, with what it came to. -/
def attempt? (entry : Desk × Move) : Option (Component × Attempt) :=
  match entry with
  | (d, .turn) =>
    match d.startedByTurn, d.turn.1, Desk.plannedInstall d.session with
    | some (c, _), _, _ => some (c, .made d.session.steps.length)
    | none, .stop (.refused e) _, some (c, some _) => some (c, .refused e)
    | _, _, _ => none
  | (d, .giveUp c) =>
    if d.session.canceled || d.session.finished then none else some (c, .abandoned)
  | _ => none

def attemptOf? (c : Component) (counted : Component × Attempt) : Option Attempt :=
  if counted.1 = c then some counted.2 else none

/-- What the installs of a component came to that were counted, the oldest first. -/
def attemptsOn (log : List (Desk × Move)) (c : Component) : List Attempt :=
  log.filterMap fun entry => (attempt? entry).bind (attemptOf? c)

theorem attemptsOn_snoc (log : List (Desk × Move)) (entry : Desk × Move) (c : Component) :
    attemptsOn (log ++ [entry]) c =
      attemptsOn log c ++ ((attempt? entry).bind (attemptOf? c)).toList := by
  rw [attemptsOn, List.filterMap_append]
  rfl

def installSteps (log : List (Desk × Move)) (c : Component) : List StepId :=
  (attemptsOn log c).filterMap Attempt.step?

/-- The installs of a component for which no step was made although they were counted. -/
def vainAttempts (log : List (Desk × Move)) (c : Component) : List Attempt :=
  (attemptsOn log c).filter (·.step?.isNone)

theorem installSteps_snoc (log : List (Desk × Move)) (entry : Desk × Move) (c : Component) :
    installSteps (log ++ [entry]) c = installSteps log c ++
      (((attempt? entry).bind (attemptOf? c)).bind Attempt.step?).toList := by
  rw [installSteps, attemptsOn_snoc, List.filterMap_append, installSteps]
  congr 1
  cases (attempt? entry).bind (attemptOf? c) with
  | none => rfl
  | some a => cases a <;> rfl

theorem length_attemptsOn (log : List (Desk × Move)) (c : Component) :
    (attemptsOn log c).length = (installSteps log c).length + (vainAttempts log c).length := by
  rw [installSteps, vainAttempts, List.length_filterMap_eq_countP, ← List.countP_eq_length_filter,
    List.length_eq_countP_add_countP (fun a : Attempt => a.step?.isSome)]
  congr 2
  funext a
  cases a <;> rfl

namespace Desk

/-- What a move does to the count of installs, according to the install that it counts. -/
inductive Counts (s : Session) (g : Guards) (d : Desk) : Option (Component × Attempt) → Prop
  | nothing (attempts_eq : d.session.attempts = s.attempts) : Counts s g d none
  | made {c : Component} {n : Nat} {u : Step}
      (attempts_eq : d.session.attempts = (s.counted c).attempts)
      (made : d.session.steps[s.steps.length]? = some u) (kind_eq : u.kind = .install c n) :
      Counts s g d (some (c, .made s.steps.length))
  | refused {c : Component} {e : Refusal} (busy : s.FindsBusy g e)
      (left : d = ⟨s.counted c, g⟩) : Counts s g d (some (c, .refused e))
  | abandoned {c : Component} (left : d = ⟨s.counted c, g⟩) :
      Counts s g d (some (c, .abandoned))

section Counts

variable {s : Session} {g : Guards}

theorem Counts.get_attempts {d : Desk} {counted : Option (Component × Attempt)}
    (h : Counts s g d counted) (c : Component) : d.session.attempts.get c =
      s.attempts.get c + (counted.bind (attemptOf? c)).toList.length := by
  have hmore : ∀ e (a : Attempt), (s.counted e).attempts.get c =
      s.attempts.get c + ((some (e, a)).bind (attemptOf? c)).toList.length := by
    intro e a
    rw [Session.counted, PerComponent.get_set]
    by_cases hc : c = e
    · subst hc
      simp [attemptOf?]
    · simp [attemptOf?, hc, Ne.symm hc]
  cases h with
  | nothing attempts_eq => rw [attempts_eq]; rfl
  | made attempts_eq _ _ => rw [attempts_eq, hmore]
  | refused _ left => rw [left, hmore]
  | abandoned left => rw [left, hmore]

theorem Counts.of_made {d : Desk} {counted : Option (Component × Attempt)}
    (h : Counts s g d counted) {c : Component} {i : StepId}
    (hmade : (counted.bind (attemptOf? c)).bind Attempt.step? = some i) :
    i = s.steps.length ∧ ∃ u n, d.session.steps[i]? = some u ∧ u.kind = .install c n := by
  obtain ⟨a, ha, hstep⟩ := Option.bind_eq_some_iff.mp hmade
  obtain ⟨⟨e, a'⟩, rfl, hof⟩ := Option.bind_eq_some_iff.mp ha
  obtain ⟨rfl, rfl⟩ : e = c ∧ a' = a := by simpa [attemptOf?] using hof
  cases h with
  | made _ made kind_eq =>
      cases hstep
      exact ⟨rfl, _, _, made, kind_eq⟩
  | refused _ _ => cases hstep
  | abandoned _ => cases hstep

theorem startedByTurn_eq_none (h : (turn ⟨s, g⟩).2.session.steps.length ≤ s.steps.length) :
    startedByTurn ⟨s, g⟩ = none := by
  rw [startedByTurn, List.getElem?_eq_none h]
  rfl

theorem attempt?_of_refused (h : s.Reachable) {e : Refusal} {paused : Bool} {d : Desk}
    (hturn : turn ⟨s, g⟩ = (.stop (.refused e) paused, d)) {c : Component} {n : Nat}
    (hplanned : plannedInstall s = some (c, some n)) :
    attempt? (⟨s, g⟩, .turn) = some (c, .refused e) := by
  obtain ⟨step, hstep⟩ := h.valid.placed.current
  have hlength : (turn ⟨s, g⟩).2.session.steps.length ≤ s.steps.length := by
    have hturned := turn_spec g hstep
    rw [hturn] at hturned ⊢
    cases hturned with
    | ended _ plain => exact absurd rfl (plain e)
    | rests _ _ _ asked => exact absurd rfl (asked e)
    | notEntered _ _ _ => exact Nat.le_refl _
    | notInstalled _ _ _ _ => exact Nat.le_refl _
  rw [attempt?, startedByTurn_eq_none hlength, hturn, hplanned]

theorem Counts.of_turn {result : Turn} {d : Desk} (hturn : turn ⟨s, g⟩ = (result, d))
    (hlength : d.session.steps.length ≤ s.steps.length)
    (hattempts : d.session.attempts = s.attempts)
    (hplain : plannedInstall s = none ∨ ∀ e paused, result ≠ .stop (.refused e) paused) :
    Counts s g (turn ⟨s, g⟩).2 (attempt? (⟨s, g⟩, .turn)) := by
  have hnone : attempt? (⟨s, g⟩, .turn) = none := by
    rw [attempt?, startedByTurn_eq_none (by rw [hturn]; exact hlength)]
    dsimp only
    rw [hturn]
    split
    · contradiction
    · rename_i hrefused hplanned
      rcases hplain with hplain | hplain
      · rw [hplain] at hplanned
        cases hplanned
      · exact absurd hrefused (hplain _ _)
    · rfl
  rw [hnone, hturn]
  exact .nothing hattempts

theorem plannedInstall_of_fresh (h : s.Reachable) (hlive : s.canceled = false) {step : Step}
    (hstep : s.steps[s.current]? = some step) (hfresh : step.entered = false) :
    plannedInstall s = none := by
  rw [plannedInstall, Session.currentStep_eq hstep, Option.map_eq_none_iff, Policy.nextInstall,
    List.find?_eq_none]
  intro c _
  -- Installs are offered by completed steps, and these were entered.
  have hoffers : step.offersInstall c = false := by
    by_contra hoffers
    rw [Bool.not_eq_false] at hoffers
    have hentered := h.entered_of_completed hlive hstep (completed_of_offersInstall hoffers)
    rw [hfresh] at hentered
    cases hentered
  simp [hoffers]

theorem Rests.not_refused {step : Step} {reason : RunStop} (h : Rests s step reason) (e : Refusal)
    (paused : Bool) : Turn.stop reason false ≠ .stop (.refused e) paused := by
  cases h <;> simp

/-- A turn that has an install in mind counts it, and then makes a step for it unless its component
is busy. -/
theorem planned_counts (h : s.Reachable) {step : Step} (hidles : s.IdlesAt step)
    (hcompleted : step.completed = true) (hnext : step.next = none)
    {c : Component} {n : Nat} (hplanned : plannedInstall s = some (c, some n)) (g : Guards) :
    ∃ a, attempt? (⟨s, g⟩, .turn) = some (c, a) ∧ Counts s g (turn ⟨s, g⟩).2 (some (c, a)) := by
  have hturn := turn_of_planned hidles hcompleted hnext hplanned g
  have hstep := hidles.current
  have hactive : (s.counted c).Active := ⟨hidles.active.live, hidles.active.open_⟩
  rcases chooseInstall_chooses (g := g) c n hactive hstep with
    ⟨e, hrefused, heq⟩ | ⟨d, heq, hchoosing⟩
  · rw [heq] at hturn
    have hlive : step.canceled = false :=
      (h.valid.awaited hidles.active.live).waits.live hstep
    have hbusy := (plans_of_plannedInstall hstep hplanned).findsBusy hlive hrefused
    refine ⟨.refused e, attempt?_of_refused h hturn hplanned, ?_⟩
    rw [hturn]
    exact .refused hbusy rfl
  · rw [heq] at hturn
    obtain ⟨hattempts, u, hu, hkind⟩ := hchoosing.made
    have hstarted : startedByTurn ⟨s, g⟩ = some (c, n) := by
      rw [startedByTurn, hturn]
      dsimp only
      rw [show d.session.steps[s.steps.length]? = some u from hu]
      simp [hkind]
    refine ⟨.made s.steps.length, ?_, ?_⟩
    · rw [attempt?, hstarted]
    · rw [hturn]
      exact .made hattempts hu hkind

theorem turn_counts (h : s.Reachable) (g : Guards) :
    Counts s g (turn ⟨s, g⟩).2 (attempt? (⟨s, g⟩, .turn)) := by
  obtain ⟨step, hstep⟩ := h.valid.placed.current
  by_cases hactive : s.Active
  case neg =>
    rcases turn_of_over hactive (g := g) with hturn | hturn
    · exact .of_turn hturn (Nat.le_refl _) rfl (.inr fun e paused => by simp)
    · exact .of_turn hturn (Nat.le_refl _) rfl (.inr fun e paused => by simp)
  cases hentered : step.entered with
  | false =>
      have hplanned := plannedInstall_of_fresh h hactive.live hstep hentered
      have hsame : (turn ⟨s, g⟩).2.session.steps.length = s.steps.length ∧
          (turn ⟨s, g⟩).2.session.attempts = s.attempts := by
        rw [turn_of_fresh hactive hstep hentered, enter, whenActive_of_active _ hactive]
        rcases enterCurrent_spec g hactive hstep with
          ⟨e, -, heq⟩ | ⟨outcome, entered, d, heq, -, hentering⟩
        · rw [heq]
          exact ⟨rfl, rfl⟩
        · rw [heq]
          exact ⟨hentering.length_eq, by rw [hentering.session_eq]⟩
      exact .of_turn (Prod.eta _).symm (Nat.le_of_eq hsame.1) hsame.2 (.inl hplanned)
  | true =>
      by_cases hidle : step.pending = []
      · have hidles : s.IdlesAt step := ⟨hactive, hstep, hentered, hidle⟩
        rcases idle_cases h hidles with
          ⟨reason, hrests⟩ | ⟨hcompleted, ⟨n, hnext, hauto⟩ | ⟨hnext, c, n, hplanned⟩⟩
        · exact .of_turn (turn_of_rests h hactive hstep hrests g) (Nat.le_refl _) rfl
            (.inr fun e paused => hrests.not_refused e paused)
        · exact .of_turn (turn_of_linked hidles hcompleted hnext hauto g)
            (Nat.le_of_eq List.length_set) rfl (.inr fun e paused => by simp)
        · obtain ⟨a, hattempt, hcounts⟩ :=
            planned_counts h hidles hcompleted hnext hplanned g
          rw [hattempt]
          exact hcounts
      · exact .of_turn (turn_of_pending hactive hstep hentered hidle g) (Nat.le_refl _) rfl
          (.inr fun e paused => by simp)

theorem giveUp_counts (s : Session) (g : Guards) (c : Component) :
    Counts s g (countAttempt c ⟨s, g⟩) (attempt? (⟨s, g⟩, .giveUp c)) := by
  by_cases hactive : s.Active
  · rw [countAttempt, Session.checkActive_of_active hactive, attempt?, hactive.live, hactive.open_]
    exact .abandoned rfl
  · have hover : (s.canceled || s.finished) = true := by
      by_contra hopen
      simp only [Bool.or_eq_true, not_or, Bool.not_eq_true] at hopen
      exact hactive ⟨hopen.1, hopen.2⟩
    obtain ⟨e, he⟩ := s.active_or_refused.resolve_left hactive
    rw [countAttempt, he, attempt?, if_pos hover]
    exact .nothing rfl

theorem perform_counts (h : s.Reachable) (g : Guards) (m : Move) :
    Counts s g (m.perform ⟨s, g⟩) (attempt? (⟨s, g⟩, m)) := by
  have hkept : m ≠ .turn → (∀ c, m ≠ .giveUp c) →
      (m.perform ⟨s, g⟩).session.attempts = s.attempts := by
    intro hturn hgiveUp
    have hoccasion := perform_occasion h g m
    cases hoccasion with
    | nothing _ attempts_eq _ _ => exact attempts_eq hturn hgiveUp
    | requested _ entering => rw [entering.session_eq]
    | funded _ entering => rw [entering.session_eq]
    | reached _ _ => exact absurd rfl hturn
    | chosen attempts_eq choosing => exact choosing.made.1.trans (attempts_eq hturn)
  cases m with
  | turn => exact turn_counts h g
  | giveUp c => exact giveUp_counts s g c
  | _ => exact .nothing (hkept (by simp) (by simp))

theorem Entering.kind_kept {step : Step} {entered : Entered} {d : Desk}
    (h : Entering s g step entered d) {i : StepId} {u : Step} (hu : s.steps[i]? = some u) :
    ∃ u', d.session.steps[i]? = some u' ∧ u'.kind = u.kind := by
  obtain ⟨-, -, hkind, -⟩ := h.entry.rerun
  have hcurrent := (List.getElem?_eq_some_iff.mp h.current).1
  rw [h.session_eq]
  by_cases hi : s.current = i
  · subst hi
    rw [h.current, Option.some.injEq] at hu
    subst hu
    exact ⟨_, List.getElem?_set_self hcurrent, hkind⟩
  · exact ⟨u, (List.getElem?_set_ne hi).trans hu, rfl⟩

theorem Occasion.kind_kept {m : Move} {d : Desk} (h : Occasion s g m d) {i : StepId} {u : Step}
    (hu : s.steps[i]? = some u) : ∃ u', d.session.steps[i]? = some u' ∧ u'.kind = u.kind := by
  cases h with
  | nothing runs _ _ _ =>
      obtain ⟨u', hu', hsame⟩ := runs.kept hu
      exact ⟨u', hu', hsame.kind_eq⟩
  | requested _ entering => exact entering.kind_kept hu
  | @funded credentials _ _ _ _ entering =>
      exact entering.kind_kept (s := { s with credentials := some credentials }) hu
  | reached _ entering => exact entering.kind_kept hu
  | @chosen _ attempts _ _ _ _ _ choosing =>
      obtain ⟨u', hu', hsame⟩ := choosing.kept (s := { s with attempts := attempts }) hu
      exact ⟨u', hu', hsame.kind_eq⟩

end Counts

end Desk

namespace Session

/-- How a session has come by the number of installs that it has counted for a component. -/
structure Tallies (log : List (Desk × Move)) (s : Session) (c : Component) : Prop where
  total : s.attempts.get c = (attemptsOn log c).length
  distinct : (installSteps log c).Nodup
  made : ∀ i ∈ installSteps log c, ∃ u n, s.steps[i]? = some u ∧ u.kind = .install c n

theorem Tallies.snoc {log : List (Desk × Move)} {s : Session} {c : Component}
    (h : Tallies log s c) (hs : s.Reachable) (g : Guards) (m : Move) :
    Tallies (log ++ [(⟨s, g⟩, m)]) (m.perform ⟨s, g⟩).session c := by
  have hcounts := Desk.perform_counts hs g m
  have hold : ∀ i ∈ installSteps log c, ∃ u n,
      (m.perform ⟨s, g⟩).session.steps[i]? = some u ∧ u.kind = .install c n := by
    intro i hi
    obtain ⟨u, n, hu, hkind⟩ := h.made i hi
    obtain ⟨u', hu', hsame⟩ := (Desk.perform_occasion hs g m).kind_kept hu
    exact ⟨u', n, hu', hsame.trans hkind⟩
  have htotal : (m.perform ⟨s, g⟩).session.attempts.get c =
      (attemptsOn (log ++ [(⟨s, g⟩, m)]) c).length := by
    rw [hcounts.get_attempts, h.total, attemptsOn_snoc, List.length_append]
  rcases Option.eq_none_or_eq_some
    (((attempt? (⟨s, g⟩, m)).bind (attemptOf? c)).bind Attempt.step?) with hnone | ⟨i, hnew⟩
  · have hsame : installSteps (log ++ [(⟨s, g⟩, m)]) c = installSteps log c := by
      rw [installSteps_snoc, hnone, Option.toList_none, List.append_nil]
    exact ⟨htotal, hsame ▸ h.distinct, hsame ▸ hold⟩
  · have hmore : installSteps (log ++ [(⟨s, g⟩, m)]) c = installSteps log c ++ [i] := by
      rw [installSteps_snoc, hnew, Option.toList_some]
    obtain ⟨rfl, hmade⟩ := hcounts.of_made hnew
    -- The new step stands behind all that were made before, so it is not listed yet.
    have hfresh : s.steps.length ∉ installSteps log c := by
      intro hmem
      obtain ⟨u, n, hu, -⟩ := h.made _ hmem
      exact Nat.lt_irrefl _ (List.getElem?_eq_some_iff.mp hu).1
    refine ⟨htotal, ?_, ?_⟩
    · rw [hmore, ← List.concat_eq_append]
      exact h.distinct.concat hfresh
    · rw [hmore]
      intro i hi
      rcases List.mem_append.mp hi with hearlier | hlast
      · exact hold i hearlier
      · rw [List.mem_singleton.mp hlast]
        exact hmade

theorem Recorded.tallies {log : List (Desk × Move)} {s : Session} (h : Recorded log s)
    (c : Component) : Tallies log s c := by
  refine h.induct (P := fun log s => Tallies log s c) ?_ ?_
  · intro host resources policy options credentials
    exact ⟨PerComponent.get_const 0 c, List.nodup_nil, nofun⟩
  · intro log s g m hlog ih
    exact ih.snoc hlog.reachable g m

theorem left_of_vain {s : Session} (h : s.Reachable) (g : Guards) {m : Move} {c : Component}
    {a : Attempt} (hattempt : attempt? (⟨s, g⟩, m) = some (c, a)) (hvain : a.step? = none) :
    m.perform ⟨s, g⟩ = ⟨s.counted c, g⟩ ∧ ∀ e, a = .refused e → s.FindsBusy g e := by
  have hcounts := Desk.perform_counts h g m
  rw [hattempt] at hcounts
  cases hcounts with
  | made _ _ _ => cases hvain
  | refused busy left =>
      refine ⟨left, fun e he => ?_⟩
      cases he
      exact busy
  | abandoned left => exact ⟨left, nofun⟩

theorem Later.policy_kept {s t : Session} (h : Later s t) (hs : s.Valid) :
    t.policy = s.policy ∧ ∀ c, s.attempts.get c ≤ t.attempts.get c := by
  refine (h.induct (P := fun t => t.policy = s.policy ∧
    ∀ c, s.attempts.get c ≤ t.attempts.get c) ?_ hs ⟨rfl, fun _ => Nat.le_refl _⟩).1
  intro d d' _ ⟨hpolicy, hattempts⟩ hchange
  obtain ⟨hpolicy', hattempts'⟩ := hchange.policy_kept
  exact ⟨hpolicy'.trans hpolicy, fun c => Nat.le_trans (hattempts c) (hattempts' c)⟩

theorem left_of_plannedInstall {s : Session} {c : Component} {n : Option Nat}
    (h : Desk.plannedInstall s = some (c, n)) :
    s.attempts.get c < s.policy.maxInstallAttempts := by
  obtain ⟨e, hnext, heq⟩ := Option.map_eq_some_iff.mp h
  cases heq
  have hchosen := List.find?_some hnext
  simp only [Bool.and_eq_true, decide_eq_true_eq] at hchosen
  exact hchosen.2

/-- The count of installs of a component is that of the steps which runs have made and entered for
it, and besides of the installs that a run has counted in vain. Such a one was refused because its
component was busy, or the run was given up before it, and it left nothing behind but the count. A
run that is refused while it has an install in mind has counted that install, and once as many are
counted as the policy allows, no run has one in mind any more. -/
theorem attempts_counted_before_installs {log : List (Desk × Move)} {s : Session}
    (h : Recorded log s) :
    (∀ c, s.attempts.get c = (installSteps log c).length + (vainAttempts log c).length ∧
      (installSteps log c).Nodup ∧ ∀ i ∈ installSteps log c, ∃ u n,
        s.steps[i]? = some u ∧ u.kind = .install c n ∧ u.entered = true) ∧
    (∀ entry ∈ log, ∀ c a, attempt? entry = some (c, a) → a.step? = none →
      entry.2.perform entry.1 = ⟨entry.1.session.counted c, entry.1.guards⟩ ∧
        ∀ e, a = .refused e → entry.1.session.FindsBusy entry.1.guards e) ∧
    (∀ (σ : Type) (remote : Remote σ) (memory : σ) g e,
      (Desk.run remote memory ⟨s, g⟩).1 = .stopped (.refused e) → ∃ more last g',
        (∀ entry ∈ more, entry.2.Runs) ∧
        Recorded (log ++ more ++ [(⟨last, g'⟩, .turn)])
          (Desk.run remote memory ⟨s, g⟩).2.2.2.session ∧
        last.FindsBusy g' e ∧ ∀ c n, Desk.plannedInstall last = some (c, some n) →
          attempt? (⟨last, g'⟩, .turn) = some (c, .refused e)) ∧
    ∀ c, s.policy.maxInstallAttempts ≤ s.attempts.get c → ∀ t, Later s t → ∀ n,
      Desk.plannedInstall t ≠ some (c, n) := by
  refine ⟨?_, ?_, ?_, ?_⟩
  · intro c
    obtain ⟨htotal, hdistinct, hmade⟩ := h.tallies c
    refine ⟨htotal.trans (length_attemptsOn log c), hdistinct, fun i hi => ?_⟩
    obtain ⟨u, n, hu, hkind⟩ := hmade i hi
    exact ⟨u, n, hu, hkind, h.reachable.installs_entered i u hu c n hkind⟩
  · intro entry hentry c a hattempt hvain
    exact left_of_vain (h.of_mem hentry) entry.1.guards hattempt hvain
  · intro σ remote memory g e hrefused
    obtain ⟨⟨last, g'⟩, paused, hruns, hturn⟩ := Desk.last_turn_of_stopped remote hrefused
    obtain ⟨host, resources, policy, options, credentials, hlog⟩ := id h
    obtain ⟨more, hkind, hmore⟩ := hlog.append_moves hruns
    have hlast : Recorded (log ++ more) last :=
      ⟨host, resources, policy, options, credentials, hmore⟩
    have hend := hlast.snoc g' .turn
    rw [Move.perform, hturn] at hend
    exact ⟨more, last, g', hkind, hend, Desk.findsBusy_of_turn hlast.reachable hturn,
      fun c n hplanned => Desk.attempt?_of_refused hlast.reachable hturn hplanned⟩
  · intro c hspent t hlater n hplanned
    obtain ⟨hpolicy, hattempts⟩ := hlater.policy_kept h.reachable.valid
    have hleft := left_of_plannedInstall hplanned
    rw [hpolicy] at hleft
    exact Nat.lt_irrefl _ (Nat.lt_of_lt_of_le hleft (Nat.le_trans hspent (hattempts c)))

def onceSample : Session :=
  { lackingSample with
    policy := { autoInstall := { PerComponent.const false with drbd := true }
                maxInstallAttempts := 1 } }

def onceLacking : Session := (Desk.performAll ⟨onceSample, .empty⟩ lackingMoves).session

def storageHeld : Guards := ⟨[⟨⟨1⟩, .drbd⟩]⟩

def onceRefused : Session :=
  (Desk.run (.always (.ok ⟨"8.4", 0⟩)) () ⟨onceLacking, storageHeld⟩).2.2.2.session

def refusedLog : List (Desk × Move) :=
  Desk.logAll ⟨onceSample, .empty⟩ lackingMoves ++ [(⟨onceLacking, storageHeld⟩, .turn)]

theorem refusedLog_recorded : Recorded refusedLog onceRefused :=
  ⟨_, _, _, _, _,
    (Logged.performAll (d := ⟨onceSample, .empty⟩) .nil lackingMoves).snoc storageHeld .turn⟩

theorem attempts_counted_before_installs_sample :
    attempt? (⟨onceLacking, storageHeld⟩, .turn) =
        some (.drbd, .refused (.componentBusy ⟨1⟩ .drbd)) ∧
      onceRefused.attempts.get .drbd = 0 + [Attempt.refused (.componentBusy ⟨1⟩ .drbd)].length ∧
      onceLacking.FindsBusy storageHeld (.componentBusy ⟨1⟩ .drbd) ∧
      ∀ t, Later onceRefused t → ∀ n, Desk.plannedInstall t ≠ some (.drbd, n) := by
  have hattempt : attempt? (⟨onceLacking, storageHeld⟩, .turn) =
      some (.drbd, .refused (.componentBusy ⟨1⟩ .drbd)) := by decide +kernel
  have hlast : ((⟨onceLacking, storageHeld⟩, .turn) : Desk × Move) ∈ refusedLog :=
    List.mem_append_right _ (List.mem_singleton_self _)
  have hinstalls : installSteps refusedLog .drbd = [] := by decide +kernel
  have hvain : vainAttempts refusedLog .drbd = [.refused (.componentBusy ⟨1⟩ .drbd)] := by
    decide +kernel
  obtain ⟨htally, hleft, -, hspent⟩ := attempts_counted_before_installs refusedLog_recorded
  obtain ⟨htotal, -⟩ := htally .drbd
  rw [hinstalls, hvain] at htotal
  exact ⟨hattempt, htotal, (hleft _ hlast .drbd _ hattempt rfl).2 _ rfl,
    hspent .drbd (by decide +kernel)⟩

/-- A run that is refused a busy component uses up an attempt without making a step, so that the
install that the policy asks for is not made when the component is free again. -/
theorem attempt_used_up_by_busy_component :
    let remote : Remote Unit := .always (.ok ⟨"8.4", 0⟩)
    (Desk.run remote () ⟨onceLacking, storageHeld⟩).1 =
        .stopped (.refused (.componentBusy ⟨1⟩ .drbd)) ∧
      onceLacking.attempts.get .drbd = 0 ∧ onceRefused.attempts.get .drbd = 1 ∧
      (Desk.run remote () ⟨onceRefused, .empty⟩).1 = .stopped (.awaitingUser 0) ∧
      ¬ ∀ log s, Recorded log s → ∀ c, s.attempts.get c = (installSteps log c).length := by
  intro remote
  have hcounted : onceRefused.attempts.get .drbd = 1 := by decide +kernel
  refine ⟨by decide +kernel, by decide +kernel, hcounted, by decide +kernel, ?_⟩
  intro hclaim
  have hinstalls : installSteps refusedLog .drbd = [] := by decide +kernel
  have hsame := hclaim refusedLog onceRefused refusedLog_recorded .drbd
  rw [hcounted, hinstalls] at hsame
  cases hsame

end Session

end ClusterSetup

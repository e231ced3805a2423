import ClusterSetup.Proofs.Session.Attempts

namespace ClusterSetup

/-- One component comes before another one in the order in which they are installed. -/
def Component.Before (c d : Component) : Prop := [c, d].Sublist all

instance (c d : Component) : Decidable (c.Before d) :=
  inferInstanceAs (Decidable ([c, d].Sublist Component.all))

theorem Component.Before.asymm {c d : Component} (h : c.Before d) : ¬ d.Before c := by
  revert h
  cases c <;> cases d <;> decide

namespace Session

/-- The policy asks for an install that a step offers, and has not given it up. -/
structure Eligible (s : Session) (step : Step) (c : Component) : Prop where
  lacking : s.flags.get c = false
  wanted : s.policy.installs c = true
  offers : step.offersInstall c = true
  left : s.attempts.get c < s.policy.maxInstallAttempts

/-- Whatever install could still be made comes after one for which there is no method. -/
def NothingLeft (s : Session) (step : Step) : Prop :=
  ∀ c, s.Eligible step c → (s.methods c).isEmpty = false →
    ∃ e : Component, e.Before c ∧ s.Eligible step e ∧ (s.methods e).isEmpty = true

theorem default?_eq_none_iff (s : Session) (c : Component) :
    (s.methods c).default? = none ↔ (s.methods c).isEmpty = true :=
  s.resources.default?_eq_none_iff _ _ _ _

section Candidates

variable {s : Session} {step : Step}

theorem eligible_iff {c : Component} :
    (!s.flags.get c && s.policy.installs c && step.offersInstall c &&
      decide (s.attempts.get c < s.policy.maxInstallAttempts)) = true ↔ s.Eligible step c := by
  simp only [Bool.and_eq_true, Bool.not_eq_true', decide_eq_true_eq]
  exact ⟨fun ⟨⟨⟨lacking, wanted⟩, offers⟩, left⟩ => ⟨lacking, wanted, offers, left⟩,
    fun h => ⟨⟨⟨h.lacking, h.wanted⟩, h.offers⟩, h.left⟩⟩

theorem nextInstall_eq_none (h : s.policy.nextInstall s.flags step.offersInstall s.attempts.get =
    none) (c : Component) : ¬ s.Eligible step c := by
  rw [← eligible_iff]
  exact List.find?_eq_none.mp h c c.mem_all

theorem nextInstall_eq_some {c : Component}
    (h : s.policy.nextInstall s.flags step.offersInstall s.attempts.get = some c) :
    s.Eligible step c ∧ ∀ e, s.Eligible step e → e = c ∨ c.Before e := by
  obtain ⟨hchosen, earlier, later, hall, hearlier⟩ := List.find?_eq_some_iff_append.mp h
  refine ⟨eligible_iff.mp hchosen, fun e he => ?_⟩
  have hmem : e ∈ earlier ++ c :: later := hall ▸ e.mem_all
  rcases List.mem_append.mp hmem with hbefore | hrest
  · have hnot := hearlier e hbefore
    rw [Bool.not_eq_true', ← Bool.not_eq_true, eligible_iff] at hnot
    exact absurd he hnot
  · rcases List.mem_cons.mp hrest with rfl | hafter
    · exact .inl rfl
    · right
      rw [Component.Before, hall]
      exact .trans (.cons_cons c (List.singleton_sublist.mpr hafter))
        (List.sublist_append_right earlier (c :: later))

theorem first_of_plannedInstall (hstep : s.steps[s.current]? = some step) {c : Component}
    {n : Option Nat} (h : Desk.plannedInstall s = some (c, n)) :
    s.Eligible step c ∧ ∀ e, s.Eligible step e → e = c ∨ c.Before e := by
  rw [Desk.plannedInstall, currentStep_eq hstep] at h
  obtain ⟨d, hnext, heq⟩ := Option.map_eq_some_iff.mp h
  cases heq
  exact nextInstall_eq_some hnext

theorem nothingLeft_iff (hstep : s.steps[s.current]? = some step) :
    s.NothingLeft step ↔ ∀ c n, Desk.plannedInstall s ≠ some (c, some n) := by
  constructor
  · intro hnothing c n hplanned
    obtain ⟨hc, hfirst⟩ := first_of_plannedInstall hstep hplanned
    obtain ⟨m, hm, -⟩ := (Desk.plans_of_plannedInstall hstep hplanned).default
    obtain ⟨e, hbefore, he, -⟩ := hnothing c hc (MethodChoice.lists_default hm).1
    rcases hfirst e he with rfl | hafter
    · exact hbefore.asymm hbefore
    · exact hafter.asymm hbefore
  · intro hunplanned c hc hmethods
    rcases hnext : s.policy.nextInstall s.flags step.offersInstall s.attempts.get with _ | d
    · exact absurd hc (nextInstall_eq_none hnext c)
    · obtain ⟨hd, hfirst⟩ := nextInstall_eq_some hnext
      have hempty : (s.methods d).isEmpty = true := by
        rw [← default?_eq_none_iff]
        by_contra hsome
        obtain ⟨m, hm⟩ := Option.ne_none_iff_exists'.mp hsome
        refine hunplanned d m.index ?_
        rw [Desk.plannedInstall, currentStep_eq hstep, hnext, Option.map_some, hm]
        rfl
      rcases hfirst c hc with rfl | hbefore
      · rw [hempty] at hmethods
        cases hmethods
      -- The first one is that without a method, and the others come after it.
      · exact ⟨d, hbefore, hd, hempty⟩

end Candidates

/-- A run that goes on by itself leaves the decision to the user only at a completed step after
which none is to come. There it takes the first install that the policy asks for, with the default
method; if there is no method for that one, it stops at once, and the installs after it are not
tried, whether or not there are methods for them. -/
theorem installs_left_behind_missing_method {s : Session} (h : s.Reachable) :
    (s.policy.autoNext = true → ∀ (σ : Type) (remote : Remote σ) (memory : σ) g i,
      (Desk.run remote memory ⟨s, g⟩).1 = .stopped (.awaitingUser i) →
        let t := (Desk.run remote memory ⟨s, g⟩).2.2.2.session
        Later s t ∧ t.current = i ∧ ∃ step, t.steps[i]? = some step ∧ step.completed = true ∧
          step.next = none ∧ t.NothingLeft step) ∧
    ∀ step, s.Active → s.steps[s.current]? = some step → step.completed = true →
      step.next = none →
        (s.NothingLeft step → ∀ (σ : Type) (remote : Remote σ) (memory : σ) g,
          Desk.run remote memory ⟨s, g⟩ =
            (.stopped (.awaitingUser s.current), 0, memory, ⟨s, g⟩)) ∧
        (¬ s.NothingLeft step → ∃ c n, s.Eligible step c ∧
          (∀ e, s.Eligible step e → e = c ∨ c.Before e) ∧
          (∃ m, (s.methods c).default? = some m ∧ m.index = n) ∧
          ∀ g, ∃ a, attempt? (⟨s, g⟩, .turn) = some (c, a)) := by
  refine ⟨?_, ?_⟩
  · intro hauto σ remote memory g i hrun t
    obtain ⟨hlater, -, step, hstep, hrests⟩ :=
      Desk.rests_of_run h remote memory g (.inr rfl) hrun
    have hpolicy := (hlater.policy_kept h.valid).1
    generalize hreason : RunStop.awaitingUser i = reason at hrests
    cases hrests with
    | needsCredentials _ => cases hreason
    | linked _ _ manual =>
        rw [hpolicy, hauto] at manual
        cases manual
    | last completed next unplanned =>
        cases hreason
        exact ⟨hlater, rfl, step, hstep, completed, next, (nothingLeft_iff hstep).mpr unplanned⟩
  · intro step hactive hstep hcompleted hnext
    refine ⟨fun hnothing σ remote memory g => ?_, fun hleft => ?_⟩
    · exact Desk.run_of_rests h hactive hstep
        (.last hcompleted hnext ((nothingLeft_iff hstep).mp hnothing)) remote memory g
    · rw [nothingLeft_iff hstep] at hleft
      push Not at hleft
      obtain ⟨c, n, hplanned⟩ := hleft
      have hidles : s.IdlesAt step :=
        ⟨hactive, hstep, h.entered_of_completed hactive.live hstep hcompleted,
          (h.valid.placed.arena.sound hstep).idle hcompleted⟩
      obtain ⟨hc, hfirst⟩ := first_of_plannedInstall hstep hplanned
      refine ⟨c, n, hc, hfirst, (Desk.plans_of_plannedInstall hstep hplanned).default, fun g => ?_⟩
      obtain ⟨a, hattempt, -⟩ := Desk.planned_counts h hidles hcompleted hnext hplanned g
      exact ⟨a, hattempt⟩

def stackSample : Session :=
  .new { Host.new ⟨1⟩ "alpha" "10.0.0.1" with connectivity := .connected }
    (.ofTable ⟨[⟨"", ResourceKey.storageProbe, "drbd"⟩, ⟨"", ResourceKey.stackProbe, "stack"⟩,
      ⟨"", ResourceKey.methodLabel .corosync 1, "packages"⟩,
      ⟨"", ResourceKey.methodCommand .corosync 1, "install corosync"⟩]⟩)
    { autoNext := true, autoInstall := ⟨false, true, true⟩ }

def stackMissing : Session :=
  (Desk.run (.always (.ok ⟨"8.4", 0⟩)) () ⟨stackSample, .empty⟩).2.2.2.session

theorem installs_left_behind_missing_method_sample :
    (Desk.run (.always (.ok ⟨"8.4", 0⟩)) () ⟨stackSample, .empty⟩).1 =
        .stopped (.awaitingUser 0) ∧
      (∃ step, stackMissing.steps[0]? = some step ∧ stackMissing.NothingLeft step) ∧
      Desk.run (.always (.ok ⟨"8.4", 0⟩)) () ⟨stackMissing, .empty⟩ =
        (.stopped (.awaitingUser stackMissing.current), 0, (), ⟨stackMissing, .empty⟩) := by
  have hsample : stackSample.Reachable := ⟨_, _, _, _, _, .refl⟩
  have hstops : (Desk.run (.always (.ok ⟨"8.4", 0⟩)) () ⟨stackSample, .empty⟩).1 =
      .stopped (.awaitingUser 0) := by decide +kernel
  obtain ⟨hlater, hcurrent, step, hstep, hcompleted, hnext, hnothing⟩ :=
    (installs_left_behind_missing_method hsample).1 rfl Unit _ () .empty 0 hstops
  have hactive : stackMissing.Active := ⟨by decide +kernel, by decide +kernel⟩
  have hat : stackMissing.steps[stackMissing.current]? = some step := by
    rw [show stackMissing.current = 0 from hcurrent]
    exact hstep
  have hagain := ((installs_left_behind_missing_method (hsample.later hlater)).2 step hactive hat
    hcompleted hnext).1 hnothing Unit (.always (.ok ⟨"8.4", 0⟩)) () .empty
  exact ⟨hstops, ⟨step, hstep, hnothing⟩, hagain⟩

/-- A run leaves the decision to the user although there is a method for an install that the policy
asks for. -/
theorem install_with_method_left_to_user :
    stackSample.Reachable ∧
      (Desk.run (.always (.ok ⟨"8.4", 0⟩)) () ⟨stackSample, .empty⟩).1 =
        .stopped (.awaitingUser 0) ∧
      (stackMissing.methods .corosync).isEmpty = false ∧
      ¬ ∀ s : Session, s.Reachable → s.policy.autoNext = true →
        ∀ (σ : Type) (remote : Remote σ) (memory : σ) g i,
          (Desk.run remote memory ⟨s, g⟩).1 = .stopped (.awaitingUser i) →
            let t := (Desk.run remote memory ⟨s, g⟩).2.2.2.session
            ∀ step, t.steps[i]? = some step → ∀ c, t.Eligible step c →
              (t.methods c).isEmpty = true := by
  have hsample : stackSample.Reachable := ⟨_, _, _, _, _, .refl⟩
  have hstops : (Desk.run (.always (.ok ⟨"8.4", 0⟩)) () ⟨stackSample, .empty⟩).1 =
      .stopped (.awaitingUser 0) := by decide +kernel
  have hmethod : (stackMissing.methods .corosync).isEmpty = false := by decide +kernel
  refine ⟨hsample, hstops, hmethod, fun hclaim => ?_⟩
  have hoffers : stackMissing.steps[0]?.map (·.offersInstall .corosync) = some true := by
    decide +kernel
  obtain ⟨step, hstep, hoffers⟩ := Option.map_eq_some_iff.mp hoffers
  have heligible : stackMissing.Eligible step .corosync :=
    ⟨by decide +kernel, by decide +kernel, hoffers, by decide +kernel⟩
  have hempty := hclaim stackSample hsample rfl Unit _ () .empty 0 hstops step hstep .corosync
    heligible
  rw [show (stackMissing.methods .corosync).isEmpty = true from hempty] at hmethod
  cases hmethod

end Session

end ClusterSetup

import ClusterSetup.Proofs.Session.Outstanding
import ClusterSetup.Proofs.Session.Progress
import ClusterSetup.Proofs.Step.Following

namespace ClusterSetup

namespace Session

/-- What settling makes of a session whose current step waits for results: the step is completed,
and the step after it, if there is one, is new and has fewer steps to follow. -/
structure Settled (s : Session) (step : Step) (t : Session) : Prop where
  current_eq : t.current = s.current
  policy_eq : t.policy = s.policy
  attempts_eq : t.attempts = s.attempts
  canceled_eq : t.canceled = s.canceled
  ended : ∃ step', t.steps[s.current]? = some step' ∧ step'.completed = true ∧
    (step'.next = none ∨ ∃ n fresh, step'.next = some n ∧ t.steps[n]? = some fresh ∧
      fresh.entered = false ∧
      fresh.kind.stepsAfter t.flags < step.kind.stepsAfter s.flags)

theorem Settled.after {s t u : Session} {step step' : Step} (h : Settled t step' u)
    (current_eq : t.current = s.current) (policy_eq : t.policy = s.policy)
    (attempts_eq : t.attempts = s.attempts) (canceled_eq : t.canceled = s.canceled)
    (stepsAfter_eq : step'.kind.stepsAfter t.flags = step.kind.stepsAfter s.flags) :
    Settled s step u where
  current_eq := h.current_eq.trans current_eq
  policy_eq := h.policy_eq.trans policy_eq
  attempts_eq := h.attempts_eq.trans attempts_eq
  canceled_eq := h.canceled_eq.trans canceled_eq
  ended := by
    rw [← current_eq, ← stepsAfter_eq]
    exact h.ended

theorem Settled.of_answered {s t u : Session} {step : Step} (hanswered : Answered s t)
    (h : Settled t step u) : Settled s step u := by
  rw [hanswered.same] at h
  exact h.after rfl rfl rfl rfl rfl

end Session

namespace Desk

open Session (Settled)

theorem settleFor_of_idle {σ : Type} (remote : Remote σ) (count : Nat) (memory : σ) {d : Desk}
    (h : d.session.currentStep.pending = []) :
    settleFor remote count memory d = (.arrived, memory, d) := by
  cases count with
  | zero => rfl
  | succ count => simp [settleFor, Step.hasPending, h]

theorem settleFor_of_waiting {σ : Type} (remote : Remote σ) (count : Nat) (memory : σ)
    {s : Session} (g : Guards) {step : Step} (hlive : s.canceled = false)
    (hstep : s.steps[s.current]? = some step) (hwaits : step.pending ≠ []) :
    settleFor remote (count + 1) memory ⟨s, g⟩ =
      match wait remote memory ⟨s, g⟩ with
      | (none, memory, d) => (.silent, memory, d)
      | (some _, memory, d) => settleFor remote count memory d := by
  have hgoes : (!s.canceled && s.currentStep.hasPending) = true := by
    simp [hlive, Session.currentStep_eq hstep, Step.hasPending, hwaits]
  rw [settleFor]
  exact if_pos hgoes

theorem settled_of_completed {s : Session} {g : Guards} (hvalid : s.Valid)
    (hlive : s.canceled = false) {step step' : Step} {f : Findings} {result : ActionResult}
    {rest : List ActionResult} (harrived : s.arrived = result :: rest)
    (hstep : s.steps[s.current]? = some step)
    (happlied : step.complete s.resources result.key result.outcome s.findings =
      ⟨step', f, true⟩) : Settled s step (completed s g result rest step' f).session := by
  have hid : s.current < s.steps.length := (List.getElem?_eq_some_iff.mp hstep).1
  obtain ⟨-, hpending⟩ := hvalid.expects hlive harrived hstep
  obtain ⟨hreads, hcompleted⟩ := hvalid.placed.reads hstep hpending happlied
  have hsound := hvalid.placed.arena.sound hstep
  have hundecided := hsound.undecided (hsound.not_completed (List.ne_nil_of_mem hpending))
  obtain ⟨-, hfewer⟩ := Step.complete_stepsAfter s.resources result.outcome s.findings hpending
    hsound.pending_sublist hundecided
  rw [happlied] at hfewer
  obtain ⟨next, hself, hnone, hsome⟩ := Session.getElem?_attach_self hid step'
  refine ⟨rfl, rfl, rfl, rfl, { step' with next := next }, hself, hcompleted, ?_⟩
  cases hkind : step'.nextKind with
  | none => exact .inl ((hnone hkind).trans hreads.next_eq)
  | some kind =>
      have hlinked : next = some s.steps.length := by
        apply hsome
        rw [hkind]
        exact Option.some_ne_none kind
      exact .inr ⟨_, _, hlinked, Session.getElem?_attach_length hid hkind, rfl, hfewer kind hkind⟩

theorem absorbed_stepsAfter {s : Session} (hvalid : s.Valid) {step step' : Step} {f : Findings}
    {key : ActionKey} {outcome : Outcome} (hstep : s.steps[s.current]? = some step)
    (hpending : key ∈ step.pending) (hreads : Session.Reads step s.findings key step' f)
    (happlied : step.complete s.resources key outcome s.findings = ⟨step', f, false⟩) :
    step'.pending ≠ [] ∧ step'.kind.stepsAfter f.flags = step.kind.stepsAfter s.flags := by
  obtain ⟨-, hcompleted⟩ := hvalid.placed.reads hstep hpending happlied
  have hrest : step.pending.erase key ≠ [] := by
    intro hnone
    rw [hreads.completed_iff.mpr hnone] at hcompleted
    cases hcompleted
  have hsound := hvalid.placed.arena.sound hstep
  have hundecided := hsound.undecided (hsound.not_completed (List.ne_nil_of_mem hpending))
  obtain ⟨hsame, -⟩ := Step.complete_stepsAfter s.resources outcome s.findings hpending
    hsound.pending_sublist hundecided
  rw [happlied] at hsame
  rw [hreads.pending_eq, hreads.same.kind_eq]
  exact ⟨hrest, hsame hrest⟩

theorem settled_of_read {s : Session} (g : Guards) (h : s.Valid) (hlive : s.canceled = false)
    {step : Step} (hstep : s.steps[s.current]? = some step) {result : ActionResult}
    {rest : List ActionResult} (harrived : s.arrived = result :: rest) {applied : Option StepId}
    {d : Desk} (hread : read? ⟨s, g⟩ = some (applied, d)) :
    d.session.Valid ∧
    ((∃ step', d.session.steps[d.session.current]? = some step' ∧ step'.pending ≠ [] ∧
        d.session.canceled = false ∧ d.session.inFlight = s.inFlight - 1 ∧
        ∀ t, Settled d.session step' t → Settled s step t) ∨
      d.session.currentStep.pending = [] ∧ Settled s step d.session) := by
  have hid : s.current < s.steps.length := (List.getElem?_eq_some_iff.mp hstep).1
  obtain ⟨-, hpending⟩ := h.expects hlive harrived hstep
  have hvalid : d.session.Valid := by
    have hchanges := readNext_changes g h
    rw [readNext, hread] at hchanges
    exact changes_valid hchanges h
  refine ⟨hvalid, ?_⟩
  obtain ⟨step', f, hreads, ⟨happlied, hread'⟩ | ⟨happlied, hread'⟩⟩ :=
    read?_of_live g h hlive harrived hstep
  · rw [hread, Option.some.injEq, Prod.mk.injEq] at hread'
    obtain ⟨-, rfl⟩ := hread'
    obtain ⟨hwaits, hsame⟩ := absorbed_stepsAfter h hstep hpending hreads happlied
    exact .inl ⟨step', List.getElem?_set_self hid, hwaits, hlive, rfl,
      fun t hsettled => hsettled.after rfl rfl rfl rfl hsame⟩
  · rw [hread, Option.some.injEq, Prod.mk.injEq] at hread'
    obtain ⟨-, rfl⟩ := hread'
    have hsettled := settled_of_completed (g := g) h hlive harrived hstep happlied
    obtain ⟨step'', hself, hdone, -⟩ := hsettled.ended
    refine .inr ⟨?_, hsettled⟩
    rw [Session.currentStep_eq hself]
    exact (hvalid.placed.arena.sound hself).idle hdone

/-- Settling ends with the current step completed, unless the remote side falls silent. -/
theorem settleFor_settles {σ : Type} (remote : Remote σ) {count : Nat} (memory : σ) {s : Session}
    (g : Guards) (h : s.Valid) (hlive : s.canceled = false) {step : Step}
    (hstep : s.steps[s.current]? = some step) (hwaits : step.pending ≠ [])
    (hcount : s.inFlight ≤ count) :
    (∃ memory' d, settleFor remote count memory ⟨s, g⟩ = (.silent, memory', d) ∧
      ¬ remote.Answers) ∨
    ∃ memory' d, settleFor remote count memory ⟨s, g⟩ = (.arrived, memory', d) ∧
      Settled s step d.session := by
  induction count generalizing memory s g step with
  | zero =>
      rw [h.inFlight_eq_pending hlive hstep] at hcount
      exact absurd hcount (Nat.not_le_of_gt (List.length_pos_iff.mpr hwaits))
  | succ count ih =>
      have hpos : 0 < s.inFlight := by
        rw [h.inFlight_eq_pending hlive hstep]
        exact List.length_pos_iff.mpr hwaits
      rw [settleFor_of_waiting remote count memory g hlive hstep hwaits]
      rcases wait_reads remote memory g h hpos with
        ⟨memory', t, heq, hsilent⟩ |
          ⟨memory', t, result, rest, applied, d, hanswered, harrived, hread, heq⟩
      · rw [heq]
        exact .inl ⟨memory', _, rfl, hsilent⟩
      rw [heq]
      dsimp only
      have hlive' : t.canceled = false := by rw [hanswered.same]; exact hlive
      have hstep' : t.steps[t.current]? = some step := by rw [hanswered.same]; exact hstep
      obtain ⟨hvalid, ⟨step', hself, hwaits', hlive'', hinFlight, hafter⟩ | ⟨hidle, hsettled⟩⟩ :=
        settled_of_read g (hanswered.valid h) hlive' hstep' harrived hread
      · -- One result less is in flight, so the turns that are left still suffice.
        have hcount' : d.session.inFlight ≤ count := by
          have hinFlight' : t.inFlight = s.inFlight := by rw [hanswered.same]
          omega
        rcases ih memory' d.guards hvalid hlive'' hself hwaits' hcount' with
          hsilent | ⟨memory'', d', heq', hsettled⟩
        · exact .inl hsilent
        · exact .inr ⟨memory'', d', heq', .of_answered hanswered (hafter _ hsettled)⟩
      · rw [settleFor_of_idle remote count memory' hidle]
        exact .inr ⟨memory', d, rfl, .of_answered hanswered hsettled⟩

end Desk

namespace Session

/-- A round of a run after which it goes on: a turn that leads on, or one that waits for results
which then arrive. Other sessions may have changed the guards before the round and during it. -/
inductive Round (s : Session) : Session → Prop
  | goesOn {g : Guards} {paused : Bool} {d : Desk} (turn : Desk.turn ⟨s, g⟩ = (.goOn paused, d)) :
      Round s d.session
  | settles {σ : Type} {remote : Remote σ} {g g' : Guards} {memory memory' : σ} {d : Desk}
      (turn : (Desk.turn ⟨s, g⟩).1 = .wait)
      (settle : Desk.settle remote memory ⟨s, g'⟩ = (.arrived, memory', d)) : Round s d.session

/-- However the rounds of a run go, there are fewer than so many of them. -/
def EndsIn : Nat → Session → Prop
  | 0, _ => False
  | count + 1, s => ∀ t, Round s t → EndsIn count t

/-- The rounds that a run can take from the current step on before it ends or starts an install. A
step that was not entered takes three, to be entered, completed and left. -/
def roundsToRest (s : Session) : Nat :=
  let step := s.currentStep
  if step.entered then
    if step.hasPending then 3 * step.kind.stepsAfter s.flags + 2
    else
      match step.next with
      | none => 0
      | some n =>
        let following := s.stepAt n
        if following.entered then s.steps.length - s.current + 13
        else 3 * following.kind.stepsAfter s.flags + 4
  else 3 * step.kind.stepsAfter s.flags + 3

def roundsLeft (s : Session) : Nat := 12 * Desk.installsLeft s + s.roundsToRest

theorem roundsLeft_lt_turnLimit (s : Session) : s.roundsLeft < Desk.turnLimit s := by
  have hrest : s.roundsToRest ≤ s.steps.length + 13 := by
    have hcurrent := s.currentStep.kind.stepsAfter_le s.flags
    rw [roundsToRest]
    dsimp only
    split
    · split
      · omega
      · split
        · omega
        · rename_i n _
          have hfollowing := (s.stepAt n).kind.stepsAfter_le s.flags
          split <;> omega
    · omega
  rw [roundsLeft, Desk.turnLimit]
  omega

section Rounds

variable {s : Session} {step : Step} (hstep : s.steps[s.current]? = some step)
include hstep

theorem roundsToRest_of_fresh (hfresh : step.entered = false) :
    s.roundsToRest = 3 * step.kind.stepsAfter s.flags + 3 := by
  simp [roundsToRest, currentStep_eq hstep, hfresh]

theorem roundsToRest_of_waiting (hentered : step.entered = true) (hwaits : step.pending ≠ []) :
    s.roundsToRest = 3 * step.kind.stepsAfter s.flags + 2 := by
  simp [roundsToRest, currentStep_eq hstep, hentered, Step.hasPending, hwaits]

theorem roundsToRest_of_unlinked (hentered : step.entered = true) (hnext : step.next = none) :
    s.roundsToRest ≤ 3 * step.kind.stepsAfter s.flags + 2 := by
  by_cases hwaits : step.pending = []
  · simp [roundsToRest, currentStep_eq hstep, hentered, Step.hasPending, hwaits, hnext]
  · exact Nat.le_of_eq (roundsToRest_of_waiting hstep hentered hwaits)

theorem roundsToRest_of_last (hentered : step.entered = true) (hidle : step.pending = [])
    (hnext : step.next = none) : s.roundsToRest = 0 := by
  simp [roundsToRest, currentStep_eq hstep, hentered, Step.hasPending, hidle, hnext]

theorem roundsToRest_of_linked (hentered : step.entered = true) (hidle : step.pending = [])
    {n : StepId} {u : Step} (hnext : step.next = some n) (hu : s.steps[n]? = some u) :
    s.roundsToRest = if u.entered then s.steps.length - s.current + 13
      else 3 * u.kind.stepsAfter s.flags + 4 := by
  simp [roundsToRest, currentStep_eq hstep, hentered, Step.hasPending, hidle, hnext, stepAt_eq hu]

end Rounds

theorem installsLeft_congr {s t : Session} (hpolicy : t.policy = s.policy)
    (hattempts : t.attempts = s.attempts) : Desk.installsLeft t = Desk.installsLeft s := by
  rw [Desk.installsLeft, Desk.installsLeft, hpolicy, hattempts]

theorem installsLeft_counted {s : Session} {c : Component} (hwanted : s.policy.installs c = true)
    (hleft : s.attempts.get c < s.policy.maxInstallAttempts) :
    Desk.installsLeft (s.counted c) + 1 = Desk.installsLeft s := by
  cases c with
  | drbd => simp [Desk.installsLeft, counted, Component.all, hwanted]; omega
  | heartbeat => simp [Desk.installsLeft, counted, Component.all, hwanted]; omega
  | corosync => simp [Desk.installsLeft, counted, Component.all, hwanted]; omega

theorem Reachable.entered_of_completed {s : Session} (h : Reachable s) (hlive : s.canceled = false)
    {i : StepId} {u : Step} (hu : s.steps[i]? = some u) (hcompleted : u.completed = true) :
    u.entered = true := by
  have hcoherent : u.kind.progress? u.state = some u.progress :=
    h.coherent hlive u (List.mem_of_getElem? hu)
  exact ((StepKind.completed_iff hcoherent).mp hcompleted).1

theorem Round.becomes {s t : Session} (hround : Round s t) : Becomes s t := by
  cases hround with
  | @goesOn g paused d turn =>
      refine ⟨g, d.guards, ?_⟩
      have hmove := Desk.Becomes.move .turn ⟨s, g⟩
      rw [Move.perform, turn] at hmove
      exact hmove
  | @settles σ remote g g' memory memory' d turn settle =>
      refine ⟨g', d.guards, ?_⟩
      have hsettle := Desk.Becomes.settle remote memory ⟨s, g'⟩
      rw [settle] at hsettle
      exact hsettle

theorem Round.reachable {s t : Session} (h : s.Reachable) (hround : Round s t) : t.Reachable :=
  h.later (.single hround.becomes)

theorem roundsToRest_go {s : Session} (h : s.Valid) (hactive : s.Active) {step : Step} {n : StepId}
    (hstep : s.steps[s.current]? = some step) (hentered : step.entered = true)
    (hcompleted : step.completed = true) (hnext : step.next = some n) :
    roundsToRest { s with steps := s.steps.set s.current step.proceed, current := n } <
      s.roundsToRest := by
  have hcurrent : s.current < s.steps.length := (List.getElem?_eq_some_iff.mp hstep).1
  have hidle := (h.placed.arena.sound hstep).idle hcompleted
  obtain ⟨hlt, u, hu, -, -⟩ := (h.placed.arena.linked hstep).follows n hnext
  have hidle' := (h.awaited hactive.live).waits.idle hu (Nat.ne_of_gt hlt)
  -- What lies ahead of the step that is left stays as it is.
  have hahead : ∀ {m : StepId} {v : Step}, s.current < m → s.steps[m]? = some v →
      (s.steps.set s.current step.proceed)[m]? = some v := by
    intro m v hm hv
    rw [List.getElem?_set_ne (Nat.ne_of_lt hm), hv]
  rw [roundsToRest_of_linked hstep hentered hidle hnext hu]
  cases hentered' : u.entered with
  | false =>
      rw [roundsToRest_of_fresh (hahead hlt hu) hentered']
      simp
  | true =>
      rw [if_pos rfl]
      rcases Option.eq_none_or_eq_some u.next with hnext' | ⟨m, hnext'⟩
      · rw [roundsToRest_of_last (hahead hlt hu) hentered' hidle' hnext']
        omega
      · obtain ⟨hlt', v, hv, -, -⟩ := (h.placed.arena.linked hu).follows m hnext'
        have hv' := hahead (Nat.lt_trans hlt hlt') hv
        rw [roundsToRest_of_linked (hahead hlt hu) hentered' hidle' hnext' hv']
        have hle := v.kind.stepsAfter_le s.flags
        have hfewer : s.steps.length - n < s.steps.length - s.current :=
          Nat.sub_lt_sub_left hcurrent hlt
        simp only [List.length_set]
        split <;> omega

section Entering

variable {s : Session} {g : Guards} {step : Step} {entered : Entered} {d : Desk}
  (h : Desk.Entering s g step entered d)
include h

theorem installsLeft_entering : Desk.installsLeft d.session = Desk.installsLeft s := by
  rw [h.session_eq]
  rfl

theorem roundsToRest_entering : d.session.roundsToRest ≤ 3 * step.kind.stepsAfter s.flags + 2 := by
  obtain ⟨hentered, hnext, hkind, -⟩ := h.entry.rerun
  have hcurrent := (List.getElem?_eq_some_iff.mp h.current).1
  rw [h.session_eq, ← hkind]
  exact roundsToRest_of_unlinked (List.getElem?_set_self hcurrent) hentered hnext

end Entering

theorem roundsToRest_settled {s t : Session} (hreachable : t.Reachable) (hlive : t.canceled = false)
    {step : Step} (h : Settled s step t) :
    t.roundsToRest < 3 * step.kind.stepsAfter s.flags + 2 := by
  obtain ⟨step', hself, hcompleted, hlink⟩ := h.ended
  rw [← h.current_eq] at hself
  have hentered := hreachable.entered_of_completed hlive hself hcompleted
  have hidle := (hreachable.valid.placed.arena.sound hself).idle hcompleted
  rcases hlink with hnone | ⟨n, u, hnext, hu, hfresh, hfewer⟩
  · rw [roundsToRest_of_last hself hentered hidle hnone]
    omega
  · rw [roundsToRest_of_linked hself hentered hidle hnext hu, hfresh]
    simp only [Bool.false_eq_true, if_false]
    omega

theorem Round.roundsLeft_lt {s t : Session} (h : s.Reachable) (hround : Round s t) :
    t.roundsLeft < s.roundsLeft := by
  have hreachable := hround.reachable h
  obtain ⟨step, hstep⟩ := h.valid.placed.current
  cases hround with
  | @goesOn g paused d turn =>
      have hturned := Desk.turn_spec g hstep
      rw [turn] at hturned
      cases hturned with
      | @enters entered outcome _ active fresh result settles entering =>
          rw [roundsLeft, roundsLeft, installsLeft_entering entering,
            roundsToRest_of_fresh hstep fresh]
          exact Nat.add_lt_add_left (Nat.lt_succ_of_le (roundsToRest_entering entering)) _
      | goes active entered completed next =>
          exact Nat.add_lt_add_left
            (roundsToRest_go h.valid active hstep entered completed next) _
      | @installs c method _ _ active entered last plans choosing =>
          -- The install that is used up makes up for the steps that it starts anew.
          have hused := installsLeft_counted plans.wanted plans.left
          obtain ⟨entered', entering⟩ := choosing.entering
          have hsame : Desk.installsLeft d.session = Desk.installsLeft (s.counted c) :=
            (installsLeft_entering entering).trans (installsLeft_congr rfl rfl)
          have hrest : d.session.roundsToRest ≤ 11 := roundsToRest_entering entering
          rw [roundsLeft, roundsLeft, hsame]
          omega
  | @settles σ remote g g' memory memory' d turn settle =>
      obtain ⟨-, active, entered, pending⟩ := Desk.waits_of_turn hstep (Prod.ext turn rfl)
      rcases Desk.settleFor_settles remote memory g' h.valid active.live hstep pending
        (Nat.le_refl _) with ⟨memory'', d', heq, -⟩ | ⟨memory'', d', heq, hsettled⟩
      · cases heq.symm.trans settle
      · cases heq.symm.trans settle
        rw [roundsLeft, roundsLeft, installsLeft_congr hsettled.policy_eq hsettled.attempts_eq,
          roundsToRest_of_waiting hstep entered pending]
        exact Nat.add_lt_add_left
          (roundsToRest_settled hreachable (hsettled.canceled_eq.trans active.live) hsettled) _

theorem EndsIn.of_roundsLeft {s : Session} {count : Nat} (h : s.Reachable)
    (hcount : s.roundsLeft < count) : s.EndsIn count := by
  induction count generalizing s with
  | zero => exact absurd hcount (Nat.not_lt_zero _)
  | succ count ih =>
      intro t hround
      have hfewer := hround.roundsLeft_lt h
      exact ih (hround.reachable h) (Nat.lt_of_lt_of_le hfewer (Nat.le_of_lt_succ hcount))

end Session

namespace Desk

/-- A run that is allowed as many turns as it has rounds does not use them up; it takes no more
turns if more are allowed, and stops for a reason if the remote side answers. -/
theorem runFor_ends {σ : Type} (remote : Remote σ) {fuel : Nat} (pauses : Nat) (memory : σ)
    {s : Session} (g : Guards) (h : s.Reachable) (hends : s.EndsIn fuel) :
    (runFor remote fuel pauses memory ⟨s, g⟩).1 ≠ .exhausted ∧
    (∀ more, fuel ≤ more →
      runFor remote more pauses memory ⟨s, g⟩ = runFor remote fuel pauses memory ⟨s, g⟩) ∧
    (remote.Answers → ∃ reason, (runFor remote fuel pauses memory ⟨s, g⟩).1 = .stopped reason) := by
  -- Each round, of a turn and what settles it, takes one of those that are left.
  induction fuel generalizing pauses memory s g with
  | zero => exact hends.elim
  | succ fuel ih =>
      obtain ⟨step, hstep⟩ := h.valid.placed.current
      have hmore : ∀ {more}, fuel + 1 ≤ more → ∃ less, more = less + 1 ∧ fuel ≤ less := by
        intro more hle
        exact ⟨more - 1, by omega, by omega⟩
      rcases hturn : turn ⟨s, g⟩ with ⟨result, d⟩
      cases result with
      | stop reason paused =>
          rw [runFor_of_stop hturn]
          refine ⟨by simp, ?_, fun _ => ⟨reason, rfl⟩⟩
          intro more hle
          obtain ⟨less, rfl, -⟩ := hmore hle
          exact runFor_of_stop hturn
      | goOn paused =>
          have hround : Session.Round s d.session := .goesOn hturn
          obtain ⟨hleft, hsame, hstops⟩ := ih (pauses + paused.toNat) memory d.guards
            (hround.reachable h) (hends _ hround)
          rw [runFor_of_goOn hturn]
          refine ⟨hleft, ?_, hstops⟩
          intro more hle
          obtain ⟨less, rfl, hless⟩ := hmore hle
          exact (runFor_of_goOn hturn).trans (hsame less hless)
      | wait =>
          obtain ⟨rfl, active, -, pending⟩ := waits_of_turn hstep hturn
          rcases settleFor_settles remote memory g h.valid active.live hstep pending
            (Nat.le_refl _) with ⟨memory', d, hsettle, hsilent⟩ | ⟨memory', d, hsettle, -⟩
          · rw [runFor_of_silent hturn hsettle]
            refine ⟨by simp, ?_, fun hremote => absurd hremote hsilent⟩
            intro more hle
            obtain ⟨less, rfl, -⟩ := hmore hle
            exact runFor_of_silent hturn hsettle
          · have hround : Session.Round s d.session :=
              .settles (g := g) (congrArg Prod.fst hturn) hsettle
            obtain ⟨hleft, hsame, hstops⟩ := ih pauses memory' d.guards
              (hround.reachable h) (hends _ hround)
            rw [runFor_of_settled hturn hsettle]
            refine ⟨hleft, ?_, hstops⟩
            intro more hle
            obtain ⟨less, rfl, hless⟩ := hmore hle
            exact (runFor_of_settled hturn hsettle).trans (hsame less hless)

end Desk

/-- A run ends, whatever its policy, the resources and the guards are, whatever lookups of the
address lead to and whatever the remote side answers: the number of its rounds is bounded
beforehand, so that the turns it is allowed are never used up, and with a remote side that answers
it stops for a reason. -/
theorem Session.run_terminates {s : Session} (h : s.Reachable) :
    s.EndsIn (Desk.turnLimit s) ∧
    ∀ (σ : Type) (remote : Remote σ) (memory : σ) (g : Guards),
      (Desk.run remote memory ⟨s, g⟩).1 ≠ .exhausted ∧
      (∀ fuel, Desk.turnLimit s ≤ fuel →
        Desk.runFor remote fuel 0 memory ⟨s, g⟩ = Desk.run remote memory ⟨s, g⟩) ∧
      (remote.Answers → ∃ reason, (Desk.run remote memory ⟨s, g⟩).1 = .stopped reason) := by
  have hends : s.EndsIn (Desk.turnLimit s) := .of_roundsLeft h s.roundsLeft_lt_turnLimit
  exact ⟨hends, fun σ remote memory g => Desk.runFor_ends remote 0 memory g h hends⟩

/-- A remote side that gives the same answer to every call, and finds the same by every lookup. It
replies to the action that was started first. -/
def Remote.always (answer : CallAnswer) (lookup : Lookup := .found ["10.0.0.1"]) : Remote Unit where
  answer _ running :=
    (running.head?.map fun action =>
      (0, .to (fun _ _ => lookup) (fun _ => answer) action.work.inquiry?), ())

theorem Remote.always_answers (answer : CallAnswer) (lookup : Lookup) :
    (always answer lookup).Answers := by
  intro _ running hrunning
  obtain ⟨action, rest, rfl⟩ := List.exists_cons_of_ne_nil hrunning
  exact ⟨0, action, _, (), rfl, rfl, Reply.to_isTo _ _ _⟩

theorem Session.run_terminates_sample :
    (Remote.always (.ok ⟨"8.4", 0⟩) .timedOut).Answers ∧ ∃ reason,
      (Desk.run (.always (.ok ⟨"8.4", 0⟩) .timedOut) () ⟨lackingPlayed 1, .empty⟩).1 =
        .stopped reason := by
  have hanswers : (Remote.always (.ok ⟨"8.4", 0⟩) .timedOut).Answers :=
    Remote.always_answers (.ok ⟨"8.4", 0⟩) .timedOut
  obtain ⟨-, hrun⟩ := run_terminates (lackingPlayed_reachable 1)
  exact ⟨hanswers, (hrun Unit _ () .empty).2.2 hanswers⟩

end ClusterSetup

import ClusterSetup.Proofs.Session.Histories

namespace ClusterSetup

/-- A remote side that replies to a running action as long as there is one. -/
def Remote.Answers {σ : Type} (remote : Remote σ) : Prop :=
  ∀ memory running, running ≠ [] → ∃ place action reply memory',
    remote.answer memory running = (some (place, reply), memory') ∧
      running[place]? = some action ∧ reply.IsTo action.work.inquiry?

namespace Session

theorem repliesLeft_set_lt {running : List RunningAction} {place : Nat} {a moved : RunningAction}
    (ha : running[place]? = some a) (hless : moved.work.repliesLeft < a.work.repliesLeft) :
    (running.set place moved).foldr (fun action left => action.work.repliesLeft + 1 + left) 0 <
      running.foldr (fun action left => action.work.repliesLeft + 1 + left) 0 := by
  induction running generalizing place with
  | nil => cases ha
  | cons b running ih =>
      cases place with
      | zero =>
          rw [List.getElem?_cons_zero, Option.some.injEq] at ha
          subst ha
          rw [List.set_cons_zero, List.foldr_cons, List.foldr_cons]
          omega
      | succ place =>
          rw [List.getElem?_cons_succ] at ha
          have hrest := ih ha
          rw [List.set_cons_succ, List.foldr_cons, List.foldr_cons]
          omega

theorem exists_advance? {s : Session} {place : Nat} {a : RunningAction} {reply : Reply}
    (ha : s.running[place]? = some a) (hreply : reply.IsTo a.work.inquiry?) :
    ∃ t, s.advance? place reply = some t := by
  obtain ⟨next, hnext⟩ := Work.exists_proceed? hreply
  simp only [advance?, ha, RunningAction.advance?, hnext, Option.bind_some, Option.map_some]
  cases a.movedTo next <;> exact ⟨_, rfl⟩

theorem advance?_repliesLeft {s t : Session} {place : Nat} {reply : Reply}
    (h : s.advance? place reply = some t) :
    t.arrived ≠ [] ∨ t.repliesLeft < s.repliesLeft := by
  cases Advances.of_advance? h with
  | runs at_place proceeds unsettled =>
      exact .inr (repliesLeft_set_lt at_place (proceeds.repliesLeft_lt unsettled))
  | arrives => exact .inl (by simp)

theorem awaitResultFor_answered {σ : Type} (remote : Remote σ) (fuel : Nat) (memory : σ)
    (s : Session) :
    Answered s (s.awaitResultFor remote fuel memory).2.2 ∧
      ((s.awaitResultFor remote fuel memory).1 = .arrived →
        (s.awaitResultFor remote fuel memory).2.2.arrived ≠ []) := by
  induction fuel generalizing memory s with
  | zero =>
      refine ⟨.refl s, ?_⟩
      rw [awaitResultFor]
      split
      · intro h
        cases h
      · rename_i hne
        intro _
        simpa using hne
  | succ fuel ih =>
      rw [awaitResultFor]
      split
      · split
        · refine ⟨.refl s, ?_⟩
          intro h
          cases h
        · split
          · refine ⟨.refl s, ?_⟩
            intro h
            cases h
          · rename_i place reply memory' _ _ t hadvance
            obtain ⟨hanswered, harrived⟩ := ih memory' t
            exact ⟨(advance?_answered hadvance).trans hanswered, harrived⟩
      · rename_i hne
        refine ⟨.refl s, ?_⟩
        intro _
        simpa using hne

theorem awaitResultFor_of_arrived {σ : Type} (remote : Remote σ) (fuel : Nat) (memory : σ)
    {s : Session} (h : s.arrived ≠ []) : (s.awaitResultFor remote fuel memory).1 = .arrived := by
  cases fuel <;> simp [awaitResultFor, h]

theorem awaitResultFor_arrived {σ : Type} {remote : Remote σ} (hremote : remote.Answers)
    {fuel : Nat} (memory : σ) {s : Session} (hfuel : s.repliesLeft ≤ fuel)
    (hne : s.charges ≠ []) : (s.awaitResultFor remote fuel memory).1 = .arrived := by
  induction fuel generalizing memory s with
  | zero =>
      have hrunning : s.running = [] := by
        cases hrunning : s.running with
        | nil => rfl
        | cons a running =>
            rw [repliesLeft, hrunning, List.foldr_cons] at hfuel
            omega
      have harrived : s.arrived ≠ [] := by
        intro hnone
        simp [charges, hrunning, hnone] at hne
      exact awaitResultFor_of_arrived remote 0 memory harrived
  | succ fuel ih =>
      rw [awaitResultFor]
      split
      · rename_i hempty
        have hrunning : s.running ≠ [] := by
          intro hnone
          rw [List.isEmpty_iff] at hempty
          simp [charges, hnone, hempty] at hne
        obtain ⟨place, action, reply, memory', hanswer, haction, hreply⟩ :=
          hremote memory s.running hrunning
        obtain ⟨t, hadvance⟩ := exists_advance? haction hreply
        rw [hanswer]
        dsimp only
        rw [hadvance]
        dsimp only
        have hcharges : t.charges ≠ [] := by
          intro hnone
          have hperm := (advance?_answered hadvance).charges_perm
          rw [hnone] at hperm
          exact hne hperm.nil_eq.symm
        rcases advance?_repliesLeft hadvance with harrived | hless
        · exact awaitResultFor_of_arrived remote fuel memory' harrived
        · exact ih memory' (Nat.le_of_lt_succ (Nat.lt_of_lt_of_le hless hfuel)) hcharges
      · rfl

theorem Answered.valid {s t : Session} (h : Answered s t) (hs : s.Valid) : t.Valid := by
  have steps_eq : t.steps = s.steps := by rw [h.same]
  have current_eq : t.current = s.current := by rw [h.same]
  have canceled_eq : t.canceled = s.canceled := by rw [h.same]
  have finished_eq : t.finished = s.finished := by rw [h.same]
  have inFlight_eq : t.inFlight = s.inFlight := by rw [h.same]
  have host_eq : t.host = s.host := by rw [h.same]
  refine ⟨hs.placed.keep steps_eq current_eq canceled_eq finished_eq, ⟨?_, ?_⟩, ?_⟩
  · rw [inFlight_eq, hs.accounted.inFlight_eq, h.charges_perm.length_eq]
  · intro charge hcharge
    rw [host_eq]
    exact hs.accounted.guarded charge (h.charges_perm.subset hcharge)
  · intro hlive
    rw [canceled_eq] at hlive
    exact (hs.awaited hlive).keep steps_eq current_eq h.charges_perm

/-- The result of an action is read by a session, and is applied to its current step, which waited
for it. -/
structure AppliesTo (s : Session) (key : ActionKey) (outcome : Outcome) (t : Session) : Prop where
  current_eq : t.current = s.current
  inFlight_eq : t.inFlight + 1 = s.inFlight
  applied : ∃ step step', s.steps[s.current]? = some step ∧ key ∈ step.pending ∧
    t.steps[s.current]? = some step' ∧ step'.pending = step.pending.erase key ∧
    step' = { (step.complete s.resources key outcome s.findings).step with next := step'.next } ∧
    t.findings = (step.complete s.resources key outcome s.findings).findings

theorem AppliesTo.of_answered {s t u : Session} {key : ActionKey} {outcome : Outcome}
    (h : Answered s t) (happlies : AppliesTo t key outcome u) : AppliesTo s key outcome u := by
  have steps_eq : t.steps = s.steps := by rw [h.same]
  have current_eq : t.current = s.current := by rw [h.same]
  have inFlight_eq : t.inFlight = s.inFlight := by rw [h.same]
  have resources_eq : t.resources = s.resources := by rw [h.same]
  have findings_eq : t.findings = s.findings := by rw [h.same]; rfl
  have happlied := happlies.applied
  rw [steps_eq, current_eq, resources_eq, findings_eq] at happlied
  exact ⟨happlies.current_eq.trans current_eq, happlies.inFlight_eq.trans inFlight_eq, happlied⟩

theorem Valid.inFlight_eq_pending {s : Session} (h : s.Valid) (hlive : s.canceled = false)
    {step : Step} (hstep : s.steps[s.current]? = some step) :
    s.inFlight = step.pending.length := by
  have hlength := ((h.awaited hlive).outstanding_perm hstep).length_eq
  rw [outstanding, List.length_map, Step.tickets, List.length_map] at hlength
  rw [h.accounted.inFlight_eq, hlength]

theorem Accounted.inFlight_pos {s : Session} (h : s.Accounted) (harrived : s.arrived ≠ []) :
    0 < s.inFlight := by
  rw [h.inFlight_eq, charges, List.length_append, List.length_map, List.length_map]
  exact Nat.add_pos_right _ (List.length_pos_iff.mpr harrived)

end Session

namespace Desk

open Session (AppliesTo)

theorem read?_applies {s : Session} (g : Guards) (h : s.Valid) (hlive : s.canceled = false)
    {result : ActionResult} {rest : List ActionResult} (harrived : s.arrived = result :: rest) :
    ∃ d, read? ⟨s, g⟩ = some (some s.current, d) ∧
      AppliesTo s result.key result.outcome d.session := by
  obtain ⟨step, hstep⟩ := h.placed.current
  have hid : s.current < s.steps.length := (List.getElem?_eq_some_iff.mp hstep).1
  obtain ⟨-, hpending⟩ := h.expects hlive harrived hstep
  have hpos : 0 < s.inFlight := by
    refine h.accounted.inFlight_pos ?_
    rw [harrived]
    exact List.cons_ne_nil _ _
  have hcount : s.inFlight - 1 + 1 = s.inFlight := Nat.succ_pred_eq_of_pos hpos
  obtain ⟨step', f, hreads, ⟨happlied, hread⟩ | ⟨happlied, hread⟩⟩ :=
    read?_of_live g h hlive harrived hstep
  · refine ⟨_, hread, rfl, hcount, step, step', hstep, hpending, ?_, hreads.pending_eq, ?_, ?_⟩
    · exact List.getElem?_set_self hid
    · rw [happlied]
    · rw [happlied]
      rfl
  · obtain ⟨next, hself, -⟩ := Session.getElem?_attach_self hid step'
    refine ⟨_, hread, rfl, hcount, step, { step' with next := next }, hstep, hpending, hself,
      hreads.pending_eq, ?_, ?_⟩
    · rw [happlied]
    · rw [happlied]
      rfl

theorem wait_reads {σ : Type} (remote : Remote σ) (memory : σ) {s : Session} (g : Guards)
    (h : s.Valid) (hpos : 0 < s.inFlight) :
    (∃ memory' t, wait remote memory ⟨s, g⟩ = (none, memory', ⟨t, g⟩) ∧ ¬ remote.Answers) ∨
    ∃ memory' t result rest applied d, Session.Answered s t ∧ t.arrived = result :: rest ∧
      read? ⟨t, g⟩ = some (applied, d) ∧
      wait remote memory ⟨s, g⟩ = (some applied, memory', d) := by
  have hcharges : s.charges ≠ [] := by
    rw [h.accounted.inFlight_eq] at hpos
    exact List.ne_nil_of_length_pos hpos
  obtain ⟨hanswered, harrived⟩ := Session.awaitResultFor_answered remote s.repliesLeft memory s
  rw [wait, if_neg (Nat.ne_of_gt hpos)]
  split
  · rename_i memory' t heq
    refine .inl ⟨memory', t, rfl, ?_⟩
    intro hremote
    have hresult := Session.awaitResultFor_arrived hremote memory (Nat.le_refl _) hcharges
    rw [← Session.awaitResult, heq] at hresult
    cases hresult
  · rename_i memory' t heq
    rw [← Session.awaitResult, heq] at hanswered harrived
    dsimp only at hanswered harrived
    cases hresults : t.arrived with
    | nil => exact absurd hresults (harrived rfl)
    | cons result rest =>
        have hread := read?_of_arrived g hresults
        right
        dsimp only
        rw [hread]
        exact ⟨memory', t, result, rest, _, _, hanswered, hresults, hread, rfl⟩

/-- Waiting reads a result for the current step, unless the remote side falls silent. -/
theorem wait_applies {σ : Type} (remote : Remote σ) (memory : σ) {s : Session} (g : Guards)
    (h : s.Valid) (hlive : s.canceled = false) (hpos : 0 < s.inFlight) :
    (wait remote memory ⟨s, g⟩).1 = none ∧ ¬ remote.Answers ∨
      (wait remote memory ⟨s, g⟩).1 = some (some s.current) ∧
        ∃ key outcome, AppliesTo s key outcome (wait remote memory ⟨s, g⟩).2.2.session := by
  rcases wait_reads remote memory g h hpos with
    ⟨memory', t, heq, hsilent⟩ |
    ⟨memory', t, result, rest, applied, d, hanswered, harrived, hread, heq⟩
  · rw [heq]
    exact .inl ⟨rfl, hsilent⟩
  · have hlive' : t.canceled = false := by
      rw [hanswered.same]
      exact hlive
    have hcurrent : t.current = s.current := by rw [hanswered.same]
    obtain ⟨d', hread', happlies⟩ := read?_applies g (hanswered.valid h) hlive' harrived
    rw [hread, Option.some.injEq, Prod.mk.injEq, hcurrent] at hread'
    obtain ⟨rfl, rfl⟩ := hread'
    rw [heq]
    exact .inr ⟨rfl, result.key, result.outcome, happlies.of_answered hanswered⟩

end Desk

/-- The results that a session waits for are those of the actions that are outstanding. Each one
that is read counts, and goes to the current step unless the session was canceled; waiting for one
ends with any remote side that answers. -/
theorem Session.outstanding_exactly_awaited {s : Session} (h : s.Reachable) :
    s.inFlight = s.outstanding.length ∧ (s.arrived ≠ [] → 0 < s.inFlight) ∧
    (s.canceled = false → ∃ step, s.steps[s.current]? = some step ∧
      (∀ i u, s.steps[i]? = some u → i ≠ s.current → u.pending = []) ∧
      step.pending.Nodup ∧
      s.outstanding.Perm (step.pending.map (⟨s.current, step.generation, ·⟩)) ∧
      s.inFlight = step.pending.length ∧
      (∀ g result rest, s.arrived = result :: rest → result.key ∈ step.pending ∧
        ∃ d, Desk.read? ⟨s, g⟩ = some (some s.current, d) ∧
          s.AppliesTo result.key result.outcome d.session) ∧
      ∀ (σ : Type) (remote : Remote σ) (memory : σ) (g : Guards),
        (s.inFlight = 0 → Desk.wait remote memory ⟨s, g⟩ = (some none, memory, ⟨s, g⟩)) ∧
        (0 < s.inFlight → s.outstanding ≠ [] ∧
          ((Desk.wait remote memory ⟨s, g⟩).1 = none ∧ ¬ remote.Answers ∨
            (Desk.wait remote memory ⟨s, g⟩).1 = some (some s.current) ∧
              ∃ key outcome,
                s.AppliesTo key outcome (Desk.wait remote memory ⟨s, g⟩).2.2.session))) := by
  have hvalid := h.valid
  have hcount : s.inFlight = s.outstanding.length := by
    rw [hvalid.accounted.inFlight_eq, outstanding, List.length_map]
  refine ⟨hcount, hvalid.accounted.inFlight_pos, ?_⟩
  intro hlive
  have hawaited := hvalid.awaited hlive
  obtain ⟨step, hstep⟩ := hvalid.placed.current
  have hperm := hawaited.outstanding_perm hstep
  rw [Step.tickets, hvalid.placed.arena.id_eq hstep] at hperm
  refine ⟨step, hstep, fun i u => hawaited.waits.idle,
    (hvalid.placed.arena.sound hstep).pending_nodup, hperm, ?_, ?_, ?_⟩
  · exact hvalid.inFlight_eq_pending hlive hstep
  · intro g result rest harrived
    exact ⟨(hvalid.expects hlive harrived hstep).2, Desk.read?_applies g hvalid hlive harrived⟩
  · intro σ remote memory g
    constructor
    · intro hzero
      rw [Desk.wait, if_pos hzero]
    · intro hpos
      refine ⟨?_, Desk.wait_applies remote memory g hvalid hlive hpos⟩
      rw [hcount] at hpos
      exact List.ne_nil_of_length_pos hpos

theorem Session.outstanding_exactly_awaited_sample :
    (samplePlayed 1).outstanding.Perm
      [⟨0, 1, .probe .storage⟩, ⟨0, 1, .probe .clusterStack⟩] ∧
    (samplePlayed 1).canceled = false ∧ (samplePlayed 1).inFlight = 2 := by
  obtain ⟨hcount, -, hlive⟩ := outstanding_exactly_awaited (samplePlayed_reachable 1)
  have hcanceled : (samplePlayed 1).canceled = false := by decide +kernel
  obtain ⟨step, hstep, -, -, hperm, -⟩ := hlive hcanceled
  have hwaiting : (samplePlayed 1).steps[(samplePlayed 1).current]?.map
      (fun step => step.pending.map (⟨0, step.generation, ·⟩ : ActionKey → Ticket)) =
      some [⟨0, 1, .probe .storage⟩, ⟨0, 1, .probe .clusterStack⟩] := by decide +kernel
  have hcurrent : (samplePlayed 1).current = 0 := by decide +kernel
  rw [hstep, Option.map_some, Option.some.injEq] at hwaiting
  rw [hcurrent, hwaiting] at hperm
  refine ⟨hperm, hcanceled, ?_⟩
  rw [hcount, hperm.length_eq]
  rfl

end ClusterSetup

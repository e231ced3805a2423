import ClusterSetup.Proofs.Session.Histories

namespace ClusterSetup

open Relation (ReflTransGen)

namespace Session

/-- A step was made for an earlier one, to which one goes back from it. -/
def CameFrom (steps : List Step) (i p : StepId) : Prop :=
  ∃ s, steps[i]? = some s ∧ s.previous = some p

theorem OnPath.of_cameFrom {steps : List Step} (h : Arena steps) {i p : StepId}
    (hpath : OnPath steps i) (hback : ReflTransGen (CameFrom steps) i p) : OnPath steps p := by
  induction hback with
  | refl => exact hpath
  | tail _ hcame ih =>
      obtain ⟨s, hs, hprevious⟩ := hcame
      exact (ih.previous h hs hprevious).1

theorem cameFrom_first {steps : List Step} (h : Arena steps) {i : StepId} {s : Step}
    (hs : steps[i]? = some s) : ReflTransGen (CameFrom steps) i 0 := by
  induction i using Nat.strongRecOn generalizing s with
  | ind i ih =>
      rcases Option.eq_none_or_eq_some s.previous with hnone | ⟨p, hp⟩
      · obtain rfl := (h.first_iff hs).mp hnone
        exact .refl
      · have hlt := h.previous_lt hs hp
        have hbound : p < steps.length :=
          Nat.lt_trans hlt (List.getElem?_eq_some_iff.mp hs).1
        exact .head ⟨s, hs, hp⟩ (ih p hlt (List.getElem?_eq_getElem hbound))

theorem LeadsTo.completed {steps : List Step} (h : Arena steps) {i n : StepId}
    (hlead : LeadsTo steps i n) :
    ∃ s, steps[i]? = some s ∧ s.completed = true ∧ s.next = some n := by
  obtain ⟨s, hs, hn⟩ := hlead
  obtain ⟨-, t, -, -, hkind⟩ := (h.linked hs).follows n hn
  have hdecided : s.nextKind ≠ none := by
    rw [hkind]
    exact Option.some_ne_none t.kind
  exact ⟨s, hs, (h.sound hs).decided hdecided, hn⟩

end Session

namespace Desk

/-- An operation of which the refusals never speak of a step that the session does not have. -/
def KnowsSteps {α : Type} (operation : Operation α) (d : Desk) : Prop :=
  ∀ id, (operation d).1 ≠ .error (.unknownStep id)

theorem Atomic.knowsSteps {α : Type} {operation : Operation α} {reasons : Refusal → Prop}
    {s : Session} {g : Guards} (h : Atomic operation (OverOr s reasons) ⟨s, g⟩)
    (hreasons : ∀ id, ¬ reasons (.unknownStep id)) : KnowsSteps operation ⟨s, g⟩ := by
  intro id hid
  exact hreasons id ((h.of_error hid).1.resolve nofun nofun).2

/-- Going on and going back undo each other, and going back as far as one can leads to the first
step. -/
structure RetracesPath (d : Desk) : Prop where
  back_of_next : ∀ n d', next d = (.ok n, d') → d'.session.current = n ∧
    ∃ d'', previous d' = (.ok (some d.session.current), d'') ∧
      d''.session.current = d.session.current
  next_of_back : ∀ p d', previous d = (.ok (some p), d') → d'.session.current = p ∧
    ∃ d'', next d' = (.ok d.session.current, d'') ∧ d''.session.current = d.session.current
  first_of_back : d.session.currentStep.hasPending = false → ∃ count ≤ d.session.current,
    d.performAll (List.replicate count .previous) =
      { d with session := { d.session with current := 0 } } ∧
    previous { d with session := { d.session with current := 0 } } =
      (.ok none, { d with session := { d.session with current := 0 } })

theorem next_eq_ok {s : Session} {g : Guards} {step : Step} {n : StepId} {d : Desk}
    (hactive : s.Active) (hstep : s.steps[s.current]? = some step)
    (h : next ⟨s, g⟩ = (.ok n, d)) : step.completed = true ∧ step.next = some n ∧
      d = ⟨{ s with steps := s.steps.set s.current step.proceed, current := n }, g⟩ := by
  rcases next_spec g hactive hstep with ⟨e, -, heq⟩ | ⟨m, hcompleted, hnext, heq⟩
  · rw [heq] at h
    cases h
  · rw [heq] at h
    cases h
    exact ⟨hcompleted, hnext, rfl⟩

theorem previous_eq_ok {s : Session} {g : Guards} {step : Step} {p : StepId} {d : Desk}
    (hactive : s.Active) (hstep : s.steps[s.current]? = some step)
    (h : previous ⟨s, g⟩ = (.ok (some p), d)) :
    step.pending = [] ∧ step.previous = some p ∧ d = ⟨{ s with current := p }, g⟩ := by
  by_cases hidle : step.pending = []
  · rcases Option.eq_none_or_eq_some step.previous with hprevious | ⟨q, hprevious⟩
    · rw [previous_of_first hactive hstep hidle hprevious] at h
      cases h
    · rw [previous_of_idle hactive hstep hidle hprevious] at h
      cases h
      exact ⟨hidle, hprevious, rfl⟩
  · rw [previous_of_pending hactive hstep hidle] at h
    cases h

variable {s : Session}

theorem back_of_next (g : Guards) (h : s.Valid) (hactive : s.Active) {n : StepId} {d : Desk}
    (hnext : next ⟨s, g⟩ = (.ok n, d)) :
    d.session.current = n ∧ ∃ d', previous d = (.ok (some s.current), d') ∧
      d'.session.current = s.current := by
  obtain ⟨step, hstep⟩ := h.placed.current
  obtain ⟨-, hn, rfl⟩ := next_eq_ok hactive hstep hnext
  obtain ⟨hlt, t, ht, hprevious, -⟩ := (h.placed.arena.linked hstep).follows n hn
  have hidle := (h.awaited hactive.live).waits.idle ht (Nat.ne_of_gt hlt)
  have ht' : (s.steps.set s.current step.proceed)[n]? = some t := by
    rw [List.getElem?_set_ne (Nat.ne_of_lt hlt), ht]
  exact ⟨rfl, _, previous_of_idle ⟨hactive.live, hactive.open_⟩ ht' hidle hprevious, rfl⟩

theorem next_of_back (g : Guards) (h : s.Valid) (hactive : s.Active) {p : StepId} {d : Desk}
    (hback : previous ⟨s, g⟩ = (.ok (some p), d)) :
    d.session.current = p ∧ ∃ d', next d = (.ok s.current, d') ∧
      d'.session.current = s.current := by
  obtain ⟨step, hstep⟩ := h.placed.current
  obtain ⟨-, hprevious, rfl⟩ := previous_eq_ok hactive hstep hback
  obtain ⟨-, hlead⟩ := h.placed.onPath.previous h.placed.arena hstep hprevious
  obtain ⟨t, ht, hcompleted, hn⟩ := hlead.completed h.placed.arena
  exact ⟨rfl, _, next_of_linked ⟨hactive.live, hactive.open_⟩ ht hcompleted hn, rfl⟩

theorem first_of_back (g : Guards) (h : s.Valid) (hactive : s.Active) {step : Step}
    (hstep : s.steps[s.current]? = some step) (hidle : step.pending = []) :
    ∃ count ≤ s.current,
      performAll ⟨s, g⟩ (List.replicate count .previous) = ⟨{ s with current := 0 }, g⟩ ∧
      previous ⟨{ s with current := 0 }, g⟩ = (.ok none, ⟨{ s with current := 0 }, g⟩) := by
  generalize hi : s.current = i
  induction i using Nat.strongRecOn generalizing s step with
  | ind i ih =>
      rcases Option.eq_none_or_eq_some step.previous with hnone | ⟨p, hp⟩
      · obtain rfl := ((h.placed.arena.first_iff hstep).mp hnone).symm.trans hi
        have hsame : { s with current := 0 } = s := by rw [← hi]
        refine ⟨0, Nat.le_refl 0, ?_, ?_⟩
        · rw [hsame]
          rfl
        · rw [hsame]
          exact previous_of_first hactive hstep hidle hnone
      · have hback := previous_of_idle (g := g) hactive hstep hidle hp
        have hlt : p < i := hi ▸ h.placed.arena.previous_lt hstep hp
        have hvalid : Session.Valid { s with current := p } :=
          (Change.back (g := g) hactive hstep hidle hp).valid h
        obtain ⟨t, ht⟩ := hvalid.placed.current
        have hidle' := (h.awaited hactive.live).waits.all_idle hstep hidle ht
        obtain ⟨count, hcount, hperform, hfirst⟩ := ih p hlt hvalid
          ⟨hactive.live, hactive.open_⟩ ht hidle' rfl
        refine ⟨count + 1, Nat.succ_le_of_lt (Nat.lt_of_le_of_lt hcount hlt), ?_, hfirst⟩
        rw [List.replicate_succ, performAll, List.foldl_cons, Move.perform, hback]
        exact hperform

end Desk

namespace Session

/-- The steps that a session looks up are its own: the current one, those that its steps lead to
and came from, and those that outstanding results are for. -/
structure LooksUpOwnSteps (s : Session) : Prop where
  current : s.current < s.steps.length
  links : ∀ step ∈ s.steps, (∀ n, step.next = some n → n < s.steps.length) ∧
    ∀ p, step.previous = some p → p < s.steps.length
  outstanding : s.canceled = false → ∀ t ∈ s.outstanding, t.step < s.steps.length
  enter : ∀ g, Desk.KnowsSteps Desk.enter ⟨s, g⟩
  retry : ∀ g, Desk.KnowsSteps Desk.retry ⟨s, g⟩
  chooseInstall : ∀ c method g, Desk.KnowsSteps (Desk.chooseInstall c method) ⟨s, g⟩
  setCredentials : ∀ credentials g, Desk.KnowsSteps (Desk.setCredentials credentials) ⟨s, g⟩

theorem Valid.looksUpOwnSteps {s : Session} (h : s.Valid) : s.LooksUpOwnSteps := by
  have harena := h.placed.arena
  obtain ⟨step, hstep⟩ := h.placed.current
  have hid : s.current < s.steps.length := (List.getElem?_eq_some_iff.mp hstep).1
  refine ⟨hid, ?_, ?_, ?_, ?_, ?_, ?_⟩
  · intro u hu
    obtain ⟨i, hi, rfl⟩ := List.getElem_of_mem hu
    have hget : s.steps[i]? = some s.steps[i] := List.getElem?_eq_getElem hi
    constructor
    · intro n hn
      obtain ⟨-, t, ht, -⟩ := (harena.linked hget).follows n hn
      exact (List.getElem?_eq_some_iff.mp ht).1
    · intro p hp
      exact Nat.lt_trans (harena.previous_lt hget hp) hi
  · intro hlive t ht
    have hticket := ((h.awaited hlive).outstanding_perm hstep).subset ht
    obtain ⟨key, -, rfl⟩ := List.mem_map.mp hticket
    rw [harena.id_eq hstep]
    exact hid
  · intro g
    exact (Desk.enter_atomic hstep).knowsSteps Step.EntryRefusal.not_unknownStep
  · intro g
    refine (Desk.retry_atomic hstep).knowsSteps ?_
    rintro id ⟨⟩
    rename_i hreason
    exact Step.EntryRefusal.not_unknownStep id (hreason.resolve nofun nofun).2
  · intro c method g
    exact (Desk.chooseInstall_atomic c method hstep).knowsSteps nofun
  · intro credentials g id hid
    rcases Desk.setCredentials_spec (g := g) credentials hstep with
      ⟨e, hreason, heq⟩ | ⟨outcome, d, heq, -⟩
    · rw [heq] at hid
      cases hid
      exact Step.EntryRefusal.not_unknownStep id (hreason.resolve nofun nofun).2
    · rw [heq] at hid
      cases hid

/-- The steps of a session lead forward and back in order. From the current step back to the first
one each step is completed and leads to the one after it, no step is looked up that is not there,
and in an active session going on and going back undo each other. -/
theorem navigation_retraces_path {s : Session} (h : s.Reachable) :
    (∀ i step, s.steps[i]? = some step → step.id = i ∧ (step.previous = none ↔ i = 0) ∧
      (∀ p, step.previous = some p → p < i) ∧
      ∀ n, step.next = some n → i < n ∧
        ∃ t, s.steps[n]? = some t ∧ t.previous = some i ∧ step.nextKind = some t.kind) ∧
    ReflTransGen (CameFrom s.steps) s.current 0 ∧
    (∀ i p, ReflTransGen (CameFrom s.steps) s.current i → CameFrom s.steps i p →
      ∃ step, s.steps[p]? = some step ∧ step.completed = true ∧ step.next = some i) ∧
    s.LooksUpOwnSteps ∧ (s.Active → ∀ g, Desk.RetracesPath ⟨s, g⟩) := by
  have hvalid := h.valid
  have harena := hvalid.placed.arena
  obtain ⟨current, hcurrent⟩ := hvalid.placed.current
  refine ⟨?_, cameFrom_first harena hcurrent, ?_, hvalid.looksUpOwnSteps, ?_⟩
  · intro i step hstep
    exact ⟨harena.id_eq hstep, harena.first_iff hstep, fun p => harena.previous_lt hstep,
      (harena.linked hstep).follows⟩
  · rintro i p hback ⟨t, ht, hprevious⟩
    have hpath := hvalid.placed.onPath.of_cameFrom harena hback
    exact (hpath.previous harena ht hprevious).2.completed harena
  · intro hactive g
    refine ⟨fun n d => Desk.back_of_next g hvalid hactive,
      fun p d => Desk.next_of_back g hvalid hactive, ?_⟩
    intro hpending
    rw [currentStep_eq hcurrent] at hpending
    have hidle : current.pending = [] := by simpa [Step.hasPending] using hpending
    exact Desk.first_of_back g hvalid hactive hcurrent hidle

theorem navigation_retraces_path_sample :
    (samplePlayed 6).Active ∧ (samplePlayed 6).current = 1 ∧
      ∃ d d', Desk.previous ⟨samplePlayed 6, .empty⟩ = (.ok (some 0), d) ∧
        d.session.current = 0 ∧ Desk.next d = (.ok 1, d') ∧ d'.session.current = 1 := by
  have hactive : (samplePlayed 6).Active := ⟨by decide, by decide⟩
  have hcurrent : (samplePlayed 6).current = 1 := by decide
  have hback : (Desk.previous ⟨samplePlayed 6, .empty⟩).1 = .ok (some 0) := by decide
  obtain ⟨-, -, -, -, hretraces⟩ := navigation_retraces_path (samplePlayed_reachable 6)
  obtain ⟨hplace, d', hnext, hreturned⟩ :=
    (hretraces hactive .empty).next_of_back 0 _ (Prod.ext hback rfl)
  rw [hcurrent] at hnext hreturned
  exact ⟨hactive, hcurrent, _, d', Prod.ext hback rfl, hplace, hnext, hreturned⟩

end Session

end ClusterSetup

import ClusterSetup.Proofs.Session.Resting

namespace ClusterSetup

namespace Session

/-- An install waits for credentials since an earlier moment, and was not entered since. -/
def LeftWaiting (s t : Session) (i : StepId) : Prop :=
  ∃ u u', s.steps[i]? = some u ∧ t.steps[i]? = some u' ∧ u.AwaitsCredentials ∧
    u'.AwaitsCredentials ∧ u'.generation = u.generation

theorem LeftWaiting.trans {s t t' : Session} {i : StepId} (h : s.LeftWaiting t i)
    (h' : t.LeftWaiting t' i) : s.LeftWaiting t' i := by
  obtain ⟨u, v, hu, hv, hawaits, -, hgeneration⟩ := h
  obtain ⟨v', w, hv', hw, -, hawaits', hgeneration'⟩ := h'
  rw [hv, Option.some.injEq] at hv'
  subst hv'
  exact ⟨u, w, hu, hw, hawaits, hawaits', hgeneration'.trans hgeneration⟩

/-- Whatever waits for credentials was left waiting for them before. -/
def NoneWaitsAnew (s t : Session) : Prop :=
  ∀ (i : StepId) (u' : Step), t.steps[i]? = some u' → u'.AwaitsCredentials → s.LeftWaiting t i

theorem NoneWaitsAnew.of_kept {s t : Session}
    (h : ∀ (i : StepId) (u' : Step), t.steps[i]? = some u' → u'.AwaitsCredentials →
      ∃ u, s.steps[i]? = some u ∧ u.SameRun u') : s.NoneWaitsAnew t := by
  intro i u' hu' hawaits
  obtain ⟨u, hu, hsame⟩ := h i u' hu' hawaits
  exact ⟨u, u', hu, hu', hsame.awaits hawaits, hawaits, hsame.generation_eq⟩

end Session

namespace Desk

theorem Entering.getElem?_of_awaits {t : Session} {g : Guards} {step : Step} {entered : Entered}
    {d : Desk} (h : Entering t g step entered d) (hheld : t.credentials ≠ none) {i : StepId}
    {u' : Step} (hu' : d.session.steps[i]? = some u') (hawaits : u'.AwaitsCredentials) :
    t.steps[i]? = some u' := by
  rw [h.session_eq] at hu'
  rcases getElem?_set_cases hu' with ⟨-, rfl⟩ | ⟨-, hold⟩
  · exact absurd hawaits (h.entry.not_awaiting hheld).2
  · exact hold

theorem Choosing.getElem?_of_awaits {t : Session} {g : Guards} {step : Step} {c : Component}
    {n : Nat} {d : Desk} (h : Choosing t g step c n d) (hheld : t.credentials ≠ none) {i : StepId}
    {u' : Step} (hu' : d.session.steps[i]? = some u') (hawaits : u'.AwaitsCredentials) :
    t.steps[i]? = some u' := by
  obtain ⟨entered, entering⟩ := h.entering
  have hmade : (Session.attach t.steps t.current (step.chosen c n))[i]? = some u' :=
    entering.getElem?_of_awaits hheld hu' hawaits
  rcases Session.getElem?_attach_cases hmade with ⟨-, next, rfl⟩ | ⟨-, hold⟩ | ⟨-, kind, -, rfl⟩
  · have hcompleted : step.completed = true := completed_of_offersInstall h.offers
    have hopen : step.completed = false := hawaits.open_
    rw [hcompleted] at hopen
    cases hopen
  · exact hold
  · cases hawaits.entered

/-- Credentials that are held are kept or replaced, and no move makes a step wait for them. -/
theorem Occasion.none_waits_anew {s : Session} {g : Guards} {m : Move} {d : Desk}
    (h : Occasion s g m d) (hheld : s.credentials ≠ none) :
    d.session.credentials ≠ none ∧ s.NoneWaitsAnew d.session := by
  cases h with
  | nothing runs _ credentials _ =>
      refine ⟨credentials hheld, .of_kept fun i u' hu' hawaits => ?_⟩
      rcases Nat.lt_or_ge i s.steps.length with hi | hi
      · obtain ⟨v, hv, hsame⟩ := runs.kept (List.getElem?_eq_getElem hi)
        rw [hu', Option.some.injEq] at hv
        subst hv
        exact ⟨_, List.getElem?_eq_getElem hi, hsame⟩
      · have hfresh := runs.made hu' hi
        rw [hawaits.entered] at hfresh
        cases hfresh
  | requested _ entering =>
      refine ⟨by rw [entering.session_eq]; exact hheld, .of_kept fun i u' hu' hawaits => ?_⟩
      exact ⟨u', entering.getElem?_of_awaits hheld hu' hawaits, .refl u'⟩
  | @funded credentials _ _ _ _ entering =>
      have hnew : some credentials ≠ none := Option.some_ne_none credentials
      refine ⟨by rw [entering.session_eq]; exact hnew, .of_kept fun i u' hu' hawaits => ?_⟩
      exact ⟨u', entering.getElem?_of_awaits hnew hu' hawaits, .refl u'⟩
  | reached _ entering =>
      refine ⟨by rw [entering.session_eq]; exact hheld, .of_kept fun i u' hu' hawaits => ?_⟩
      exact ⟨u', entering.getElem?_of_awaits hheld hu' hawaits, .refl u'⟩
  | chosen _ choosing =>
      obtain ⟨entered, entering⟩ := choosing.entering
      refine ⟨by rw [entering.session_eq]; exact hheld, .of_kept fun i u' hu' hawaits => ?_⟩
      exact ⟨u', choosing.getElem?_of_awaits hheld hu' hawaits, .refl u'⟩

/-- What becomes of an install that waited for credentials when it is entered with them: it does
not wait for them any more, or everything stays as it was because its component is busy. -/
inductive Resumed (s : Session) (g : Guards) : Except Refusal EnterOutcome → Desk → Prop
  | entered {outcome : EnterOutcome} {d : Desk} (settles : outcome ≠ .awaitingCredentials)
      (waits : ∀ u, d.session.steps[s.current]? = some u → ¬ u.AwaitsCredentials) :
      Resumed s g (.ok outcome) d
  | busy {e : Refusal} (busy : s.FindsBusy g e) : Resumed s g (.error e) ⟨s, g⟩

theorem enter_resumes {s : Session} (hactive : s.Active) (hheld : s.credentials ≠ none)
    {step : Step} (hstep : s.steps[s.current]? = some step) (hlive : step.canceled = false)
    (hawaits : step.AwaitsCredentials) (g : Guards) :
    Resumed s g (enter ⟨s, g⟩).1 (enter ⟨s, g⟩).2 := by
  rw [enter, whenActive_of_active _ hactive]
  rcases enterCurrent_spec g hactive hstep with
    ⟨e, hrefused, heq⟩ | ⟨outcome, entered, d, heq, hresult, hentering⟩
  · rw [heq]
    obtain ⟨c, rfl, hguard⟩ := hrefused.of_idle hlive hawaits.idle
    exact .busy (.of_held hguard)
  · rw [heq]
    have hcurrent := (List.getElem?_eq_some_iff.mp hstep).1
    obtain ⟨hsettles, hwaits⟩ := hentering.entry.not_awaiting hheld
    refine .entered ?_ fun u hu => ?_
    · rintro rfl
      exact hsettles hresult
    · rw [hentering.session_eq, List.getElem?_set_self hcurrent, Option.some.injEq] at hu
      rw [← hu]
      exact hwaits

theorem enter_credentials {s : Session} {step : Step} (hstep : s.steps[s.current]? = some step)
    (g : Guards) : (enter ⟨s, g⟩).2.session.credentials = s.credentials := by
  rcases s.active_or_refused with hactive | ⟨e, he⟩
  · rw [enter, whenActive_of_active _ hactive]
    rcases enterCurrent_spec g hactive hstep with
      ⟨e, -, heq⟩ | ⟨outcome, entered, d, heq, -, hentering⟩
    · rw [heq]
    · rw [heq, hentering.session_eq]
  · rw [enter, whenActive_of_refused _ he]

theorem setCredentials_eq (credentials : VendorCredentials) (s : Session) (g : Guards) :
    let stored : Desk := ⟨{ s with credentials := some credentials }, g⟩
    setCredentials credentials ⟨s, g⟩ =
      if awaitsCredentials s && !s.canceled then ((enter stored).1.map some, (enter stored).2)
      else (.ok none, stored) := by
  intro stored
  have hsame : awaitsCredentials stored.session = awaitsCredentials s := rfl
  rw [setCredentials, ← hsame]
  dsimp only
  split
  · rcases enter stored with ⟨_ | _, d⟩ <;> rfl
  · rfl

theorem setCredentials_stores {s : Session} {step : Step}
    (hstep : s.steps[s.current]? = some step) (credentials : VendorCredentials) (g : Guards) :
    (setCredentials credentials ⟨s, g⟩).2.session.credentials = some credentials := by
  rw [setCredentials_eq]
  split
  · exact enter_credentials (s := { s with credentials := some credentials }) hstep g
  · rfl

theorem setCredentials_resumes {s : Session} (h : s.Reachable) (hactive : s.Active) {step : Step}
    (hstep : s.steps[s.current]? = some step) (hawaits : step.AwaitsCredentials)
    (credentials : VendorCredentials) (g : Guards) : ∃ answer d,
      setCredentials credentials ⟨s, g⟩ = (answer.map some, d) ∧
        Resumed { s with credentials := some credentials } g answer d := by
  have hwaits : awaitsCredentials s = true :=
    (Session.awaitsCredentials_iff h hactive.live hstep).mpr hawaits
  have hlive : step.canceled = false := (h.valid.awaited hactive.live).waits.live hstep
  refine ⟨_, _, ?_, enter_resumes (s := { s with credentials := some credentials })
    ⟨hactive.live, hactive.open_⟩ (Option.some_ne_none credentials) hstep hlive hawaits g⟩
  rw [setCredentials_eq, hwaits, hactive.live]
  rfl

end Desk

namespace Session

theorem Later.none_waits_anew {s t : Session} (hs : s.Reachable) (h : Later s t)
    (hheld : s.credentials ≠ none) : t.credentials ≠ none ∧ s.NoneWaitsAnew t := by
  obtain ⟨log, hlog⟩ := Logged.of_later h
  clear h
  -- Along the log each wait is traced back to the wait before it. This needs credentials to be held
  -- at every moment, so that both parts go through the induction together.
  induction hlog with
  | nil => exact ⟨hheld, .of_kept fun _ u hu _ => ⟨u, hu, .refl u⟩⟩
  | @snoc log t before g m ih =>
      obtain ⟨hkept, hwaits⟩ := ih
      obtain ⟨hkept', hwaits'⟩ :=
        (Desk.perform_occasion (hs.later before.later) g m).none_waits_anew hkept
      refine ⟨hkept', fun i u' hu' hawaits => ?_⟩
      have hleft := hwaits' i u' hu' hawaits
      obtain ⟨u, -, hu, -, hbefore, -⟩ := id hleft
      exact (hwaits i u hu hbefore).trans hleft

/-- From the moment on at which a session holds credentials it goes on holding some, and a run asks
for them only at an install that was left waiting for them before that moment. At such an install
it asks whatever it holds, until the install is entered again, with the credentials that are held
or with others: then it does not wait any more, or stays as it was because its component is busy. -/
theorem credentials_asked_for_where_left_waiting {s : Session} (h : s.Reachable) :
    (∀ credentials g,
      (Desk.setCredentials credentials ⟨s, g⟩).2.session.credentials = some credentials) ∧
    (s.credentials ≠ none → ∀ t, Later s t → t.credentials ≠ none ∧
      ∀ (σ : Type) (remote : Remote σ) (memory : σ) g i,
        (Desk.run remote memory ⟨t, g⟩).1 = .stopped (.needsCredentials i) →
          s.LeftWaiting (Desk.run remote memory ⟨t, g⟩).2.2.2.session i) ∧
    ∀ step, s.Active → s.steps[s.current]? = some step → step.AwaitsCredentials →
      (∀ (σ : Type) (remote : Remote σ) (memory : σ) g,
        Desk.run remote memory ⟨s, g⟩ =
          (.stopped (.needsCredentials s.current), 0, memory, ⟨s, g⟩)) ∧
      (s.credentials ≠ none → ∀ g,
        Desk.Resumed s g (Desk.enter ⟨s, g⟩).1 (Desk.enter ⟨s, g⟩).2) ∧
      ∀ credentials g, ∃ answer d,
        Desk.setCredentials credentials ⟨s, g⟩ = (answer.map some, d) ∧
          Desk.Resumed { s with credentials := some credentials } g answer d := by
  refine ⟨?_, ?_, ?_⟩
  · intro credentials g
    obtain ⟨step, hstep⟩ := h.valid.placed.current
    exact Desk.setCredentials_stores hstep credentials g
  · intro hheld t hlater
    refine ⟨(hlater.none_waits_anew h hheld).1, ?_⟩
    intro σ remote memory g i hrun
    obtain ⟨hlast, -, step, hstep, hrests⟩ :=
      Desk.rests_of_run (h.later hlater) remote memory g (.inl rfl) hrun
    cases hrests with
    | needsCredentials awaits =>
        have hall : Later s _ := hlater.trans hlast
        exact (hall.none_waits_anew h hheld).2 _ step hstep awaits
  · intro step hactive hstep hawaits
    have hlive : step.canceled = false := (h.valid.awaited hactive.live).waits.live hstep
    refine ⟨?_, ?_, ?_⟩
    · intro σ remote memory g
      exact Desk.run_of_rests h hactive hstep (.needsCredentials hawaits) remote memory g
    · intro hheld g
      exact Desk.enter_resumes hactive hheld hstep hlive hawaits g
    · intro credentials g
      exact Desk.setCredentials_resumes h hactive hstep hawaits credentials g

/-- The moves by which credentials are provided while the session has stepped back from the install
that waits for them. -/
def steppedBackMoves : List Move :=
  lackingMoves ++ [.chooseInstall .drbd 1, .previous, .setCredentials ⟨"user", "secret"⟩, .next]

def steppedBack : Session := (Desk.performAll ⟨vendorSample, .empty⟩ steppedBackMoves).session

theorem steppedBack_reachable : steppedBack.Reachable :=
  ⟨_, _, _, _, _, Later.of_moves ⟨vendorSample, .empty⟩ steppedBackMoves⟩

theorem credentials_asked_for_where_left_waiting_sample :
    steppedBack.credentials = some ⟨"user", "secret"⟩ ∧
      (Desk.run (.always (.ok ⟨"8.4", 0⟩)) () ⟨steppedBack, .empty⟩).1 =
        .stopped (.needsCredentials 1) ∧
      steppedBack.LeftWaiting
        (Desk.run (.always (.ok ⟨"8.4", 0⟩)) () ⟨steppedBack, .empty⟩).2.2.2.session 1 ∧
      Desk.Resumed steppedBack .empty (Desk.enter ⟨steppedBack, .empty⟩).1
        (Desk.enter ⟨steppedBack, .empty⟩).2 := by
  have hheld : steppedBack.credentials = some ⟨"user", "secret"⟩ := by decide +kernel
  have hsome : steppedBack.credentials ≠ none := by
    rw [hheld]
    exact Option.some_ne_none _
  have hasks : (Desk.run (.always (.ok ⟨"8.4", 0⟩)) () ⟨steppedBack, .empty⟩).1 =
      .stopped (.needsCredentials 1) := by decide +kernel
  obtain ⟨-, hleft, hwaiting⟩ := credentials_asked_for_where_left_waiting steppedBack_reachable
  have hwaits := (hleft hsome steppedBack .refl).2 Unit (.always (.ok ⟨"8.4", 0⟩)) () .empty 1 hasks
  obtain ⟨step, -, hstep, -, hawaits, -⟩ := id hwaits
  have hcurrent : steppedBack.current = 1 := by decide +kernel
  have hactive : steppedBack.Active := ⟨by decide +kernel, by decide +kernel⟩
  rw [← hcurrent] at hstep
  obtain ⟨-, hresumes, -⟩ := hwaiting step hactive hstep hawaits
  exact ⟨hheld, hasks, hwaits, hresumes hsome .empty⟩

/-- A run asks for credentials although they have been provided. -/
theorem credentials_asked_for_although_held :
    steppedBack.Reachable ∧ steppedBack.credentials = some ⟨"user", "secret"⟩ ∧
      (Desk.run (.always (.ok ⟨"8.4", 0⟩)) () ⟨steppedBack, .empty⟩).1 =
        .stopped (.needsCredentials 1) ∧
      ¬ ∀ s : Session, s.Reachable → ∀ (σ : Type) (remote : Remote σ) (memory : σ) g i,
        (Desk.run remote memory ⟨s, g⟩).1 = .stopped (.needsCredentials i) →
          s.credentials = none := by
  have hheld : steppedBack.credentials = some ⟨"user", "secret"⟩ := by decide +kernel
  have hasks : (Desk.run (.always (.ok ⟨"8.4", 0⟩)) () ⟨steppedBack, .empty⟩).1 =
      .stopped (.needsCredentials 1) := by decide +kernel
  refine ⟨steppedBack_reachable, hheld, hasks, ?_⟩
  intro hclaim
  rw [hclaim steppedBack steppedBack_reachable Unit _ () .empty 1 hasks] at hheld
  cases hheld

end Session

end ClusterSetup

import ClusterSetup.Proofs.Session.Changes

namespace ClusterSetup

def Step.stopped (current : StepId) (s : Step) : Step :=
  if s.hasPending || s.id == current then s.cancel else s

namespace Session

theorem stepAt_eq {s : Session} {id : StepId} {step : Step} (h : s.steps[id]? = some step) :
    s.stepAt id = step := by
  simp [stepAt, h]

theorem currentStep_eq {s : Session} {step : Step} (h : s.steps[s.current]? = some step) :
    s.currentStep = step :=
  stepAt_eq h

theorem linkNext_eq {s : Session} {id : StepId} {step : Step} (h : s.steps[id]? = some step)
    (hcompleted : step.completed = true) (hnext : step.next = none) :
    s.linkNext id = { s with steps := attach s.steps id step } := by
  rw [linkNext, h]
  cases hkind : step.nextKind with
  | none =>
      rw [attach_of_undecided hkind, set_eq_self h]
      simp [Step.needsLink, hkind]
  | some kind =>
      rw [attach_of_decided hkind]
      simp [Step.needsLink, hcompleted, hnext, hkind]

theorem closeStep_eq {s : Session} {id : StepId} {step : Step} (h : s.steps[id]? = some step)
    (hcompleted : step.completed = true) (hnext : step.next = none)
    (hstate : step.state ≠ .finished) :
    s.closeStep id = { s with
      steps := attach s.steps id step
      events := s.events ++ completionEvents id step } := by
  obtain ⟨hid, -⟩ := List.getElem?_eq_some_iff.mp h
  obtain ⟨next, hself, -⟩ := getElem?_attach_self hid step
  have hlinked : (s.linkNext id).stepAt id = { step with next := next } := by
    rw [linkNext_eq h hcompleted hnext]
    exact stepAt_eq hself
  simp only [closeStep, hlinked]
  rw [if_neg hstate, linkNext_eq h hcompleted hnext]
  rfl

theorem closeStep_of_finished {s : Session} {id : StepId} {step : Step}
    (h : s.steps[id]? = some step) (hkind : step.nextKind = none)
    (hstate : step.state = .finished) : s.closeStep id = { s with
      finished := true
      events := s.events ++ completionEvents id step ++ [.finished s.flags.success] } := by
  have hlinked : s.linkNext id = s := by
    rw [linkNext, h]
    simp [Step.needsLink, hkind]
  simp only [closeStep, hlinked, stepAt_eq h]
  rw [if_pos hstate]
  rfl

end Session

namespace Desk

open Relation (ReflTransGen)

theorem whenActive_of_active {α : Type} (operation : Operation α) {d : Desk}
    (h : d.session.Active) : whenActive operation d = operation d := by
  rw [whenActive, Session.checkActive_of_active h]

theorem whenActive_of_refused {α : Type} (operation : Operation α) {d : Desk} {e : Refusal}
    (h : d.session.checkActive = .error e) : whenActive operation d = (.error e, d) := by
  rw [whenActive, h]

/-- An operation is refused for one of some reasons and without a trace, or it comes down to
changes. -/
inductive Atomic {α : Type} (operation : Operation α) (reasons : Refusal → Prop) (d : Desk) : Prop
  | refused {e : Refusal} (reason : reasons e) (eq : operation d = (.error e, d))
  | accepted {a : α} {d' : Desk} (eq : operation d = (.ok a, d'))
      (changes : ReflTransGen Change d d')

def OverOr (s : Session) (reasons : Refusal → Prop) (e : Refusal) : Prop :=
  s.checkActive = .error e ∨ s.Active ∧ reasons e

theorem OverOr.resolve {s : Session} {reasons : Refusal → Prop} {e : Refusal}
    (h : OverOr s reasons e) (hcanceled : e ≠ .sessionCanceled)
    (hfinished : e ≠ .sessionFinished) : s.Active ∧ reasons e := by
  refine h.resolve_left fun hover => ?_
  rw [Session.checkActive] at hover
  split at hover
  · cases hover
    exact hcanceled rfl
  · split at hover
    · cases hover
      exact hfinished rfl
    · cases hover

section Atomic

variable {α : Type} {operation : Operation α} {reasons : Refusal → Prop} {d : Desk}

theorem Atomic.changes (h : Atomic operation reasons d) :
    ReflTransGen Change d (operation d).2 := by
  cases h with
  | refused _ eq =>
      rw [eq]
  | accepted eq changes =>
      rw [eq]
      exact changes

theorem Atomic.of_error (h : Atomic operation reasons d) {e : Refusal}
    (he : (operation d).1 = .error e) : reasons e ∧ (operation d).2 = d := by
  cases h with
  | refused reason eq =>
      rw [eq] at he ⊢
      cases he
      exact ⟨reason, rfl⟩
  | accepted eq changes =>
      rw [eq] at he
      cases he

theorem Atomic.of_active {s : Session} {g : Guards}
    (h : s.Active → Atomic (whenActive operation) reasons ⟨s, g⟩) :
    Atomic (whenActive operation) (OverOr s reasons) ⟨s, g⟩ := by
  rcases s.active_or_refused with hactive | ⟨e, he⟩
  · cases h hactive with
    | refused reason eq => exact .refused (.inr ⟨hactive, reason⟩) eq
    | accepted eq changes => exact .accepted eq changes
  · exact .refused (.inl he) (whenActive_of_refused operation he)

theorem Atomic.whenActive {s : Session} {g : Guards}
    (h : s.Active → Atomic operation reasons ⟨s, g⟩) :
    Atomic (whenActive operation) (OverOr s reasons) ⟨s, g⟩ := by
  refine .of_active fun hactive => ?_
  have hsame := whenActive_of_active operation (d := ⟨s, g⟩) hactive
  cases h hactive with
  | refused reason eq => exact .refused reason (hsame.trans eq)
  | accepted eq changes => exact .accepted (hsame.trans eq) changes

end Atomic

/-- What entering the current step makes of a session. -/
structure Entering (s : Session) (g : Guards) (step : Step) (entered : Entered) (d : Desk) :
    Prop where
  active : s.Active
  current : s.steps[s.current]? = some step
  live : step.canceled = false
  idle : step.pending = []
  entry : step.Entry s.enterContext g entered
  change : Change ⟨s, g⟩ d
  guards_eq : d.guards = entered.guards
  session_eq : d.session = { s with
    steps := s.steps.set s.current entered.step
    running := s.running ++ entered.started
    calls := s.calls ++ entered.firstCalls
    inFlight := s.inFlight + entered.step.pending.length
    events := d.session.events
    finished := d.session.finished }

theorem enterCurrent_spec {s : Session} (g : Guards) {step : Step} (hactive : s.Active)
    (hstep : s.steps[s.current]? = some step) :
    (∃ e, step.EntryRefusal s.enterContext g e ∧ enterCurrent ⟨s, g⟩ = (.error e, ⟨s, g⟩)) ∨
    ∃ outcome entered d, enterCurrent ⟨s, g⟩ = (.ok outcome, d) ∧
      entered.result = .ok outcome ∧ Entering s g step entered d := by
  have hid : s.current < s.steps.length := (List.getElem?_eq_some_iff.mp hstep).1
  rcases Step.enter_spec s.enterContext g step with ⟨e, hreason, heq⟩ | ⟨hlive, hidle, hentry⟩
  · refine .inl ⟨e, hreason, ?_⟩
    simp [enterCurrent, enterStep, hstep, heq, Session.setStep, Session.set_eq_self hstep]
  · right
    generalize hentered : step.enter s.enterContext g = entered at hentry
    have hentry' := hentry
    cases hentry with
    | started runs commanded took =>
        refine ⟨.started, _, _, ?_, rfl, hactive, hstep, hlive, hidle, hentry',
          .start hactive hstep hlive hidle hentry', rfl, rfl⟩
        simp [enterCurrent, enterStep, hstep, hentered, Session.setStep, Session.log, Step.working,
          Step.reset, Entered.firstCalls]
    | awaiting kind_eq lacks =>
        refine ⟨.awaitingCredentials, _, _, ?_, rfl, hactive, hstep, hlive, hidle, hentry',
          .ask hactive hstep hlive hidle kind_eq lacks, rfl, ?_⟩
        · simp [enterCurrent, enterStep, hstep, hentered, Session.setStep, Session.log, Step.reset,
            Entered.firstCalls]
        · simp [Entered.firstCalls, Step.reset]
    | failed kind_eq lacks none =>
        refine ⟨.completed, _, _, ?_, rfl, hactive, hstep, hlive, hidle, hentry',
          .fail hactive hstep hlive hidle kind_eq lacks none, rfl, ?_⟩
        · simp only [enterCurrent, enterStep, hstep, hentered]
          rw [Session.closeStep_eq (List.getElem?_set_self hid) rfl rfl]
          · simp [Session.log, Session.setStep, Session.attach_of_undecided, Step.fail, Step.reset,
              Entered.firstCalls]
          · simp [Step.fail, kind_eq, Step.reset]
        · simp [Entered.firstCalls, Step.fail, Step.reset]
    | finished kind_eq =>
        refine ⟨.completed, _, _, ?_, rfl, hactive, hstep, hlive, hidle, hentry',
          .finish hactive hstep hlive hidle kind_eq, rfl, ?_⟩
        · simp only [enterCurrent, enterStep, hstep, hentered]
          rw [Session.closeStep_of_finished (List.getElem?_set_self hid) rfl rfl]
          simp [Session.log, Session.setStep, Step.reset, Entered.firstCalls,
            Session.completionEvents, Session.closingEvents, kind_eq]
        · simp [Entered.firstCalls, Step.reset]

theorem enterCurrent_atomic {s : Session} {g : Guards} {step : Step} (hactive : s.Active)
    (hstep : s.steps[s.current]? = some step) :
    Atomic enterCurrent (step.EntryRefusal s.enterContext g) ⟨s, g⟩ := by
  rcases enterCurrent_spec g hactive hstep with
    ⟨e, hreason, heq⟩ | ⟨outcome, entered, d, heq, -, hentering⟩
  · exact .refused hreason heq
  · exact .accepted heq (.single hentering.change)

theorem next_of_linked {s : Session} {g : Guards} {step : Step} {n : StepId}
    (hactive : s.Active) (hstep : s.steps[s.current]? = some step)
    (hcompleted : step.completed = true) (hnext : step.next = some n) :
    next ⟨s, g⟩ =
      (.ok n, ⟨{ s with steps := s.steps.set s.current step.proceed, current := n }, g⟩) := by
  rw [next, whenActive_of_active _ hactive]
  simp only [Session.currentStep_eq hstep, Step.next?, hcompleted, hnext]
  rfl

inductive NextRefusal (s : Session) (step : Step) : Refusal → Prop
  | incomplete (completed : step.completed = false) :
      NextRefusal s step (.nextBeforeComplete step.id)
  | last (next : step.next = none) : NextRefusal s step (.noNextStep s.current)

theorem next_spec {s : Session} (g : Guards) {step : Step} (hactive : s.Active)
    (hstep : s.steps[s.current]? = some step) :
    (∃ e, NextRefusal s step e ∧ next ⟨s, g⟩ = (.error e, ⟨s, g⟩)) ∨
    ∃ n, step.completed = true ∧ step.next = some n ∧ next ⟨s, g⟩ =
      (.ok n, ⟨{ s with steps := s.steps.set s.current step.proceed, current := n }, g⟩) := by
  cases hcompleted : step.completed with
  | false =>
      refine .inl ⟨_, .incomplete hcompleted, ?_⟩
      rw [next, whenActive_of_active _ hactive]
      simp [Session.currentStep_eq hstep, Step.next?, hcompleted]
  | true =>
      rcases Option.eq_none_or_eq_some step.next with hnext | ⟨n, hnext⟩
      · refine .inl ⟨_, .last hnext, ?_⟩
        rw [next, whenActive_of_active _ hactive]
        simp [Session.currentStep_eq hstep, Step.next?, hcompleted, hnext]
      · exact .inr ⟨n, rfl, hnext, next_of_linked hactive hstep hcompleted hnext⟩

theorem next_atomic {s : Session} {g : Guards} {step : Step}
    (hstep : s.steps[s.current]? = some step) :
    Atomic next (OverOr s (NextRefusal s step)) ⟨s, g⟩ := by
  refine .of_active fun hactive => ?_
  rcases next_spec g hactive hstep with ⟨e, hreason, heq⟩ | ⟨n, hcompleted, hnext, heq⟩
  · exact .refused hreason heq
  · exact .accepted heq (.single (.go hactive hstep hcompleted hnext))

theorem enter_atomic {s : Session} {g : Guards} {step : Step}
    (hstep : s.steps[s.current]? = some step) :
    Atomic enter (OverOr s (step.EntryRefusal s.enterContext g)) ⟨s, g⟩ :=
  .whenActive fun hactive => enterCurrent_atomic hactive hstep

inductive InstallRefusal (s : Session) (g : Guards) (step : Step) (c : Component)
    (method : Nat) : Refusal → Prop
  | noMethod (empty : (s.methods c).isEmpty = true) :
      InstallRefusal s g step c method (.noInstallMethod c)
  | unavailable (unlisted : (s.methods c).find? method = none) :
      InstallRefusal s g step c method (.methodUnavailable c method)
  | canceled (canceled : step.canceled = true) :
      InstallRefusal s g step c method (.stepCanceled step.id)
  | notOffered (offers : step.offersInstall c = false) :
      InstallRefusal s g step c method (.installNotOffered step.id)
  | busy (d : Component) (offers : step.offersInstall c = true)
      (held : (⟨s.host.id, d⟩ : Guard) ∈ g.held) :
      InstallRefusal s g step c method (.componentBusy s.host.id d)

theorem chooseInstall_spec (s : Session) (g : Guards) (step : Step) (c : Component) (method : Nat) :
    (∃ e, InstallRefusal s g step c method e ∧ step.chooseInstall c method = .error e) ∨
    step.canceled = false ∧ step.offersInstall c = true ∧
      step.chooseInstall c method = .ok (step.chosen c method) := by
  rw [Step.chooseInstall]
  split
  · rename_i hcanceled
    exact .inl ⟨_, .canceled hcanceled, rfl⟩
  · rename_i hcanceled
    rw [Bool.not_eq_true] at hcanceled
    split
    · rename_i hoffers
      exact .inr ⟨hcanceled, hoffers, rfl⟩
    · rename_i hoffers
      rw [Bool.not_eq_true] at hoffers
      exact .inl ⟨_, .notOffered hoffers, rfl⟩

theorem completed_of_offersInstall {step : Step} {c : Component}
    (h : step.offersInstall c = true) : step.completed = true := by
  rw [Step.offersInstall] at h
  split at h
  · simp only [Bool.and_eq_true] at h
    exact h.1.1
  · cases h

/-- What a refused choice leaves of the steps is put back as it was. -/
theorem take_attach_set {steps : List Step} {id : StepId} {step : Step}
    (h : steps[id]? = some step) (chosen : Step) :
    ((Session.attach steps id chosen).take steps.length).set id step = steps := by
  have hid : id < steps.length := (List.getElem?_eq_some_iff.mp h).1
  cases hkind : chosen.nextKind with
  | none =>
      rw [Session.attach_of_undecided hkind, List.take_of_length_le (Nat.le_of_eq List.length_set),
        List.set_set, Session.set_eq_self h]
  | some kind =>
      rw [Session.attach_of_decided hkind, List.set_append_left _ _ hid,
        List.take_left' (List.length_set ..), List.set_set, Session.set_eq_self h]

def atInstall (s : Session) (step : Step) (c : Component) (method : Nat) : Session :=
  { s with
    steps := Session.attach s.steps s.current (step.chosen c method)
    current := s.steps.length }

theorem startInstall_of_offered {s : Session} {g : Guards} {step : Step} {c : Component}
    {method : Nat} (hactive : s.Active) (hstep : s.steps[s.current]? = some step)
    (hnonempty : (s.methods c).isEmpty = false)
    (hlisted : ((s.methods c).find? method).isSome = true) (hlive : step.canceled = false)
    (hoffers : step.offersInstall c = true)
    (hchoice : step.chooseInstall c method = .ok (step.chosen c method)) :
    ReflTransGen Change ⟨s, g⟩ ⟨atInstall s step c method, g⟩ ∧
      (atInstall s step c method).steps[s.steps.length]? =
        some (Step.new s.steps.length (.install c method) (some s.current)) ∧
      startInstall c method ⟨s, g⟩ = match enter ⟨atInstall s step c method, g⟩ with
        | (.error e, d) => (.error e, d)
        | (.ok _, d) => (.ok s.steps.length, d) := by
  have hid : s.current < s.steps.length := (List.getElem?_eq_some_iff.mp hstep).1
  have hcompleted : (step.chosen c method).completed = true := completed_of_offersInstall hoffers
  have hdecided : (step.chosen c method).nextKind = some (.install c method) := rfl
  let recorded : Session :=
    { s with steps := Session.attach s.steps s.current (step.chosen c method) }
  have hactive' : recorded.Active := ⟨hactive.live, hactive.open_⟩
  have hlink : (s.setStep s.current (step.chosen c method)).linkNext s.current = recorded := by
    rw [Session.linkNext_eq (List.getElem?_set_self hid) hcompleted rfl]
    simp only [Session.setStep, Session.attach_set _ hid, recorded]
  obtain ⟨n, hlinked, -, hn⟩ := Session.getElem?_attach_self hid (step.chosen c method)
  obtain rfl := hn (by simp [Step.chosen])
  have hgo : Change ⟨recorded, g⟩ _ := .go hactive' hlinked hcompleted rfl
  have hnext := next_of_linked (g := g) hactive' hlinked hcompleted rfl
  -- The chosen step does not change by being left.
  have hproceed : Step.proceed { step.chosen c method with next := some s.steps.length } =
      { step.chosen c method with next := some s.steps.length } := rfl
  rw [hproceed, Session.set_eq_self hlinked] at hnext hgo
  refine ⟨.tail (.single (.choose hactive hstep hlive hoffers hlisted)) hgo,
    Session.getElem?_attach_length hid hdecided, ?_⟩
  obtain ⟨found, hfound⟩ := Option.isSome_iff_exists.mp hlisted
  simp only [startInstall, Session.currentStep_eq hstep, hnonempty, hfound, hchoice, hlink, hnext]
  rfl

/-- What choosing an install on the current step makes of a session. -/
structure Choosing (s : Session) (g : Guards) (step : Step) (c : Component) (method : Nat)
    (d : Desk) : Prop where
  active : s.Active
  current : s.steps[s.current]? = some step
  live : step.canceled = false
  offers : step.offersInstall c = true
  listed : ((s.methods c).find? method).isSome = true
  changes : ReflTransGen Change ⟨s, g⟩ ⟨atInstall s step c method, g⟩
  entering : ∃ entered, Entering (atInstall s step c method) g
    (Step.new s.steps.length (.install c method) (some s.current)) entered d

theorem Choosing.all_changes {s : Session} {g : Guards} {step : Step} {c : Component}
    {method : Nat} {d : Desk} (h : Choosing s g step c method d) :
    ReflTransGen Change ⟨s, g⟩ d := by
  obtain ⟨entered, hentering⟩ := h.entering
  exact h.changes.tail hentering.change

/-- What is left of a refused choice is undone by putting the steps back; otherwise the choice is
recorded and the step made for it is entered. -/
theorem startInstall_chooses {s : Session} {g : Guards} {step : Step} (c : Component)
    (method : Nat) (hactive : s.Active) (hstep : s.steps[s.current]? = some step) :
    (∃ e steps n, InstallRefusal s g step c method e ∧
      startInstall c method ⟨s, g⟩ = (.error e, ⟨{ s with steps := steps, current := n }, g⟩) ∧
      (steps.take s.steps.length).set s.current step = s.steps) ∨
    ∃ d, startInstall c method ⟨s, g⟩ = (.ok s.steps.length, d) ∧
      Choosing s g step c method d := by
  have hback : (s.steps.take s.steps.length).set s.current step = s.steps := by
    rw [List.take_length, Session.set_eq_self hstep]
  cases hempty : (s.methods c).isEmpty with
  | true =>
      refine .inl ⟨_, s.steps, s.current, .noMethod hempty, ?_, hback⟩
      simp [startInstall, hempty]
  | false =>
      cases hfind : (s.methods c).find? method with
      | none =>
          refine .inl ⟨_, s.steps, s.current, .unavailable hfind, ?_, hback⟩
          simp [startInstall, hempty, hfind]
      | some found =>
          rcases chooseInstall_spec s g step c method with
            ⟨e, hreason, hchoice⟩ | ⟨hlive, hoffers, hchoice⟩
          · refine .inl ⟨e, s.steps, s.current, hreason, ?_, hback⟩
            simp [startInstall, Session.currentStep_eq hstep, hempty, hfind, hchoice]
          · have hlisted : ((s.methods c).find? method).isSome = true := by rw [hfind]; rfl
            obtain ⟨hchanges, hfresh, hstart⟩ := startInstall_of_offered (g := g) hactive hstep
              hempty hlisted hlive hoffers hchoice
            have hactive' : (atInstall s step c method).Active := ⟨hactive.live, hactive.open_⟩
            rw [hstart, enter, whenActive_of_active _ hactive']
            rcases enterCurrent_spec g hactive' hfresh with
              ⟨e, hbusy, heq⟩ | ⟨outcome, entered, d, heq, -, hentering⟩
            · left
              obtain ⟨d, rfl, hheld⟩ := hbusy.of_idle rfl rfl
              rw [heq]
              exact ⟨_, _, _, .busy d hoffers hheld, rfl, take_attach_set hstep _⟩
            · right
              rw [heq]
              exact ⟨d, rfl, hactive, hstep, hlive, hoffers, hlisted, hchanges, entered, hentering⟩

/-- A choice is refused and everything stays as it was, or the step made for it is entered. -/
theorem chooseInstall_chooses {s : Session} {g : Guards} {step : Step} (c : Component)
    (method : Nat) (hactive : s.Active) (hstep : s.steps[s.current]? = some step) :
    (∃ e, InstallRefusal s g step c method e ∧
      chooseInstall c method ⟨s, g⟩ = (.error e, ⟨s, g⟩)) ∨
    ∃ d, chooseInstall c method ⟨s, g⟩ = (.ok s.steps.length, d) ∧
      Choosing s g step c method d := by
  rw [chooseInstall, whenActive_of_active _ hactive]
  rcases startInstall_chooses c method hactive hstep with
    ⟨e, steps, n, hreason, heq, hback⟩ | ⟨d, heq, hchoosing⟩
  · left
    refine ⟨e, hreason, ?_⟩
    dsimp only
    rw [heq]
    simp only [Session.currentStep_eq hstep, hback]
  · right
    refine ⟨d, ?_, hchoosing⟩
    dsimp only
    rw [heq]

theorem chooseInstall_atomic {s : Session} {g : Guards} {step : Step} (c : Component)
    (method : Nat) (hstep : s.steps[s.current]? = some step) :
    Atomic (chooseInstall c method) (OverOr s (InstallRefusal s g step c method)) ⟨s, g⟩ := by
  refine .of_active fun hactive => ?_
  rcases chooseInstall_chooses c method hactive hstep with ⟨e, hreason, heq⟩ | ⟨d, heq, hchoosing⟩
  · exact .refused hreason heq
  · exact .accepted heq hchoosing.all_changes

theorem previous_of_idle {s : Session} {g : Guards} {step : Step} {p : StepId}
    (hactive : s.Active) (hstep : s.steps[s.current]? = some step) (hidle : step.pending = [])
    (hprevious : step.previous = some p) :
    previous ⟨s, g⟩ = (.ok (some p), ⟨{ s with current := p }, g⟩) := by
  rw [previous, whenActive_of_active _ hactive]
  simp [Session.currentStep_eq hstep, Step.hasPending, hidle, hprevious]

theorem previous_of_first {s : Session} {g : Guards} {step : Step} (hactive : s.Active)
    (hstep : s.steps[s.current]? = some step) (hidle : step.pending = [])
    (hprevious : step.previous = none) : previous ⟨s, g⟩ = (.ok none, ⟨s, g⟩) := by
  rw [previous, whenActive_of_active _ hactive]
  simp [Session.currentStep_eq hstep, Step.hasPending, hidle, hprevious]

theorem previous_of_pending {s : Session} {g : Guards} {step : Step} (hactive : s.Active)
    (hstep : s.steps[s.current]? = some step) (hpending : step.pending ≠ []) :
    previous ⟨s, g⟩ = (.error (.actionOutstanding step.id), ⟨s, g⟩) := by
  rw [previous, whenActive_of_active _ hactive]
  simp [Session.currentStep_eq hstep, Step.hasPending, hpending]

theorem previous_atomic {s : Session} {g : Guards} {step : Step}
    (hstep : s.steps[s.current]? = some step) :
    Atomic previous (OverOr s (· = .actionOutstanding step.id)) ⟨s, g⟩ := by
  refine .of_active fun hactive => ?_
  by_cases hidle : step.pending = []
  · rcases Option.eq_none_or_eq_some step.previous with hprevious | ⟨p, hprevious⟩
    · exact .accepted (previous_of_first hactive hstep hidle hprevious) .refl
    · exact .accepted (previous_of_idle hactive hstep hidle hprevious)
        (.single (.back hactive hstep hidle hprevious))
  · exact .refused rfl (previous_of_pending hactive hstep hidle)

inductive RetryRefusal (s : Session) (g : Guards) (step : Step) : Refusal → Prop
  | outstanding (pending : step.pending ≠ []) : RetryRefusal s g step (.actionOutstanding step.id)
  | notRetryable (refused : step.canRetry = false) : RetryRefusal s g step (.notRetryable step.id)
  | notEntered {e : Refusal} (reason : OverOr s (step.EntryRefusal s.enterContext g) e) :
      RetryRefusal s g step e

theorem retry_atomic {s : Session} {g : Guards} {step : Step}
    (hstep : s.steps[s.current]? = some step) :
    Atomic retry (OverOr s (RetryRefusal s g step)) ⟨s, g⟩ := by
  refine .whenActive fun hactive => ?_
  cases hpending : step.hasPending with
  | true =>
      refine .refused (.outstanding (by simpa [Step.hasPending] using hpending)) ?_
      simp [Session.currentStep_eq hstep, hpending]
  | false =>
      cases hretry : step.canRetry with
      | false =>
          refine .refused (.notRetryable hretry) ?_
          simp [Session.currentStep_eq hstep, hpending, hretry]
      | true =>
          cases enter_atomic (g := g) hstep with
          | refused reason eq =>
              refine .refused (.notEntered reason) ?_
              simpa [Session.currentStep_eq hstep, hpending, hretry] using eq
          | @accepted outcome d eq changes =>
              refine .accepted (a := outcome) ?_ changes
              simpa [Session.currentStep_eq hstep, hpending, hretry] using eq

theorem join_atomic (s : Session) (g : Guards) (cluster : Cluster) :
    Atomic (join cluster) (OverOr s fun e => ∃ error, e = .membership error) ⟨s, g⟩ := by
  refine .whenActive fun hactive => ?_
  by_cases hheld : ∀ c, s.cluster = some c → c.name = cluster.name
  · cases hadd : cluster.addHost s.host with
    | error e =>
        refine .refused ⟨e, rfl⟩ ?_
        rcases Option.eq_none_or_eq_some s.cluster with hcluster | ⟨held, hcluster⟩
        · simp [hcluster, hadd]
        · simp [hcluster, hheld held hcluster, hadd]
    | ok result =>
        obtain ⟨added, joined, host⟩ := result
        refine .accepted (a := added) ?_ (.single (.join hactive hheld hadd))
        rcases Option.eq_none_or_eq_some s.cluster with hcluster | ⟨held, hcluster⟩
        · simp [hcluster, hadd]
        · simp [hcluster, hheld held hcluster, hadd]
  · simp only [not_forall, exists_prop] at hheld
    obtain ⟨held, hcluster, hname⟩ := hheld
    refine .refused ⟨⟨s.host.id, held.name⟩, rfl⟩ ?_
    simp [hcluster, hname]

/-- Credentials are always stored; an install that waits for them is then entered, or refused with
nothing else changed. -/
theorem setCredentials_spec {s : Session} {g : Guards} {step : Step}
    (credentials : VendorCredentials) (hstep : s.steps[s.current]? = some step) :
    (∃ e, OverOr { s with credentials := some credentials }
        (step.EntryRefusal { s.enterContext with credentials := some credentials } g) e ∧
      setCredentials credentials ⟨s, g⟩ =
        (.error e, ⟨{ s with credentials := some credentials }, g⟩)) ∨
    ∃ outcome d, setCredentials credentials ⟨s, g⟩ = (.ok outcome, d) ∧
      ReflTransGen Change ⟨{ s with credentials := some credentials }, g⟩ d := by
  rw [setCredentials]
  dsimp only
  split
  · cases enter_atomic (s := { s with credentials := some credentials }) (g := g) hstep with
    | refused reason eq =>
        rw [eq]
        exact .inl ⟨_, reason, rfl⟩
    | accepted eq changes =>
        rw [eq]
        exact .inr ⟨_, _, rfl, changes⟩
  · exact .inr ⟨none, _, rfl, .refl⟩

theorem setCredentials_changes {s : Session} {g : Guards} {step : Step}
    (credentials : VendorCredentials) (hstep : s.steps[s.current]? = some step) :
    ReflTransGen Change ⟨s, g⟩ (setCredentials credentials ⟨s, g⟩).2 := by
  have hstored : Change ⟨s, g⟩ ⟨{ s with credentials := some credentials }, g⟩ :=
    .credentials credentials
  rcases setCredentials_spec credentials hstep with ⟨e, -, heq⟩ | ⟨outcome, d, heq, hchanges⟩
  · rw [heq]
    exact .single hstored
  · rw [heq]
    exact .head hstored hchanges

/-- What a cancelation does. The host can only leave its cluster by it. -/
theorem cancel_eq {d : Desk} (h : d.session.Active) :
    ∃ cluster membership, d.cancel =
      ⟨{ d.session with
        canceled := true
        steps := d.session.steps.map (Step.stopped d.session.current)
        joined := false
        cluster := cluster
        host := { d.session.host with cluster := membership }
        events := d.session.events ++ [.canceled] }, d.guards⟩ := by
  obtain ⟨s, g⟩ := d
  have hover : (s.canceled || s.finished) = false := by
    rw [h.live, h.open_]
    rfl
  rw [cancel]
  dsimp only
  rw [hover]
  cases hjoined : s.joined with
  | false => exact ⟨s.cluster, s.host.cluster, by simp [Session.log, Step.stopped]⟩
  | true =>
      cases hcluster : s.cluster with
      | none => exact ⟨none, s.host.cluster, by simp [Session.log, Step.stopped]⟩
      | some cluster =>
          refine ⟨some (cluster.removeHost s.host).2.1, (cluster.removeHost s.host).2.2.cluster, ?_⟩
          have hhost : (cluster.removeHost s.host).2.2 =
              { s.host with cluster := (cluster.removeHost s.host).2.2.cluster } := by
            rw [Cluster.removeHost]
            dsimp only
            split <;> rfl
          simp only [Session.log, ← hhost]
          rfl

theorem cancel_of_over {d : Desk} (h : ¬ d.session.Active) : d.cancel = d := by
  have hover : (d.session.canceled || d.session.finished) = true := by
    by_contra hopen
    rw [Bool.not_eq_true, Bool.or_eq_false_iff] at hopen
    exact h ⟨hopen.1, hopen.2⟩
  rw [cancel, if_pos hover]

theorem cancel_changes (d : Desk) : ReflTransGen Change d d.cancel := by
  by_cases hactive : d.session.Active
  · exact .single (.cancel hactive)
  · rw [cancel_of_over hactive]

theorem countAttempt_changes (c : Component) (d : Desk) :
    ReflTransGen Change d (d.countAttempt c) := by
  rw [countAttempt]
  rcases d.session.active_or_refused with hactive | ⟨e, he⟩
  · rw [Session.checkActive_of_active hactive]
    exact .single (.attempt hactive c)
  · rw [he]

theorem answer_changes (place : Nat) (reply : Reply) (d : Desk) :
    ReflTransGen Change d (d.answer place reply) := by
  rw [answer]
  cases hadvance : d.session.advance? place reply with
  | none => exact .refl
  | some t => exact .single (.answer hadvance)

end Desk

end ClusterSetup

import ClusterSetup.Proofs.Session.Turns
import ClusterSetup.Proofs.Step.Secrets

namespace ClusterSetup

universe u

section Relations

variable {α : Type} {R : α → α → Prop} {l l' : List α}

theorem rel_getElem? (h : List.Forall₂ R l l') (i : Nat) : Option.Rel R l[i]? l'[i]? := by
  induction h generalizing i with
  | nil => exact .none
  | cons hab _ ih =>
      cases i with
      | zero => exact .some hab
      | succ i => exact ih i

theorem forall₂_set (h : List.Forall₂ R l l') (i : Nat) {a b : α} (hab : R a b) :
    List.Forall₂ R (l.set i a) (l'.set i b) := by
  rw [List.set_eq_take_append_cons_drop, List.set_eq_take_append_cons_drop, ← h.length_eq]
  split
  · exact List.rel_append (List.forall₂_take i h) (.cons hab (List.forall₂_drop (i + 1) h))
  · exact h

theorem forall₂_eraseIdx (h : List.Forall₂ R l l') (i : Nat) :
    List.Forall₂ R (l.eraseIdx i) (l'.eraseIdx i) := by
  rw [List.eraseIdx_eq_take_drop_succ, List.eraseIdx_eq_take_drop_succ]
  exact List.rel_append (List.forall₂_take i h) (List.forall₂_drop (i + 1) h)

theorem forall₂_toList {x y : Option α} (h : Option.Rel R x y) :
    List.Forall₂ R x.toList y.toList := by
  cases h with
  | none => exact .nil
  | some h => exact .cons h .nil

end Relations

/-- Sessions that differ at most in passwords and in the texts of commands of install methods. -/
structure Session.Twins (s t : Session) : Prop where
  host_eq : t.host = s.host
  resources_eq : t.resources = s.resources
  policy_eq : t.policy = s.policy
  options_eq : t.options = s.options
  credentials : Option.Rel VendorCredentials.Twins s.credentials t.credentials
  cluster : Option.Rel Cluster.Twins s.cluster t.cluster
  joined_eq : t.joined = s.joined
  steps_eq : t.steps = s.steps
  current_eq : t.current = s.current
  flags_eq : t.flags = s.flags
  running : List.Forall₂ RunningAction.Twins s.running t.running
  arrived_eq : t.arrived = s.arrived
  inFlight_eq : t.inFlight = s.inFlight
  events_eq : t.events = s.events
  calls : List.Forall₂ RemoteCall.Twins s.calls t.calls
  canceled_eq : t.canceled = s.canceled
  finished_eq : t.finished = s.finished
  attempts_eq : t.attempts = s.attempts

namespace Session.Twins

variable {s t : Session}

theorem stepAt_eq (h : s.Twins t) (id : StepId) : t.stepAt id = s.stepAt id := by
  rw [stepAt, stepAt, h.steps_eq]

theorem currentStep_eq (h : s.Twins t) : t.currentStep = s.currentStep := by
  rw [currentStep, currentStep, h.current_eq, h.stepAt_eq]

theorem checkActive_eq (h : s.Twins t) : t.checkActive = s.checkActive := by
  rw [checkActive, checkActive, h.canceled_eq, h.finished_eq]

theorem isCurrent_eq (h : s.Twins t) (result : ActionResult) :
    t.isCurrent result = s.isCurrent result := by
  rw [isCurrent, isCurrent, h.canceled_eq, h.steps_eq]

theorem methods_eq (h : s.Twins t) : t.methods = s.methods := by
  funext c
  rw [methods, methods, h.resources_eq, h.options_eq, h.host_eq]

theorem enterContext (h : s.Twins t) : s.enterContext.Twins t.enterContext := by
  rw [Session.enterContext, Session.enterContext, h.host_eq, h.resources_eq, h.options_eq]
  exact .of _ _ _ h.credentials _ _

theorem setStep (h : s.Twins t) (id : StepId) (step : Step) :
    (s.setStep id step).Twins (t.setStep id step) :=
  { h with steps_eq := congrArg (·.set id step) h.steps_eq }

theorem log (h : s.Twins t) (events : List Event) : (s.log events).Twins (t.log events) :=
  { h with events_eq := congrArg (· ++ events) h.events_eq }

theorem linkNext (h : s.Twins t) (id : StepId) : (s.linkNext id).Twins (t.linkNext id) := by
  rw [Session.linkNext, Session.linkNext, h.steps_eq]
  split
  · exact h
  · split
    · exact { h with steps_eq := rfl }
    · exact h

theorem finish (h : s.Twins t) :
    ({ s with finished := true }.log [.finished s.flags.success]).Twins
      ({ t with finished := true }.log [.finished t.flags.success]) := by
  have hfinished : Twins { s with finished := true } { t with finished := true } :=
    { h with finished_eq := rfl }
  have hsuccess : t.flags.success = s.flags.success := by rw [h.flags_eq]
  rw [hsuccess]
  exact hfinished.log _

theorem closeStep (h : s.Twins t) (id : StepId) : (s.closeStep id).Twins (t.closeStep id) := by
  have hlinked := h.linkNext id
  rw [Session.closeStep, Session.closeStep, hlinked.stepAt_eq]
  split
  · exact (hlinked.log _).finish
  · exact hlinked.log _

theorem applyResult (h : s.Twins t) (result : ActionResult) :
    (s.applyResult result).Twins (t.applyResult result) := by
  have hfindings : t.findings = s.findings := by
    rw [findings, findings, h.host_eq, h.flags_eq]
  rw [Session.applyResult, Session.applyResult, h.stepAt_eq, h.resources_eq, hfindings]
  generalize (s.stepAt result.step).complete s.resources result.key result.outcome s.findings =
    applied
  have hset := h.setStep result.step applied.step
  have happlied : Twins
      { s.setStep result.step applied.step with
        host := applied.findings.host
        flags := applied.findings.flags }
      { t.setStep result.step applied.step with
        host := applied.findings.host
        flags := applied.findings.flags } :=
    { hset with
      host_eq := rfl
      flags_eq := rfl }
  split
  · exact happlied.closeStep result.step
  · exact happlied

theorem advance? (h : s.Twins t) (place : Nat) (reply : Reply) :
    Option.Rel Session.Twins (s.advance? place reply) (t.advance? place reply) := by
  have haction := rel_getElem? h.running place
  rw [Session.advance?, Session.advance?]
  generalize s.running[place]? = action, t.running[place]? = action' at haction
  cases haction with
  | none => exact .none
  | some haction =>
      have hadvanced := haction.advance? reply
      rw [Option.bind_some, Option.bind_some]
      revert hadvanced
      generalize RunningAction.advance? _ reply = next, RunningAction.advance? _ reply = next'
      intro hadvanced
      cases hadvanced with
      | none => exact .none
      | some hadvanced =>
          cases hadvanced with
          | runs hnext =>
              exact .some { h with
                running := forall₂_set h.running place hnext
                calls := List.rel_append h.calls (forall₂_toList hnext.work.call?) }
          | arrives r =>
              exact .some { h with
                running := forall₂_eraseIdx h.running place
                arrived_eq := congrArg (· ++ [r]) h.arrived_eq }

theorem counted (h : s.Twins t) (c : Component) : (s.counted c).Twins (t.counted c) :=
  { h with attempts_eq := by rw [Session.counted, Session.counted, h.attempts_eq] }

end Session.Twins

namespace Desk

/-- Two outcomes that tell the same and leave the same guards, with twin sessions. -/
inductive Alike {α : Type u} : α × Desk → α × Desk → Prop
  | of (a : α) (g : Guards) {s t : Session} (h : s.Twins t) : Alike (a, ⟨s, g⟩) (a, ⟨t, g⟩)

/-- Two things to do at a desk come out alike with twin sessions. -/
def Oblivious {α : Type} (act act' : Desk → α × Desk) : Prop :=
  ∀ {s t : Session}, s.Twins t → ∀ g, Alike (act ⟨s, g⟩) (act' ⟨t, g⟩)

theorem whenActive_oblivious {α : Type} {operation operation' : Operation α}
    (h : Oblivious operation operation') :
    Oblivious (whenActive operation) (whenActive operation') := by
  intro s t htwins g
  rw [whenActive, whenActive]
  dsimp only
  rw [htwins.checkActive_eq]
  cases s.checkActive with
  | error e => exact .of _ g htwins
  | ok _ => exact h htwins g

theorem next_oblivious : Oblivious next next := by
  refine whenActive_oblivious ?_
  intro s t h g
  dsimp only
  rw [h.currentStep_eq, h.current_eq]
  rcases s.currentStep.next? with e | _ | n
  · exact .of _ g h
  · exact .of _ g h
  · exact .of _ g { h.setStep s.current s.currentStep.proceed with current_eq := rfl }

theorem previous_oblivious : Oblivious previous previous := by
  refine whenActive_oblivious ?_
  intro s t h g
  dsimp only
  rw [h.currentStep_eq]
  split
  · exact .of _ g h
  · cases s.currentStep.previous with
    | none => exact .of _ g h
    | some n => exact .of _ g { h with current_eq := rfl }

theorem enterStep_oblivious (id : StepId) : Oblivious (enterStep id) (enterStep id) := by
  intro s t h g
  rw [enterStep, enterStep]
  dsimp only
  rw [h.steps_eq]
  cases s.steps[id]? with
  | none => exact .of _ g h
  | some step =>
      have hentered := step.enter_twins h.enterContext g
      dsimp only
      generalize step.enter s.enterContext g = entered, step.enter t.enterContext g = entered'
        at hentered
      have hcalls := hentered.firstCalls
      obtain ⟨result, step', g', hstarted⟩ := hentered
      have hset := h.setStep id step'
      cases result with
      | error e => exact .of _ g' hset
      | ok outcome =>
          refine .of _ g' (Session.Twins.log ?_ _)
          exact { hset with
            running := List.rel_append hset.running hstarted
            calls := List.rel_append hset.calls hcalls
            inFlight_eq := congrArg (· + step'.pending.length) hset.inFlight_eq }

theorem enterCurrent_oblivious : Oblivious enterCurrent enterCurrent := by
  intro s t h g
  have hentered := enterStep_oblivious s.current h g
  rw [enterCurrent, enterCurrent]
  dsimp only
  rw [h.current_eq]
  generalize enterStep s.current ⟨s, g⟩ = x, enterStep s.current ⟨t, g⟩ = y at hentered
  obtain ⟨a, g', h'⟩ := hentered
  rcases a with e | outcome
  · exact .of _ g' h'
  · cases outcome with
    | completed => exact .of _ g' (h'.closeStep s.current)
    | _ => exact .of _ g' h'

theorem enter_oblivious : Oblivious enter enter := whenActive_oblivious enterCurrent_oblivious

theorem retry_oblivious : Oblivious retry retry := by
  refine whenActive_oblivious ?_
  intro s t h g
  dsimp only
  rw [h.currentStep_eq]
  split
  · exact .of _ g h
  split
  · exact enter_oblivious h g
  · exact .of _ g h

theorem setCredentials_oblivious {v w : VendorCredentials} (hcredentials : v.Twins w) :
    Oblivious (setCredentials v) (setCredentials w) := by
  intro s t h g
  have hstored : Session.Twins { s with credentials := some v } { t with credentials := some w } :=
    { h with credentials := .some hcredentials }
  have hasked : (awaitsCredentials { t with credentials := some w } && !t.canceled) =
      (awaitsCredentials { s with credentials := some v } && !s.canceled) := by
    rw [awaitsCredentials, awaitsCredentials, hstored.currentStep_eq, h.canceled_eq]
  have hentered := enter_oblivious hstored g
  rw [setCredentials, setCredentials]
  dsimp only
  rw [hasked]
  split
  · generalize enter ⟨{ s with credentials := some v }, g⟩ = x,
      enter ⟨{ t with credentials := some w }, g⟩ = y at hentered
    obtain ⟨a, g', h'⟩ := hentered
    rcases a with e | outcome
    · exact .of _ g' h'
    · exact .of _ g' h'
  · exact .of _ g hstored

theorem startInstall_oblivious (c : Component) (method : Nat) :
    Oblivious (startInstall c method) (startInstall c method) := by
  intro s t h g
  rw [startInstall, startInstall]
  dsimp only
  rw [h.methods_eq, h.currentStep_eq, h.current_eq]
  split
  · exact .of _ g h
  cases (s.methods c).find? method with
  | none => exact .of _ g h
  | some m =>
      cases s.currentStep.chooseInstall c method with
      | error e => exact .of _ g h
      | ok step =>
          have hlinked := (h.setStep s.current step).linkNext s.current
          have hmoved := next_oblivious hlinked g
          dsimp only
          generalize next ⟨(s.setStep s.current step).linkNext s.current, g⟩ = x,
            next ⟨(t.setStep s.current step).linkNext s.current, g⟩ = y at hmoved
          obtain ⟨a, g', h'⟩ := hmoved
          rcases a with e | install
          · exact .of _ g' h'
          · have hentered := enter_oblivious h' g'
            dsimp only
            revert hentered
            generalize enter _ = x', enter _ = y'
            rintro ⟨a, g'', h''⟩
            rcases a with e | outcome
            · exact .of _ g'' h''
            · exact .of _ g'' h''

theorem chooseInstall_oblivious (c : Component) (method : Nat) :
    Oblivious (chooseInstall c method) (chooseInstall c method) := by
  refine whenActive_oblivious ?_
  intro s t h g
  have hstarted := startInstall_oblivious c method h g
  dsimp only
  rw [h.steps_eq, h.current_eq, h.currentStep_eq]
  generalize startInstall c method ⟨s, g⟩ = x, startInstall c method ⟨t, g⟩ = y at hstarted
  obtain ⟨a, g', h'⟩ := hstarted
  rcases a with e | install
  · -- Both sessions put the same steps back.
    refine .of _ g' { h' with steps_eq := ?_, current_eq := rfl }
    dsimp only
    rw [h'.steps_eq]
  · exact .of _ g' h'

theorem join_oblivious {c d : Cluster} (hcluster : c.Twins d) : Oblivious (join c) (join d) := by
  refine whenActive_oblivious ?_
  intro s t h g
  have hname : d.name = c.name := by
    cases hcluster
    rfl
  have hheld := h.cluster
  dsimp only
  rw [hname, h.host_eq]
  generalize s.cluster = held, t.cluster = held' at hheld
  rcases hcluster.addHost s.host with ⟨e, hc, hd⟩ | ⟨added, c', d', host, hc, hd, hjoined⟩
  · rw [hc, hd]
    cases hheld with
    | none => exact .of _ g h
    | some hheld =>
        obtain ⟨name, -, -, -⟩ := hheld
        dsimp only
        generalize (if name = c.name then none else some name) = other
        cases other with
        | none => exact .of _ g h
        | some other => exact .of _ g h
  · have hentered : Session.Twins
        { s with host := host, cluster := some c', joined := s.joined || added }
        { t with host := host, cluster := some d', joined := t.joined || added } :=
      { h with
        host_eq := rfl
        cluster := .some hjoined
        joined_eq := congrArg (· || added) h.joined_eq }
    rw [hc, hd]
    cases hheld with
    | none => exact .of _ g hentered
    | some hheld =>
        obtain ⟨name, -, -, -⟩ := hheld
        dsimp only
        generalize (if name = c.name then none else some name) = other
        cases other with
        | none => exact .of _ g hentered
        | some other => exact .of _ g h

theorem cancel_alike {α : Type u} (a : α) {s t : Session} (h : s.Twins t) (g : Guards) :
    Alike (a, cancel ⟨s, g⟩) (a, cancel ⟨t, g⟩) := by
  have hover : (t.canceled || t.finished) = (s.canceled || s.finished) := by
    rw [h.canceled_eq, h.finished_eq]
  have hstopped : Session.Twins
      { s with canceled := true, steps := s.steps.map (Step.stopped s.current) }
      { t with canceled := true, steps := t.steps.map (Step.stopped t.current) } :=
    { h with
      canceled_eq := rfl
      steps_eq := by rw [h.steps_eq, h.current_eq] }
  rw [cancel, cancel]
  dsimp only
  rw [hover]
  split
  · exact .of _ g h
  refine .of _ g (Session.Twins.log ?_ _)
  cases hjoined : s.joined with
  | false =>
      have hjoined' : t.joined = false := h.joined_eq.trans hjoined
      rw [if_neg Bool.false_ne_true, hjoined', if_neg Bool.false_ne_true]
      exact { hstopped with joined_eq := rfl }
  | true =>
      have hjoined' : t.joined = true := h.joined_eq.trans hjoined
      have hheld := h.cluster
      rw [if_pos rfl, if_pos hjoined']
      generalize s.cluster = held, t.cluster = held' at hheld ⊢
      cases hheld with
      | none =>
          exact { hstopped with
            joined_eq := rfl
            cluster := .none }
      | some hheld =>
          obtain ⟨removed, c, d, host, hc, hd, hleft⟩ := hheld.removeHost s.host
          dsimp only
          rw [h.host_eq, hc, hd]
          exact { hstopped with
            host_eq := rfl
            joined_eq := rfl
            cluster := .some hleft }

theorem countAttempt_alike {α : Type u} (a : α) (c : Component) {s t : Session} (h : s.Twins t)
    (g : Guards) : Alike (a, countAttempt c ⟨s, g⟩) (a, countAttempt c ⟨t, g⟩) := by
  rw [countAttempt, countAttempt]
  dsimp only
  rw [h.checkActive_eq]
  cases s.checkActive with
  | error e => exact .of _ g h
  | ok _ => exact .of _ g (h.counted c)

theorem answer_alike {α : Type u} (a : α) (place : Nat) (reply : Reply) {s t : Session}
    (h : s.Twins t) (g : Guards) :
    Alike (a, answer place reply ⟨s, g⟩) (a, answer place reply ⟨t, g⟩) := by
  have hadvanced := h.advance? place reply
  rw [answer, answer]
  dsimp only
  generalize s.advance? place reply = x, t.advance? place reply = y at hadvanced
  cases hadvanced with
  | none => exact .of _ g h
  | some h' => exact .of _ g h'

theorem receive_oblivious (result : ActionResult) :
    Oblivious (receive result) (receive result) := by
  intro s t h g
  have hread : Session.Twins { s with inFlight := s.inFlight - 1 }
      { t with inFlight := t.inFlight - 1 } :=
    { h with inFlight_eq := congrArg (· - 1) h.inFlight_eq }
  rw [receive, receive]
  dsimp only
  rw [hread.isCurrent_eq]
  split
  · exact .of _ _ (hread.applyResult result)
  · exact .of _ _ hread

theorem read?_oblivious {s t : Session} (h : s.Twins t) (g : Guards) :
    Option.Rel Alike (read? ⟨s, g⟩) (read? ⟨t, g⟩) := by
  rw [read?, read?]
  dsimp only
  rw [h.arrived_eq]
  cases s.arrived with
  | nil => exact .none
  | cons result rest =>
      have hrest : Session.Twins { s with arrived := rest } { t with arrived := rest } :=
        { h with arrived_eq := rfl }
      exact .some (receive_oblivious result hrest g)

theorem turn_oblivious : Oblivious turn turn := by
  intro s t h g
  have hentered := enter_oblivious h g
  have hmoved := next_oblivious h g
  have hplanned : plannedInstall t = plannedInstall s := by
    rw [plannedInstall, plannedInstall, h.policy_eq, h.flags_eq, h.currentStep_eq, h.attempts_eq,
      h.methods_eq]
  -- The session with the counted install is named, so that rewriting does not reach into it.
  have hcounted : ∀ (u : Session) (c : Component),
      { u with attempts := u.attempts.set c (u.attempts.get c + 1) } = u.counted c :=
    fun _ _ => rfl
  rw [turn, turn]
  simp only [hcounted]
  rw [h.currentStep_eq, h.current_eq, h.policy_eq, h.canceled_eq, h.finished_eq, hplanned]
  split
  · exact .of _ g h
  split
  · exact .of _ g h
  split
  · generalize enter ⟨s, g⟩ = x, enter ⟨t, g⟩ = y at hentered
    obtain ⟨a, g', h'⟩ := hentered
    rcases a with e | outcome
    · exact .of _ g' h'
    · cases outcome <;> exact .of _ g' h'
  split
  · exact .of _ g h
  split
  · exact .of _ g h
  split
  · split
    · generalize next ⟨s, g⟩ = x, next ⟨t, g⟩ = y at hmoved
      obtain ⟨a, g', h'⟩ := hmoved
      rcases a with e | n
      · exact .of _ g' h'
      · exact .of _ g' h'
    · exact .of _ g h
  rcases plannedInstall s with _ | ⟨c, _ | method⟩
  · exact .of _ g h
  · exact .of _ g h
  · have hchosen := chooseInstall_oblivious c method (h.counted c) g
    dsimp only
    generalize chooseInstall c method ⟨s.counted c, g⟩ = x,
      chooseInstall c method ⟨t.counted c, g⟩ = y at hchosen
    obtain ⟨a, g', h'⟩ := hchosen
    rcases a with e | install
    · exact .of _ g' h'
    · exact .of _ g' h'

end Desk

end ClusterSetup

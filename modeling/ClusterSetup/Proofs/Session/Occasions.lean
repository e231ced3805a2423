import ClusterSetup.Proofs.Session.Calls
import ClusterSetup.Proofs.Session.Offers
import ClusterSetup.Proofs.Session.Progress

namespace ClusterSetup

namespace Step

/-- An install that was entered and has to wait for credentials. -/
structure AwaitsCredentials (u : Step) : Prop where
  installs : ∃ c n, u.kind = .install c n
  entered : u.entered = true
  idle : u.pending = []
  open_ : u.completed = false

/-- A step that was not entered in the meantime. -/
structure SameRun (u u' : Step) : Prop where
  kind_eq : u'.kind = u.kind
  generation_eq : u'.generation = u.generation
  entered_eq : u'.entered = u.entered
  awaits : u'.AwaitsCredentials → u.AwaitsCredentials

theorem SameRun.refl (u : Step) : u.SameRun u := ⟨rfl, rfl, rfl, fun h => h⟩

theorem SameRun.trans {u v w : Step} (h : u.SameRun v) (h' : v.SameRun w) : u.SameRun w where
  kind_eq := h'.kind_eq.trans h.kind_eq
  generation_eq := h'.generation_eq.trans h.generation_eq
  entered_eq := h'.entered_eq.trans h.entered_eq
  awaits hw := h.awaits (h'.awaits hw)

theorem SameReport.sameRun {u u' : Step} (h : u.SameReport u') : u.SameRun u' := by
  obtain ⟨state, canceled, rfl⟩ := h
  exact ⟨rfl, rfl, rfl, fun h => ⟨h.installs, h.entered, h.idle, h.open_⟩⟩

theorem Coherent.awaitsCredentials_iff {u : Step} (h : u.Coherent) :
    u.AwaitsCredentials ↔ u.entered = true ∧ u.pending = [] ∧ u.completed = false := by
  refine ⟨fun hawaits => ⟨hawaits.entered, hawaits.idle, hawaits.open_⟩, ?_⟩
  rintro ⟨hentered, hidle, hopen⟩
  have hwaits : u.progress.waits = false := by simp [progress, hasPending, hidle]
  have hcompleted := StepKind.completed_iff h
  refine ⟨?_, hentered, hidle, hopen⟩
  -- Any other step without results to come would be completed.
  by_contra hkind
  have hdone : u.completed = true := hcompleted.mpr ⟨hentered, hwaits, fun hboth => hkind hboth.1⟩
  rw [hopen] at hdone
  cases hdone

theorem Entry.not_awaiting {ctx : EnterContext} {g : Guards} {s : Step} {entered : Entered}
    (h : Entry ctx g s entered) (hheld : ctx.credentials ≠ none) :
    entered.result ≠ .ok .awaitingCredentials ∧ ¬ entered.step.AwaitsCredentials := by
  cases h with
  | started runs _ _ => exact ⟨nofun, fun hawaits => StepKind.keys_ne_nil runs hawaits.idle⟩
  | awaiting _ lacks =>
      rw [lacksCredentials, Bool.and_eq_true, Option.isNone_iff_eq_none] at lacks
      exact absurd lacks.2 hheld
  | failed _ _ _ => exact ⟨nofun, fun hawaits => Bool.noConfusion hawaits.open_⟩
  | finished _ => exact ⟨nofun, fun hawaits => Bool.noConfusion hawaits.open_⟩

end Step

namespace Session

theorem awaitsCredentials_iff {s : Session} (h : s.Reachable) (hlive : s.canceled = false)
    {step : Step} (hstep : s.steps[s.current]? = some step) :
    Desk.awaitsCredentials s = true ↔ step.AwaitsCredentials := by
  have hcoherent := h.coherent hlive step (List.mem_of_getElem? hstep)
  have hcompleted := StepKind.completed_iff hcoherent
  have hwaits : step.progress.waits = false ↔ step.pending = [] := by
    simp [Step.progress, Step.hasPending]
  rw [hwaits] at hcompleted
  rw [Desk.awaitsCredentials, currentStep_eq hstep]
  constructor
  · intro hawaits
    simp only [Bool.and_eq_true, Bool.not_eq_true', beq_iff_eq] at hawaits
    obtain ⟨⟨⟨hkind, hentered⟩, hidle⟩, hstate⟩ := hawaits
    have hinstalls : ∃ c n, step.kind = .install c n := by
      split at hkind
      · rename_i c n heq
        exact ⟨c, n, heq⟩
      · cases hkind
    refine ⟨hinstalls, hentered, hwaits.mp hidle, ?_⟩
    rw [← Bool.not_eq_true]
    intro hdone
    exact (hcompleted.mp hdone).2.2 ⟨hinstalls, hstate⟩
  · intro hawaits
    obtain ⟨c, n, hkind⟩ := hawaits.installs
    have hstate : step.state = .installMethodChosen := by
      by_contra hother
      have hdone : step.completed = true :=
        hcompleted.mpr ⟨hawaits.entered, hawaits.idle, fun hboth => hother hboth.2⟩
      rw [hawaits.open_] at hdone
      cases hdone
    simp [hkind, hawaits.entered, Step.hasPending, hawaits.idle, hstate]

/-- No step was entered in the meantime, neither an old one nor one that was made. -/
structure KeepsRuns (steps steps' : List Step) : Prop where
  kept : ∀ {i : StepId} {u : Step}, steps[i]? = some u →
    ∃ u', steps'[i]? = some u' ∧ u.SameRun u'
  made : ∀ {i : StepId} {u' : Step}, steps'[i]? = some u' → steps.length ≤ i →
    u'.entered = false

theorem KeepsRuns.refl (steps : List Step) : KeepsRuns steps steps where
  kept hu := ⟨_, hu, .refl _⟩
  made hu' hi := absurd (List.getElem?_eq_some_iff.mp hu').1 (Nat.not_lt_of_le hi)

theorem KeepsRuns.set {steps : List Step} {i : StepId} {u t : Step} (hu : steps[i]? = some u)
    (h : u.SameRun t) : KeepsRuns steps (steps.set i t) where
  kept {j v} hv := by
    have hi : i < steps.length := (List.getElem?_eq_some_iff.mp hu).1
    by_cases hij : i = j
    · subst hij
      rw [hu, Option.some.injEq] at hv
      subst hv
      exact ⟨t, List.getElem?_set_self hi, h⟩
    · exact ⟨v, by rw [List.getElem?_set_ne hij, hv], .refl v⟩
  made {j v} hv hj := by
    have hlength := (List.getElem?_eq_some_iff.mp hv).1
    rw [List.length_set] at hlength
    exact absurd hlength (Nat.not_lt_of_le hj)

theorem KeepsRuns.attach {steps : List Step} {i : StepId} {u t : Step}
    (hu : steps[i]? = some u) (h : ∀ next, u.SameRun { t with next := next }) :
    KeepsRuns steps (Session.attach steps i t) where
  kept {j v} hv := by
    have hi : i < steps.length := (List.getElem?_eq_some_iff.mp hu).1
    by_cases hij : j = i
    · subst hij
      rw [hu, Option.some.injEq] at hv
      subst hv
      obtain ⟨next, hself, -⟩ := getElem?_attach_self hi t
      exact ⟨_, hself, h next⟩
    · exact ⟨v, getElem?_attach_of_ne hij hv, .refl v⟩
  made {j v} hv hj := by
    have hi : i < steps.length := (List.getElem?_eq_some_iff.mp hu).1
    rcases getElem?_attach_cases hv with ⟨rfl, -⟩ | ⟨-, hold⟩ | ⟨-, kind, -, rfl⟩
    · exact absurd hi (Nat.not_lt_of_le hj)
    · exact absurd (List.getElem?_eq_some_iff.mp hold).1 (Nat.not_lt_of_le hj)
    · rfl

theorem KeepsRuns.map {steps : List Step} {f : Step → Step} (h : ∀ u, Step.SameRun u (f u)) :
    KeepsRuns steps (steps.map f) where
  kept {i u} hu := ⟨f u, by rw [List.getElem?_map, hu, Option.map_some], h u⟩
  made {i u'} hu' hi := by
    have hlength := (List.getElem?_eq_some_iff.mp hu').1
    rw [List.length_map] at hlength
    exact absurd hlength (Nat.not_lt_of_le hi)

end Session

inductive Move.Requests : Move → Prop
  | enter : Requests .enter
  | retry : Requests .retry

namespace Desk

open Session (KeepsRuns)

/-- On what occasion a move enters a step, if it does. -/
inductive Occasion (s : Session) (g : Guards) : Move → Desk → Prop
  /-- No step is entered. -/
  | nothing {m : Move} {d : Desk} (runs : KeepsRuns s.steps d.session.steps)
      (attempts_eq : m ≠ .turn → (∀ c, m ≠ .giveUp c) → d.session.attempts = s.attempts)
      (credentials : s.credentials ≠ none → d.session.credentials ≠ none)
      (silent : ∃ made, d.session.calls = s.calls ++ made ∧ ∀ call ∈ made, call.Connects) :
      Occasion s g m d
  /-- The caller asks for it. -/
  | requested {m : Move} {step : Step} {entered : Entered} {d : Desk} (asked : m.Requests)
      (entering : Entering s g step entered d) : Occasion s g m d
  /-- Credentials arrive for which the current step waits. -/
  | funded {credentials : VendorCredentials} {step : Step} {entered : Entered} {d : Desk}
      (awaits : step.AwaitsCredentials)
      (entering : Entering { s with credentials := some credentials } g step entered d) :
      Occasion s g (.setCredentials credentials) d
  /-- A run reaches a step that was not entered yet. -/
  | reached {step : Step} {entered : Entered} {d : Desk} (fresh : step.entered = false)
      (entering : Entering s g step entered d) : Occasion s g .turn d
  /-- An install is chosen, by the caller or by a run. -/
  | chosen {m : Move} {attempts : PerComponent Nat} {step : Step} {c : Component} {n : Nat}
      {d : Desk} (attempts_eq : m ≠ .turn → attempts = s.attempts)
      (choosing : Choosing { s with attempts := attempts } g step c n d) : Occasion s g m d

section Occasion

variable {s : Session} {g : Guards} {m : Move} {step : Step}

theorem connects_of_no_call (calls : List RemoteCall) :
    ∃ made, calls = calls ++ made ∧ ∀ call ∈ made, call.Connects :=
  ⟨[], (List.append_nil calls).symm, List.forall_mem_nil _⟩

theorem Occasion.of_quiet {d : Desk} (runs : KeepsRuns s.steps d.session.steps)
    (attempts_eq : d.session.attempts = s.attempts)
    (credentials_eq : d.session.credentials = s.credentials)
    (calls_eq : d.session.calls = s.calls) : Occasion s g m d := by
  refine .nothing runs (fun _ _ => attempts_eq) ?_ ?_
  · rw [credentials_eq]
    exact id
  · rw [calls_eq]
    exact connects_of_no_call s.calls

theorem Occasion.of_same : Occasion s g m ⟨s, g⟩ := .of_quiet (.refl _) rfl rfl rfl

theorem Occasion.whenActive {α : Type} {operation : Operation α}
    (h : s.Active → Occasion s g m (operation ⟨s, g⟩).2) :
    Occasion s g m (whenActive operation ⟨s, g⟩).2 := by
  rcases s.active_or_refused with hactive | ⟨e, he⟩
  · rw [whenActive_of_active operation (d := ⟨s, g⟩) hactive]
    exact h hactive
  · rw [whenActive_of_refused operation (d := ⟨s, g⟩) he]
    exact .of_same

theorem previous_occasion (s : Session) (g : Guards) :
    Occasion s g .previous (previous ⟨s, g⟩).2 := by
  refine .whenActive fun _ => ?_
  dsimp only
  split
  · exact .of_same
  · split
    · exact .of_same
    · exact .of_quiet (.refl _) rfl rfl rfl

theorem join_occasion (s : Session) (g : Guards) (cluster : Cluster) :
    Occasion s g (.join cluster) (join cluster ⟨s, g⟩).2 := by
  refine .whenActive fun _ => ?_
  dsimp only
  split
  · exact .of_same
  · split
    · exact .of_same
    · exact .of_quiet (.refl _) rfl rfl rfl

theorem cancel_occasion (s : Session) (g : Guards) : Occasion s g .cancel (cancel ⟨s, g⟩) := by
  by_cases hactive : s.Active
  · obtain ⟨cluster, membership, heq⟩ := cancel_eq (d := ⟨s, g⟩) hactive
    rw [heq]
    exact .of_quiet (.map fun u => (u.stopped_sameReport s.current).sameRun) rfl rfl rfl
  · rw [cancel_of_over (d := ⟨s, g⟩) hactive]
    exact .of_same

theorem giveUp_occasion (s : Session) (g : Guards) (c : Component) :
    Occasion s g (.giveUp c) (countAttempt c ⟨s, g⟩) := by
  rw [countAttempt]
  split
  · exact .of_same
  · exact .nothing (.refl _) (fun _ hother => absurd rfl (hother c)) id
      (connects_of_no_call s.calls)

theorem answer_occasion (hapt : ∀ a ∈ s.running, a.Apt) (g : Guards) (place : Nat)
    (reply : Reply) : Occasion s g (.answer place reply) (answer place reply ⟨s, g⟩) := by
  rw [answer]
  cases hadvance : s.advance? place reply with
  | none => exact .of_same
  | some t =>
      have hsame := (Session.advance?_answered hadvance).same
      obtain ⟨-, hcalls⟩ := Session.advance?_apt hadvance hapt
      refine .nothing ?_ ?_ ?_ hcalls
      · rw [hsame]
        exact .refl _
      · rw [hsame]
        exact fun _ _ => rfl
      · rw [hsame]
        exact id

theorem complete_sameRun {step' : Step} {f : Findings} {key : ActionKey} {outcome : Outcome}
    {done : Bool} (h : s.Valid) (hstep : s.steps[s.current]? = some step)
    (hpending : key ∈ step.pending)
    (happlied : step.complete s.resources key outcome s.findings = ⟨step', f, done⟩)
    (next : Option StepId) : step.SameRun { step' with next := next } := by
  obtain ⟨hreads, -⟩ := h.placed.reads hstep hpending happlied
  have hentered := Step.complete_entered s.resources step key outcome s.findings
  rw [happlied] at hentered
  refine ⟨hreads.same.kind_eq, hreads.generation_eq, hentered, ?_⟩
  -- The last result that a step waits for completes it.
  intro hawaits
  have hidle : step.pending.erase key = [] := hreads.pending_eq.symm.trans hawaits.idle
  have hopen : step'.completed = false := hawaits.open_
  rw [hreads.completed_iff.mpr hidle] at hopen
  cases hopen

theorem read_occasion (h : s.Valid) (g : Guards) : Occasion s g .read (readNext ⟨s, g⟩) := by
  cases harrived : s.arrived with
  | nil =>
      have hnothing : readNext ⟨s, g⟩ = ⟨s, g⟩ := by simp only [readNext, read?, harrived]
      rw [hnothing]
      exact .of_same
  | cons result rest =>
      cases hcanceled : s.canceled with
      | true =>
          rw [readNext, read?_of_canceled g hcanceled harrived]
          exact .of_quiet (.refl _) rfl rfl rfl
      | false =>
          obtain ⟨step, hstep⟩ := h.placed.current
          obtain ⟨-, hpending⟩ := h.expects hcanceled harrived hstep
          obtain ⟨step', f, -, ⟨happlied, hread⟩ | ⟨happlied, hread⟩⟩ :=
            read?_of_live g h hcanceled harrived hstep
          · rw [readNext, hread]
            exact .of_quiet (.set hstep (complete_sameRun h hstep hpending happlied step'.next))
              rfl rfl rfl
          · rw [readNext, hread]
            exact .of_quiet (.attach hstep (complete_sameRun h hstep hpending happlied)) rfl rfl rfl

variable (hstep : s.steps[s.current]? = some step)
include hstep

theorem enter_occasion (asked : m.Requests) : Occasion s g m (enter ⟨s, g⟩).2 := by
  refine .whenActive fun hactive => ?_
  rcases enterCurrent_spec g hactive hstep with
    ⟨e, -, heq⟩ | ⟨outcome, entered, d, heq, -, hentering⟩
  · rw [heq]
    exact .of_same
  · rw [heq]
    exact .requested asked hentering

theorem retry_occasion : Occasion s g .retry (retry ⟨s, g⟩).2 := by
  refine .whenActive fun _ => ?_
  dsimp only
  split
  · exact .of_same
  · split
    · exact enter_occasion hstep .retry
    · exact .of_same

theorem next_occasion : Occasion s g m (next ⟨s, g⟩).2 := by
  rcases s.active_or_refused with hactive | ⟨e, he⟩
  · rcases next_spec g hactive hstep with ⟨e, -, heq⟩ | ⟨n, -, -, heq⟩
    · rw [heq]
      exact .of_same
    · rw [heq]
      exact .of_quiet (.set hstep step.proceed_sameReport.sameRun) rfl rfl rfl
  · rw [next, whenActive_of_refused _ he]
    exact .of_same

theorem chooseInstall_occasion (c : Component) (n : Nat) :
    Occasion s g (.chooseInstall c n) (chooseInstall c n ⟨s, g⟩).2 := by
  rcases s.active_or_refused with hactive | ⟨e, he⟩
  · rcases chooseInstall_chooses (g := g) c n hactive hstep with ⟨e, -, heq⟩ | ⟨d, heq, hchoosing⟩
    · rw [heq]
      exact .of_same
    · rw [heq]
      exact .chosen (fun _ => rfl) hchoosing
  · rw [chooseInstall, whenActive_of_refused _ he]
    exact .of_same

theorem setCredentials_occasion (h : s.Reachable) (credentials : VendorCredentials) :
    Occasion s g (.setCredentials credentials) (setCredentials credentials ⟨s, g⟩).2 := by
  have hstored : Occasion s g (.setCredentials credentials)
      ⟨{ s with credentials := some credentials }, g⟩ :=
    .nothing (.refl _) (fun _ _ => rfl) (fun _ => Option.some_ne_none credentials)
      (connects_of_no_call s.calls)
  let funded : Session := { s with credentials := some credentials }
  rw [setCredentials]
  dsimp only
  split
  · rename_i hcondition
    rw [Bool.and_eq_true, Bool.not_eq_true'] at hcondition
    obtain ⟨hwaits, hlive⟩ := hcondition
    have hawaits : step.AwaitsCredentials := (Session.awaitsCredentials_iff h hlive hstep).mp hwaits
    have henter : Occasion s g (.setCredentials credentials) (enter ⟨funded, g⟩).2 := by
      rcases funded.active_or_refused with hactive | ⟨e, he⟩
      · rw [enter, whenActive_of_active _ hactive]
        rcases enterCurrent_spec (s := funded) g hactive hstep with
          ⟨e, -, heq⟩ | ⟨outcome, entered, d, heq, -, hentering⟩
        · rw [heq]
          exact hstored
        · rw [heq]
          exact .funded hawaits hentering
      · rw [enter, whenActive_of_refused _ he]
        exact hstored
    split
    · rename_i heq
      rw [heq] at henter
      exact henter
    · rename_i heq
      rw [heq] at henter
      exact henter
  · exact hstored

theorem turn_occasion : Occasion s g .turn (turn ⟨s, g⟩).2 := by
  have hturned := turn_spec g hstep
  generalize turn ⟨s, g⟩ = turned at hturned
  obtain ⟨result, d⟩ := turned
  dsimp only at hturned ⊢
  cases hturned with
  | asks _ fresh _ entering => exact .reached fresh entering
  | enters _ fresh _ _ entering => exact .reached fresh entering
  | goes _ _ _ _ => exact .of_quiet (.set hstep step.proceed_sameReport.sameRun) rfl rfl rfl
  | notInstalled _ _ _ _ =>
      exact .nothing (.refl _) (fun hother => absurd rfl hother) id
        (connects_of_no_call s.calls)
  | installs _ _ _ _ choosing => exact .chosen (fun hother => absurd rfl hother) choosing
  | _ => exact .of_same

end Occasion

theorem Choosing.kept {s : Session} {g : Guards} {step : Step} {c : Component} {n : Nat} {d : Desk}
    (h : Choosing s g step c n d) {i : StepId} {u : Step} (hu : s.steps[i]? = some u) :
    ∃ u', d.session.steps[i]? = some u' ∧ u.SameRun u' := by
  obtain ⟨entered, entering⟩ := h.entering
  have hi : i < s.steps.length := (List.getElem?_eq_some_iff.mp hu).1
  have hcompleted : step.completed = true := completed_of_offersInstall h.offers
  have hruns : KeepsRuns s.steps (Session.attach s.steps s.current (step.chosen c n)) := by
    refine .attach h.current fun next => ⟨rfl, rfl, rfl, fun hawaits => ?_⟩
    have hopen : step.completed = false := hawaits.open_
    rw [hcompleted] at hopen
    cases hopen
  obtain ⟨u', hu', hsame⟩ := hruns.kept hu
  rw [entering.session_eq]
  exact ⟨u', (List.getElem?_set_ne (Nat.ne_of_gt hi)).trans hu', hsame⟩

theorem perform_occasion {s : Session} (h : s.Reachable) (g : Guards) (m : Move) :
    Occasion s g m (m.perform ⟨s, g⟩) := by
  obtain ⟨step, hstep⟩ := h.valid.placed.current
  cases m with
  | enter => exact enter_occasion hstep .enter
  | retry => exact retry_occasion hstep
  | next => exact next_occasion hstep
  | previous => exact previous_occasion s g
  | chooseInstall c n => exact chooseInstall_occasion hstep c n
  | setCredentials credentials => exact setCredentials_occasion hstep h credentials
  | join cluster => exact join_occasion s g cluster
  | cancel => exact cancel_occasion s g
  | read => exact read_occasion h.valid g
  | turn => exact turn_occasion hstep
  | giveUp c => exact giveUp_occasion s g c
  | answer place reply => exact answer_occasion h.apt g place reply

end Desk

end ClusterSetup

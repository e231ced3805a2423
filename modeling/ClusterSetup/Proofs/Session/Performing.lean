import ClusterSetup.Proofs.Session.Logs
import ClusterSetup.Proofs.Step.Following
import ClusterSetup.Proofs.Step.HostData

/-!
What one move does to a session, as far as installs and calls of the remote side are concerned: it
makes no call and no step of an install, it brings running actions on, it enters the current step,
or it chooses an install and enters the step that is made for it. A move that does none of these
and reads no result tells of nothing but a cancelation, of the host it changes the cluster only, and
it leaves the flags and the reports of the steps as they are. Only joining and canceling change
what is known of a cluster.
-/

namespace ClusterSetup

open Relation (ReflTransGen)

/-- A step that was not made for another purpose, and is still entered if it was. -/
structure Step.SameInstall (u u' : Step) : Prop where
  kind_eq : u'.kind = u.kind
  previous_eq : u'.previous = u.previous
  entered : u.entered = true → u'.entered = true

/-- A step of which at most the state has changed, and which may have been canceled. -/
def Step.SameReport (u u' : Step) : Prop :=
  ∃ state canceled, u' = { u with state := state, canceled := canceled }

theorem Step.SameReport.refl (u : Step) : u.SameReport u := ⟨u.state, u.canceled, rfl⟩

inductive Move.Enrolls : Move → Prop
  | join (cluster : Cluster) : Enrolls (.join cluster)
  | cancel : Enrolls .cancel

namespace Session

structure SameMembership (s t : Session) : Prop where
  host_eq : t.host.cluster = s.host.cluster
  held_eq : t.cluster = s.cluster
  joined_eq : t.joined = s.joined

/-- Every step of an install was there before. -/
def KeepsInstalls (steps steps' : List Step) : Prop :=
  ∀ (i : StepId) (u' : Step), steps'[i]? = some u' → ∀ c n, u'.kind = .install c n →
    ∃ u, steps[i]? = some u ∧ u.SameInstall u'

theorem KeepsInstalls.refl (steps : List Step) : KeepsInstalls steps steps :=
  fun _ u' hu' _ _ _ => ⟨u', hu', rfl, rfl, fun h => h⟩

theorem KeepsInstalls.set {steps : List Step} {i : StepId} {u t : Step} (hu : steps[i]? = some u)
    (h : u.SameInstall t) : KeepsInstalls steps (steps.set i t) := by
  intro j u' hu' c n hkind
  rcases getElem?_set_cases hu' with ⟨rfl, rfl⟩ | ⟨-, hu'⟩
  · exact ⟨u, hu, h⟩
  · exact KeepsInstalls.refl steps j u' hu' c n hkind

theorem KeepsInstalls.attach {steps : List Step} {i : StepId} {u t : Step}
    (hu : steps[i]? = some u) (h : u.SameInstall t)
    (hnext : ∀ c n, t.nextKind ≠ some (.install c n)) :
    KeepsInstalls steps (Session.attach steps i t) := by
  intro j u' hu' c n hkind
  rcases getElem?_attach_cases hu' with ⟨rfl, next, rfl⟩ | ⟨-, hold⟩ | ⟨-, kind, hdecided, rfl⟩
  · exact ⟨u, hu, h.kind_eq, h.previous_eq, h.entered⟩
  · exact KeepsInstalls.refl steps j u' hold c n hkind
  · exact absurd (hdecided.trans (congrArg some hkind)) (hnext c n)

theorem KeepsInstalls.map {steps : List Step} {f : Step → Step}
    (h : ∀ u, Step.SameInstall u (f u)) : KeepsInstalls steps (steps.map f) := by
  intro i u' hu' c n hkind
  rw [List.getElem?_map, Option.map_eq_some_iff] at hu'
  obtain ⟨u, hu, rfl⟩ := hu'
  exact ⟨u, hu, h u⟩

/-- Every step was there before, and has kept its report. -/
def KeepsReports (steps steps' : List Step) : Prop :=
  ∀ (i : StepId) (u' : Step), steps'[i]? = some u' → ∃ u, steps[i]? = some u ∧ u.SameReport u'

theorem KeepsReports.refl (steps : List Step) : KeepsReports steps steps :=
  fun _ u' hu' => ⟨u', hu', .refl u'⟩

theorem KeepsReports.set {steps : List Step} {i : StepId} {u t : Step} (hu : steps[i]? = some u)
    (h : u.SameReport t) : KeepsReports steps (steps.set i t) := by
  intro j u' hu'
  rcases getElem?_set_cases hu' with ⟨rfl, rfl⟩ | ⟨-, hold⟩
  · exact ⟨u, hu, h⟩
  · exact ⟨u', hold, .refl u'⟩

theorem KeepsReports.map {steps : List Step} {f : Step → Step}
    (h : ∀ u, Step.SameReport u (f u)) : KeepsReports steps (steps.map f) := by
  intro i u' hu'
  rw [List.getElem?_map, Option.map_eq_some_iff] at hu'
  obtain ⟨u, hu, rfl⟩ := hu'
  exact ⟨u, hu, h u⟩

theorem new_has_no_install {host : Host} {resources : Resources} {policy : Policy}
    {options : SessionOptions} {credentials : Option VendorCredentials} {i : StepId} {u : Step}
    (hu : (new host resources policy options credentials).steps[i]? = some u) (c : Component)
    (n : Nat) : u.kind ≠ .install c n := by
  rw [List.mem_singleton.mp (List.mem_of_getElem? hu)]
  intro hkind
  simp only [Step.new, firstKind] at hkind
  split at hkind <;> cases hkind

/-- No result decides on an install, nor on connecting once more. -/
theorem decided_of_applied {s : Session} (hvalid : s.Valid) {step step' : Step} {f : Findings}
    {key : ActionKey} {outcome : Outcome} {done : Bool} (hstep : s.steps[s.current]? = some step)
    (hpending : key ∈ step.pending)
    (happlied : step.complete s.resources key outcome s.findings = ⟨step', f, done⟩)
    (kind : StepKind) (hkind : step'.nextKind = some kind) :
    kind = .confirm ∨ ∃ scope, kind = .probe scope := by
  have hsound := hvalid.placed.arena.sound hstep
  have hundecided := hsound.undecided (hsound.not_completed (List.ne_nil_of_mem hpending))
  refine Step.complete_nextKind_cases s.resources outcome s.findings hpending
    hsound.pending_sublist hundecided ?_
  rw [happlied]
  exact hkind

end Session

theorem Step.stopped_sameInstall (current : StepId) (u : Step) :
    SameInstall u (u.stopped current) := by
  rw [stopped]
  split
  · rw [cancel]
    split <;> exact ⟨rfl, rfl, fun h => h⟩
  · exact ⟨rfl, rfl, fun h => h⟩

theorem Step.proceed_sameInstall (u : Step) : SameInstall u u.proceed := by
  rw [proceed]
  split <;> exact ⟨rfl, rfl, fun h => h⟩

theorem Step.stopped_sameReport (current : StepId) (u : Step) :
    SameReport u (u.stopped current) := by
  rw [stopped]
  split
  · rw [cancel]
    split <;> exact ⟨_, _, rfl⟩
  · exact ⟨_, _, rfl⟩

theorem Step.proceed_sameReport (u : Step) : SameReport u u.proceed := by
  rw [proceed]
  split <;> exact ⟨_, _, rfl⟩

namespace Desk

open Session (KeepsInstalls KeepsReports SameMembership)

/-- What a move makes of a session and the guards. -/
inductive Performed (s : Session) (g : Guards) (m : Move) (d : Desk) : Prop
  | quiet (installs : KeepsInstalls s.steps d.session.steps)
      (calls_eq : d.session.calls = s.calls) (charges_eq : d.session.charges = s.charges)
      (host_kept : ∃ membership, d.session.host = { s.host with cluster := membership })
      (events_eq : m ≠ .cancel → d.session.events = s.events)
      (reports : KeepsReports s.steps d.session.steps) (flags_eq : d.session.flags = s.flags)
      (membership : ¬ m.Enrolls → s.SameMembership d.session)
  | reads (move : m = .read) {result : ActionResult} {rest : List ActionResult}
      (arrived : s.arrived = result :: rest)
      (installs : KeepsInstalls s.steps d.session.steps) (calls_eq : d.session.calls = s.calls)
      (charges_perm : s.charges.Perm ((result.ticket, result.guards) :: d.session.charges))
      (guards_eq : d.guards = g.releaseAll result.guards)
      (membership : s.SameMembership d.session)
  | answers {place : Nat} {reply : Reply} (advance : s.advance? place reply = some d.session)
  | enters (acts : ¬ m.Hears) (credentials : Option VendorCredentials) {step : Step}
      {entered : Entered}
      (entering : Entering { s with credentials := credentials } g step entered d)
  | chooses {attempts : PerComponent Nat} {step : Step} {c : Component} {n : Nat}
      (picks : m.Picks c n) (choosing : Choosing { s with attempts := attempts } g step c n d)

theorem Entering.keepsInstalls {s : Session} {g : Guards} {step : Step} {entered : Entered}
    {d : Desk} (h : Entering s g step entered d) : KeepsInstalls s.steps d.session.steps := by
  obtain ⟨hentered, -, hkind, hprevious⟩ := h.entry.rerun
  rw [h.session_eq]
  exact .set h.current ⟨hkind, hprevious, fun _ => hentered⟩

section Performed

variable {s : Session} {g : Guards} {m : Move} {step : Step}

theorem Performed.of_same {d : Desk} {credentials : Option VendorCredentials}
    {attempts : PerComponent Nat} {n : StepId}
    (session_eq : d.session =
      { s with credentials := credentials, attempts := attempts, current := n }) :
    Performed s g m d := by
  obtain ⟨t, g'⟩ := d
  obtain rfl : t = _ := session_eq
  exact .quiet (.refl _) rfl rfl ⟨_, rfl⟩ (fun _ => rfl) (.refl _) rfl fun _ => ⟨rfl, rfl, rfl⟩

theorem Performed.whenActive {α : Type} {operation : Operation α} {t : Session}
    (hover : Performed s g m ⟨t, g⟩) (h : t.Active → Performed s g m (operation ⟨t, g⟩).2) :
    Performed s g m (whenActive operation ⟨t, g⟩).2 := by
  rcases t.active_or_refused with hactive | ⟨e, he⟩
  · rw [whenActive_of_active operation (d := ⟨t, g⟩) hactive]
    exact h hactive
  · rw [whenActive_of_refused operation (d := ⟨t, g⟩) he]
    exact hover

variable (hstep : s.steps[s.current]? = some step)
include hstep

theorem enter_performed (acts : ¬ m.Hears) (credentials : Option VendorCredentials) :
    Performed s g m (enter ⟨{ s with credentials := credentials }, g⟩).2 := by
  refine .whenActive (.of_same rfl) fun hactive => ?_
  rcases enterCurrent_spec (s := { s with credentials := credentials }) g hactive hstep with
    ⟨e, -, heq⟩ | ⟨outcome, entered, d, heq, -, hentering⟩
  · rw [heq]
    exact .of_same rfl
  · rw [heq]
    exact .enters acts credentials hentering

theorem retry_performed (acts : ¬ m.Hears) : Performed s g m (retry ⟨s, g⟩).2 := by
  refine .whenActive (.of_same rfl) fun _ => ?_
  dsimp only
  split
  · exact .of_same rfl
  · split
    · exact enter_performed hstep acts s.credentials
    · exact .of_same rfl

theorem next_performed : Performed s g m (next ⟨s, g⟩).2 := by
  rcases s.active_or_refused with hactive | ⟨e, he⟩
  · rcases next_spec g hactive hstep with ⟨e, -, heq⟩ | ⟨n, -, -, heq⟩
    · rw [heq]
      exact .of_same rfl
    · rw [heq]
      exact .quiet (.set hstep step.proceed_sameInstall) rfl rfl ⟨_, rfl⟩ (fun _ => rfl)
        (.set hstep step.proceed_sameReport) rfl fun _ => ⟨rfl, rfl, rfl⟩
  · rw [next, whenActive_of_refused _ he]
    exact .of_same rfl

theorem chooseInstall_performed {c : Component} {n : Nat} (picks : m.Picks c n)
    (attempts : PerComponent Nat) :
    Performed s g m (chooseInstall c n ⟨{ s with attempts := attempts }, g⟩).2 := by
  rcases Session.active_or_refused { s with attempts := attempts } with hactive | ⟨e, he⟩
  · rcases chooseInstall_chooses (g := g) c n hactive hstep with ⟨e, -, heq⟩ | ⟨d, heq, hchoosing⟩
    · rw [heq]
      exact .of_same rfl
    · rw [heq]
      exact .chooses picks hchoosing
  · rw [chooseInstall, whenActive_of_refused _ he]
    exact .of_same rfl

theorem setCredentials_performed (acts : ¬ m.Hears) (credentials : VendorCredentials) :
    Performed s g m (setCredentials credentials ⟨s, g⟩).2 := by
  have henter := enter_performed (g := g) hstep acts (some credentials)
  rw [setCredentials]
  dsimp only
  split
  · split
    · rename_i heq
      rw [heq] at henter
      exact henter
    · rename_i heq
      rw [heq] at henter
      exact henter
  · exact .of_same rfl

theorem turn_performed : Performed s g .turn (turn ⟨s, g⟩).2 := by
  have hturned := turn_spec g hstep
  generalize turn ⟨s, g⟩ = turned at hturned
  obtain ⟨result, d⟩ := turned
  dsimp only at hturned ⊢
  cases hturned with
  | asks _ _ _ entering => exact .enters nofun s.credentials entering
  | enters _ _ _ _ entering => exact .enters nofun s.credentials entering
  | goes _ _ _ _ =>
      exact .quiet (.set hstep step.proceed_sameInstall) rfl rfl ⟨_, rfl⟩ (fun _ => rfl)
        (.set hstep step.proceed_sameReport) rfl fun _ => ⟨rfl, rfl, rfl⟩
  | installs _ _ _ _ choosing => exact .chooses .turn choosing
  | _ => exact .of_same rfl

end Performed

theorem previous_performed (s : Session) (g : Guards) (m : Move) :
    Performed s g m (previous ⟨s, g⟩).2 := by
  refine .whenActive (.of_same rfl) fun _ => ?_
  dsimp only
  split
  · exact .of_same rfl
  · split <;> exact .of_same rfl

theorem join_performed (s : Session) (g : Guards) (cluster : Cluster) :
    Performed s g (.join cluster) (join cluster ⟨s, g⟩).2 := by
  refine .whenActive (.of_same rfl) fun _ => ?_
  dsimp only
  split
  · exact .of_same rfl
  · split
    · exact .of_same rfl
    · rename_i hadd
      exact .quiet (.refl _) rfl rfl ⟨_, addHost_host hadd⟩ (fun _ => rfl) (.refl _) rfl
        fun hother => absurd (.join cluster) hother

theorem cancel_performed (s : Session) (g : Guards) : Performed s g .cancel (cancel ⟨s, g⟩) := by
  by_cases hactive : s.Active
  · obtain ⟨cluster, membership, heq⟩ := cancel_eq (d := ⟨s, g⟩) hactive
    rw [heq]
    exact .quiet (.map (Step.stopped_sameInstall s.current)) rfl rfl ⟨_, rfl⟩
      (fun hother => absurd rfl hother) (.map (Step.stopped_sameReport s.current)) rfl
      fun hother => absurd .cancel hother
  · rw [cancel_of_over (d := ⟨s, g⟩) hactive]
    exact .of_same rfl

theorem complete_sameInstall {s : Session} (h : s.Valid) {step step' : Step} {f : Findings}
    {key : ActionKey} {outcome : Outcome} {done : Bool} (hstep : s.steps[s.current]? = some step)
    (hpending : key ∈ step.pending)
    (happlied : step.complete s.resources key outcome s.findings = ⟨step', f, done⟩) :
    step.SameInstall step' ∧ ∀ c n, step'.nextKind ≠ some (.install c n) := by
  obtain ⟨hreads, -⟩ := h.placed.reads hstep hpending happlied
  have hentered := Step.complete_entered s.resources step key outcome s.findings
  rw [happlied] at hentered
  refine ⟨⟨hreads.same.kind_eq, hreads.same.previous_eq, ?_⟩, ?_⟩
  · intro hbefore
    exact hentered.trans hbefore
  · intro c n hnext
    rcases Session.decided_of_applied h hstep hpending happlied _ hnext with
      hconfirm | ⟨scope, hprobe⟩
    · cases hconfirm
    · cases hprobe

theorem complete_cluster {s : Session} (h : s.Valid) {step step' : Step} {f : Findings}
    {key : ActionKey} {outcome : Outcome} {done : Bool} (hstep : s.steps[s.current]? = some step)
    (hpending : key ∈ step.pending)
    (happlied : step.complete s.resources key outcome s.findings = ⟨step', f, done⟩) :
    f.host.cluster = s.host.cluster := by
  have hcluster := Step.complete_cluster s.resources outcome s.findings hpending
    (h.placed.arena.sound hstep).pending_sublist
  rw [happlied] at hcluster
  exact hcluster

theorem readNext_performed {s : Session} (g : Guards) (h : s.Valid) :
    Performed s g .read (readNext ⟨s, g⟩) := by
  cases harrived : s.arrived with
  | nil =>
      have hnothing : readNext ⟨s, g⟩ = ⟨s, g⟩ := by simp only [readNext, read?, harrived]
      rw [hnothing]
      exact .of_same rfl
  | cons result rest =>
      cases hcanceled : s.canceled with
      | true =>
          rw [readNext, read?_of_canceled g hcanceled harrived]
          exact .reads rfl harrived (.refl _) rfl (Session.charges_of_arrived harrived rfl rfl) rfl
            ⟨rfl, rfl, rfl⟩
      | false =>
          obtain ⟨step, hstep⟩ := h.placed.current
          obtain ⟨-, hpending⟩ := h.expects hcanceled harrived hstep
          obtain ⟨step', f, -, ⟨happlied, hread⟩ | ⟨happlied, hread⟩⟩ :=
            read?_of_live g h hcanceled harrived hstep
          · obtain ⟨hsame, -⟩ := complete_sameInstall h hstep hpending happlied
            rw [readNext, hread]
            exact .reads rfl harrived (.set hstep hsame) rfl
              (Session.charges_of_arrived harrived rfl rfl) rfl
              ⟨complete_cluster h hstep hpending happlied, rfl, rfl⟩
          · obtain ⟨hsame, hnext⟩ := complete_sameInstall h hstep hpending happlied
            rw [readNext, hread]
            exact .reads rfl harrived (.attach hstep hsame hnext) rfl
              (Session.charges_of_arrived harrived rfl rfl) rfl
              ⟨complete_cluster h hstep hpending happlied, rfl, rfl⟩

theorem perform_spec {s : Session} (h : s.Valid) (g : Guards) (m : Move) :
    Performed s g m (m.perform ⟨s, g⟩) := by
  obtain ⟨step, hstep⟩ := h.placed.current
  cases m with
  | enter => exact enter_performed (m := .enter) hstep nofun s.credentials
  | retry => exact retry_performed (m := .retry) hstep nofun
  | next => exact next_performed hstep
  | previous => exact previous_performed s g _
  | chooseInstall c n =>
      exact chooseInstall_performed hstep .chooseInstall s.attempts
  | setCredentials credentials =>
      exact setCredentials_performed (m := .setCredentials credentials) hstep nofun credentials
  | join cluster => exact join_performed s g cluster
  | cancel => exact cancel_performed s g
  | read => exact readNext_performed g h
  | turn => exact turn_performed hstep
  | giveUp c =>
      rw [Move.perform, countAttempt]
      split <;> exact .of_same rfl
  | answer place reply =>
      rw [Move.perform, answer]
      cases hadvance : s.advance? place reply with
      | none => exact .of_same rfl
      | some t => exact .answers hadvance

end Desk

namespace Session

/-- The last step of a session was made for an install that was then offered by its current step
and could be done by the chosen method. -/
structure Chose (s : Session) (i : StepId) (u : Step) (c : Component) (n : Nat) : Prop where
  place : i = s.steps.length
  previous_eq : u.previous = some s.current
  entered : u.entered = true
  offers : s.currentStep.offersInstall c = true
  listed : ((s.methods c).find? n).isSome = true

end Session

namespace Desk

open Session (Chose)

theorem Choosing.installs {s : Session} {g : Guards} {step : Step} {c d : Component} {n m : Nat}
    {e : Desk} (h : Choosing s g step c n e) {i : StepId} {u' : Step}
    (hu' : e.session.steps[i]? = some u') (hkind : u'.kind = .install d m) :
    (∃ u, s.steps[i]? = some u ∧ u.SameInstall u') ∨ d = c ∧ m = n ∧ s.Chose i u' c n := by
  obtain ⟨entered, entering⟩ := h.entering
  obtain ⟨hentered, -, hkind', hprevious⟩ := entering.entry.rerun
  rw [entering.session_eq] at hu'
  rcases getElem?_set_cases hu' with ⟨rfl, rfl⟩ | ⟨hi, hu'⟩
  · right
    cases hkind'.symm.trans hkind
    refine ⟨rfl, rfl, rfl, hprevious, hentered, ?_, h.listed⟩
    rw [Session.currentStep_eq h.current]
    exact h.offers
  · left
    change (Session.attach s.steps s.current (step.chosen c n))[i]? = some u' at hu'
    rcases Session.getElem?_attach_cases hu' with ⟨rfl, next, rfl⟩ | ⟨-, hold⟩ | ⟨hlast, -⟩
    · exact ⟨step, h.current, rfl, rfl, fun h => h⟩
    · exact ⟨u', hold, rfl, rfl, fun h => h⟩
    · exact absurd hlast hi

theorem perform_installs {s : Session} (h : s.Valid) (g : Guards) (m : Move) {i : StepId}
    {u' : Step} (hu' : (m.perform ⟨s, g⟩).session.steps[i]? = some u') {c : Component} {n : Nat}
    (hkind : u'.kind = .install c n) :
    (∃ u, s.steps[i]? = some u ∧ u.SameInstall u') ∨ m.Picks c n ∧ s.Chose i u' c n := by
  cases perform_spec h g m with
  | quiet installs => exact .inl (installs i u' hu' c n hkind)
  | reads _ _ installs _ _ _ => exact .inl (installs i u' hu' c n hkind)
  | answers advance =>
      rw [(Session.advance?_answered advance).same] at hu'
      exact .inl ⟨u', hu', rfl, rfl, fun h => h⟩
  | enters _ _ entering => exact .inl (entering.keepsInstalls i u' hu' c n hkind)
  | chooses picks choosing =>
      rcases choosing.installs hu' hkind with hkept | ⟨rfl, rfl, hchose⟩
      · exact .inl hkept
      · exact .inr ⟨picks, hchose.place, hchose.previous_eq, hchose.entered, hchose.offers,
          hchose.listed⟩

end Desk

/-- Every step of an install was entered when it was made. -/
def Session.InstallsEntered (s : Session) : Prop :=
  ∀ (i : StepId) (u : Step), s.steps[i]? = some u → ∀ c n, u.kind = .install c n →
    u.entered = true

theorem Session.Reachable.installs_entered {s : Session} (h : s.Reachable) :
    s.InstallsEntered := by
  obtain ⟨log, hlog⟩ := h.recorded
  refine hlog.induct (P := fun _ s => s.InstallsEntered) ?_ ?_
  · intro host resources policy options credentials i u hu c n hkind
    exact absurd hkind (new_has_no_install hu c n)
  · intro log s g m hlog ih i u hu c n hkind
    rcases Desk.perform_installs hlog.reachable.valid g m hu hkind with
      ⟨old, hold, hsame⟩ | ⟨-, hchose⟩
    · exact hsame.entered (ih i old hold c n (hsame.kind_eq.symm.trans hkind))
    · exact hchose.entered

end ClusterSetup

import ClusterSetup.Proofs.Session.Performing
import ClusterSetup.Proofs.Step.Evidence

namespace ClusterSetup

/-- A result that was applied, with the kind of the step it was for. -/
structure Receipt where
  kind : StepKind
  result : ActionResult

namespace Receipt

def evidence? (c : Component) (r : Receipt) : Option Bool :=
  r.result.outcome.evidence? c r.result.key

def method? (c : Component) (r : Receipt) : Option Nat := r.result.outcome.method? c r.kind

end Receipt

/-- The result that is applied at an entry of a log, if one is. -/
def receipt? (entry : Desk × Move) : Option Receipt :=
  match entry.2, entry.1.session.arrived with
  | .read, result :: _ =>
    if entry.1.session.isCurrent result then
      some ⟨(entry.1.session.stepAt result.step).kind, result⟩
    else none
  | _, _ => none

def receipts (log : List (Desk × Move)) : List Receipt := log.filterMap receipt?

/-- The last that the receipts of a log tell of something. -/
def latest {α : Type} (tells : Receipt → Option α) (log : List (Desk × Move)) : Option α :=
  ((receipts log).filterMap tells).getLast?

theorem receipts_snoc (log : List (Desk × Move)) (entry : Desk × Move) :
    receipts (log ++ [entry]) = receipts log ++ (receipt? entry).toList := by
  rw [receipts, List.filterMap_append, receipts]
  cases h : receipt? entry <;> simp [h]

theorem latest_snoc {α : Type} (tells : Receipt → Option α) (log : List (Desk × Move))
    (entry : Desk × Move) :
    latest tells (log ++ [entry]) = ((receipt? entry).bind tells).or (latest tells log) := by
  rw [latest, receipts_snoc, List.filterMap_append, List.getLast?_append]
  congr 1
  cases receipt? entry with
  | none => rfl
  | some r => cases h : tells r <;> simp [h]

theorem latest_of_split {α : Type} {tells : Receipt → Option α} {log : List (Desk × Move)}
    {earlier later : List Receipt} {r : Receipt} (hlog : receipts log = earlier ++ r :: later)
    (hlater : ∀ r' ∈ later, tells r' = none) {a : α} (hr : tells r = some a) :
    latest tells log = some a := by
  have hnothing : later.filterMap tells = [] := List.filterMap_eq_nil_iff.mpr hlater
  rw [latest, hlog, List.filterMap_append, List.filterMap_cons, hr]
  simp [hnothing]

namespace Desk

theorem receipt?_of_other {m : Move} (h : m ≠ .read) (d : Desk) : receipt? (d, m) = none := by
  cases m with
  | read => exact absurd rfl h
  | _ => rfl

theorem receipt?_of_canceled {s : Session} (g : Guards) (hcanceled : s.canceled = true) :
    receipt? (⟨s, g⟩, .read) = none := by
  rw [receipt?]
  split
  · simp [Session.isCurrent, hcanceled]
  · rfl

theorem receipt?_of_live {s : Session} (g : Guards) (h : s.Valid) (hlive : s.canceled = false)
    {result : ActionResult} {rest : List ActionResult} (harrived : s.arrived = result :: rest)
    {step : Step} (hstep : s.steps[s.current]? = some step) :
    receipt? (⟨s, g⟩, .read) = some ⟨step.kind, result⟩ := by
  obtain ⟨hticket, -⟩ := h.expects hlive harrived hstep
  have hid : result.step = s.current := congrArg Ticket.step hticket
  have hgeneration : result.generation = step.generation := congrArg Ticket.generation hticket
  have hcurrent : s.isCurrent result = true := by
    simp [Session.isCurrent, hlive, hid, hstep, (h.awaited hlive).waits.live hstep, hgeneration]
  simp only [receipt?, harrived, hcurrent, if_true, hid, Session.stepAt_eq hstep]

/-- A receipt goes to the current step, which waited for it and goes on waiting or is completed. -/
structure Applying (s : Session) (r : Receipt) (step step' : Step) (d : Desk) : Prop where
  current : s.steps[s.current]? = some step
  kind_eq : r.kind = step.kind
  ticket : r.result.ticket = ⟨s.current, step.generation, r.result.key⟩
  pending : r.result.key ∈ step.pending
  step_eq : (step.complete s.resources r.result.key r.result.outcome s.findings).step = step'
  findings_eq : d.session.findings =
    (step.complete s.resources r.result.key r.result.outcome s.findings).findings
  reads : Session.Reads step s.findings r.result.key step' d.session.findings
  steps_eq : d.session.steps = Session.attach s.steps s.current step'

theorem readNext_applying {s : Session} (h : s.Valid) (g : Guards) :
    (receipt? (⟨s, g⟩, .read) = none ∧ (readNext ⟨s, g⟩).session.steps = s.steps ∧
        (readNext ⟨s, g⟩).session.findings = s.findings) ∨
      ∃ r step step', receipt? (⟨s, g⟩, .read) = some r ∧
        Applying s r step step' (readNext ⟨s, g⟩) := by
  cases harrived : s.arrived with
  | nil =>
      left
      simp [readNext, read?, receipt?, harrived]
  | cons result rest =>
      cases hcanceled : s.canceled with
      | true =>
          rw [readNext, read?_of_canceled g hcanceled harrived, receipt?_of_canceled g hcanceled]
          exact .inl ⟨rfl, rfl, rfl⟩
      | false =>
          obtain ⟨step, hstep⟩ := h.placed.current
          obtain ⟨hticket, hpending⟩ := h.expects hcanceled harrived hstep
          obtain ⟨step', f, hreads, ⟨happlied, hread⟩ | ⟨happlied, hread⟩⟩ :=
            read?_of_live g h hcanceled harrived hstep
          · -- A step that goes on waiting has decided on nothing, so none is made after it.
            obtain ⟨-, hopen⟩ := h.placed.reads hstep hpending happlied
            have hsteps : Session.attach s.steps s.current step' = s.steps.set s.current step' :=
              Session.attach_of_undecided (hreads.sound.undecided hopen)
            rw [readNext, hread]
            exact .inr ⟨_, step, step', receipt?_of_live g h hcanceled harrived hstep, hstep, rfl,
              hticket, hpending, by rw [happlied], by rw [happlied]; rfl, hreads, hsteps.symm⟩
          · rw [readNext, hread]
            exact .inr ⟨_, step, step', receipt?_of_live g h hcanceled harrived hstep, hstep, rfl,
              hticket, hpending, by rw [happlied], by rw [happlied]; rfl, hreads, rfl⟩

theorem readNext_evidence {s : Session} (h : s.Valid) (g : Guards) (c : Component) :
    (readNext ⟨s, g⟩).session.flags.get c =
        ((receipt? (⟨s, g⟩, .read)).bind (·.evidence? c)).getD (s.flags.get c) ∧
      (readNext ⟨s, g⟩).session.host.installMethods.get c =
        ((receipt? (⟨s, g⟩, .read)).bind (·.method? c)).or (s.host.installMethods.get c) := by
  change (readNext ⟨s, g⟩).session.findings.flags.get c = _ ∧
    (readNext ⟨s, g⟩).session.findings.host.installMethods.get c = _
  rcases readNext_applying h g with ⟨hnone, -, hfindings⟩ | ⟨r, step, step', hreceipt, happlying⟩
  · rw [hnone, hfindings]
    exact ⟨rfl, rfl⟩
  · have hkeys := (h.placed.arena.sound happlying.current).pending_sublist
    obtain ⟨hflag, hmethod⟩ := Step.complete_evidence s.resources r.result.outcome s.findings
      happlying.pending hkeys c
    rw [hreceipt, happlying.findings_eq, hflag, hmethod, ← happlying.kind_eq]
    exact ⟨rfl, rfl⟩

theorem findings_of_other {s : Session} (h : s.Valid) (g : Guards) {m : Move} (hm : m ≠ .read) :
    (m.perform ⟨s, g⟩).session.flags = s.flags ∧
      ∃ membership, (m.perform ⟨s, g⟩).session.host = { s.host with cluster := membership } := by
  cases perform_spec h g m with
  | quiet _ _ _ host_kept _ _ flags_eq => exact ⟨flags_eq, host_kept⟩
  | reads move => exact absurd move hm
  | answers advance =>
      rw [(Session.advance?_answered advance).same]
      exact ⟨rfl, _, rfl⟩
  | enters _ _ entering =>
      rw [entering.session_eq]
      exact ⟨rfl, _, rfl⟩
  | chooses _ choosing =>
      obtain ⟨entered, entering⟩ := choosing.entering
      rw [entering.session_eq]
      exact ⟨rfl, _, rfl⟩

/-- Only a result that is applied changes the flags and the methods, as far as it is evidence. -/
theorem perform_evidence {s : Session} (h : s.Valid) (g : Guards) (m : Move) (c : Component) :
    (m.perform ⟨s, g⟩).session.flags.get c =
        ((receipt? (⟨s, g⟩, m)).bind (·.evidence? c)).getD (s.flags.get c) ∧
      (m.perform ⟨s, g⟩).session.host.installMethods.get c =
        ((receipt? (⟨s, g⟩, m)).bind (·.method? c)).or (s.host.installMethods.get c) := by
  by_cases hread : m = .read
  · subst hread
    exact readNext_evidence h g c
  · obtain ⟨hflags, membership, hhost⟩ := findings_of_other h g hread
    rw [receipt?_of_other hread, hflags, hhost]
    exact ⟨rfl, rfl⟩

/-- What a step was before a move, if it was there: it has kept its report, or it was made or
entered and reports nothing yet, or a receipt was applied to it. -/
inductive Became (s : Session) (g : Guards) (m : Move) (i : StepId) (u' : Step) : Prop
  | kept {u : Step} (before : s.steps[i]? = some u) (state : StepState) (canceled : Bool)
      (next : Option StepId) (nextKind : Option StepKind)
      (decides : nextKind = some .confirm → u.nextKind = some .confirm)
      (eq : u' = { u with
        state := state, canceled := canceled, next := next, nextKind := nextKind })
  | fresh (components_eq : u'.components = .const none) (undecided : u'.nextKind = none)
      (origin : u'.previous ≠ none ∨
        ∃ u, s.steps[i]? = some u ∧ u'.kind = u.kind ∧ u'.previous = u.previous)
  | applied {r : Receipt} {step step' : Step} (receipt : receipt? (⟨s, g⟩, m) = some r)
      (applying : Applying s r step step' (m.perform ⟨s, g⟩)) (place : i = s.current)
      (next : Option StepId) (eq : u' = { step' with next := next })

section Became

variable {s : Session} {g : Guards} {m : Move} {i : StepId} {u' : Step}

theorem Became.of_same (hu' : s.steps[i]? = some u') : Became s g m i u' :=
  .kept hu' u'.state u'.canceled u'.next u'.nextKind id rfl

theorem Entering.became {t : Session} {step : Step} {entered : Entered} {d : Desk}
    (h : Entering t g step entered d) (hsteps : s.steps = t.steps)
    (hu' : d.session.steps[i]? = some u') : Became s g m i u' := by
  obtain ⟨-, -, hkind, hprevious⟩ := h.entry.rerun
  obtain ⟨hcomponents, hundecided⟩ := h.entry.blank
  rw [h.session_eq] at hu'
  rcases getElem?_set_cases hu' with ⟨rfl, rfl⟩ | ⟨-, hold⟩
  · refine .fresh hcomponents hundecided (.inr ⟨step, ?_, hkind, hprevious⟩)
    rw [hsteps, h.current]
  · refine .of_same ?_
    rw [hsteps, hold]

theorem Choosing.became {t : Session} {step : Step} {c : Component} {n : Nat} {d : Desk}
    (h : Choosing t g step c n d) (hsteps : s.steps = t.steps)
    (hu' : d.session.steps[i]? = some u') : Became s g m i u' := by
  obtain ⟨entered, entering⟩ := h.entering
  obtain ⟨-, -, -, hprevious⟩ := entering.entry.rerun
  obtain ⟨hcomponents, hundecided⟩ := entering.entry.blank
  rw [entering.session_eq] at hu'
  rcases getElem?_set_cases hu' with ⟨-, rfl⟩ | ⟨-, hu'⟩
  · refine .fresh hcomponents hundecided (.inl ?_)
    rw [hprevious]
    exact Option.some_ne_none _
  · change (Session.attach t.steps t.current (step.chosen c n))[i]? = some u' at hu'
    have hcurrent := h.current
    rw [← hsteps] at hu' hcurrent
    rcases Session.getElem?_attach_cases hu' with ⟨rfl, next, rfl⟩ | ⟨-, hold⟩ | ⟨-, kind, -, rfl⟩
    · exact .kept hcurrent .installMethodChosen step.canceled next (some (.install c n)) nofun rfl
    · exact .of_same hold
    · exact .fresh rfl rfl (.inl (Option.some_ne_none _))

theorem readNext_became (h : s.Valid) (hu' : (readNext ⟨s, g⟩).session.steps[i]? = some u') :
    Became s g .read i u' := by
  rcases readNext_applying h g with ⟨-, hsteps, -⟩ | ⟨r, step, step', hreceipt, happlying⟩
  · rw [hsteps] at hu'
    exact .of_same hu'
  · rw [happlying.steps_eq] at hu'
    rcases Session.getElem?_attach_cases hu' with ⟨rfl, next, rfl⟩ | ⟨-, hold⟩ | ⟨-, kind, -, rfl⟩
    · exact .applied hreceipt happlying rfl next rfl
    · exact .of_same hold
    · exact .fresh rfl rfl (.inl (Option.some_ne_none _))

theorem perform_became (h : s.Valid) (g : Guards) (m : Move)
    (hu' : (m.perform ⟨s, g⟩).session.steps[i]? = some u') : Became s g m i u' := by
  by_cases hread : m = .read
  · subst hread
    exact readNext_became h hu'
  · cases perform_spec h g m with
    | quiet _ _ _ _ _ reports =>
        obtain ⟨u, hu, state, canceled, rfl⟩ := reports i u' hu'
        exact .kept hu state canceled u.next u.nextKind id rfl
    | reads move => exact absurd move hread
    | answers advance =>
        rw [(Session.advance?_answered advance).same] at hu'
        exact .of_same hu'
    | enters _ _ entering => exact entering.became rfl hu'
    | chooses _ choosing => exact choosing.became rfl hu'

end Became

theorem unchanged_of_no_evidence {s : Session} (h : s.Valid) (g : Guards) (m : Move)
    (hnothing : ∀ r, receipt? (⟨s, g⟩, m) = some r →
      ∀ c, r.evidence? c = none ∧ r.method? c = none) :
    (m.perform ⟨s, g⟩).session.flags = s.flags ∧
      (m.perform ⟨s, g⟩).session.host.installMethods = s.host.installMethods := by
  have hsame : ∀ c, (m.perform ⟨s, g⟩).session.flags.get c = s.flags.get c ∧
      (m.perform ⟨s, g⟩).session.host.installMethods.get c = s.host.installMethods.get c := by
    intro c
    obtain ⟨hflag, hmethod⟩ := perform_evidence h g m c
    rw [hflag, hmethod]
    cases hreceipt : receipt? (⟨s, g⟩, m) with
    | none => exact ⟨rfl, rfl⟩
    | some r =>
        obtain ⟨hevidence, hno⟩ := hnothing r hreceipt c
        rw [Option.bind_some, Option.bind_some, hevidence, hno]
        exact ⟨rfl, rfl⟩
  exact ⟨PerComponent.ext_get fun c => (hsame c).1, PerComponent.ext_get fun c => (hsame c).2⟩

end Desk

def ActionResult.FailsInstall (r : ActionResult) : Prop :=
  (∃ c, r.key = .install c) ∧ r.outcome.succeeded = false

namespace Session

theorem Logged.evidence {first s : Session} {log : List (Desk × Move)} (hvalid : first.Valid)
    (h : Logged first log s) (c : Component) :
    s.flags.get c = (latest (·.evidence? c) log).getD (first.flags.get c) ∧
      s.host.installMethods.get c =
        (latest (·.method? c) log).or (first.host.installMethods.get c) := by
  induction h with
  | nil => exact ⟨rfl, rfl⟩
  | @snoc log s before g m ih =>
      obtain ⟨hflag, hmethod⟩ := Desk.perform_evidence (before.later.valid hvalid) g m c
      rw [hflag, hmethod, ih.1, ih.2, latest_snoc, latest_snoc, Option.or_assoc]
      refine ⟨?_, rfl⟩
      cases (receipt? (⟨s, g⟩, m)).bind (·.evidence? c) <;> rfl

theorem Valid.unchanged_of_failed {s : Session} (h : s.Valid) (g : Guards) {m : Move}
    (hm : m ≠ .read ∨ ∀ result rest, s.arrived = result :: rest → result.FailsInstall) :
    (m.perform ⟨s, g⟩).session.flags = s.flags ∧
      (m.perform ⟨s, g⟩).session.host.installMethods = s.host.installMethods := by
  refine Desk.unchanged_of_no_evidence h g m ?_
  intro r hr c
  rcases hm with hother | hfails
  · rw [Desk.receipt?_of_other hother] at hr
    cases hr
  · rw [receipt?] at hr
    split at hr
    · rename_i result rest _ harrived
      split at hr
      · cases hr
        obtain ⟨⟨d, hkey⟩, hfailed⟩ := hfails result rest harrived
        refine ⟨by simp [Receipt.evidence?, Outcome.evidence?, hkey, hfailed], ?_⟩
        simp only [Receipt.method?, Outcome.method?, hfailed]
        split <;> simp
      · cases hr
    · cases hr

/-- The flags and the remembered methods of a session are what the latest evidence tells, of all
the results that it has applied: a component is flagged if the last probe or install that tells of
it has found it or installed it, and the host remembers the method of the last install that
succeeded. -/
theorem flags_record_latest_evidence {s : Session} (h : s.Reachable) :
    (∃ log, Recorded log s) ∧
    (∀ host resources policy options credentials log,
      Logged (.new host resources policy options credentials) log s →
        ∀ c, (s.flags.get c = true ↔ latest (·.evidence? c) log = some true) ∧
          s.host.installMethods.get c =
            (latest (·.method? c) log).or (host.installMethods.get c)) ∧
    (∀ c (outcome : Outcome),
      (∀ output, outcome = .exited output →
        output.exitCode ≠ 0 ∨ Text.isBlank output.output = true) → outcome.finds c = false) ∧
    ∀ g (m : Move),
      (m ≠ .read ∨ ∀ result rest, s.arrived = result :: rest → result.FailsInstall) →
        (m.perform ⟨s, g⟩).session.flags = s.flags ∧
          (m.perform ⟨s, g⟩).session.host.installMethods = s.host.installMethods := by
  refine ⟨h.recorded, ?_, fun c outcome hnothing => Outcome.finds_of_nothing hnothing c,
    fun g m hm => h.valid.unchanged_of_failed g hm⟩
  intro host resources policy options credentials log hlog c
  obtain ⟨hflag, hmethod⟩ :=
    hlog.evidence (new_valid host resources policy options credentials) c
  refine ⟨?_, hmethod⟩
  have hnew : (new host resources policy options credentials).flags.get c = false :=
    PerComponent.get_const false c
  rw [hflag, hnew]
  cases latest (·.evidence? c) log <;> simp

def installingMoves : List Move :=
  lackingMoves ++ [.chooseInstall .drbd 1, .printed "Complete!", .read]

theorem flags_record_latest_evidence_sample :
    let log := Desk.logAll ⟨lackingSample, .empty⟩ installingMoves
    let installed := (Desk.performAll ⟨lackingSample, .empty⟩ installingMoves).session
    (receipts log).map (fun r => (r.evidence? .drbd, r.evidence? .heartbeat, r.method? .drbd)) =
        [(some false, none, none), (none, some true, none), (some true, none, some 1)] ∧
      installed.flags.get .drbd = true ∧ installed.flags.get .heartbeat = true ∧
      installed.flags.get .corosync = false ∧
      installed.host.installMethods.get .drbd = some 1 ∧
      (Move.cancel.perform ⟨installed, .empty⟩).session.flags = installed.flags := by
  intro log installed
  have hlog : Logged lackingSample log installed :=
    Logged.performAll (d := ⟨lackingSample, .empty⟩) .nil installingMoves
  obtain ⟨-, hlatest, -, hkept⟩ := flags_record_latest_evidence (s := installed)
    ⟨_, _, _, _, _, hlog.later⟩
  have hrecord := hlatest _ _ _ _ _ log hlog
  refine ⟨by decide +kernel, ?_, ?_, ?_, ?_, (hkept .empty .cancel (.inl nofun)).1⟩
  · rw [(hrecord .drbd).1]
    decide +kernel
  · rw [(hrecord .heartbeat).1]
    decide +kernel
  · rw [← Bool.not_eq_true, (hrecord .corosync).1]
    decide +kernel
  · rw [(hrecord .drbd).2]
    decide +kernel

end Session

end ClusterSetup

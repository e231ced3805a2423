import ClusterSetup.Proofs.Session.Performing

namespace ClusterSetup

open Relation (ReflTransGen)

inductive StepEnd where
  | completed (state : StepState)
  | failed (reason : String)
  deriving Repr, DecidableEq

def StepEnd.event (id : StepId) : StepEnd → Event
  | completed state => .stepCompleted id state
  | failed reason => .stepFailed id reason

/-- What is told of a step once it has ended. -/
structure Closing where
  lines : List String
  ending : StepEnd
  deriving Repr, DecidableEq

def Closing.events (id : StepId) (c : Closing) : List Event :=
  c.lines.map (.logLine id) ++ [c.ending.event id]

/-- What is told of one run of a step. A block without a closing is open. -/
structure Block where
  step : StepId
  kind : StepKind
  closing : Option Closing
  deriving Repr, DecidableEq

def Block.events (b : Block) : List Event :=
  .stepStarted b.step b.kind :: b.closing.elim [] (·.events b.step)

/-- What is told of a step that is completed: the lines of its output and those of its failure,
then its verdict. -/
def Step.closing (s : Step) : Closing where
  lines := s.output.elim [] Text.lines ++ s.failure.elim [] fun failure => Text.lines failure.output
  ending :=
    match s.failure, s.policyFailure with
    | some failure, _ => .failed failure.reason
    | none, some reason => .failed reason
    | none, none => .completed s.state

theorem Session.completionEvents_eq (id : StepId) (step : Step) :
    completionEvents id step = step.closing.events id := by
  simp only [completionEvents, closingEvents, Closing.events, Step.closing, logLines]
  cases step.output with
  | none =>
      cases step.failure with
      | some failure => simp [StepEnd.event]
      | none => cases step.policyFailure <;> simp [StepEnd.event]
  | some output =>
      cases step.failure with
      | some failure => simp [StepEnd.event]
      | none => cases step.policyFailure <;> simp [StepEnd.event]

namespace Session

/-- The block of the current step, as long as its actions run; a cancelation leaves it open. -/
def openBlock (s : Session) : List Block :=
  if s.currentStep.hasPending then [⟨s.current, s.currentStep.kind, none⟩] else []

/-- How the end of the session is told, once it is over. -/
def lastEvent (s : Session) : List Event :=
  if s.canceled then [.canceled]
  else if s.finished then [.finished s.flags.success]
  else []

/-- What is told at the end, behind the blocks that are settled. -/
def openEnd (s : Session) : List Event := s.openBlock.flatMap Block.events ++ s.lastEvent

theorem Active.lastEvent_eq {s : Session} (h : s.Active) : s.lastEvent = [] := by
  simp [lastEvent, h.live, h.open_]

section OpenEnd

variable {s : Session} {step : Step} (hstep : s.steps[s.current]? = some step)
include hstep

theorem openBlock_of_idle (hidle : step.pending = []) : s.openBlock = [] := by
  simp [openBlock, currentStep_eq hstep, Step.hasPending, hidle]

theorem openBlock_of_pending (hpending : step.pending ≠ []) :
    s.openBlock = [⟨s.current, step.kind, none⟩] := by
  simp [openBlock, currentStep_eq hstep, Step.hasPending, hpending]

theorem openEnd_of_idle (h : s.Active) (hidle : step.pending = []) : s.openEnd = [] := by
  rw [openEnd, openBlock_of_idle hstep hidle, h.lastEvent_eq]
  rfl

theorem openEnd_of_pending (h : s.Active) (hpending : step.pending ≠ []) :
    s.openEnd = [.stepStarted s.current step.kind] := by
  rw [openEnd, openBlock_of_pending hstep hpending, h.lastEvent_eq]
  rfl

theorem openEnd_of_finished (hlive : s.canceled = false) (hfinished : s.finished = true)
    (hidle : step.pending = []) : s.openEnd = [.finished s.flags.success] := by
  rw [openEnd, openBlock_of_idle hstep hidle]
  simp [lastEvent, hlive, hfinished]

end OpenEnd

theorem openBlock_congr {s t : Session} (hcurrent : t.current = s.current)
    (hkind : t.currentStep.kind = s.currentStep.kind)
    (hpending : t.currentStep.pending = s.currentStep.pending) : t.openBlock = s.openBlock := by
  rw [openBlock, openBlock, Step.hasPending, Step.hasPending, hcurrent, hkind, hpending]

theorem Valid.openEnd_eq_nil {s : Session} (h : s.Valid) (hactive : s.Active)
    (hcharges : s.charges = []) : s.openEnd = [] := by
  obtain ⟨step, hstep⟩ := h.placed.current
  have hperm := (h.awaited hactive.live).outstanding_perm hstep
  rw [outstanding, hcharges] at hperm
  exact openEnd_of_idle hstep hactive (List.map_eq_nil_iff.mp hperm.symm.eq_nil)

/-- The session has just asked for the credentials that its current step waits for. -/
structure AsksAt (s : Session) (i : StepId) : Prop where
  current : s.current = i
  awaits : Desk.awaitsCredentials s = true
  silent : s.openEnd = []

/-- What is told when one session becomes another: nothing, or something that settles a block at
most. A block that is settled without a closing is that of a step that asks for credentials. -/
inductive Tells (s t : Session) : Prop
  | nothing (events_eq : t.events = s.events) (end_eq : t.openEnd = s.openEnd)
  | something {added : List Event} (settled : Option Block) (nonempty : added ≠ [])
      (events_eq : t.events = s.events ++ added)
      (end_eq : s.openEnd ++ added = settled.toList.flatMap Block.events ++ t.openEnd)
      (left : ∀ b, settled = some b → b.closing = none → t.AsksAt b.step)

theorem Tells.of_same {s s' t : Session} (h : s'.Tells t) (events_eq : s'.events = s.events)
    (end_eq : s'.openEnd = s.openEnd) : s.Tells t := by
  cases h with
  | nothing events_eq' end_eq' => exact .nothing (events_eq'.trans events_eq) (end_eq'.trans end_eq)
  | something settled nonempty events_eq' end_eq' left =>
      rw [events_eq] at events_eq'
      rw [end_eq] at end_eq'
      exact .something settled nonempty events_eq' end_eq' left

theorem Tells.of_idle {s t : Session} {tail : List Event} (hbefore : s.openEnd = [])
    (hafter : t.openEnd = tail) (settled : Option Block)
    (nonempty : settled.toList.flatMap Block.events ++ tail ≠ [])
    (events_eq : t.events = s.events ++ (settled.toList.flatMap Block.events ++ tail))
    (left : ∀ b, settled = some b → b.closing = none → t.AsksAt b.step) : s.Tells t := by
  refine .something settled nonempty events_eq ?_ left
  rw [hbefore, hafter, List.nil_append]

end Session

namespace Desk

open Session (Tells)

theorem cancel_tells {d : Desk} (hvalid : d.session.Valid) (hactive : d.session.Active) :
    d.session.Tells (cancel d).session := by
  obtain ⟨cluster, membership, heq⟩ := cancel_eq hactive
  obtain ⟨step, hstep⟩ := hvalid.placed.current
  have hlinks := Step.stopped_sameLinks d.session.current step
  have hstopped : (d.session.steps.map (Step.stopped d.session.current))[d.session.current]? =
      some (step.stopped d.session.current) := by
    rw [List.getElem?_map, hstep, Option.map_some]
  have hstopped' : (cancel d).session.currentStep = step.stopped d.session.current := by
    rw [heq]
    exact Session.currentStep_eq hstopped
  have hcurrent : (cancel d).session.current = d.session.current := by rw [heq]
  have hcanceled : (cancel d).session.canceled = true := by rw [heq]
  refine .something none (List.cons_ne_nil .canceled []) (by rw [heq]) ?_ nofun
  rw [Session.openEnd, Session.openEnd, hactive.lastEvent_eq, Session.openBlock_congr hcurrent,
    Session.lastEvent, if_pos hcanceled]
  · rw [List.append_nil]
    rfl
  · rw [hstopped', Session.currentStep_eq hstep, hlinks.kind_eq]
  · rw [hstopped', Session.currentStep_eq hstep, hlinks.pending_eq]

theorem completed_tells {s : Session} (g : Guards) (result : ActionResult)
    (rest : List ActionResult) {step step' : Step} {f : Findings} (hvalid : s.Valid)
    (hactive : s.Active) (hstep : s.steps[s.current]? = some step)
    (hpending : result.key ∈ step.pending)
    (happlied : step.complete s.resources result.key result.outcome s.findings =
      ⟨step', f, true⟩) : s.Tells (completed s g result rest step' f).session := by
  have hid : s.current < s.steps.length := (List.getElem?_eq_some_iff.mp hstep).1
  obtain ⟨hreads, hdone⟩ := hvalid.placed.reads hstep hpending happlied
  obtain ⟨next, hself, -⟩ := Session.getElem?_attach_self hid step'
  have hidle : step'.pending = [] := hreads.sound.idle hdone
  have hend := Session.openEnd_of_idle (s := (completed s g result rest step' f).session)
    hself ⟨hactive.live, hactive.open_⟩ hidle
  refine .something (some ⟨s.current, step.kind, some step'.closing⟩) ?_ rfl ?_ ?_
  · rw [Session.completionEvents_eq, Closing.events]
    exact List.append_ne_nil_of_right_ne_nil _ (List.cons_ne_nil _ [])
  · rw [hend, Session.openEnd_of_pending hstep hactive (List.ne_nil_of_mem hpending),
      Session.completionEvents_eq]
    simp [Block.events]
  · rintro b ⟨⟩ ⟨⟩

/-- Every change tells of one thing at most. -/
theorem Change.tells {d d' : Desk} (hvalid : d.session.Valid) (hchange : Change d d') :
    d.session.Tells d'.session := by
  have hvalid' := hchange.valid hvalid
  cases hchange with
  | credentials _ => exact .nothing rfl rfl
  | attempt _ _ => exact .nothing rfl rfl
  | join _ _ _ => exact .nothing rfl rfl
  | discard _ _ => exact .nothing rfl rfl
  | answer advance =>
      rw [(Session.advance?_answered advance).same]
      exact .nothing rfl rfl
  | cancel active => exact cancel_tells hvalid active
  | @start s g g' step active current live idle entry =>
      have hid : s.current < s.steps.length := (List.getElem?_eq_some_iff.mp current).1
      have hruns : step.working.pending ≠ [] := by
        cases entry with
        | started runs commanded took => exact StepKind.keys_ne_nil runs
      exact .of_idle (Session.openEnd_of_idle current active idle)
        (Session.openEnd_of_pending (List.getElem?_set_self hid) ⟨active.live, active.open_⟩ hruns)
        none (List.cons_ne_nil _ []) rfl nofun
  | @ask s g step c n active current live idle kind_eq lacks =>
      have hid : s.current < s.steps.length := (List.getElem?_eq_some_iff.mp current).1
      have hself := List.getElem?_set_self (a := { step.reset with state := .installMethodChosen })
        hid
      refine .of_idle (Session.openEnd_of_idle current active idle)
        (Session.openEnd_of_idle hself ⟨active.live, active.open_⟩ rfl)
        (some ⟨s.current, step.kind, none⟩) (List.cons_ne_nil _ []) rfl ?_
      rintro b ⟨⟩ -
      refine ⟨rfl, ?_, Session.openEnd_of_idle hself ⟨active.live, active.open_⟩ rfl⟩
      simp [awaitsCredentials, Session.currentStep, Session.stepAt, hid, Step.reset, kind_eq,
        Step.hasPending]
  | @fail s g step c n active current live idle kind_eq lacks none =>
      have hid : s.current < s.steps.length := (List.getElem?_eq_some_iff.mp current).1
      refine .of_idle (Session.openEnd_of_idle current active idle)
        (Session.openEnd_of_idle (List.getElem?_set_self hid) ⟨active.live, active.open_⟩ rfl)
        (some ⟨s.current, step.kind, some (step.reset.fail (Step.unsupported c n)).closing⟩)
        (List.cons_ne_nil _ _) ?_ ?_
      · rw [Session.completionEvents_eq, List.append_assoc]
        simp [Block.events]
      · rintro b ⟨⟩ ⟨⟩
  | @finish s g step active current live idle kind_eq =>
      have hid : s.current < s.steps.length := (List.getElem?_eq_some_iff.mp current).1
      refine .of_idle (Session.openEnd_of_idle current active idle)
        (Session.openEnd_of_finished (List.getElem?_set_self hid) active.live rfl rfl)
        (some ⟨s.current, .confirm, some ⟨[], .completed .finished⟩⟩) (List.cons_ne_nil _ _) ?_ ?_
      · rw [List.append_assoc, List.append_assoc]
        rfl
      · rintro b ⟨⟩ ⟨⟩
  | @choose s g step c method active current live offers listed =>
      have hid : s.current < s.steps.length := (List.getElem?_eq_some_iff.mp current).1
      have hidle := (hvalid.placed.arena.sound current).idle (completed_of_offersInstall offers)
      obtain ⟨next, hself, -⟩ := Session.getElem?_attach_self hid (step.chosen c method)
      refine .nothing rfl ?_
      rw [Session.openEnd_of_idle current active hidle]
      exact Session.openEnd_of_idle hself ⟨active.live, active.open_⟩ hidle
  | @go s g step n active current completed next =>
      have hidle := (hvalid.placed.arena.sound current).idle completed
      have hcharges := (hvalid.awaited active.live).charges_eq_nil current hidle
      refine .nothing rfl ?_
      rw [Session.openEnd_of_idle current active hidle]
      exact hvalid'.openEnd_eq_nil ⟨active.live, active.open_⟩ hcharges
  | @back s g step p active current idle previous =>
      have hcharges := (hvalid.awaited active.live).charges_eq_nil current idle
      refine .nothing rfl ?_
      rw [Session.openEnd_of_idle current active idle]
      exact hvalid'.openEnd_eq_nil ⟨active.live, active.open_⟩ hcharges
  | @absorb s g result rest step step' f active arrived current ticket pending applied =>
      have hid : s.current < s.steps.length := (List.getElem?_eq_some_iff.mp current).1
      obtain ⟨hreads, hopen⟩ := hvalid.placed.reads current pending applied
      have hmore : step'.pending ≠ [] := by
        intro hnone
        rw [hreads.pending_eq] at hnone
        rw [hreads.completed_iff.mpr hnone] at hopen
        cases hopen
      refine .nothing rfl ?_
      rw [Session.openEnd_of_pending current active (List.ne_nil_of_mem pending),
        ← hreads.same.kind_eq]
      exact Session.openEnd_of_pending (List.getElem?_set_self hid) ⟨active.live, active.open_⟩
        hmore
  | complete active arrived current ticket pending applied =>
      exact completed_tells _ _ _ hvalid active current pending applied

theorem openEnd_of_silent {d d' : Desk} (hvalid : d.session.Valid)
    (hchanges : ReflTransGen Change d d') (hsilent : d'.session.events = d.session.events) :
    d'.session.openEnd = d.session.openEnd := by
  -- Events are never taken back, so that none of the changes can have told of anything.
  have hgrows := changes_induct (P := fun e => d.session.events <+: e.session.events ∧
    (e.session.events = d.session.events → e.session.openEnd = d.session.openEnd)) ?_ hchanges
    hvalid ⟨List.prefix_rfl, fun _ => rfl⟩
  · exact hgrows.1.2 hsilent
  · rintro e e' he ⟨hbefore, hsame⟩ hchange
    cases hchange.tells he with
    | nothing events_eq end_eq =>
        rw [events_eq, end_eq]
        exact ⟨hbefore, hsame⟩
    | @something added settled nonempty events_eq end_eq left =>
        rw [events_eq]
        refine ⟨hbefore.trans (List.prefix_append ..), ?_⟩
        intro hnone
        have hlength := congrArg List.length hnone
        rw [List.length_append] at hlength
        have hpositive := List.length_pos_of_ne_nil nonempty
        have hle := hbefore.length_le
        omega

theorem perform_tells {s : Session} (h : s.Valid) (g : Guards) (m : Move) :
    s.Tells (m.perform ⟨s, g⟩).session := by
  have hmoves : ReflTransGen Change ⟨s, g⟩ (m.perform ⟨s, g⟩) := Moves.changes h ⟨m, rfl⟩
  cases perform_spec h g m with
  | quiet _ _ _ _ events_eq =>
      by_cases hcancel : m = .cancel
      · subst hcancel
        by_cases hactive : s.Active
        · exact Change.tells (d := ⟨s, g⟩) h (.cancel hactive)
        · have hnothing : Move.cancel.perform ⟨s, g⟩ = ⟨s, g⟩ := cancel_of_over hactive
          rw [hnothing]
          exact .nothing rfl rfl
      · exact .nothing (events_eq hcancel) (openEnd_of_silent h hmoves (events_eq hcancel))
  | reads move =>
      subst move
      rcases readNext_spec g h with hnothing | hchange
      · have hread : Move.read.perform ⟨s, g⟩ = ⟨s, g⟩ := hnothing
        rw [hread]
        exact .nothing rfl rfl
      · exact hchange.tells h
  | answers advance => exact (Change.answer (g := g) advance).tells h
  | enters _ credentials entering =>
      have htold := entering.change.tells (h.with_inputs credentials s.attempts)
      exact htold.of_same rfl rfl
  | @chooses attempts step c n _ choosing =>
      obtain ⟨entered, entering⟩ := choosing.entering
      have hstart := h.with_inputs s.credentials attempts
      have hmade := changes_valid choosing.changes hstart
      have hsilent := openEnd_of_silent hstart choosing.changes rfl
      exact (entering.change.tells hmade).of_same rfl hsilent

end Desk

namespace Session

/-- A block that was left open was told by a move after which the session asked for credentials. -/
def Asked (log : List (Desk × Move)) (told : List Block) (b : Block) : Prop :=
  ∃ entry ∈ log, ∃ t, t = (entry.2.perform entry.1).session ∧
    t.events = (told ++ [b]).flatMap Block.events ∧ t.AsksAt b.step

theorem Asked.mono {log log' : List (Desk × Move)} {told : List Block} {b : Block}
    (h : Asked log told b) (hlog : log ⊆ log') : Asked log' told b := by
  obtain ⟨entry, hentry, hasked⟩ := h
  exact ⟨entry, hlog hentry, hasked⟩

/-- The blocks that are settled, one after the other. Only those that asked for credentials are
open. -/
inductive Chronicle (log : List (Desk × Move)) : List Block → Prop
  | nil : Chronicle log []
  | snoc {told : List Block} {b : Block} (before : Chronicle log told)
      (left : b.closing = none → Asked log told b) : Chronicle log (told ++ [b])

theorem Chronicle.mono {log log' : List (Desk × Move)} {told : List Block}
    (h : Chronicle log told) (hlog : log ⊆ log') : Chronicle log' told := by
  induction h with
  | nil => exact .nil
  | snoc _ left ih => exact ih.snoc fun hopen => (left hopen).mono hlog

/-- The events of a session are blocks of one step each. All of them are closed but those that
asked for credentials and the block of the current step while its actions run, or ran when the
session was canceled. The end of the session is told once, and last. -/
theorem events_in_blocks {log : List (Desk × Move)} {s : Session} (h : Recorded log s) :
    ∃ told, Chronicle log told ∧
      s.events = (told ++ s.openBlock).flatMap Block.events ++ s.lastEvent := by
  have hchronicle : ∃ told, Chronicle log told ∧
      s.events = told.flatMap Block.events ++ s.openEnd := by
    refine h.induct (P := fun log s => ∃ told, Chronicle log told ∧
      s.events = told.flatMap Block.events ++ s.openEnd) ?_ ?_
    · intro host resources policy options credentials
      exact ⟨[], .nil, rfl⟩
    · rintro log s g m hlog ⟨told, hchronicle, hevents⟩
      have hmore := hchronicle.mono (List.subset_append_left log [(⟨s, g⟩, m)])
      cases Desk.perform_tells hlog.reachable.valid g m with
      | nothing events_eq end_eq =>
          exact ⟨told, hmore, by rw [events_eq, end_eq, hevents]⟩
      | something settled nonempty events_eq end_eq left =>
          rw [hevents, List.append_assoc, end_eq] at events_eq
          cases settled with
          | none => exact ⟨told, hmore, events_eq⟩
          | some b =>
              rw [Option.toList_some, ← List.append_assoc, ← List.flatMap_append] at events_eq
              refine ⟨told ++ [b], hmore.snoc fun hopen => ?_, events_eq⟩
              have hasks := left b rfl hopen
              rw [hasks.silent, List.append_nil] at events_eq
              exact ⟨(⟨s, g⟩, m), List.mem_append_right _ (List.mem_singleton_self _), _, rfl,
                events_eq, hasks⟩
  obtain ⟨told, hchronicle, hevents⟩ := hchronicle
  refine ⟨told, hchronicle, ?_⟩
  rw [hevents, openEnd, List.flatMap_append, List.append_assoc]

def vendorMoves : List Move :=
  lackingMoves ++ [.chooseInstall .drbd 1, .setCredentials ⟨"user", "secret"⟩, .cancel]

theorem events_in_blocks_sample :
    let s := (Desk.performAll ⟨vendorSample, .empty⟩ vendorMoves).session
    s.events = [.stepStarted 0 (.probe .all), .stepFailed 0 "not installed: DRBD",
      .stepStarted 1 (.install .drbd 1), .stepStarted 1 (.install .drbd 1), .canceled] ∧
    ∃ told, Chronicle (Desk.logAll ⟨vendorSample, .empty⟩ vendorMoves) told ∧
      s.events = (told ++ [(⟨1, .install .drbd 1, none⟩ : Block)]).flatMap Block.events ++
        [.canceled] := by
  intro s
  have hlog : Recorded (Desk.logAll ⟨vendorSample, .empty⟩ vendorMoves) s :=
    ⟨_, _, _, _, _, Logged.performAll (d := ⟨vendorSample, .empty⟩) .nil vendorMoves⟩
  have hopen : s.openBlock = [⟨1, .install .drbd 1, none⟩] := by decide +kernel
  have hlast : s.lastEvent = [.canceled] := by decide +kernel
  obtain ⟨told, hchronicle, hevents⟩ := events_in_blocks hlog
  rw [hopen, hlast] at hevents
  exact ⟨by decide +kernel, told, hchronicle, hevents⟩

end Session

end ClusterSetup

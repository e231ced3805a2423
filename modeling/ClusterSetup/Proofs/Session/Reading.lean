import Mathlib.Data.List.Perm.Basic
import ClusterSetup.Proofs.Session.Validity
import ClusterSetup.Proofs.Step.Replying

namespace ClusterSetup

open Relation (ReflTransGen)

namespace Session

/-- What a reply makes of a session: the action at a place has come further, or has its result. -/
inductive Advances (s : Session) (place : Nat) (reply : Reply) : Session → Prop
  | runs {a : RunningAction} {work : Work} (at_place : s.running[place]? = some a)
      (proceeds : a.work.Proceeds reply work)
      (unsettled : ∀ outcome, work ≠ .settled outcome) :
      Advances s place reply { s with
        running := s.running.set place { a with work := work }
        calls := s.calls ++ work.call?.toList }
  | arrives {a : RunningAction} {outcome : Outcome} (at_place : s.running[place]? = some a)
      (proceeds : a.work.Proceeds reply (.settled outcome)) :
      Advances s place reply { s with
        running := s.running.eraseIdx place
        arrived := s.arrived ++ [a.result outcome] }

theorem Advances.of_advance? {s t : Session} {place : Nat} {reply : Reply}
    (h : s.advance? place reply = some t) : Advances s place reply t := by
  cases haction : s.running[place]? with
  | none => simp [advance?, haction] at h
  | some a =>
      cases hwork : a.work.proceed? reply with
      | none => simp [advance?, haction, RunningAction.advance?, hwork] at h
      | some work =>
          simp only [advance?, haction, RunningAction.advance?, hwork, Option.bind_some,
            Option.map_some] at h
          cases work with
          | settled outcome =>
              cases h
              exact .arrives haction (.of_proceed? hwork)
          | _ =>
              cases h
              exact .runs haction (.of_proceed? hwork) fun _ => nofun

/-- What replies of the remote side make of a session: actions come closer to their results, and
none of them is lost. -/
structure Answered (s t : Session) : Prop where
  same : t = { s with running := t.running, calls := t.calls, arrived := t.arrived }
  charges_perm : t.charges.Perm s.charges

theorem Answered.refl (s : Session) : Answered s s := ⟨rfl, .refl _⟩

theorem Answered.trans {s t u : Session} (h : Answered s t) (h' : Answered t u) :
    Answered s u where
  same := by
    rw [h'.same, h.same]
  charges_perm := h'.charges_perm.trans h.charges_perm

theorem advance?_answered {s t : Session} {place : Nat} {reply : Reply}
    (h : s.advance? place reply = some t) : Answered s t := by
  cases Advances.of_advance? h with
  | @runs a work at_place proceeds unsettled =>
      refine ⟨rfl, .of_eq ?_⟩
      let charge := fun a : RunningAction => (a.ticket, a.guards)
      have hsame : (s.running.set place { a with work := work }).map charge =
          s.running.map charge := by
        obtain ⟨hplace, rfl⟩ := List.getElem?_eq_some_iff.mp at_place
        rw [List.map_set]
        change (s.running.map charge).set place (charge s.running[place]) = _
        rw [← List.map_set, List.set_getElem_self]
      rw [charges, charges, hsame]
  | @arrives a outcome at_place proceeds =>
      refine ⟨rfl, ?_⟩
      obtain ⟨hplace, rfl⟩ := List.getElem?_eq_some_iff.mp at_place
      have hperm := (List.getElem_cons_eraseIdx_perm hplace).map fun a => (a.ticket, a.guards)
      rw [charges, charges, List.map_append, List.map_singleton, ← List.append_assoc]
      exact (List.perm_append_singleton _ _).trans (hperm.append_right _)

theorem charges_of_arrived {s t : Session} {result : ActionResult} {rest : List ActionResult}
    (harrived : s.arrived = result :: rest) (running_eq : t.running = s.running)
    (arrived_eq : t.arrived = rest) :
    s.charges.Perm ((result.ticket, result.guards) :: t.charges) := by
  rw [charges, charges, harrived, running_eq, arrived_eq, List.map_cons]
  exact List.perm_middle

theorem Valid.expects_outstanding {s : Session} (h : s.Valid) (hlive : s.canceled = false)
    {ticket : Ticket} (houtstanding : ticket ∈ s.outstanding) {step : Step}
    (hstep : s.steps[s.current]? = some step) :
    ticket = ⟨s.current, step.generation, ticket.key⟩ ∧ ticket.key ∈ step.pending := by
  have hticket := ((h.awaited hlive).outstanding_perm hstep).subset houtstanding
  obtain ⟨key, hkey, rfl⟩ := List.mem_map.mp hticket
  rw [h.placed.arena.id_eq hstep]
  exact ⟨rfl, hkey⟩

theorem Valid.expects {s : Session} (h : s.Valid) (hlive : s.canceled = false)
    {result : ActionResult} {rest : List ActionResult} (harrived : s.arrived = result :: rest)
    {step : Step} (hstep : s.steps[s.current]? = some step) :
    result.ticket = ⟨s.current, step.generation, result.key⟩ ∧ result.key ∈ step.pending := by
  have hcharge : (result.ticket, result.guards) ∈ s.charges := by
    rw [charges, harrived, List.map_cons]
    exact List.mem_append_right _ List.mem_cons_self
  exact h.expects_outstanding hlive (List.mem_map_of_mem hcharge) hstep

/-- What a result for which the current step of a session waits makes of it. -/
structure Reads (step : Step) (f : Findings) (key : ActionKey) (step' : Step) (f' : Findings) :
    Prop where
  same : step.SameStep step'
  sound : step'.Sound
  generation_eq : step'.generation = step.generation
  pending_eq : step'.pending = step.pending.erase key
  next_eq : step'.next = none
  hostId_eq : f'.host.id = f.host.id
  completed_iff : step'.completed = true ↔ step.pending.erase key = []
  unfinished : step'.completed = true → step'.state ≠ .finished
  success : step'.completed = true → step'.nextKind = some .confirm → f'.flags.success = true

theorem Placed.reads {s : Session} (h : s.Placed) {step step' : Step} {f : Findings}
    {completed : Bool} {key : ActionKey} {outcome : Outcome}
    (hstep : s.steps[s.current]? = some step) (hpending : key ∈ step.pending)
    (happlied : step.complete s.resources key outcome s.findings = ⟨step', f, completed⟩) :
    Reads step s.findings key step' f ∧ step'.completed = completed := by
  have hsound := h.arena.sound hstep
  have hopen := hsound.not_completed (List.ne_nil_of_mem hpending)
  have hunlinked := h.arena.next_eq_none hstep hopen
  have hundecided := hsound.undecided hopen
  obtain ⟨hreceives, hcompleted, hlast⟩ := Step.complete_spec s.resources outcome s.findings
    hpending hsound.pending_sublist hopen
  rw [happlied] at hreceives hcompleted hlast
  dsimp only at hreceives hcompleted hlast
  subst hcompleted
  have hkind : step'.kind = step.kind := hreceives.same.kind_eq
  have hiff : step'.completed = true ↔ step.pending.erase key = [] := by
    rw [hlast, List.isEmpty_iff]
  refine ⟨⟨?_, ?_, hreceives.generation_eq, hreceives.pending_eq,
    hreceives.next_eq.trans hunlinked, hreceives.hostId_eq, hiff, hreceives.unfinished,
    hreceives.success⟩, rfl⟩
  · exact ⟨hreceives.same.id_eq, hkind, hreceives.same.previous_eq, hreceives.same.canceled_eq⟩
  · constructor
    · rw [hkind, hreceives.pending_eq]
      exact List.erase_sublist.trans hsound.pending_sublist
    · intro hdone
      exact hreceives.pending_eq.trans (hiff.mp hdone)
    · intro hdecided
      by_contra hrest
      rw [Bool.not_eq_true] at hrest
      exact hdecided ((hreceives.undecided hrest).trans hundecided)
    · intro hconfirm
      have hkeys := hsound.pending_sublist.subset hpending
      rw [← hkind, hconfirm] at hkeys
      cases hkeys

/-- The session after a result was applied to its current step, before that is closed. -/
def absorbing (s : Session) (step : Step) (f : Findings) : Session :=
  { s with steps := s.steps.set s.current step, host := f.host, flags := f.flags }

theorem applyResult_of_current {s : Session} {result : ActionResult} {step step' : Step}
    {f : Findings} {done : Bool} (hid : result.step = s.current)
    (hstep : s.steps[s.current]? = some step)
    (happlied : step.complete s.resources result.key result.outcome s.findings =
      ⟨step', f, done⟩) :
    s.applyResult result =
      if done then (s.absorbing step' f).closeStep s.current else s.absorbing step' f := by
  rw [applyResult, hid, stepAt_eq hstep]
  dsimp only
  rw [happlied]
  rfl

theorem applyResult_of_absorbed {s : Session} {result : ActionResult} {step step' : Step}
    {f : Findings} (hid : result.step = s.current) (hstep : s.steps[s.current]? = some step)
    (happlied : step.complete s.resources result.key result.outcome s.findings =
      ⟨step', f, false⟩) :
    s.applyResult result =
      { s with steps := s.steps.set s.current step', host := f.host, flags := f.flags } :=
  applyResult_of_current hid hstep happlied

theorem applyResult_of_completed {s : Session} {result : ActionResult} {step step' : Step}
    {f : Findings} (hid : result.step = s.current) (hstep : s.steps[s.current]? = some step)
    (happlied : step.complete s.resources result.key result.outcome s.findings =
      ⟨step', f, true⟩)
    (hcompleted : step'.completed = true) (hnext : step'.next = none)
    (hstate : step'.state ≠ .finished) :
    s.applyResult result =
      { s with
        steps := attach s.steps s.current step'
        host := f.host
        flags := f.flags
        events := s.events ++ completionEvents s.current step' } := by
  have hcurrent : s.current < s.steps.length := (List.getElem?_eq_some_iff.mp hstep).1
  rw [applyResult_of_current hid hstep happlied, if_pos rfl,
    closeStep_eq (s := s.absorbing step' f) (List.getElem?_set_self hcurrent) hcompleted hnext
      hstate]
  simp only [absorbing, attach_set _ hcurrent]

end Session

namespace Desk

theorem receive_of_canceled {s : Session} (g : Guards) (hcanceled : s.canceled = true)
    (result : ActionResult) : receive result ⟨s, g⟩ =
      (none, ⟨{ s with inFlight := s.inFlight - 1 }, g.releaseAll result.guards⟩) := by
  simp [receive, Session.isCurrent, hcanceled]

theorem receive_of_current {s : Session} (g : Guards) {step : Step} {result : ActionResult}
    (hlive : s.canceled = false) (hstep : s.steps[s.current]? = some step)
    (huncanceled : step.canceled = false)
    (hticket : result.ticket = ⟨s.current, step.generation, result.key⟩) :
    receive result ⟨s, g⟩ = (some s.current,
      ⟨Session.applyResult { s with inFlight := s.inFlight - 1 } result,
        g.releaseAll result.guards⟩) := by
  have hid : result.step = s.current := congrArg Ticket.step hticket
  have hgeneration : result.generation = step.generation := congrArg Ticket.generation hticket
  have hcurrent : Session.isCurrent { s with inFlight := s.inFlight - 1 } result = true := by
    simp [Session.isCurrent, hlive, hid, hstep, huncanceled, hgeneration]
  rw [receive]
  dsimp only
  rw [if_pos hcurrent, hid]

theorem read?_of_arrived {s : Session} (g : Guards) {result : ActionResult}
    {rest : List ActionResult} (harrived : s.arrived = result :: rest) :
    read? ⟨s, g⟩ = some (receive result ⟨{ s with arrived := rest }, g⟩) := by
  simp only [read?, harrived]

theorem read?_of_canceled {s : Session} (g : Guards) (hcanceled : s.canceled = true)
    {result : ActionResult} {rest : List ActionResult} (harrived : s.arrived = result :: rest) :
    read? ⟨s, g⟩ =
      some (none, ⟨{ s with arrived := rest, inFlight := s.inFlight - 1 },
        g.releaseAll result.guards⟩) := by
  rw [read?_of_arrived g harrived,
    receive_of_canceled (s := { s with arrived := rest }) g hcanceled]

/-- A valid session that is not canceled applies what it reads to its current step, which goes on
waiting or is completed. -/
theorem read?_of_live {s : Session} (g : Guards) (h : s.Valid) (hlive : s.canceled = false)
    {result : ActionResult} {rest : List ActionResult} (harrived : s.arrived = result :: rest)
    {step : Step} (hstep : s.steps[s.current]? = some step) :
    ∃ step' f, Session.Reads step s.findings result.key step' f ∧
      (step.complete s.resources result.key result.outcome s.findings = ⟨step', f, false⟩ ∧
          read? ⟨s, g⟩ = some (some s.current, absorbed s g result rest step' f) ∨
        step.complete s.resources result.key result.outcome s.findings = ⟨step', f, true⟩ ∧
          read? ⟨s, g⟩ = some (some s.current, completed s g result rest step' f)) := by
  obtain ⟨hticket, hpending⟩ := h.expects hlive harrived hstep
  have hid : result.step = s.current := congrArg Ticket.step hticket
  rw [read?_of_arrived g harrived,
    receive_of_current (s := { s with arrived := rest }) g hlive hstep
      ((h.awaited hlive).waits.live hstep) hticket]
  generalize happlied :
    step.complete s.resources result.key result.outcome s.findings = applied
  obtain ⟨step', f, done⟩ := applied
  obtain ⟨hreads, hdone⟩ := h.placed.reads hstep hpending happlied
  refine ⟨step', f, hreads, ?_⟩
  cases done with
  | false =>
      left
      rw [Session.applyResult_of_absorbed
        (s := { s with arrived := rest, inFlight := s.inFlight - 1 }) hid hstep happlied]
      exact ⟨rfl, rfl⟩
  | true =>
      right
      rw [Session.applyResult_of_completed
        (s := { s with arrived := rest, inFlight := s.inFlight - 1 }) hid hstep happlied
        hdone hreads.next_eq (hreads.unfinished hdone)]
      exact ⟨rfl, rfl⟩

theorem readNext_spec {s : Session} (g : Guards) (h : s.Valid) :
    readNext ⟨s, g⟩ = ⟨s, g⟩ ∨ Change ⟨s, g⟩ (readNext ⟨s, g⟩) := by
  cases harrived : s.arrived with
  | nil =>
      left
      simp only [readNext, read?, harrived]
  | cons result rest =>
      right
      cases hcanceled : s.canceled with
      | true =>
          rw [readNext, read?_of_canceled g hcanceled harrived]
          exact .discard hcanceled harrived
      | false =>
          obtain ⟨step, hstep⟩ := h.placed.current
          obtain ⟨hticket, hpending⟩ := h.expects hcanceled harrived hstep
          have hactive : s.Active := by
            refine ⟨hcanceled, ?_⟩
            rw [← Bool.not_eq_true]
            intro hfinished
            rw [h.pending_of_finished hfinished hstep] at hpending
            cases hpending
          obtain ⟨step', f, -, ⟨happlied, hread⟩ | ⟨happlied, hread⟩⟩ :=
            read?_of_live g h hcanceled harrived hstep
          · rw [readNext, hread]
            exact .absorb hactive harrived hstep hticket hpending happlied
          · rw [readNext, hread]
            exact .complete hactive harrived hstep hticket hpending happlied

theorem readNext_changes {s : Session} (g : Guards) (h : s.Valid) :
    ReflTransGen Change ⟨s, g⟩ (readNext ⟨s, g⟩) := by
  rcases readNext_spec g h with hnothing | hchange
  · rw [hnothing]
  · exact .single hchange

end Desk

end ClusterSetup

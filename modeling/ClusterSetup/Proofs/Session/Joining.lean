import ClusterSetup.Proofs.Session.Outstanding
import ClusterSetup.Proofs.Step.Joining

namespace ClusterSetup

namespace Session

/-- The current step of a session is one of probes, of which some have not answered. -/
structure Probing (s : Session) (step : Step) (scope : ProbeScope) : Prop where
  live : s.canceled = false
  current : s.steps[s.current]? = some step
  uncanceled : step.canceled = false
  kind_eq : step.kind = .probe scope
  keys : step.pending.Sublist step.kind.keys
  open_ : step.completed = false

def halfway (s : Session) (step : Step) (f : Findings) : Session :=
  { s.absorbing step f with inFlight := s.inFlight - 1 }

/-- The session after the result of the second one has completed the current step. -/
def joining (s : Session) (step : Step) (f : Findings) : Session :=
  closeStep { s.absorbing step f with inFlight := s.inFlight - 1 - 1 } s.current

end Session

namespace Desk

open Session (Probing)

theorem receive_both {s : Session} (g : Guards) {step : Step} {scope : ProbeScope}
    (h : s.Probing step scope) {p q : ProbeTarget} (hne : p ≠ q) (hp : .probe p ∈ step.pending)
    (hq : .probe q ∈ step.pending) {r₁ r₂ : ActionResult}
    (hr₁ : r₁.ticket = ⟨s.current, step.generation, .probe p⟩)
    (hr₂ : r₂.ticket = ⟨s.current, step.generation, .probe q⟩) :
    ∃ first f, first.pending ≠ [] ∧
      (∀ running, receive r₁ ⟨{ s with running := running }, g⟩ = (some s.current,
        ⟨{ s.halfway first f with running := running }, g.releaseAll r₁.guards⟩)) ∧
      receive r₂ ⟨s.halfway first f, g.releaseAll r₁.guards⟩ = (some s.current,
        ⟨s.joining (step.joined s.resources scope p q r₁.outcome r₂.outcome s.findings).1
            (step.joined s.resources scope p q r₁.outcome r₂.outcome s.findings).2,
          (g.releaseAll r₁.guards).releaseAll r₂.guards⟩) := by
  have hid : s.current < s.steps.length := (List.getElem?_eq_some_iff.mp h.current).1
  have hkey₁ : r₁.key = .probe p := congrArg Ticket.key hr₁
  have hkey₂ : r₂.key = .probe q := congrArg Ticket.key hr₂
  obtain ⟨first, f, hfirst, hwaits, hgeneration, hcanceled, hsecond⟩ :=
    Step.complete_probes s.resources h.kind_eq hne hp hq h.keys h.open_ r₁.outcome r₂.outcome
      s.findings
  rw [← hkey₁] at hr₁ hfirst
  rw [← hkey₂, ← hgeneration] at hr₂
  rw [← hkey₂] at hsecond
  have hself : (s.halfway first f).steps[s.current]? = some first := List.getElem?_set_self hid
  refine ⟨first, f, hwaits, ?_, ?_⟩
  · intro running
    rw [receive_of_current (s := { s with running := running }) g h.live h.current h.uncanceled hr₁,
      Session.applyResult_of_current
        (s := { s with running := running, inFlight := s.inFlight - 1 })
        (congrArg Ticket.step hr₁) h.current hfirst]
    rfl
  · rw [receive_of_current (s := s.halfway first f) _ h.live hself (hcanceled.trans h.uncanceled)
        hr₂,
      Session.applyResult_of_current
        (s := { s.halfway first f with inFlight := (s.halfway first f).inFlight - 1 })
        (congrArg Ticket.step hr₂) hself hsecond]
    simp only [Session.halfway, Session.absorbing, Session.joining, List.set_set, if_true]

/-- Applying the results of two probes in either order makes the same of a session and of the
guards. -/
theorem receive_comm {s : Session} (g : Guards) {step : Step} {scope : ProbeScope}
    (h : s.Probing step scope) {p q : ProbeTarget} (hne : p ≠ q) (hp : .probe p ∈ step.pending)
    (hq : .probe q ∈ step.pending) {r₁ r₂ : ActionResult}
    (hr₁ : r₁.ticket = ⟨s.current, step.generation, .probe p⟩)
    (hr₂ : r₂.ticket = ⟨s.current, step.generation, .probe q⟩) :
    receive r₂ (receive r₁ ⟨s, g⟩).2 = receive r₁ (receive r₂ ⟨s, g⟩).2 := by
  obtain ⟨first, f, -, hfirst, hboth⟩ := receive_both g h hne hp hq hr₁ hr₂
  obtain ⟨first', f', -, hfirst', hboth'⟩ := receive_both g h hne.symm hq hp hr₂ hr₁
  rw [hfirst s.running, hfirst' s.running]
  change receive r₂ ⟨s.halfway first f, _⟩ = receive r₁ ⟨s.halfway first' f', _⟩
  rw [hboth, hboth', Step.joined_comm s.resources step scope hne, Guards.releaseAll_comm]

end Desk

theorem Session.Valid.probing {s : Session} (h : s.Valid) (hlive : s.canceled = false) {step : Step}
    (hstep : s.steps[s.current]? = some step) {p : ProbeTarget} (hp : .probe p ∈ step.pending) :
    ∃ scope, s.Probing step scope := by
  have hsound := h.placed.arena.sound hstep
  obtain ⟨scope, hkind⟩ := StepKind.exists_scope (hsound.pending_sublist.subset hp)
  exact ⟨scope, hlive, hstep, (h.awaited hlive).waits.live hstep, hkind, hsound.pending_sublist,
    hsound.not_completed (List.ne_nil_of_mem hp)⟩

end ClusterSetup

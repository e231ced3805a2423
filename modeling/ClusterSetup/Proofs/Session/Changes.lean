import ClusterSetup.Proofs.Session.Arena
import ClusterSetup.Proofs.Session.Moves

/-!
What an operation can do to a session. Every operation is refused and leaves the session and the
guards as they were, or it amounts to a few changes, each of which does one thing: it starts or
ends a step, links a new one, moves along a link, or takes down a fact.
-/

namespace ClusterSetup

/-- A step on which an install was chosen, before the step for it is made. -/
def Step.chosen (s : Step) (c : Component) (method : Nat) : Step :=
  { s with state := .installMethodChosen, next := none, nextKind := some (.install c method) }

namespace Session

/-- A session that is neither canceled nor finished. -/
structure Active (s : Session) : Prop where
  live : s.canceled = false
  open_ : s.finished = false

theorem checkActive_of_active {s : Session} (h : s.Active) : s.checkActive = .ok () := by
  simp [checkActive, h.live, h.open_]

theorem active_or_refused (s : Session) : s.Active ∨ ∃ e, s.checkActive = .error e := by
  rw [checkActive]
  cases hcanceled : s.canceled with
  | true => exact .inr ⟨.sessionCanceled, rfl⟩
  | false =>
      cases hfinished : s.finished with
      | true => exact .inr ⟨.sessionFinished, rfl⟩
      | false => exact .inl ⟨hcanceled, hfinished⟩

def completionEvents (id : StepId) (step : Step) : List Event :=
  (match step.output with
    | some output => logLines id output
    | none => []) ++ closingEvents id step

end Session

namespace Desk

open Relation (ReflTransGen)

def absorbed (s : Session) (g : Guards) (result : ActionResult) (rest : List ActionResult)
    (step' : Step) (f : Findings) : Desk :=
  ⟨{ s with
    arrived := rest
    inFlight := s.inFlight - 1
    steps := s.steps.set s.current step'
    host := f.host
    flags := f.flags }, g.releaseAll result.guards⟩

def completed (s : Session) (g : Guards) (result : ActionResult) (rest : List ActionResult)
    (step' : Step) (f : Findings) : Desk :=
  ⟨{ s with
    arrived := rest
    inFlight := s.inFlight - 1
    steps := Session.attach s.steps s.current step'
    host := f.host
    flags := f.flags
    events := s.events ++ Session.completionEvents s.current step' }, g.releaseAll result.guards⟩

/-- The changes that operations, results and answers amount to. -/
inductive Change : Desk → Desk → Prop
  | credentials {s : Session} {g : Guards} (credentials : VendorCredentials) :
      Change ⟨s, g⟩ ⟨{ s with credentials := some credentials }, g⟩
  | attempt {s : Session} {g : Guards} (active : s.Active) (c : Component) :
      Change ⟨s, g⟩ ⟨{ s with attempts := s.attempts.set c (s.attempts.get c + 1) }, g⟩
  | join {s : Session} {g : Guards} {cluster joined : Cluster} {added : Bool} {host : Host}
      (active : s.Active) (held : ∀ c, s.cluster = some c → c.name = cluster.name)
      (add : cluster.addHost s.host = .ok (added, joined, host)) :
      Change ⟨s, g⟩
        ⟨{ s with host := host, cluster := some joined, joined := s.joined || added }, g⟩
  | cancel {d : Desk} (active : d.session.Active) : Change d d.cancel
  /-- The actions of the current step are started. -/
  | start {s : Session} {g g' : Guards} {step : Step} (active : s.Active)
      (current : s.steps[s.current]? = some step) (live : step.canceled = false)
      (idle : step.pending = [])
      (entry : Step.Entry s.enterContext g step
        ⟨.ok .started, step.working, g',
          step.kind.keys.map (step.reset.actionFor s.enterContext)⟩) :
      Change ⟨s, g⟩ ⟨{ s with
        steps := s.steps.set s.current step.working
        running := s.running ++ step.kind.keys.map (step.reset.actionFor s.enterContext)
        calls := s.calls ++ (step.kind.keys.map (step.reset.actionFor s.enterContext)).filterMap
          fun action => action.work.call?
        inFlight := s.inFlight + step.kind.keys.length
        events := s.events ++ [.stepStarted s.current step.kind] }, g'⟩
  /-- The current step is an install that has to wait for credentials. -/
  | ask {s : Session} {g : Guards} {step : Step} {c : Component} {n : Nat} (active : s.Active)
      (current : s.steps[s.current]? = some step) (live : step.canceled = false)
      (idle : step.pending = []) (kind_eq : step.kind = .install c n)
      (lacks : Step.lacksCredentials s.enterContext c n = true) :
      Change ⟨s, g⟩ ⟨{ s with
        steps := s.steps.set s.current { step.reset with state := .installMethodChosen }
        events := s.events ++ [.stepStarted s.current step.kind] }, g⟩
  /-- The current step is an install for which there is no command. -/
  | fail {s : Session} {g : Guards} {step : Step} {c : Component} {n : Nat} (active : s.Active)
      (current : s.steps[s.current]? = some step) (live : step.canceled = false)
      (idle : step.pending = []) (kind_eq : step.kind = .install c n)
      (lacks : Step.lacksCredentials s.enterContext c n = false)
      (none : Step.installCommand s.enterContext c n = none) :
      Change ⟨s, g⟩ ⟨{ s with
        steps := s.steps.set s.current (step.reset.fail (Step.unsupported c n))
        events := s.events ++ [.stepStarted s.current step.kind] ++
          Session.completionEvents s.current (step.reset.fail (Step.unsupported c n)) }, g⟩
  /-- The current step is the confirmation. -/
  | finish {s : Session} {g : Guards} {step : Step} (active : s.Active)
      (current : s.steps[s.current]? = some step) (live : step.canceled = false)
      (idle : step.pending = []) (kind_eq : step.kind = .confirm) :
      Change ⟨s, g⟩ ⟨{ s with
        steps := s.steps.set s.current { step.reset with state := .finished, completed := true }
        finished := true
        events := s.events ++ [.stepStarted s.current .confirm] ++
          [.stepCompleted s.current .finished] ++ [.finished s.flags.success] }, g⟩
  /-- An install is chosen on the current step, and the step for it is made. -/
  | choose {s : Session} {g : Guards} {step : Step} {c : Component} {method : Nat}
      (active : s.Active) (current : s.steps[s.current]? = some step)
      (live : step.canceled = false) (offers : step.offersInstall c = true)
      (listed : ((s.methods c).find? method).isSome = true) :
      Change ⟨s, g⟩
        ⟨{ s with steps := Session.attach s.steps s.current (step.chosen c method) }, g⟩
  | go {s : Session} {g : Guards} {step : Step} {n : StepId} (active : s.Active)
      (current : s.steps[s.current]? = some step) (completed : step.completed = true)
      (next : step.next = some n) :
      Change ⟨s, g⟩ ⟨{ s with steps := s.steps.set s.current step.proceed, current := n }, g⟩
  | back {s : Session} {g : Guards} {step : Step} {p : StepId} (active : s.Active)
      (current : s.steps[s.current]? = some step) (idle : step.pending = [])
      (previous : step.previous = some p) :
      Change ⟨s, g⟩ ⟨{ s with current := p }, g⟩
  /-- The remote side answers the call of a running action. -/
  | answer {s t : Session} {g : Guards} {place : Nat} {reply : Reply}
      (advance : s.advance? place reply = some t) : Change ⟨s, g⟩ ⟨t, g⟩
  /-- A result that comes after the session was canceled is discarded. -/
  | discard {s : Session} {g : Guards} {result : ActionResult} {rest : List ActionResult}
      (canceled : s.canceled = true) (arrived : s.arrived = result :: rest) :
      Change ⟨s, g⟩
        ⟨{ s with arrived := rest, inFlight := s.inFlight - 1 }, g.releaseAll result.guards⟩
  /-- A result for which the current step waits, among others, is applied to it. -/
  | absorb {s : Session} {g : Guards} {result : ActionResult} {rest : List ActionResult}
      {step step' : Step} {f : Findings} (active : s.Active) (arrived : s.arrived = result :: rest)
      (current : s.steps[s.current]? = some step)
      (ticket : result.ticket = ⟨s.current, step.generation, result.key⟩)
      (pending : result.key ∈ step.pending)
      (applied : step.complete s.resources result.key result.outcome s.findings =
        ⟨step', f, false⟩) :
      Change ⟨s, g⟩ (absorbed s g result rest step' f)
  /-- The last result for which the current step waits is applied to it, and completes it. -/
  | complete {s : Session} {g : Guards} {result : ActionResult} {rest : List ActionResult}
      {step step' : Step} {f : Findings} (active : s.Active) (arrived : s.arrived = result :: rest)
      (current : s.steps[s.current]? = some step)
      (ticket : result.ticket = ⟨s.current, step.generation, result.key⟩)
      (pending : result.key ∈ step.pending)
      (applied : step.complete s.resources result.key result.outcome s.findings =
        ⟨step', f, true⟩) :
      Change ⟨s, g⟩ (completed s g result rest step' f)

end Desk

end ClusterSetup

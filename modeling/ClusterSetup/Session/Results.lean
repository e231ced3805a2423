import ClusterSetup.Session

namespace ClusterSetup

namespace Session

/-- Gives a reply to one of the running actions. A call that it goes on to make is recorded. There
is nothing to reply to where no action is, or where one waits for something else. -/
def advance? (s : Session) (place : Nat) (reply : Reply) : Option Session :=
  match s.running[place]?.bind (·.advance? reply) with
  | none => none
  | some (.inl action) =>
    some { s with
      running := s.running.set place action
      calls := s.calls ++ action.work.call?.toList }
  | some (.inr result) =>
    some { s with
      running := s.running.eraseIdx place
      arrived := s.arrived ++ [result] }

/-- The number of replies after which all results have arrived at the latest. -/
def repliesLeft (s : Session) : Nat :=
  s.running.foldr (fun action left => action.work.repliesLeft + 1 + left) 0

/-- Whether a result is for the present run of a step that was not canceled. -/
def isCurrent (s : Session) (result : ActionResult) : Bool :=
  !s.canceled &&
    match s.steps[result.step]? with
    | none => false
    | some step => !step.canceled && step.generation == result.generation

/-- Applies a result to the step it is for, and goes on from the step if that completes it. -/
def applyResult (s : Session) (result : ActionResult) : Session :=
  let applied := (s.stepAt result.step).complete s.resources result.key result.outcome s.findings
  let s := { s.setStep result.step applied.step with
    host := applied.findings.host
    flags := applied.findings.flags }
  if applied.completed then s.closeStep result.step else s

end Session

namespace Desk

/-- Reads a result: it is applied, or discarded if it comes too late. Its guards are given back in
either case. Tells the step to which it was applied. -/
def receive (result : ActionResult) (d : Desk) : Option StepId × Desk :=
  let s := { d.session with inFlight := d.session.inFlight - 1 }
  let guards := d.guards.releaseAll result.guards
  if s.isCurrent result then (some result.step, ⟨s.applyResult result, guards⟩)
  else (none, ⟨s, guards⟩)

def read? (d : Desk) : Option (Option StepId × Desk) :=
  match d.session.arrived with
  | [] => none
  | result :: rest => some (receive result { d with session := { d.session with arrived := rest } })

end Desk

end ClusterSetup

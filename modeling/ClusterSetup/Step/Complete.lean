import ClusterSetup.Probe

namespace ClusterSetup.Step

/-- A step and the findings after a result was applied, and whether the step is completed. -/
structure Applied where
  step : Step
  findings : Findings
  completed : Bool

def applyConnect (s : Step) (outcome : Outcome) (f : Findings) : Step × Findings :=
  let unreachable : Findings := { f with host := { f.host with connectivity := .failed } }
  match outcome with
  | .connected addresses dist =>
    let host := { f.host with connectivity := .connected }.recordResolved addresses
    ({ s with
        state := .connected
        completed := true
        nextKind := some (.probe .all) },
      { f with host := { host with dist := host.dist.mergeMissing dist } })
  | .exited output => (s.fail (.exit output.output output.exitCode), unreachable)
  | .unanswered failure => (s.fail failure, unreachable)
  | .failed failure => (s.fail failure, unreachable)

/-- Keeps the statuses that a probe found. -/
def noteStatuses (s : Step) (statuses : List ComponentStatus) : Step :=
  { s with
    components := statuses.foldl (fun t status => t.set status.component (some status))
      s.components }

def conclude (s : Step) (scope : ProbeScope) (f : Findings) : Step × Findings :=
  let verdict := Probe.verdict scope s.statuses f.flags
  ({ s with
      state := verdict.state
      policyFailure := verdict.policyFailure
      nextKind := verdict.next
      completed := true },
    { f with host := { f.host with probed := true } })

def applyProbe (t : Resources) (s : Step) (scope : ProbeScope) (target : ProbeTarget)
    (outcome : Outcome) (f : Findings) : Step × Findings :=
  let (statuses, f) := Probe.apply t target (Probe.answer outcome) f
  let s := s.noteStatuses statuses
  if s.hasPending then (s, f) else s.conclude scope f

def applyInstall (s : Step) (c : Component) (method : Nat) (outcome : Outcome) (f : Findings) :
    Step × Findings :=
  match outcome with
  | .exited output =>
    if output.success then
      ({ s with
          state := .installOk
          output := some output.output
          completed := true
          nextKind := some (.probe .clusterStack) },
        { host := { f.host with installMethods := f.host.installMethods.set c (some method) }
          flags := f.flags.set c true })
    else (s.fail (.exit output.output output.exitCode), f)
  | .unanswered failure => (s.fail failure, f)
  | .failed failure => (s.fail failure, f)
  | .connected _ _ => (s.fail (.plain "unexpected connect result"), f)

/-- Applies a result to a step. A result that the step does not wait for is passed over, and so is
one of an action that steps of this kind do not run. -/
def complete (t : Resources) (s : Step) (key : ActionKey) (outcome : Outcome) (f : Findings) :
    Applied :=
  if s.pending.contains key then
    let s := { s with pending := s.pending.erase key }
    let applied :=
      match s.kind, key with
      | .connect, .connect => s.applyConnect outcome f
      | .probe scope, .probe target => applyProbe t s scope target outcome f
      | .install c method, .install _ => s.applyInstall c method outcome f
      | _, _ => (s, f)
    ⟨applied.1, applied.2, applied.1.completed⟩
  else ⟨s, f, false⟩

end ClusterSetup.Step

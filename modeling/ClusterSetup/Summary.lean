import ClusterSetup.Method
import ClusterSetup.Session.Report
import ClusterSetup.Text.Excerpt

namespace ClusterSetup

namespace Event

/-- The line that tells an event. Remote output is indented under its step. -/
def line : Event → String
  | stepStarted step kind => "==> [" ++ StepId.text step ++ "] " ++ kind.label
  | stepCompleted step state => "    [" ++ StepId.text step ++ "] " ++ state.label
  | stepFailed step reason => "!!  [" ++ StepId.text step ++ "] " ++ reason
  | logLine _ line => "    | " ++ line
  | finished true => "==> finished"
  | finished false => "==> finished with missing components"
  | canceled => "==> canceled"

end Event

namespace DistInfo

def summary (info : DistInfo) : String :=
  match [info.dist, info.version, info.arch, info.kernel].filterMap id with
  | [] => "unknown"
  | parts => Text.join " " parts

end DistInfo

namespace ComponentStatus

/-- The line of a component: its label, version and state, and the latest version. -/
def line (s : ComponentStatus) : String :=
  "  " ++ Text.padRight 16 s.label ++ " " ++ s.shown.getD "-" ++ "  " ++ s.state.label ++
    match s.latest with
    | some latest => " (latest " ++ latest ++ ")"
    | none => ""

end ComponentStatus

namespace SessionReport

/-- The probe steps that found something out, the latest first. -/
def probes (r : SessionReport) : List StepSummary :=
  r.steps.reverse.filter fun step =>
    (match step.kind with
      | .probe _ => true
      | _ => false) && !step.components.isEmpty

/-- The latest status of a component. A probe of a narrower scope leaves the status of the others
as an earlier one found it. -/
def status? (r : SessionReport) (c : Component) : Option ComponentStatus :=
  (r.probes.flatMap (·.components)).find? (·.component == c)

def headLines (r : SessionReport) : List String :=
  ["host " ++ r.host.name ++ " (" ++ r.host.primaryAddress.getD "no address" ++ "): " ++
      r.outcome.label,
    "  distribution: " ++ r.host.dist.summary] ++
  (r.host.cluster.map fun name => "  cluster: " ++ name).toList

def componentLines (r : SessionReport) : List String :=
  (Component.all.filterMap r.status?).map (·.line)

/-- The number of lines shown of what a failed action had printed. -/
def failureTail : Nat := 5

def failureLines (r : SessionReport) : List String :=
  r.steps.flatMap fun step =>
    match step.failure with
    | none => []
    | some failure =>
      ("  " ++ step.kind.label ++ " failed: " ++ failure.reason) ::
        (Text.tail failureTail failure.output).map fun line => "    | " ++ line

/-- What the latest probe found missing. -/
def policyLines (r : SessionReport) : List String :=
  match r.probes with
  | [] => []
  | latest :: _ => (latest.policyFailure.map fun reason => "  " ++ reason).toList

def summary (r : SessionReport) : String :=
  Text.join "\n" (r.headLines ++ r.componentLines ++ r.failureLines ++ r.policyLines)

end SessionReport

namespace MethodChoice

def methodLine (choice : MethodChoice) (m : InstallMethod) : String :=
  "  [" ++ toString m.index ++ "] " ++ m.label ++ " (" ++ m.kind.tag ++ ")" ++
    (if m.staging then " staging" else "") ++
    (if choice.default?.map (·.index) = some m.index then " *default" else "")

def listing (choice : MethodChoice) (c : Component) : String :=
  if choice.isEmpty then c.label ++ ": no install methods for this distribution"
  else Text.join "\n" ((c.label ++ ":") :: choice.methods.map choice.methodLine)

end MethodChoice

end ClusterSetup

import ClusterSetup.Session

namespace ClusterSetup

inductive SessionOutcome where
  | succeeded
  | incomplete
  | canceled
  deriving Repr, DecidableEq

namespace SessionOutcome

def tag : SessionOutcome → String
  | succeeded => "succeeded"
  | incomplete => "incomplete"
  | canceled => "canceled"

def label : SessionOutcome → String
  | succeeded => "ready"
  | incomplete => "incomplete"
  | canceled => "canceled"

end SessionOutcome

/-- What is reported of one step. -/
structure StepSummary where
  id : StepId
  kind : StepKind
  state : StepState
  components : List ComponentStatus
  failure : Option ActionFailure
  policyFailure : Option String
  deriving Repr, DecidableEq

namespace StepSummary

def ofStep (s : Step) : StepSummary where
  id := s.id
  kind := s.kind
  state := s.state
  components := s.statuses
  failure := s.failure
  policyFailure := s.policyFailure

end StepSummary

structure SessionReport where
  outcome : SessionOutcome
  flags : Flags
  host : Host
  cluster : Option Cluster
  steps : List StepSummary
  deriving Repr, DecidableEq

namespace Session

def outcome (s : Session) : SessionOutcome :=
  if s.canceled then .canceled else if s.isSuccess then .succeeded else .incomplete

def report (s : Session) : SessionReport where
  outcome := s.outcome
  flags := s.flags
  host := s.host
  cluster := s.cluster
  steps := s.steps.map .ofStep

end Session

end ClusterSetup

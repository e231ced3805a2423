import ClusterSetup.Step.Kind
import ClusterSetup.Refusal

namespace ClusterSetup

inductive Event where
  | stepStarted (step : StepId) (kind : StepKind)
  | stepCompleted (step : StepId) (state : StepState)
  | stepFailed (step : StepId) (reason : String)
  | logLine (step : StepId) (line : String)
  | finished (success : Bool)
  | canceled
  deriving Repr, DecidableEq

end ClusterSetup

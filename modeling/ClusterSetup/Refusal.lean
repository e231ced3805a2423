import ClusterSetup.Host

namespace ClusterSetup

/-- The place of a step in the list of the steps of a session. -/
abbrev StepId := Nat

namespace StepId

def text (id : StepId) : String := "step-" ++ toString id

end StepId

/-- A host cannot enter a cluster while it belongs to another one. -/
structure AlreadyMember where
  host : HostId
  cluster : String
  deriving Repr, DecidableEq

namespace AlreadyMember

def message (e : AlreadyMember) : String :=
  e.host.text ++ " already belongs to cluster " ++ e.cluster

end AlreadyMember

inductive Refusal where
  | nextBeforeComplete (step : StepId)
  | actionOutstanding (step : StepId)
  | componentBusy (host : HostId) (component : Component)
  | stepCanceled (step : StepId)
  | sessionCanceled
  | sessionFinished
  | noNextStep (step : StepId)
  | methodUnavailable (component : Component) (method : Nat)
  | noInstallMethod (component : Component)
  | installNotOffered (step : StepId)
  | notRetryable (step : StepId)
  | unknownStep (step : StepId)
  | membership (error : AlreadyMember)
  deriving Repr, DecidableEq

namespace Refusal

def message : Refusal → String
  | nextBeforeComplete step =>
    "next step of " ++ StepId.text step ++ " read before its action completed"
  | actionOutstanding step => StepId.text step ++ " still has an action outstanding"
  | componentBusy host component =>
    component.label ++ " on " ++ host.text ++ " is busy with another action"
  | stepCanceled step => StepId.text step ++ " was canceled"
  | sessionCanceled => "session was canceled"
  | sessionFinished => "session already finished"
  | noNextStep step => StepId.text step ++ " has no next step"
  | methodUnavailable component method =>
    "install method " ++ toString method ++ " is not available for " ++ component.label
  | noInstallMethod component => "no install method available for " ++ component.label
  | installNotOffered step => StepId.text step ++ " does not offer an install"
  | notRetryable step => StepId.text step ++ " cannot be retried in its current state"
  | unknownStep step => "unknown step " ++ StepId.text step
  | membership error => error.message

end Refusal

end ClusterSetup

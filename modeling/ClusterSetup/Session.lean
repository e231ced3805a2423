import ClusterSetup.Event
import ClusterSetup.Policy
import ClusterSetup.Step.Complete
import ClusterSetup.Step.Enter

/-!
Sessions: the way of one host through the steps of its setup. A session holds the steps created so
far, the findings about its host, the actions that are running for it and the results that have
arrived but were not read.
-/

namespace ClusterSetup

/-- What a session takes from the configuration. -/
structure SessionOptions where
  timeouts : Timeouts := {}
  /-- The components whose staging methods are offered. -/
  staging : PerComponent Bool := .const false
  /-- The default methods of hosts that remember none. -/
  remembered : PerComponent (Option Nat) := .const none
  deriving Repr, DecidableEq

structure Session where
  host : Host
  resources : Resources
  policy : Policy
  options : SessionOptions
  credentials : Option VendorCredentials
  cluster : Option Cluster := none
  /-- Whether the session put the host into the cluster. -/
  joined : Bool := false
  steps : List Step
  current : StepId := 0
  flags : Flags := .none
  /-- The actions whose results have not arrived. -/
  running : List RunningAction := []
  /-- The results that have arrived and were not read, the oldest first. -/
  arrived : List ActionResult := []
  /-- The number of results that are still to be read. -/
  inFlight : Nat := 0
  /-- What happened, the oldest first. -/
  events : List Event := []
  /-- The calls made to the remote side, the oldest first. -/
  calls : List RemoteCall := []
  canceled : Bool := false
  finished : Bool := false
  /-- The number of installs that the policy started for each component. -/
  attempts : PerComponent Nat := .const 0

namespace Session

/-- A session begins with connecting, or with a probe if the host is connected already. -/
def firstKind (host : Host) : StepKind := if host.isConnected then .probe .all else .connect

def new (host : Host) (resources : Resources) (policy : Policy := .manual)
    (options : SessionOptions := {}) (credentials : Option VendorCredentials := none) :
    Session where
  host := host
  resources := resources
  policy := policy
  options := options
  credentials := credentials
  steps := [Step.new 0 (firstKind host) none]

/-- The step with a number. Every number that a session uses is the number of one of its steps. -/
def stepAt (s : Session) (id : StepId) : Step := s.steps[id]?.getD (Step.new id .confirm none)

def currentStep (s : Session) : Step := s.stepAt s.current

def findings (s : Session) : Findings := ⟨s.host, s.flags⟩

def isSuccess (s : Session) : Bool := s.finished && s.flags.success

def isCancelable (s : Session) : Bool :=
  !s.canceled && !s.finished && s.currentStep.isCancelable

/-- The install methods that are offered for a component. What the host remembers goes before
what the options remember. -/
def methods (s : Session) (c : Component) : MethodChoice :=
  s.resources.methods s.host.dist c (s.options.staging.get c)
    (s.host.rememberedMethod c <|> s.options.remembered.get c)

/-- Refuses a session that was canceled or is finished. -/
def checkActive (s : Session) : Except Refusal Unit :=
  if s.canceled then .error .sessionCanceled
  else if s.finished then .error .sessionFinished
  else .ok ()

def log (s : Session) (events : List Event) : Session := { s with events := s.events ++ events }

def setStep (s : Session) (id : StepId) (step : Step) : Session :=
  { s with steps := s.steps.set id step }

def enterContext (s : Session) : EnterContext where
  host := s.host
  resources := s.resources
  timeouts := s.options.timeouts
  credentials := s.credentials
  stackPassword := s.cluster.map (·.stackPassword)

/-- Creates the step that a completed step decided on. -/
def linkNext (s : Session) (id : StepId) : Session :=
  match s.steps[id]? with
  | none => s
  | some step =>
    match step.needsLink, step.nextKind with
    | true, some kind =>
      let next := s.steps.length
      { s with
        steps :=
          (s.steps ++ [Step.new next kind (some id)]).set id { step with next := some next } }
    | _, _ => s

def logLines (id : StepId) (text : String) : List Event := (Text.lines text).map (.logLine id)

def closingEvents (id : StepId) (step : Step) : List Event :=
  match step.failure with
  | some failure => logLines id failure.output ++ [.stepFailed id failure.reason]
  | none =>
    match step.policyFailure with
    | some reason => [.stepFailed id reason]
    | none => [.stepCompleted id step.state]

/-- Goes on from a step that was just completed: the step after it is created, its end is told,
and a step that finishes the session does so. -/
def closeStep (s : Session) (id : StepId) : Session :=
  let s := s.linkNext id
  let step := s.stepAt id
  let lines := match step.output with
    | some output => logLines id output
    | none => []
  let s := s.log (lines ++ closingEvents id step)
  if step.state = .finished then { s with finished := true }.log [.finished s.flags.success]
  else s

end Session

/-- A session together with the guards that it shares with other sessions. -/
structure Desk where
  session : Session
  guards : Guards

end ClusterSetup

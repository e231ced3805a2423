import ClusterSetup.Action
import ClusterSetup.Install

namespace ClusterSetup

structure ComponentStatus where
  component : Component
  label : String
  state : StepState
  /-- The version as it is shown. -/
  shown : Option String
  latest : Option String
  deriving Repr, DecidableEq

namespace ComponentStatus

def missing (c : Component) : ComponentStatus where
  component := c
  label := c.label
  state := .needsInstall
  shown := none
  latest := none

def isPresent (s : ComponentStatus) : Bool := s.state != .needsInstall

end ComponentStatus

structure Step where
  id : StepId
  kind : StepKind
  state : StepState := .init
  previous : Option StepId := none
  next : Option StepId := none
  /-- The kind of the step that follows, once that is decided. -/
  nextKind : Option StepKind := none
  entered : Bool := false
  completed : Bool := false
  canceled : Bool := false
  /-- The number of times the actions of the step were started. -/
  generation : Nat := 0
  /-- The actions whose results have not been applied yet. -/
  pending : List ActionKey := []
  components : PerComponent (Option ComponentStatus) := .const none
  failure : Option ActionFailure := none
  /-- What a probe found missing. -/
  policyFailure : Option String := none
  /-- What a successful install printed. -/
  output : Option String := none
  deriving Repr, DecidableEq

namespace Step

def new (id : StepId) (kind : StepKind) (previous : Option StepId) : Step where
  id := id
  kind := kind
  previous := previous

def hasPending (s : Step) : Bool := !s.pending.isEmpty

/-- The statuses that a step holds, in the order of the components. -/
def statuses (s : Step) : List ComponentStatus := s.components.entries.map (·.2)

/-- The step that was decided on when this one completed. -/
def next? (s : Step) : Except Refusal (Option StepId) :=
  if s.completed then .ok s.next else .error (.nextBeforeComplete s.id)

def isCancelable (s : Step) : Bool := !s.canceled && s.state != .finished

def canRetry (s : Step) : Bool :=
  !s.canceled && s.completed && s.pending.isEmpty && s.kind != .confirm

/-- Whether a completed probe offers to install a component that it reports on. -/
def offersInstall (s : Step) (c : Component) : Bool :=
  match s.kind with
  | .probe scope =>
    s.completed && scope.components.contains c &&
      match s.components.get c with
      | some status => status.state == .needsInstall || status.state == .upgradeAvailable
      | none => false
  | _ => false

/-- Whether a following step is decided on but not linked. -/
def needsLink (s : Step) : Bool := s.completed && s.next.isNone && s.nextKind.isSome

/-- Forgets the results of an earlier run and begins a new generation. -/
def reset (s : Step) : Step :=
  { s with
    generation := s.generation + 1
    entered := true
    completed := false
    next := none
    nextKind := none
    pending := []
    components := .const none
    failure := none
    policyFailure := none
    output := none }

def fail (s : Step) (failure : ActionFailure) : Step :=
  { s with
    state := if s.kind = .connect then .connectFailed else .installFailed
    failure := some failure
    completed := true
    nextKind := none }

/-- Records which install the user chose on a completed probe. -/
def chooseInstall (s : Step) (c : Component) (method : Nat) : Except Refusal Step :=
  if s.canceled then .error (.stepCanceled s.id)
  else if s.offersInstall c then
    .ok { s with
      state := .installMethodChosen
      next := none
      nextKind := some (.install c method) }
  else .error (.installNotOffered s.id)

/-- A successful install is done with when the session goes on. -/
def proceed (s : Step) : Step :=
  if s.state = .installOk then { s with state := .proceeding } else s

/-- Stops acting on a step; results that are still to come will be discarded. -/
def cancel (s : Step) : Step :=
  if s.canceled then s else { s with canceled := true, state := .canceled }

end Step

/-- What entering a step led to. -/
inductive EnterOutcome where
  /-- Actions are running. -/
  | started
  /-- The step was settled without remote work. -/
  | completed
  /-- An install from a vendor repository waits for credentials. -/
  | awaitingCredentials
  deriving Repr, DecidableEq

end ClusterSetup

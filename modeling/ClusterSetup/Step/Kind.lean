import ClusterSetup.Component

namespace ClusterSetup

/-- What one probe command looks at. Both cluster stacks are probed with a single command. -/
inductive ProbeTarget where
  | storage
  | clusterStack
  deriving Repr, DecidableEq

namespace ProbeTarget

def tag : ProbeTarget → String
  | storage => "storage"
  | clusterStack => "cluster-stack"

/-- The components that a probe works on. -/
def components : ProbeTarget → List Component
  | storage => [.drbd]
  | clusterStack => [.heartbeat, .corosync]

end ProbeTarget

/-- Which probes a probe step runs. -/
inductive ProbeScope where
  | all
  | storage
  | clusterStack
  deriving Repr, DecidableEq

namespace ProbeScope

def tag : ProbeScope → String
  | all => "all"
  | storage => "storage"
  | clusterStack => "cluster-stack"

def targets : ProbeScope → List ProbeTarget
  | all => [.storage, .clusterStack]
  | storage => [.storage]
  | clusterStack => [.clusterStack]

/-- The components that a scope reports on. -/
def components : ProbeScope → List Component
  | all => Component.all
  | storage => [.drbd]
  | clusterStack => [.heartbeat, .corosync]

end ProbeScope

inductive StepKind where
  | connect
  | probe (scope : ProbeScope)
  | install (component : Component) (method : Nat)
  | confirm
  deriving Repr, DecidableEq

namespace StepKind

def label : StepKind → String
  | connect => "connect"
  | probe .all => "check installation"
  | probe .storage => "check storage"
  | probe .clusterStack => "check cluster stack"
  | install component method =>
    "install " ++ component.label ++ " (method " ++ toString method ++ ")"
  | confirm => "confirm"

end StepKind

inductive StepState where
  | init
  | connecting
  | connected
  | connectFailed
  | probing
  | needsInstall
  | upToDate
  | upgradeAvailable
  | installMethodChosen
  | installing
  | installOk
  | installFailed
  | proceeding
  | canceled
  | finished
  deriving Repr, DecidableEq

namespace StepState

def tag : StepState → String
  | init => "init"
  | connecting => "connecting"
  | connected => "connected"
  | connectFailed => "connect-failed"
  | probing => "probing"
  | needsInstall => "needs-install"
  | upToDate => "up-to-date"
  | upgradeAvailable => "upgrade-available"
  | installMethodChosen => "install-method-chosen"
  | installing => "installing"
  | installOk => "install-ok"
  | installFailed => "install-failed"
  | proceeding => "proceeding"
  | canceled => "cancelled"
  | finished => "finished"

def label : StepState → String
  | init => "not started"
  | connecting => "connecting"
  | connected => "connected"
  | connectFailed => "connection failed"
  | probing => "checking"
  | needsInstall => "not installed"
  | upToDate => "up to date"
  | upgradeAvailable => "upgrade available"
  | installMethodChosen => "install method chosen"
  | installing => "installing"
  | installOk => "installed"
  | installFailed => "install failed"
  | proceeding => "done"
  | canceled => "canceled"
  | finished => "finished"

end StepState

/-- An action that a step can have outstanding. -/
inductive ActionKey where
  | connect
  | probe (target : ProbeTarget)
  | install (component : Component)
  deriving Repr, DecidableEq

end ClusterSetup

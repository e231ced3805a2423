import ClusterSetup.Session
import ClusterSetup.Text

namespace ClusterSetup

structure GeneralConfig where
  logLevel : Option String := none
  deriving Repr, DecidableEq

/-- Whether staging methods are offered. One switch serves both cluster stacks. -/
structure StagingConfig where
  drbd : Bool := false
  pacemaker : Bool := false
  deriving Repr, DecidableEq

/-- How long remote calls may take, in milliseconds. -/
structure TimeoutConfig where
  command : Nat := 60000
  install : Nat := 1800000
  connect : Nat := 30000
  deriving Repr, DecidableEq

/-- What sessions do on their own; the delay is in milliseconds. -/
structure AutomationConfig where
  autoNext : Bool := false
  drbdInstall : Bool := false
  heartbeatInstall : Bool := false
  pacemakerInstall : Bool := false
  delay : Nat := 1000
  deriving Repr, DecidableEq

/-- The install methods of hosts that remember none. -/
structure RememberedConfig where
  drbd : Option Nat := none
  heartbeat : Option Nat := none
  pacemaker : Option Nat := none
  deriving Repr, DecidableEq

/-- How the ssh client is called; its connect timeout is in seconds. -/
structure SshConfig where
  binary : String := "ssh"
  connectTimeout : Nat := 10
  /-- Never ask for passwords. -/
  batchMode : Bool := true
  deriving Repr, DecidableEq

structure Config where
  general : GeneralConfig := {}
  staging : StagingConfig := {}
  timeouts : TimeoutConfig := {}
  automation : AutomationConfig := {}
  remembered : RememberedConfig := {}
  ssh : SshConfig := {}
  deriving Repr, DecidableEq

namespace StagingConfig

def enabledFor (c : StagingConfig) : Component → Bool
  | .drbd => c.drbd
  | _ => c.pacemaker

end StagingConfig

namespace TimeoutConfig

def orDefault (value default : Nat) : Nat := if value = 0 then default else value

/-- Replaces zeros by the defaults, and lifts the install timeout to the command timeout. -/
def normalize (c : TimeoutConfig) : TimeoutConfig :=
  let command := orDefault c.command 60000
  { command := command
    install := max (orDefault c.install 1800000) command
    connect := orDefault c.connect 30000 }

def toTimeouts (c : TimeoutConfig) : Timeouts where
  connect := .ofMillis c.connect
  command := .ofMillis c.command
  install := .ofMillis c.install

end TimeoutConfig

namespace SshConfig

/-- Replaces a blank program name and a connect timeout of zero by the defaults. -/
def normalize (c : SshConfig) : SshConfig :=
  { c with
    binary := if Text.isBlank c.binary then "ssh" else c.binary
    connectTimeout := TimeoutConfig.orDefault c.connectTimeout 10 }

end SshConfig

namespace RememberedConfig

def toTable (c : RememberedConfig) : PerComponent (Option Nat) :=
  ⟨c.drbd, c.heartbeat, c.pacemaker⟩

end RememberedConfig

namespace Policy

def ofConfig (c : AutomationConfig) : Policy where
  autoNext := c.autoNext
  autoInstall := ⟨c.drbdInstall, c.heartbeatInstall, c.pacemakerInstall⟩
  delay := .ofMillis c.delay

end Policy

namespace Config

def normalize (c : Config) : Config :=
  { c with timeouts := c.timeouts.normalize, ssh := c.ssh.normalize }

def default : Config := normalize {}

def sessionOptions (c : Config) : SessionOptions where
  timeouts := c.timeouts.toTimeouts
  staging := .ofFn c.staging.enabledFor
  remembered := c.remembered.toTable

end Config

end ClusterSetup

import ClusterSetup.Duration
import ClusterSetup.Host

namespace ClusterSetup

/-- A command together with the resource key it comes from. -/
structure RemoteCommand where
  key : String
  command : String
  deriving Repr, DecidableEq

/-- What a command printed and the code it exited with. -/
structure CommandOutput where
  output : String
  exitCode : Int
  deriving Repr, DecidableEq

namespace CommandOutput

def success (o : CommandOutput) : Bool := o.exitCode == 0

end CommandOutput

/-- Why a remote call has no answer. -/
inductive TransportError where
  | connect (host reason : String)
  | connectionLost (reason : String)
  | timeout (after : Duration)
  | spawn (reason : String)
  deriving Repr, DecidableEq

namespace TransportError

def message : TransportError → String
  | connect host reason => "failed to connect to " ++ host ++ ": " ++ reason
  | connectionLost reason => "connection lost: " ++ reason
  | timeout after => "command timed out after " ++ after.text
  | spawn reason => "failed to start command: " ++ reason

end TransportError

/-- How long remote calls may take. -/
structure Timeouts where
  connect : Duration := .ofSeconds 30
  command : Duration := .ofSeconds 60
  /-- Installs may download or compile. -/
  install : Duration := .ofSeconds 1800
  deriving Repr, DecidableEq

/-- A call of the remote side, with the time it may take. -/
inductive RemoteCall where
  | connect (target : HostTarget) (timeout : Duration)
  | execute (target : HostTarget) (command : RemoteCommand) (timeout : Duration)
  deriving Repr, DecidableEq

namespace RemoteCall

def target : RemoteCall → HostTarget
  | connect target _ => target
  | execute target _ _ => target

def timeout : RemoteCall → Duration
  | connect _ timeout => timeout
  | execute _ _ timeout => timeout

end RemoteCall

/-- The answer to a call. What a connect printed does not matter. -/
abbrev CallAnswer := Except TransportError CommandOutput

/-- What came of looking an address up. The same address may be found several times over. -/
inductive Lookup where
  | found (addresses : List String)
  | failed (reason : String)
  | timedOut
  deriving Repr, DecidableEq

/-- What an action waits for: that an address is looked up, or that a call is answered. -/
inductive Inquiry where
  | lookUp (target : HostTarget) (timeout : Duration)
  | call (call : RemoteCall)
  deriving Repr, DecidableEq

/-- The reply to an inquiry. -/
inductive Reply where
  | lookedUp (lookup : Lookup)
  | answered (answer : CallAnswer)

end ClusterSetup

import ClusterSetup.Config
import ClusterSetup.Text

namespace ClusterSetup

/-- How a run of the ssh client ended. -/
inductive SshRun where
  | notStarted (reason : String)
  /-- The client ran longer than the call may take. -/
  | timedOut
  | killed
  | exited (stdout stderr : String) (code : Int)
  deriving Repr, DecidableEq

namespace Ssh

/-- The exit code that the client keeps for its own failures. -/
def errorCode : Int := 255

/-- The command by which it is tried whether a host can be reached. -/
def connectCommand : String := "true"

def remoteCommand : RemoteCall → String
  | .connect _ _ => connectCommand
  | .execute _ command _ => command.command

/-- The arguments of the client for running a command on a host. -/
def arguments (config : SshConfig) (target : HostTarget) (command : String) : List String :=
  ["-p", toString target.port, "-o", "ConnectTimeout=" ++ toString config.connectTimeout] ++
  (if config.batchMode then ["-o", "BatchMode=yes"] else []) ++
  [target.user ++ "@" ++ target.address, command]

def callArguments (config : SshConfig) (call : RemoteCall) : List String :=
  arguments config call.target (remoteCommand call)

/-- The most bytes of UTF-8 that an argument of a program can have. -/
def maxArgumentBytes : Nat := 131071

/-- Why no program can be started with these arguments, if so. An argument ends at the character
U+0000, so it cannot contain that character. -/
def obstacle? (arguments : List String) : Option String :=
  if arguments.any fun argument => Chars.hasNul argument.toList then
    some "nul byte found in provided data"
  else if arguments.any fun argument => maxArgumentBytes < argument.utf8ByteSize then
    some "Argument list too long (os error 7)"
  else none

/-- The arguments of the client for those calls for which it can be started. -/
def startedRuns (config : SshConfig) (calls : List RemoteCall) : List (List String) :=
  (calls.map (callArguments config)).filter fun arguments => (obstacle? arguments).isNone

/-- What a command printed on its two streams, the error stream behind the other one on a line of
its own. A blank error stream is left out. -/
def joinStreams (stdout stderr : String) : String :=
  if Text.isBlank stderr then stdout
  else if stdout.isEmpty || stdout.toList.getLast? = some '\n' then stdout ++ stderr
  else stdout ++ "\n" ++ stderr

def commandAnswer (config : SshConfig) (timeout : Duration) : SshRun → CallAnswer
  | .notStarted reason => .error (.spawn (config.binary ++ ": " ++ reason))
  | .timedOut => .error (.timeout timeout)
  | .killed => .error (.connectionLost "ssh terminated by signal")
  | .exited stdout stderr code =>
    if code = errorCode then .error (.connectionLost (Text.trim stderr))
    else .ok ⟨joinStreams stdout stderr, code⟩

/-- What the answer to the connect command says about the host. -/
def connectAnswer (target : HostTarget) : CallAnswer → CallAnswer
  | .ok output =>
    if output.success then .ok output
    else .error (.connect target.address
      ("exit status " ++ toString output.exitCode ++ ": " ++ Text.trim output.output))
  | .error (.connectionLost reason) => .error (.connect target.address reason)
  | .error e => .error e

def answer (config : SshConfig) (call : RemoteCall) (run : SshRun) : CallAnswer :=
  match call with
  | .connect target timeout => connectAnswer target (commandAnswer config timeout run)
  | .execute _ _ timeout => commandAnswer config timeout run

def missingMessage (binary : String) : String :=
  "ssh client '" ++ binary ++ "' not found; install OpenSSH or set [ssh] binary"

end Ssh

end ClusterSetup

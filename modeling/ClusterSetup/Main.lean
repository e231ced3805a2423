import ClusterSetup.CommandLine.Program
import ClusterSetup.SearchPath
import ClusterSetup.Ssh.Relay

/-!
The program as it is started from a shell. It has no processes of its own: each run of the ssh
client that it needs is asked for on the error stream, one quoted argument on a line and an empty
line at the end, and how the run ended is read from the input, up to an empty line. In the same way
it asks for the addresses of a name, by a line that begins with `lookup`.
-/

namespace ClusterSetup

/-- The variables that the program reads. -/
def variableNames : List String :=
  ["XDG_CONFIG_HOME", "HOME", "HAINST_VENDOR_USER", "HAINST_VENDOR_PASSWORD",
    "HAINST_CLUSTER_PASSWORD"]

def readState (path : String) : IO FileState := do
  match ← (IO.FS.readBinFile path).toBaseIO with
  | .ok bytes => return .content bytes.toList
  | .error (.noFileOrDirectory ..) => return .absent
  | .error e => return .unreadable e.toString

def isReadable (path : String) : IO Bool := do
  match ← readState path with
  | .content _ => return true
  | _ => return false

def findsProgram (program : String) : IO Bool := do
  if program.toList.contains '/' then isReadable program
  else (SearchPath.candidates (← IO.getEnv "PATH") program).anyM isReadable

/-- What the program finds around itself, as far as a request needs it. -/
def lookAround (args : List String) : IO CommandLine.Surroundings := do
  let values ← variableNames.mapM fun name => return (name, ← IO.getEnv name)
  let env := (Environment.empty.setAll? values).getD .empty
  let state ← match CommandLine.configPath? env args with
    | some path => readState path
    | none => pure .absent
  let surroundings : CommandLine.Surroundings :=
    { env := env, file := fun _ => state, hasProgram := fun _ => false }
  let found ← match CommandLine.clientName? Config.decode surroundings args with
    | some program => findsProgram program
    | none => pure false
  return { surroundings with hasProgram := fun _ => found }

/-- Reads lines up to an empty one. -/
partial def readBlock (input : IO.FS.Stream) : IO (List String) := do
  match Text.lines (← input.getLine) with
  | [] | [""] => return []
  | line :: _ => return line :: (← readBlock input)

/-- The lines that ask a question. -/
def questionLines : Ssh.Question → List String
  | .run arguments => arguments.map Json.quote
  | .lookUp name => ["lookup " ++ Json.quote name]

/-- Takes down the answer to a question, if it is one. -/
def noteAnswer? (known : Ssh.Transcript) (question : Ssh.Question) (lines : List String) :
    Option Ssh.Transcript :=
  match question with
  | .run _ => (Ssh.readEnd? lines).map fun run => { known with ends := known.ends ++ [run] }
  | .lookUp _ =>
    (Ssh.readLookup? lines).map fun lookup => { known with lookups := known.lookups ++ [lookup] }

/-- Runs the program, and asks about the remote side as long as it needs to know more. -/
partial def serve (surroundings : CommandLine.Surroundings) (args : List String)
    (known : Ssh.Transcript) : IO CommandLine.Exit := do
  let (exit, transcript) :=
    CommandLine.run Ssh.relay Ssh.relayLookups Config.decode known surroundings args
  match exit.unanswered, transcript.asked with
  | true, some question =>
    let errors ← IO.getStderr
    for line in questionLines question do errors.putStrLn line
    errors.putStrLn ""
    match noteAnswer? known question (← readBlock (← IO.getStdin)) with
    | some known => serve surroundings args known
    | none => return .failure "no answer about the remote side"
  | _, _ => return exit

end ClusterSetup

def main (args : List String) : IO UInt32 := do
  let exit ← ClusterSetup.serve (← ClusterSetup.lookAround args) args {}
  IO.print exit.output.shown
  if let some complaint := exit.complaint then IO.eprintln complaint
  return UInt32.ofNat exit.code

import ClusterSetup.Session.Run
import ClusterSetup.Ssh

namespace ClusterSetup.Ssh

/-- An ssh client, run with arguments and a limit on its time. It may remember what it did, and
may leave open how a run ends. -/
structure Client (σ : Type) where
  run : σ → List String → Duration → Option SshRun × σ

/-- Runs the client for a call, unless the arguments of the call stand in the way. -/
def Client.runFor {σ : Type} (client : Client σ) (config : SshConfig) (call : RemoteCall)
    (memory : σ) : Option SshRun × σ :=
  let arguments := callArguments config call
  match obstacle? arguments with
  | some reason => (some (.notStarted reason), memory)
  | none => client.run memory arguments call.timeout

def Client.answer? {σ : Type} (client : Client σ) (config : SshConfig) (call : RemoteCall)
    (memory : σ) : Option CallAnswer × σ :=
  let (run, memory) := client.runFor config call memory
  (run.map (answer config call), memory)

/-- What looks addresses up. It may leave open what comes of a lookup. -/
structure Resolver (σ : Type) where
  lookUp : σ → HostTarget → Duration → Option Lookup × σ

/-- The remote side behind a client and a resolver. Actions are served in the order in which they
were started. -/
def Client.remote {σ : Type} (client : Client σ) (resolver : Resolver σ) (config : SshConfig) :
    Remote σ where
  answer memory running :=
    match running with
    | [] => (none, memory)
    | action :: _ =>
      match action.work.inquiry? with
      | none => (some (0, .answered (.ok ⟨"", 0⟩)), memory)
      | some (.lookUp target timeout) =>
        let (lookup, memory) := resolver.lookUp memory target timeout
        (lookup.map fun lookup => (0, .lookedUp lookup), memory)
      | some (.call call) =>
        let (answer, memory) := client.answer? config call memory
        (answer.map fun answer => (0, .answered answer), memory)

end ClusterSetup.Ssh

import ClusterSetup.Guards
import ClusterSetup.Step.Kind
import ClusterSetup.Transport

/-!
Actions: the remote work that a step starts, up to its result. An action waits for one thing after
the other; each reply brings it to the next one or to its outcome.
-/

namespace ClusterSetup

/-- Why an action failed, together with what it had printed. -/
structure ActionFailure where
  reason : String
  output : String := ""
  exitCode : Option Int := none
  deriving Repr, DecidableEq

namespace ActionFailure

def plain (reason : String) : ActionFailure := { reason := reason }

def exit (output : String) (code : Int) : ActionFailure where
  reason := "command exited with code " ++ toString code
  output := output
  exitCode := some code

end ActionFailure

/-- What came of an action. -/
inductive Outcome where
  /-- The host was reached: its addresses, and what was detected about its distribution. -/
  | connected (addresses : List String) (dist : DistInfo)
  /-- A command exited. -/
  | exited (output : CommandOutput)
  /-- A command has no answer. -/
  | unanswered (failure : ActionFailure)
  /-- No command was sent, or the host was not reached. -/
  | failed (failure : ActionFailure)
  deriving Repr, DecidableEq

namespace Lookup

/-- The addresses that the lookup of an address found, each of them once, or why it has none. -/
def addresses (address : String) : Lookup → Except ActionFailure (List String)
  | .found addresses =>
    match Host.appendNew [] addresses with
    | [] => .error (.plain (address ++ " resolved to no addresses"))
    | addresses => .ok addresses
  | .failed reason => .error (.plain ("cannot resolve " ++ address ++ ": " ++ reason))
  | .timedOut => .error (.plain ("resolving " ++ address ++ " timed out"))

end Lookup

inductive Work where
  | lookUp (target : HostTarget) (detect : Option RemoteCommand) (timeouts : Timeouts)
  | connect (target : HostTarget) (addresses : List String) (detect : Option RemoteCommand)
      (timeouts : Timeouts)
  | detect (target : HostTarget) (addresses : List String) (command : RemoteCommand)
      (timeout : Duration)
  | execute (target : HostTarget) (command : RemoteCommand) (timeout : Duration)
  | settled (outcome : Outcome)
  deriving Repr, DecidableEq

namespace Work

/-- The work of running a command. There is no command for what a distribution does not
support. -/
def startCommand (target : HostTarget) (command : Option RemoteCommand) (timeout : Duration) :
    Work :=
  match command with
  | some command => .execute target command timeout
  | none => .settled (.failed (.plain "unsupported on this distribution"))

/-- What an action waits for. To connect, the address of the host is looked up, then the host is
called and asked for its distribution. -/
def inquiry? : Work → Option Inquiry
  | lookUp target _ timeouts => some (.lookUp target timeouts.connect)
  | connect target _ _ timeouts => some (.call (.connect target timeouts.connect))
  | detect target _ command timeout => some (.call (.execute target command timeout))
  | execute target command timeout => some (.call (.execute target command timeout))
  | settled _ => none

def call? (work : Work) : Option RemoteCall :=
  match work.inquiry? with
  | some (.call call) => some call
  | _ => none

/-- What an answer to the detection command says about the distribution. -/
def detected : CallAnswer → DistInfo
  | .ok output => if output.success then .ofReport output.output else {}
  | .error _ => {}

/-- What comes of an action by a reply. A reply to something else than the action waits for is
none; an action that waits for nothing takes any. -/
def proceed? : Work → Reply → Option Work
  | lookUp target command timeouts, .lookedUp lookup =>
    match lookup.addresses target.address with
    | .ok addresses => some (.connect target addresses command timeouts)
    | .error failure => some (.settled (.failed failure))
  | connect _ _ _ _, .answered (.error e) => some (.settled (.failed (.plain e.message)))
  | connect _ addresses none _, .answered (.ok _) => some (.settled (.connected addresses {}))
  | connect target addresses (some command) timeouts, .answered (.ok _) =>
    some (.detect target addresses command timeouts.command)
  | detect _ addresses _ _, .answered answer =>
    some (.settled (.connected addresses (detected answer)))
  | execute _ _ _, .answered (.ok output) => some (.settled (.exited output))
  | execute _ _ _, .answered (.error e) => some (.settled (.unanswered (.plain e.message)))
  | settled outcome, _ => some (.settled outcome)
  | _, _ => none

/-- The number of replies after which an action is settled at the latest. -/
def repliesLeft : Work → Nat
  | lookUp _ _ _ => 3
  | connect _ _ _ _ => 2
  | detect _ _ _ _ => 1
  | execute _ _ _ => 1
  | settled _ => 0

end Work

/-- An action that was started and whose result has not arrived yet. The generation tells the
runs of one step apart; the guards are given back when the result is read. -/
structure RunningAction where
  step : StepId
  generation : Nat
  key : ActionKey
  work : Work
  guards : List Guard
  deriving Repr, DecidableEq

structure ActionResult where
  step : StepId
  generation : Nat
  key : ActionKey
  outcome : Outcome
  guards : List Guard
  deriving Repr, DecidableEq

namespace RunningAction

def result (a : RunningAction) (outcome : Outcome) : ActionResult :=
  ⟨a.step, a.generation, a.key, outcome, a.guards⟩

def movedTo (a : RunningAction) : Work → RunningAction ⊕ ActionResult
  | .settled outcome => .inr (a.result outcome)
  | work => .inl { a with work := work }

/-- What a reply makes of a running action, if it is one to what the action waits for. -/
def advance? (a : RunningAction) (reply : Reply) : Option (RunningAction ⊕ ActionResult) :=
  (a.work.proceed? reply).map a.movedTo

end RunningAction

end ClusterSetup

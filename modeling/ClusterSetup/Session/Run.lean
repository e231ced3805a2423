import ClusterSetup.Session.Operations
import ClusterSetup.Session.Results

namespace ClusterSetup

/-- A remote side, lookups of addresses included. It picks one of the running actions by its place
and replies to it, and may remember what it did. -/
structure Remote (σ : Type) where
  answer : σ → List RunningAction → Option (Nat × Reply) × σ

inductive RunStop where
  | finished
  | canceled
  /-- The step asks for a decision: going on, an install, or another try. -/
  | awaitingUser (step : StepId)
  | needsCredentials (step : StepId)
  | refused (reason : Refusal)
  deriving Repr, DecidableEq

inductive Turn where
  /-- The run ends, after a pause or at once. -/
  | stop (reason : RunStop) (paused : Bool)
  /-- The current step waits for a result. -/
  | wait
  /-- The session went on, after a pause or at once. -/
  | goOn (paused : Bool)
  deriving Repr, DecidableEq

/-- How waiting for a result ended. -/
inductive Waited where
  /-- A result has arrived. -/
  | arrived
  /-- The remote side does not answer any more. -/
  | silent
  deriving Repr, DecidableEq

inductive RunEnd where
  | stopped (reason : RunStop)
  /-- A result is needed and the remote side does not answer any more. -/
  | silent
  /-- The turns that were allowed are used up. -/
  | exhausted
  deriving Repr, DecidableEq

namespace Session

def awaitResultFor {σ : Type} (remote : Remote σ) : Nat → σ → Session → Waited × σ × Session
  | 0, memory, s => (if s.arrived.isEmpty then .silent else .arrived, memory, s)
  | fuel + 1, memory, s =>
    if s.arrived.isEmpty then
      match remote.answer memory s.running with
      | (none, memory) => (.silent, memory, s)
      | (some (place, reply), memory) =>
        match s.advance? place reply with
        | none => (.silent, memory, s)
        | some s => awaitResultFor remote fuel memory s
    else (.arrived, memory, s)

/-- Lets the remote side answer until a result has arrived. Each answer brings an action closer to
its result. -/
def awaitResult {σ : Type} (remote : Remote σ) (memory : σ) (s : Session) :
    Waited × σ × Session :=
  awaitResultFor remote s.repliesLeft memory s

/-- Lets the remote side answer as long as it does. -/
def answerAllFor {σ : Type} (remote : Remote σ) : Nat → σ → Session → σ × Session
  | 0, memory, s => (memory, s)
  | fuel + 1, memory, s =>
    match remote.answer memory s.running with
    | (none, memory) => (memory, s)
    | (some (place, reply), memory) =>
      match s.advance? place reply with
      | none => (memory, s)
      | some s => answerAllFor remote fuel memory s

def answerAll {σ : Type} (remote : Remote σ) (memory : σ) (s : Session) : σ × Session :=
  answerAllFor remote s.repliesLeft memory s

end Session

namespace Desk

/-- Waits for the next result and reads it. Without results to come there is nothing to wait for,
and nothing was applied. -/
def wait {σ : Type} (remote : Remote σ) (memory : σ) (d : Desk) :
    Option (Option StepId) × σ × Desk :=
  if d.session.inFlight = 0 then (some none, memory, d)
  else
    match d.session.awaitResult remote memory with
    | (.silent, memory, s) => (none, memory, { d with session := s })
    | (.arrived, memory, s) =>
      match read? { d with session := s } with
      | some (applied, d) => (some applied, memory, d)
      | none => (none, memory, { d with session := s })

/-- Waits at most so many times for the results of the current step. -/
def settleFor {σ : Type} (remote : Remote σ) : Nat → σ → Desk → Waited × σ × Desk
  | 0, memory, d => (.arrived, memory, d)
  | count + 1, memory, d =>
    if !d.session.canceled && d.session.currentStep.hasPending then
      match wait remote memory d with
      | (none, memory, d) => (.silent, memory, d)
      | (some _, memory, d) => settleFor remote count memory d
    else (.arrived, memory, d)

/-- Waits until the current step has no action outstanding. -/
def settle {σ : Type} (remote : Remote σ) (memory : σ) (d : Desk) : Waited × σ × Desk :=
  settleFor remote d.session.inFlight memory d

/-- The install that the policy has in mind for the current step, with the method to use. -/
def plannedInstall (s : Session) : Option (Component × Option Nat) :=
  (s.policy.nextInstall s.flags s.currentStep.offersInstall s.attempts.get).map fun c =>
    (c, (s.methods c).default?.map (·.index))

/-- One turn of a run: enters a step that was not entered, goes on from one that is completed, or
installs what the policy allows. -/
def turn (d : Desk) : Turn × Desk :=
  let s := d.session
  let step := s.currentStep
  let paused := s.policy.delay != .zero
  if s.canceled then (.stop .canceled false, d)
  else if s.finished then (.stop .finished false, d)
  else if !step.entered then
    match enter d with
    | (.ok .awaitingCredentials, d) => (.stop (.needsCredentials s.current) false, d)
    | (.ok _, d) => (.goOn false, d)
    | (.error e, d) => (.stop (.refused e) false, d)
  else if step.hasPending then (.wait, d)
  else if !step.completed then (.stop (.needsCredentials s.current) false, d)
  else if step.next.isSome then
    if s.policy.autoNext then
      match next d with
      | (.ok _, d) => (.goOn paused, d)
      | (.error e, d) => (.stop (.refused e) paused, d)
    else (.stop (.awaitingUser s.current) false, d)
  else
    match plannedInstall s with
    | none => (.stop (.awaitingUser s.current) false, d)
    | some (_, none) => (.stop (.awaitingUser s.current) false, d)
    | some (c, some method) =>
      let counted := { s with attempts := s.attempts.set c (s.attempts.get c + 1) }
      match chooseInstall c method { d with session := counted } with
      | (.ok _, d) => (.goOn paused, d)
      | (.error e, d) => (.stop (.refused e) paused, d)

/-- The number of installs that the policy may still start. -/
def installsLeft (s : Session) : Nat :=
  Component.all.foldr
    (fun c left =>
      (if s.policy.installs c then s.policy.maxInstallAttempts - s.attempts.get c else 0) + left)
    0

/-- More turns than a run can take: each install is followed by a few new steps, and each step
takes a few turns. -/
def turnLimit (s : Session) : Nat := 16 * (s.steps.length + 4 * (installsLeft s + 2))

/-- Runs a session for a limited number of turns. Also counts the pauses. -/
def runFor {σ : Type} (remote : Remote σ) :
    Nat → Nat → σ → Desk → RunEnd × Nat × σ × Desk
  | 0, pauses, memory, d => (.exhausted, pauses, memory, d)
  | fuel + 1, pauses, memory, d =>
    match turn d with
    | (.stop reason paused, d) => (.stopped reason, pauses + paused.toNat, memory, d)
    | (.goOn paused, d) => runFor remote fuel (pauses + paused.toNat) memory d
    | (.wait, d) =>
      match settle remote memory d with
      | (.silent, memory, d) => (.silent, pauses, memory, d)
      | (.arrived, memory, d) => runFor remote fuel pauses memory d

/-- Runs a session until its policy allows no more, and counts the pauses. -/
def run {σ : Type} (remote : Remote σ) (memory : σ) (d : Desk) : RunEnd × Nat × σ × Desk :=
  runFor remote (turnLimit d.session) 0 memory d

end Desk

end ClusterSetup

import ClusterSetup.Address
import ClusterSetup.Session.Run

/-!
Rehearsals: sessions that play against a script instead of machines. The script has a list of
replies for each key, the last of which is repeated for ever, and can hold the calls of a key back
until they are let through one by one. Lookups of addresses are never held back.
-/

namespace ClusterSetup

inductive ScriptedReply where
  | prints (output : CommandOutput)
  | fails (error : TransportError)
  /-- The call takes longer than it may. -/
  | timesOut
  deriving Repr, DecidableEq

/-- A scripted remote side: the replies for each key, for the keys whose calls are held back the
number of calls that may pass, and what the known names stand for. -/
structure Script where
  replies : List (String × List ScriptedReply) := []
  gates : List (String × Nat) := []
  names : List (String × Lookup) := []
  deriving Repr, DecidableEq

namespace RemoteCall

def scriptKey : RemoteCall → String
  | connect _ _ => "connect"
  | execute _ command _ => command.key

/-- The command that a call sends; a connect sends none. -/
def command : RemoteCall → String
  | connect _ _ => ""
  | execute _ command _ => command.command

end RemoteCall

namespace ScriptedReply

def answer (r : ScriptedReply) (call : RemoteCall) : CallAnswer :=
  match r with
  | prints output => .ok output
  | fails error => .error error
  | timesOut => .error (.timeout call.timeout)

end ScriptedReply

namespace Script

def setReplies (s : Script) (key : String) (replies : List ScriptedReply) : Script :=
  { s with replies := (key, replies) :: s.replies.filter (·.1 != key) }

/-- Lets one more call of a key pass, if its calls are held back. -/
def letPass (s : Script) (key : String) : Script :=
  { s with gates := s.gates.map fun gate => if gate.1 == key then (key, gate.2 + 1) else gate }

def isGated (s : Script) (key : String) : Bool := s.gates.any (·.1 == key)

def isOpen (s : Script) (key : String) : Bool :=
  match s.gates.find? (·.1 == key) with
  | some (_, permits) => 0 < permits
  | none => true

/-- Uses up one permit of a key whose calls are held back. -/
def usePermit (s : Script) (key : String) : Script :=
  { s with gates := s.gates.map fun gate => if gate.1 == key then (key, gate.2 - 1) else gate }

/-- The answer to a call for whose key the script has no reply. -/
def unscripted : RemoteCall → CallAnswer
  | .connect _ _ => .ok ⟨"", 0⟩
  | .execute _ command _ => .error (.spawn ("no scripted response for " ++ command.key))

def takeAnswer (s : Script) (call : RemoteCall) : CallAnswer × Script :=
  match s.replies.find? (·.1 == call.scriptKey) with
  | some (key, reply :: next :: rest) => (reply.answer call, s.setReplies key (next :: rest))
  | some (_, [reply]) => (reply.answer call, s)
  | _ => (unscripted call, s)

/-- Looks an address up: one in numbers is known, and so are the names of the script. -/
def lookUp (s : Script) (address : String) : Lookup :=
  match Address.lookUpLocally? address, s.names.lookup address with
  | some lookup, _ => lookup
  | none, some lookup => lookup
  | none, none => .failed "failed to lookup address information: Name or service not known"

/-- Replies to what an action waits for, if a call that it makes can pass. An action that waits for
nothing gets an empty answer. -/
def answerWork (s : Script) (work : Work) : Option Reply × Script :=
  match work.inquiry? with
  | none => (some (.answered (.ok ⟨"", 0⟩)), s)
  | some (.lookUp target _) => (some (.lookedUp (s.lookUp target.address)), s)
  | some (.call call) =>
    if s.isOpen call.scriptKey then
      let (answer, s) := (s.usePermit call.scriptKey).takeAnswer call
      (some (.answered answer), s)
    else (none, s)

/-- Replies to the first of the actions, counted from a place on, that can be replied to. -/
def answerFrom (allowed : RunningAction → Bool) (s : Script) :
    Nat → List RunningAction → Option (Nat × Reply) × Script
  | _, [] => (none, s)
  | place, action :: rest =>
    if allowed action then
      match s.answerWork action.work with
      | (some reply, s) => (some (place, reply), s)
      | (none, s) => answerFrom allowed s (place + 1) rest
    else answerFrom allowed s (place + 1) rest

/-- The script as a remote side that answers only certain actions. -/
def remoteFor (allowed : RunningAction → Bool) : Remote Script :=
  ⟨fun s running => answerFrom allowed s 0 running⟩

def remote : Remote Script := remoteFor fun _ => true

/-- Replies to one action until it is settled or held back; also gives the calls that it
made on the way. -/
def playFor : Nat → Script → List RemoteCall → RunningAction →
    (RunningAction ⊕ ActionResult) × List RemoteCall × Script
  | 0, s, calls, action => (.inl action, calls, s)
  | fuel + 1, s, calls, action =>
    match s.answerWork action.work with
    | (none, s) => (.inl action, calls, s)
    | (some reply, s) =>
      match action.advance? reply with
      | none => (.inl action, calls, s)
      | some (.inr result) => (.inr result, calls, s)
      | some (.inl action) => playFor fuel s (calls ++ action.work.call?.toList) action

def play (s : Script) (action : RunningAction) :
    (RunningAction ⊕ ActionResult) × List RemoteCall × Script :=
  playFor (action.work.repliesLeft + 1) s [] action

end Script

/-- An action whose result nobody waits for, and the actions of the session that began to wait
before it. -/
structure Stray where
  action : RunningAction
  ahead : List (StepId × Nat × ActionKey)
  deriving Repr, DecidableEq

/-- What the players of one rehearsal share: the guards, and those of them that are held apart from
all actions. -/
structure SharedGuards where
  guards : Guards := .empty
  held : List Guard := []
  deriving Repr, DecidableEq

namespace SharedGuards

/-- Takes guards for a host and holds them. -/
def hold (s : SharedGuards) (host : HostId) (components : List Component) :
    Except Refusal Unit × SharedGuards :=
  match s.guards.acquireAll host components with
  | (.ok taken, guards) => (.ok (), ⟨guards, s.held ++ taken⟩)
  | (.error e, guards) => (.error e, { s with guards := guards })

/-- Gives all held guards back, whoever held them, and tells how many they were. -/
def unhold (s : SharedGuards) : Nat × SharedGuards :=
  (s.held.length, ⟨s.guards.releaseAll s.held, []⟩)

end SharedGuards

/-- A session with the script that it plays against. -/
structure Player where
  session : Session
  script : Script
  strays : List Stray := []
  /-- The calls that strays made. -/
  strayCalls : List RemoteCall := []

namespace Player

def ticket (action : RunningAction) : StepId × Nat × ActionKey :=
  (action.step, action.generation, action.key)

/-- Lets certain actions of the session be answered as far as the script goes. -/
def answerOwn (allowed : RunningAction → Bool) (p : Player) : Player :=
  let (script, session) := p.session.answerAll (Script.remoteFor allowed) p.script
  { p with script := script, session := session }

/-- Lets a stray be answered after the actions that waited before it. Its guards are given back
once it is settled. -/
def answerStray (p : Player) (g : Guards) (stray : Stray) : Player × Guards :=
  let p := p.answerOwn fun action => stray.ahead.contains (ticket action)
  match p.script.play stray.action with
  | (.inl action, calls, script) =>
    ({ p with
        script := script
        strayCalls := p.strayCalls ++ calls
        strays := p.strays ++ [{ stray with action := action }] }, g)
  | (.inr result, calls, script) =>
    ({ p with script := script, strayCalls := p.strayCalls ++ calls },
      g.releaseAll result.guards)

/-- Lets everything be answered as far as the script goes. -/
def answerAll (p : Player) (g : Guards) : Player × Guards :=
  let (p, g) := p.strays.foldl (fun (p, g) stray => p.answerStray g stray)
    ({ p with strays := [] }, g)
  (p.answerOwn fun _ => true, g)

/-- Performs an operation of the session, and lets the actions it started be answered. -/
def perform {α : Type} (operation : Desk → α × Desk) (p : Player) (g : Guards) :
    α × Player × Guards :=
  let (a, d) := operation ⟨p.session, g⟩
  (a, ({ p with session := d.session }.answerAll d.guards))

/-- Performs an operation of the session that needs the remote side. -/
def performRemote {α : Type} (operation : Script → Desk → α × Script × Desk) (p : Player)
    (g : Guards) : α × Player × Guards :=
  let (a, script, d) := operation p.script ⟨p.session, g⟩
  (a, ({ p with session := d.session, script := script }.answerAll d.guards))

structure CopyEntered where
  result : Except Refusal EnterOutcome
  copy : Step
  results : List ActionResult

/-- Enters a copy of a step with the guards of the session, but with other secrets and without
the session knowing. The results that arrive are handed out and their guards given back; actions
that are held back become strays. -/
def enterCopy (step : Step) (credentials : Option VendorCredentials)
    (stackPassword : Option String) (p : Player) (g : Guards) : CopyEntered × Player × Guards :=
  let ctx := { p.session.enterContext with
    credentials := credentials
    stackPassword := stackPassword }
  let entered := step.enter ctx g
  let ahead := p.session.running.map ticket
  let begun := { p with strayCalls := p.strayCalls ++ entered.firstCalls }
  let (results, p, g) := entered.started.foldl
    (fun (results, p, g) action =>
      match p.script.play action with
      | (.inl action, calls, script) =>
        (results, { p with
          script := script
          strayCalls := p.strayCalls ++ calls
          strays := p.strays ++ [⟨action, ahead⟩] }, g)
      | (.inr result, calls, script) =>
        (results ++ [result],
          { p with script := script, strayCalls := p.strayCalls ++ calls },
          Guards.releaseAll g result.guards))
    (([] : List ActionResult), begun, entered.guards)
  (⟨entered.result, entered.step, results⟩, p, g)

end Player

end ClusterSetup

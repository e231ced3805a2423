import ClusterSetup.Step

namespace ClusterSetup

/-- Everything a step needs for starting its actions. -/
structure EnterContext where
  host : Host
  resources : Resources
  timeouts : Timeouts
  credentials : Option VendorCredentials
  stackPassword : Option String

/-- A step after it was entered or refused to be, with the guards then held and the actions that
were started. -/
structure Entered where
  result : Except Refusal EnterOutcome
  step : Step
  guards : Guards
  started : List RunningAction

/-- The calls that the started actions make at once. -/
def Entered.firstCalls (e : Entered) : List RemoteCall :=
  e.started.filterMap fun action => action.work.call?

namespace Guards

/-- Takes the guards of several probes, one probe after the other; when one cannot be taken, those
taken before it are given back. -/
def acquireProbes (host : HostId) (g : Guards) (taken : List (ProbeTarget × List Guard)) :
    List ProbeTarget → Except Refusal (List (ProbeTarget × List Guard)) × Guards
  | [] => (.ok taken, g)
  | target :: rest =>
    match g.acquireAll host target.components with
    | (.ok guards, g) => acquireProbes host g (taken ++ [(target, guards)]) rest
    | (.error e, g) => (.error e, g.releaseAll (taken.flatMap (·.2)))

end Guards

namespace Step

def probeKey : ProbeTarget → String
  | .storage => ResourceKey.storageProbe
  | .clusterStack => ResourceKey.stackProbe

def commandFor (ctx : EnterContext) (key : String) : Option RemoteCommand :=
  (ctx.resources.resolveFor ctx.host.dist key).map fun command => ⟨key, command⟩

def start (s : Step) (key : ActionKey) (work : Work) (guards : List Guard) :
    Step × RunningAction :=
  ({ s with pending := s.pending ++ [key] }, ⟨s.id, s.generation, key, work, guards⟩)

def startProbes (ctx : EnterContext) (s : Step) :
    List (ProbeTarget × List Guard) → Step × List RunningAction
  | [] => (s, [])
  | (target, guards) :: rest =>
    let work := Work.startCommand ctx.host.target (commandFor ctx (probeKey target))
      ctx.timeouts.command
    let (s, action) := s.start (.probe target) work guards
    let (s, actions) := startProbes ctx s rest
    (s, action :: actions)

def enterConnect (ctx : EnterContext) (g : Guards) (s : Step) : Entered :=
  let work := Work.lookUp ctx.host.target (commandFor ctx ResourceKey.distProbe) ctx.timeouts
  let (s, action) := { s.reset with state := .connecting }.start .connect work []
  ⟨.ok .started, s, g, [action]⟩

def enterProbe (ctx : EnterContext) (g : Guards) (s : Step) (scope : ProbeScope) : Entered :=
  match g.acquireProbes ctx.host.id [] scope.targets with
  | (.error e, g) => ⟨.error e, s, g, []⟩
  | (.ok taken, g) =>
    let (s, actions) := startProbes ctx { s.reset with state := .probing } taken
    ⟨.ok .started, s, g, actions⟩

/-- The install method of a step, looked up with staging methods included. -/
def methodOf (ctx : EnterContext) (c : Component) (n : Nat) : Option InstallMethod :=
  (ctx.resources.methods ctx.host.dist c true none).find? n

/-- The command of an install step, if the distribution has one. -/
def installCommand (ctx : EnterContext) (c : Component) (n : Nat) : Option RemoteCommand :=
  (methodOf ctx c n).bind fun method =>
    InstallCommand.render ctx.resources ctx.host c method ⟨ctx.credentials, ctx.stackPassword⟩

/-- Whether an install has to wait for the credentials of its vendor repository. -/
def lacksCredentials (ctx : EnterContext) (c : Component) (n : Nat) : Bool :=
  (methodOf ctx c n).any (·.usesVendorRepository) && ctx.credentials.isNone

def enterInstall (ctx : EnterContext) (g : Guards) (s : Step) (c : Component) (n : Nat) :
    Entered :=
  if lacksCredentials ctx c n then
    ⟨.ok .awaitingCredentials, { s.reset with state := .installMethodChosen }, g, []⟩
  else
    match installCommand ctx c n with
    | none =>
      let reason := c.label ++ " install method " ++ toString n ++
        " is unsupported on this distribution"
      ⟨.ok .completed, s.reset.fail (.plain reason), g, []⟩
    | some command =>
      match g.acquire ctx.host.id c with
      | .error e => ⟨.error e, s, g, []⟩
      | .ok g =>
        let work := Work.startCommand ctx.host.target (some command) ctx.timeouts.install
        let (s, action) := { s.reset with state := .installing }.start (.install c) work
          [⟨ctx.host.id, c⟩]
        ⟨.ok .started, s, g, [action]⟩

/-- Enters a step. A step that was canceled or that still waits for results is not entered, nor is
one that works on a component another action works on. -/
def enter (ctx : EnterContext) (g : Guards) (s : Step) : Entered :=
  if s.canceled then ⟨.error (.stepCanceled s.id), s, g, []⟩
  else if s.hasPending then ⟨.error (.actionOutstanding s.id), s, g, []⟩
  else
    match s.kind with
    | .connect => enterConnect ctx g s
    | .probe scope => enterProbe ctx g s scope
    | .install c n => enterInstall ctx g s c n
    | .confirm =>
      ⟨.ok .completed, { s.reset with state := .finished, completed := true }, g, []⟩

end Step

end ClusterSetup

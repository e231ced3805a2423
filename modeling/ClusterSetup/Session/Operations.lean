import ClusterSetup.Session

namespace ClusterSetup.Desk

abbrev Operation (α : Type) := Desk → Except Refusal α × Desk

/-- Goes on with an operation if the session is neither canceled nor finished. -/
def whenActive {α : Type} (operation : Operation α) : Operation α := fun d =>
  match d.session.checkActive with
  | .error e => (.error e, d)
  | .ok () => operation d

/-- Enters a step with the session's context, and takes charge of the actions it starts. -/
def enterStep (id : StepId) : Operation EnterOutcome := fun d =>
  match d.session.steps[id]? with
  | none => (.error (.unknownStep id), d)
  | some step =>
    let entered := step.enter d.session.enterContext d.guards
    let s := d.session.setStep id entered.step
    match entered.result with
    | .error e => (.error e, ⟨s, entered.guards⟩)
    | .ok outcome =>
      let s := { s with
        running := s.running ++ entered.started
        calls := s.calls ++ entered.firstCalls
        inFlight := s.inFlight + entered.step.pending.length }
      (.ok outcome, ⟨s.log [.stepStarted id entered.step.kind], entered.guards⟩)

def enterCurrent : Operation EnterOutcome := fun d =>
  let id := d.session.current
  match enterStep id d with
  | (.ok .completed, d) => (.ok .completed, { d with session := d.session.closeStep id })
  | answer => answer

def enter : Operation EnterOutcome := whenActive enterCurrent

def next : Operation StepId := whenActive fun d =>
  let s := d.session
  match s.currentStep.next? with
  | .error e => (.error e, d)
  | .ok none => (.error (.noNextStep s.current), d)
  | .ok (some id) =>
    let s := s.setStep s.current s.currentStep.proceed
    (.ok id, { d with session := { s with current := id } })

/-- Goes back to the step from which the current one was reached. -/
def previous : Operation (Option StepId) := whenActive fun d =>
  let step := d.session.currentStep
  if step.hasPending then (.error (.actionOutstanding step.id), d)
  else
    match step.previous with
    | none => (.ok none, d)
    | some id => (.ok (some id), { d with session := { d.session with current := id } })

/-- Chooses an install on the current step, moves to the step for it and enters that. What a
refusal leaves behind is for the caller to undo. -/
def startInstall (c : Component) (method : Nat) : Operation StepId := fun d =>
  let s := d.session
  let choice := s.methods c
  if choice.isEmpty then (.error (.noInstallMethod c), d)
  else
    match choice.find? method with
    | none => (.error (.methodUnavailable c method), d)
    | some _ =>
      match s.currentStep.chooseInstall c method with
      | .error e => (.error e, d)
      | .ok step =>
        let s := (s.setStep s.current step).linkNext s.current
        match next { d with session := s } with
        | (.error e, d) => (.error e, d)
        | (.ok install, d) =>
          match enter d with
          | (.error e, d) => (.error e, d)
          | (.ok _, d) => (.ok install, d)

/-- Chooses an install that the current probe step offers, and starts it. On a refusal the steps
are put back as they were. -/
def chooseInstall (c : Component) (method : Nat) : Operation StepId := whenActive fun d =>
  let s := d.session
  match startInstall c method d with
  | (.ok install, d) => (.ok install, d)
  | (.error e, d') =>
    let steps := (d'.session.steps.take s.steps.length).set s.current s.currentStep
    (.error e, { d' with session := { d'.session with steps := steps, current := s.current } })

def awaitsCredentials (s : Session) : Bool :=
  let step := s.currentStep
  (match step.kind with
    | .install _ _ => true
    | _ => false) &&
  step.entered && !step.hasPending && step.state == .installMethodChosen

/-- Provides credentials for vendor repositories, and starts an install that waits for them. -/
def setCredentials (credentials : VendorCredentials) : Operation (Option EnterOutcome) := fun d =>
  let d := { d with session := { d.session with credentials := some credentials } }
  if awaitsCredentials d.session && !d.session.canceled then
    match enter d with
    | (.ok outcome, d) => (.ok (some outcome), d)
    | (.error e, d) => (.error e, d)
  else (.ok none, d)

def retry : Operation EnterOutcome := whenActive fun d =>
  let step := d.session.currentStep
  if step.hasPending then (.error (.actionOutstanding step.id), d)
  else if step.canRetry then enter d
  else (.error (.notRetryable step.id), d)

/-- Puts the host into a cluster for the length of the session, and tells whether it was not in
it before. A session holds one cluster at most. -/
def join (cluster : Cluster) : Operation Bool := whenActive fun d =>
  let s := d.session
  let other := match s.cluster with
    | some held => if held.name = cluster.name then none else some held.name
    | none => none
  match other with
  | some name => (.error (.membership ⟨s.host.id, name⟩), d)
  | none =>
    match cluster.addHost s.host with
    | .error e => (.error (.membership e), d)
    | .ok (added, cluster, host) =>
      (.ok added, { d with session :=
        { s with host := host, cluster := some cluster, joined := s.joined || added } })

/-- Cancels the session, unless it is over. Results that are still to come will be discarded, and
a cluster that the host joined during the session is left again. -/
def cancel (d : Desk) : Desk :=
  let s := d.session
  if s.canceled || s.finished then d
  else
    let steps := s.steps.map fun step =>
      if step.hasPending || step.id == s.current then step.cancel else step
    let s := { s with canceled := true, steps := steps }
    let s :=
      if s.joined then
        match s.cluster with
        | some cluster =>
          let (_, cluster, host) := cluster.removeHost s.host
          { s with joined := false, cluster := some cluster, host := host }
        | none => { s with joined := false }
      else s
    { d with session := s.log [.canceled] }

end ClusterSetup.Desk

import ClusterSetup.Policy
import ClusterSetup.Step
import ClusterSetup.Version.Order

namespace ClusterSetup

structure Findings where
  host : Host
  flags : Flags
  deriving Repr, DecidableEq

namespace Probe

/-- A version that is older than the latest one can be upgraded. -/
def versionState (version : String) (latest : Option String) : StepState :=
  match latest with
  | some latest => if Version.isOlder version latest then .upgradeAvailable else .upToDate
  | none => .upToDate

def latestFor (t : Resources) (info : DistInfo) (c : Component) : Option String :=
  t.resolveFor info (ResourceKey.latest c)

/-- The versions that a probe output reports; a blank one reports none. -/
def installedIn (output : String) : InstalledVersions :=
  if Text.isBlank output then {} else Version.installed output

def present (t : Resources) (info : DistInfo) (c : Component) (label compared shown : String) :
    ComponentStatus :=
  let latest := latestFor t info c
  { component := c
    label := label
    state := versionState compared latest
    shown := some shown
    latest := latest }

def storageStatus (t : Resources) (info : DistInfo) (found : InstalledVersions) :
    ComponentStatus :=
  match found.drbd with
  | none => .missing .drbd
  | some version => present t info .drbd Component.drbd.label version version

/-- The status of the Heartbeat stack. It is shown together with Pacemaker where that has another
version. -/
def heartbeatStatus (t : Resources) (info : DistInfo) (found : InstalledVersions) :
    ComponentStatus :=
  match found.heartbeat with
  | none => .missing .heartbeat
  | some version =>
    let reading := Version.readHeartbeat version info.version
    let alone := present t info .heartbeat "Heartbeat" reading.compared reading.shown
    match found.pacemaker with
    | none => alone
    | some pacemaker =>
      if pacemaker = reading.compared then alone
      else present t info .heartbeat Component.heartbeat.label reading.compared
        (pacemaker ++ "/" ++ reading.shown)

/-- The messaging layer below Pacemaker, Corosync rather than OpenAIS, with the label of the
stack. -/
def messagingLayer (found : InstalledVersions) : Option (String × String) :=
  (found.corosync.map fun v => ("Pcmk/Corosync", v)) <|>
    (found.openais.map fun v => ("Pcmk/AIS", v))

/-- The status of the Corosync or OpenAIS stack, which needs Pacemaker and a messaging layer. -/
def corosyncStatus (t : Resources) (info : DistInfo) (found : InstalledVersions) :
    ComponentStatus :=
  match found.pacemaker, messagingLayer found with
  | some pacemaker, some (label, messaging) =>
    present t info .corosync label pacemaker (pacemaker ++ "/" ++ messaging)
  | _, _ => .missing .corosync

def applyStorage (t : Resources) (output : String) (f : Findings) :
    List ComponentStatus × Findings :=
  let found := installedIn output
  let status := storageStatus t f.host.dist found
  ([status],
    { host := { f.host with
        versions := { f.host.versions with
          drbd := found.drbd
          drbdUtils := found.drbdUtils } }
      flags := f.flags.set .drbd found.drbd.isSome })

def applyStack (t : Resources) (output : String) (f : Findings) :
    List ComponentStatus × Findings :=
  let found := installedIn output
  let heartbeat := heartbeatStatus t f.host.dist found
  let corosync := corosyncStatus t f.host.dist found
  ([heartbeat, corosync],
    { host := { f.host with
        versions := { f.host.versions with
          heartbeat := found.heartbeat
          pacemaker := found.pacemaker
          corosync := found.corosync
          openais := found.openais } }
      flags := (f.flags.set .heartbeat heartbeat.isPresent).set .corosync corosync.isPresent })

def apply (t : Resources) (target : ProbeTarget) (output : String) (f : Findings) :
    List ComponentStatus × Findings :=
  match target with
  | .storage => applyStorage t output f
  | .clusterStack => applyStack t output f

/-- The output that counts as the answer of a probe. A probe that failed found nothing. -/
def answer : Outcome → String
  | .exited output => if output.success then output.output else ""
  | _ => ""

/-- How a probe step ends. -/
structure Verdict where
  state : StepState
  policyFailure : Option String
  next : Option StepKind
  deriving Repr, DecidableEq

/-- Whether everything that a scope looks at is installed. -/
def scopeOk (scope : ProbeScope) (flags : Flags) : Bool :=
  match scope with
  | .all => flags.success
  | .storage => flags.drbd
  | .clusterStack => flags.clusterOk

def missingNames (scope : ProbeScope) (flags : Flags) : List String :=
  (if !flags.drbd && scope != .clusterStack then [Component.drbd.label] else []) ++
  (if !flags.clusterOk && scope != .storage then
    [Component.heartbeat.label ++ " or " ++ Component.corosync.label] else [])

/-- The step after a probe that found everything its scope looks at. -/
def following (scope : ProbeScope) (flags : Flags) : Option StepKind :=
  if flags.success then some .confirm
  else
    match scope with
    | .storage => some (.probe .clusterStack)
    | .clusterStack => some (.probe .storage)
    | .all => none

def verdict (scope : ProbeScope) (statuses : List ComponentStatus) (flags : Flags) : Verdict :=
  if scopeOk scope flags then
    { state := if statuses.any (·.state == .upgradeAvailable) then .upgradeAvailable
        else .upToDate
      policyFailure := none
      next := following scope flags }
  else
    { state := .needsInstall
      policyFailure := some ("not installed: " ++ Text.join ", " (missingNames scope flags))
      next := none }

end Probe

end ClusterSetup

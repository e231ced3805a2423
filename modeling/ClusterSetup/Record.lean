import ClusterSetup.Json
import ClusterSetup.Session.Report

namespace ClusterSetup

open Json

def DistInfo.record (d : DistInfo) : Json :=
  obj [("dist", text? d.dist), ("version", text? d.version), ("arch", text? d.arch),
    ("kernel", text? d.kernel)]

def InstalledVersions.record (v : InstalledVersions) : Json :=
  obj [("drbd", text? v.drbd), ("drbd_utils", text? v.drbdUtils),
    ("heartbeat", text? v.heartbeat), ("pacemaker", text? v.pacemaker),
    ("corosync", text? v.corosync), ("openais", text? v.openais)]

/-- A table with a field for each component that has an entry. -/
def PerComponent.record {α : Type} (write : α → Json) (t : PerComponent (Option α)) : Json :=
  obj (t.entries.map fun entry => (entry.1.tag, write entry.2))

def Flags.record (f : Flags) : Json :=
  obj [("drbd_ok", .bool f.drbd), ("hb_pm_ok", .bool f.heartbeat), ("pm_ok", .bool f.corosync)]

/-- Of the time of the last probe only its presence is recorded. -/
def Host.record (h : Host) : Json :=
  obj [("id", nat h.id.val), ("name", str h.name), ("addresses", arr (h.addresses.map str)),
    ("user", str h.user), ("port", nat h.port), ("dist", h.dist.record),
    ("versions", h.versions.record), ("install_methods", h.installMethods.record nat),
    ("connectivity", str h.connectivity.tag), ("cluster", text? h.cluster),
    ("last_probe", .bool h.probed)]

def StepKind.record : StepKind → Json
  | connect => obj [("step", str "connect")]
  | probe scope => obj [("step", str "probe"), ("scope", str scope.tag)]
  | install c method =>
    obj [("step", str "install"), ("component", str c.tag), ("method", nat method)]
  | confirm => obj [("step", str "confirm")]

def ComponentStatus.record (s : ComponentStatus) : Json :=
  obj [("component", str s.component.tag), ("label", str s.label), ("state", str s.state.tag),
    ("display", text? s.shown), ("latest", text? s.latest)]

def ActionFailure.record (f : ActionFailure) : Json :=
  obj [("reason", str f.reason), ("output", str f.output),
    ("exit_code", ofOption num f.exitCode)]

def Event.record : Event → Json
  | stepStarted step kind =>
    obj [("event", str "step-started"), ("step", nat step), ("kind", kind.record)]
  | stepCompleted step state =>
    obj [("event", str "step-completed"), ("step", nat step), ("state", str state.tag)]
  | stepFailed step reason =>
    obj [("event", str "step-failed"), ("step", nat step), ("reason", str reason)]
  | logLine step line =>
    obj [("event", str "log-line"), ("step", nat step), ("line", str line)]
  | finished success => obj [("event", str "finished"), ("success", .bool success)]
  | canceled => obj [("event", str "canceled")]

def StepSummary.record (s : StepSummary) : Json :=
  obj [("id", nat s.id), ("kind", s.kind.record), ("state", str s.state.tag),
    ("components", arr (s.components.map (·.record))),
    ("failure", ofOption ActionFailure.record s.failure),
    ("policy_failure", text? s.policyFailure)]

/-- The cluster of the host is not part of the record. -/
def SessionReport.record (r : SessionReport) : Json :=
  obj [("outcome", str r.outcome.tag), ("flags", r.flags.record), ("host", r.host.record),
    ("steps", arr (r.steps.map (·.record)))]

end ClusterSetup

import ClusterSetup.CommandLine.Arguments
import ClusterSetup.Config.File
import ClusterSetup.Environment
import ClusterSetup.Record
import ClusterSetup.Resource.Builtin
import ClusterSetup.Ssh.Client
import ClusterSetup.Summary

namespace ClusterSetup.CommandLine

structure Surroundings where
  env : Environment
  file : String → FileState
  hasProgram : String → Bool

/-- What the program prints. -/
inductive Output where
  | text (text : String)
  | record (record : Json)

def Output.shown : Output → String
  | .text printed => printed
  | .record told => told.pretty 0 ++ "\n"

structure Exit where
  code : Nat
  output : Output := .text ""
  /-- What is told apart from the output. -/
  complaint : Option String := none
  /-- The arguments with which the ssh client was run. -/
  clientRuns : List (List String) := []
  /-- Whether a run of the client has not ended, or a lookup. -/
  unanswered : Bool := false

namespace Exit

def failure (reason : String) : Exit := { code := 1, complaint := some reason }

/-- The exit for arguments that are wrong. -/
def usage (text : String) : Exit := { code := 2, complaint := some text }

def printing (text : String) : Exit := { code := 0, output := .text (text ++ "\n") }

def telling (record : Json) : Exit := { code := 0, output := .record record }

end Exit

def versionLine : String := "hainst 0.1.0"

def helpText : String :=
  "Usage: hainst [OPTIONS] <COMMAND>\n\nCommands: check, install, methods"

def buildHost (o : Options) (address : String) (name : Option String) : Host :=
  { Host.new ⟨1⟩ (name.getD address) address with
    user := o.user
    port := o.port
    dist := { dist := o.dist, version := o.distVersion, arch := o.arch } }

/-- A check goes on by itself but installs nothing. An install installs everything that is missing
if it was told so, else what the configuration says. -/
def policyFor (o : Options) (config : Config) (install : Bool) : Policy :=
  if !install then { Policy.manual with autoNext := true }
  else if o.yes then { Policy.unattended with delay := .ofMillis config.automation.delay }
  else { Policy.ofConfig config.automation with autoNext := true }

def vendorCredentials (s : Surroundings) : Option VendorCredentials :=
  (s.env.get? "HAINST_VENDOR_USER").map fun user =>
    ⟨user, (s.env.get? "HAINST_VENDOR_PASSWORD").getD ""⟩

/-- The cluster that the host joins for the length of the session. -/
def clusterFor (s : Surroundings) (name : String) : Cluster :=
  { name := name
    stackPassword := (s.env.get? "HAINST_CLUSTER_PASSWORD").getD defaultStackPassword }

def exitCode : SessionOutcome → Nat
  | .succeeded => 0
  | .incomplete => 2
  | .canceled => 130

/-- What is printed about a session: the events and the summary, or the report alone. -/
def sessionOutput (json : Bool) (s : Session) : Output :=
  if json then .record s.report.record
  else
    .text (String.join ((s.events.map fun e => e.line ++ "\n") ++ [s.report.summary ++ "\n"]))

def startSession (s : Surroundings) (o : Options) (config : Config) (host : Host)
    (install : Bool) : Session :=
  .new host .builtin (policyFor o config install) config.sessionOptions (vendorCredentials s)

/-- What is told when a session stops for want of credentials. -/
def credentialsMissing : String :=
  "the chosen install method needs vendor credentials; set HAINST_VENDOR_USER and " ++
    "HAINST_VENDOR_PASSWORD"

/-- What is told about the end of a run. -/
def complaintAbout : RunEnd → Option String
  | .stopped (.needsCredentials _) => some credentialsMissing
  | .stopped (.refused reason) => some reason.message
  | _ => none

def runSession {σ : Type} (client : Ssh.Client σ) (resolver : Ssh.Resolver σ) (memory : σ)
    (s : Surroundings) (o : Options) (config : Config) (host : Host) (install : Bool) : Exit × σ :=
  if !s.hasProgram config.ssh.binary then
    (.failure (Ssh.missingMessage config.ssh.binary), memory)
  else
    let d : Desk := ⟨startSession s o config host install, .empty⟩
    let joined := match o.cluster with
      | none => (Except.ok true, d)
      | some name => Desk.join (clusterFor s name) d
    match joined with
    | (.error e, _) => (.failure e.message, memory)
    | (.ok _, d) =>
      let (ending, _, memory, d) := d.run (client.remote resolver config.ssh) memory
      ({ code := exitCode d.session.outcome
         output := sessionOutput o.json d.session
         complaint := complaintAbout ending
         clientRuns := Ssh.startedRuns config.ssh d.session.calls
         unanswered := decide (ending = .silent) }, memory)

def methodsRecord (c : Component) (choice : MethodChoice) : Json :=
  .obj [("component", .str c.tag),
    ("default", .ofOption Json.nat (choice.default?.map (·.index))),
    ("methods", .arr (choice.methods.map fun m =>
      .obj [("index", .nat m.index), ("kind", .str m.kind.tag), ("label", .str m.label),
        ("staging", .bool m.staging)]))]

def listedMethods (o : Options) (config : Config) (release : Option String) (dist : String)
    (c : Component) : MethodChoice :=
  let info : DistInfo := { dist := some dist, version := release <|> o.distVersion, arch := o.arch }
  Resources.builtin.methods info c (config.staging.enabledFor c)
    (config.remembered.toTable.get c)

def listMethods (o : Options) (config : Config) (release : Option String) (c : Component) : Exit :=
  match o.dist with
  | none => .failure "--dist is required to list install methods"
  | some dist =>
    let choice := listedMethods o config release dist c
    if o.json then .telling (methodsRecord c choice) else .printing (choice.listing c)

/-- The path of the configuration file that the arguments name, or else of that of the user. -/
def configPath? (env : Environment) (args : List String) : Option String :=
  match request? args with
  | some (.run o _) =>
    o.config <|> (ConfigFile.path (env.get? "XDG_CONFIG_HOME") (env.get? "HOME")).toOption
  | _ => none

/-- The configuration that the options name, with staging switched on if they say so. -/
def loadConfig (decode : ConfigDecoder) (s : Surroundings) (o : Options) :
    Except ConfigError Config :=
  let loaded := match o.config with
    | some path => ConfigFile.load decode (s.file path)
    | none =>
      ConfigFile.loadDefault decode (s.env.get? "XDG_CONFIG_HOME") (s.env.get? "HOME") s.file
  loaded.map fun config =>
    if o.staging then { config with staging := { drbd := true, pacemaker := true } } else config

/-- The name of the ssh client that a request would run. -/
def clientName? (decode : ConfigDecoder) (s : Surroundings) (args : List String) : Option String :=
  match request? args with
  | some (.run o _) => (loadConfig decode s o).toOption.map (·.ssh.binary)
  | _ => none

def run {σ : Type} (client : Ssh.Client σ) (resolver : Ssh.Resolver σ) (decode : ConfigDecoder)
    (memory : σ) (s : Surroundings) (args : List String) : Exit × σ :=
  match request? args with
  | none => (.usage helpText, memory)
  | some .showVersion => (.printing versionLine, memory)
  | some .showHelp => (.printing helpText, memory)
  | some (.run o command) =>
    match loadConfig decode s o with
    | .error e => (.failure e.message, memory)
    | .ok config =>
      match command with
      | .methods release c => (listMethods o config release c, memory)
      | .check address name =>
        runSession client resolver memory s o config (buildHost o address name) false
      | .install address name =>
        runSession client resolver memory s o config (buildHost o address name) true

end ClusterSetup.CommandLine

import ClusterSetup.Config
import ClusterSetup.Toml.Document

/-!
Reading a configuration from a text. What decodes the text is a parameter; `Config.decode` decodes
TOML documents. A table may also be written as an array with the fields in their order. Missing
fields have their defaults, unknown keys are passed over, and a value of the wrong type is an error.
-/

namespace ClusterSetup

inductive ConfigError where
  | readFailed (reason : String)
  | parseFailed (reason : String)
  | missingHome
  deriving Repr, DecidableEq

namespace ConfigError

def message : ConfigError → String
  | readFailed reason => "failed to read config file: " ++ reason
  | parseFailed reason => "failed to parse config: " ++ reason
  | missingHome => "missing $HOME, unable to resolve config directory"

end ConfigError

namespace Toml

/-- The fields of a table by place and by name. -/
abbrev Fields := Nat → String → Option Value

/-- The fields of a value that can stand for a table. A date or time counts as a table without
known keys. -/
def Value.fields? : Value → Option Fields
  | .table _ entries => some fun _ name => Entries.get? entries name
  | .array items => some fun place _ => items[place]?
  | .tables items => some fun place _ => items[place]?
  | .moment => some fun _ _ => none
  | _ => none

def Value.text? : Value → Option String
  | .string text => some text
  | _ => none

def Value.bool? : Value → Option Bool
  | .boolean b => some b
  | _ => none

def Value.nat? : Value → Option Nat
  | .integer n => if 0 ≤ n then some n.toNat else none
  | _ => none

def Fields.get {α : Type} (fields : Fields) (place : Nat) (name : String)
    (read : Value → Option α) (default : α) : Option α :=
  match fields place name with
  | some v => read v
  | none => some default

/-- The value of a field that may be missing. -/
def Fields.get? {α : Type} (fields : Fields) (place : Nat) (name : String)
    (read : Value → Option α) : Option (Option α) :=
  fields.get place name (fun v => (read v).map some) none

end Toml

namespace Config

def readGeneral (v : Toml.Value) : Option GeneralConfig := do
  let fields ← v.fields?
  let logLevel ← fields.get? 0 "log_level" Toml.Value.text?
  some { logLevel }

def readStaging (v : Toml.Value) : Option StagingConfig := do
  let fields ← v.fields?
  let drbd ← fields.get 0 "drbd" Toml.Value.bool? false
  let pacemaker ← fields.get 1 "pacemaker" Toml.Value.bool? false
  some { drbd, pacemaker }

def readTimeouts (v : Toml.Value) : Option TimeoutConfig := do
  let fields ← v.fields?
  let defaults : TimeoutConfig := {}
  let command ← fields.get 0 "command_ms" Toml.Value.nat? defaults.command
  let install ← fields.get 1 "install_ms" Toml.Value.nat? defaults.install
  let connect ← fields.get 2 "connect_ms" Toml.Value.nat? defaults.connect
  some { command, install, connect }

def readAutomation (v : Toml.Value) : Option AutomationConfig := do
  let fields ← v.fields?
  let defaults : AutomationConfig := {}
  let autoNext ← fields.get 0 "auto_next" Toml.Value.bool? defaults.autoNext
  let drbdInstall ← fields.get 1 "drbd_install" Toml.Value.bool? defaults.drbdInstall
  let heartbeatInstall ←
    fields.get 2 "heartbeat_install" Toml.Value.bool? defaults.heartbeatInstall
  let pacemakerInstall ←
    fields.get 3 "pacemaker_install" Toml.Value.bool? defaults.pacemakerInstall
  let delay ← fields.get 4 "delay_ms" Toml.Value.nat? defaults.delay
  some { autoNext, drbdInstall, heartbeatInstall, pacemakerInstall, delay }

def readRemembered (v : Toml.Value) : Option RememberedConfig := do
  let fields ← v.fields?
  let drbd ← fields.get? 0 "drbd" Toml.Value.nat?
  let heartbeat ← fields.get? 1 "heartbeat" Toml.Value.nat?
  let pacemaker ← fields.get? 2 "pacemaker" Toml.Value.nat?
  some { drbd, heartbeat, pacemaker }

def readSsh (v : Toml.Value) : Option SshConfig := do
  let fields ← v.fields?
  let defaults : SshConfig := {}
  let binary ← fields.get 0 "binary" Toml.Value.text? defaults.binary
  let connectTimeout ← fields.get 1 "connect_timeout_s" Toml.Value.nat? defaults.connectTimeout
  let batchMode ← fields.get 2 "batch_mode" Toml.Value.bool? defaults.batchMode
  some { binary, connectTimeout, batchMode }

def ofEntries? (entries : Toml.Entries) : Option Config := do
  let fields : Toml.Fields := fun _ name => Toml.Entries.get? entries name
  let general ← fields.get 0 "general" readGeneral {}
  let staging ← fields.get 1 "staging" readStaging {}
  let timeouts ← fields.get 2 "timeouts" readTimeouts {}
  let automation ← fields.get 3 "automation" readAutomation {}
  let remembered ← fields.get 4 "remembered" readRemembered {}
  let ssh ← fields.get 5 "ssh" readSsh {}
  some { general, staging, timeouts, automation, remembered, ssh }

end Config

/-- What makes a configuration of a text, or says why there is none. -/
abbrev ConfigDecoder := String → Except String Config

/-- The empty text stands for a document without entries. -/
def ConfigDecoder.ReadsEmpty (decode : ConfigDecoder) : Prop :=
  (decode "").toOption = Config.ofEntries? []

namespace Config

/-- Reads a configuration and replaces the values that cannot work. -/
def ofToml (decode : ConfigDecoder) (text : String) : Except ConfigError Config :=
  match decode text with
  | .ok config => .ok config.normalize
  | .error reason => .error (.parseFailed reason)

def decode : ConfigDecoder := fun text =>
  match Toml.read text with
  | none => .error "not a TOML document"
  | some entries =>
    match ofEntries? entries with
    | none => .error "a value of the wrong type"
    | some config => .ok config

end Config

end ClusterSetup

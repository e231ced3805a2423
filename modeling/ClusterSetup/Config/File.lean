import ClusterSetup.Config.Read
import ClusterSetup.Path
import ClusterSetup.Text.Utf8

namespace ClusterSetup

inductive FileState where
  | absent
  | directory
  | unreadable (reason : String)
  | content (bytes : List UInt8)
  deriving Repr, DecidableEq

namespace ConfigFile

/-- The directory of the configuration file: below the configuration directory of the user if the
environment names one, else below the home directory. -/
def directory (configHome home : Option String) : Except ConfigError String :=
  match configHome, home with
  | some base, _ => .ok (Path.under base "hainst")
  | none, some home => .ok (Path.under (Path.under home ".config") "hainst")
  | none, none => .error .missingHome

def path (configHome home : Option String) : Except ConfigError String :=
  (directory configHome home).map fun dir => Path.under dir "config.toml"

def load (decode : ConfigDecoder) : FileState → Except ConfigError Config
  | .absent => .error (.readFailed "No such file or directory (os error 2)")
  | .directory => .error (.readFailed "Is a directory (os error 21)")
  | .unreadable reason => .error (.readFailed reason)
  | .content bytes =>
    match Utf8.decode? bytes with
    | some text => Config.ofToml decode text
    | none => .error (.readFailed "stream did not contain valid UTF-8")

/-- Reads the configuration file of the user. Without a file all values are the defaults. -/
def loadDefault (decode : ConfigDecoder) (configHome home : Option String)
    (file : String → FileState) : Except ConfigError Config :=
  match path configHome home with
  | .error e => .error e
  | .ok path =>
    match file path with
    | .absent => .ok .default
    | found => load decode found

end ConfigFile

end ClusterSetup

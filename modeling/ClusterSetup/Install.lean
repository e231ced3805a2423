import ClusterSetup.Cluster
import ClusterSetup.Method
import ClusterSetup.Transport

namespace ClusterSetup

structure VendorCredentials where
  user : String
  password : String
  deriving Repr, DecidableEq

namespace VendorCredentials

/-- The credentials as they are written to a log, without the password. -/
def describe (c : VendorCredentials) : String :=
  "VendorCredentials \x7b user: " ++ Text.quoted c.user ++ ", password: \"<redacted>\" \x7d"

end VendorCredentials

structure InstallSecrets where
  vendor : Option VendorCredentials := none
  stackPassword : Option String := none
  deriving Repr, DecidableEq

namespace InstallCommand

/-- The architecture as the packages of a component name it: the name among the resources, else the
one of the host, with `i386` for `i686`. -/
def archName (t : Resources) (host : Host) (c : Component) : String :=
  match host.dist.arch with
  | none => ""
  | some arch =>
    Text.replaceAll "i686" "i386"
      ((t.resolveFor host.dist (ResourceKey.archName c arch)).getD arch)

/-- The placeholders of a template with their values, in the order in which they are filled in. -/
def placeholders (t : Resources) (host : Host) (c : Component) (secrets : InstallSecrets) :
    List (String × String) := [
  ("@ARCH@", archName t host c),
  ("@DISTVERSION@", host.dist.version.getD ""),
  ("@KERNELVERSION@", host.dist.kernel.getD ""),
  ("@USER@", (secrets.vendor.map (·.user)).getD ""),
  ("@PASSWORD@", (secrets.vendor.map (·.password)).getD ""),
  ("@HBPASSWD@", secrets.stackPassword.getD defaultStackPassword)]

def fill (values : List (String × String)) (template : String) : String :=
  values.foldl (fun text value => Text.replaceAll value.1 value.2 text) template

def render (t : Resources) (host : Host) (c : Component) (method : InstallMethod)
    (secrets : InstallSecrets) : Option RemoteCommand :=
  let key := method.commandKey c
  (t.resolveFor host.dist key).map fun template =>
    ⟨key, fill (placeholders t host c secrets) template⟩

end InstallCommand

end ClusterSetup

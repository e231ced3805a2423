import ClusterSetup.Resource
import ClusterSetup.Text

namespace ClusterSetup

inductive MethodKind where
  | packageManager
  | vendorRepository
  | source
  deriving Repr, DecidableEq

namespace MethodKind

/-- The kind that a tag among the resources names; without a known tag it is the package
manager. -/
def ofTag (tag : Option String) : MethodKind :=
  match tag.map Text.trim with
  | none => packageManager
  | some word =>
    if word = "source" then source
    else if word = "linbit" ∨ word = "vendor-repository" then vendorRepository
    else packageManager

def tag : MethodKind → String
  | packageManager => "package-manager"
  | vendorRepository => "vendor-repository"
  | source => "source"

end MethodKind

structure InstallMethod where
  index : Nat
  label : String
  kind : MethodKind
  staging : Bool
  deriving Repr, DecidableEq

namespace InstallMethod

/-- Vendor repositories ask for credentials. -/
def usesVendorRepository (m : InstallMethod) : Bool := m.kind == .vendorRepository

def buildsFromSource (m : InstallMethod) : Bool := m.kind == .source

def commandKey (m : InstallMethod) (c : Component) : String :=
  ResourceKey.methodCommand c m.index

end InstallMethod

/-- The methods that are offered, with the place of the one taken by default. -/
structure MethodChoice where
  methods : List InstallMethod
  defaultPlace : Option Nat
  deriving Repr, DecidableEq

namespace MethodChoice

def default? (choice : MethodChoice) : Option InstallMethod :=
  choice.defaultPlace.bind fun place => choice.methods[place]?

def find? (choice : MethodChoice) (index : Nat) : Option InstallMethod :=
  choice.methods.find? fun m => m.index == index

def isEmpty (choice : MethodChoice) : Bool := choice.methods.isEmpty

end MethodChoice

namespace Resources

/-- The highest number that an install method may have. -/
def maxMethods : Nat := 32

def isStaging (t : Resources) (info : DistInfo) (c : Component) (n : Nat) : Bool :=
  match t.resolveFor info (ResourceKey.methodStaging c n) with
  | some mark => Text.trim mark == "true"
  | none => false

def method? (t : Resources) (info : DistInfo) (c : Component) (n : Nat) :
    Option InstallMethod :=
  (t.resolveFor info (ResourceKey.methodLabel c n)).map fun label =>
    { index := n
      label := label
      kind := .ofTag (t.resolveFor info (ResourceKey.methodTag c n))
      staging := t.isStaging info c n }

/-- The methods from a number on, up to the first number without one. -/
def methodsFrom (t : Resources) (info : DistInfo) (c : Component) :
    Nat → Nat → List InstallMethod
  | _, 0 => []
  | n, count + 1 =>
    match t.method? info c n with
    | none => []
    | some m => m :: methodsFrom t info c (n + 1) count

/-- The methods of a component that are offered for a distribution. Staging methods are offered
only where staging is on; the remembered method is the default if it is offered, else the first
one is. -/
def methods (t : Resources) (info : DistInfo) (c : Component) (staging : Bool)
    (remembered : Option Nat) : MethodChoice :=
  let offered := (t.methodsFrom info c 1 maxMethods).filter fun m => staging || !m.staging
  { methods := offered
    defaultPlace :=
      (remembered.bind fun n => offered.findIdx? fun m => m.index == n) <|>
        (if offered.isEmpty then none else some 0) }

end Resources

end ClusterSetup

import ClusterSetup.Component
import ClusterSetup.Dist

/-!
Resources: texts, above all command templates, that a distribution has under keys. They come from
anywhere; a resource table keeps them in scopes, each of which is a release of a distribution, a
distribution, or the shared default.
-/

namespace ClusterSetup

/-- A source of texts. It may have a text for a distribution and its release under a key. -/
structure Resources where
  resolve : (dist release : Option String) → (key : String) → Option String

/-- The value of a key for a distribution. A key without a value names something that the
distribution does not support. -/
def Resources.resolveFor (t : Resources) (info : DistInfo) (key : String) : Option String :=
  t.resolve info.dist info.version key

structure ResourceEntry where
  scope : String
  key : String
  value : String
  deriving Repr, DecidableEq

/-- The entries of a resource table, the latest first. -/
structure ResourceTable where
  entries : List ResourceEntry := []
  deriving Repr, DecidableEq

namespace ResourceTable

def empty : ResourceTable := {}

def insert (t : ResourceTable) (scope key value : String) : ResourceTable :=
  ⟨⟨scope, key, value⟩ :: t.entries⟩

def lookup (t : ResourceTable) (scope key : String) : Option String :=
  (t.entries.find? fun e => e.scope = scope ∧ e.key = key).map (·.value)

/-- The scopes in which a distribution looks up its keys, the most specific first. -/
def scopes (dist release : Option String) : List String :=
  (match dist, release with
    | some d, some r => [d ++ "_" ++ r, d]
    | some d, none => [d]
    | none, _ => []) ++ [""]

/-- The value of a key in the most specific scope that has it. -/
def resolve (t : ResourceTable) (dist release : Option String) (key : String) : Option String :=
  (scopes dist release).findSome? fun scope => t.lookup scope key

@[simp] theorem lookup_insert (t : ResourceTable) (scope key value s k : String) :
    (t.insert scope key value).lookup s k =
      if scope = s ∧ key = k then some value else t.lookup s k := by
  simp only [lookup, insert, List.find?_cons]
  by_cases h : scope = s ∧ key = k <;> simp [h]

end ResourceTable

def Resources.ofTable (t : ResourceTable) : Resources := ⟨t.resolve⟩

namespace ResourceKey

/-- The command that prints the installed version of the storage module. -/
def storageProbe : String := "DrbdCheck.version"

/-- The command that prints the installed packages of the cluster stacks. -/
def stackProbe : String := "HbCheck.version"

/-- The command that prints the distribution, its release, the architecture and the kernel. -/
def distProbe : String := "DistDetect.info"

def latest (c : Component) : String := c.resourceStem ++ ".latest"

/-- The label of an install method. Methods are numbered from one. -/
def methodLabel (c : Component) (n : Nat) : String :=
  c.resourceStem ++ ".install.text." ++ toString n

/-- The mark of an install method that is offered for staging only. -/
def methodStaging (c : Component) (n : Nat) : String :=
  c.resourceStem ++ ".install.staging." ++ toString n

def methodTag (c : Component) (n : Nat) : String :=
  c.resourceStem ++ ".install.method." ++ toString n

def methodCommand (c : Component) (n : Nat) : String :=
  c.resourceStem ++ ".install." ++ toString n

def archName (c : Component) (arch : String) : String := c.resourceStem ++ ".arch." ++ arch

end ResourceKey

end ClusterSetup

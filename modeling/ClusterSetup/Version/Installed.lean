import ClusterSetup.Text

/-!
The package versions found on a host. A probe prints lines of two kinds, a tag with a version
behind a colon or a bare version; everything else in its output is passed over.
-/

namespace ClusterSetup

/-- The packages whose versions are recorded. -/
inductive Package where
  | drbd
  | drbdUtils
  | heartbeat
  | pacemaker
  | corosync
  | openais
  deriving Repr, DecidableEq

namespace Package

/-- The tags that name a package, in lower case. -/
def tags : Package → List String
  | drbd => ["drbd", "drbd-km", "version"]
  | drbdUtils => ["drbd-utils"]
  | heartbeat => ["hb", "heartbeat"]
  | pacemaker => ["pm", "pacemaker"]
  | corosync => ["cs", "corosync"]
  | openais => ["ais", "openais"]

def all : List Package := [drbd, drbdUtils, heartbeat, pacemaker, corosync, openais]

/-- The package that a tag names; case and surrounding blanks do not matter. -/
def ofTag? (tag : List Char) : Option Package :=
  let word := String.ofList ((Chars.trim tag).map Char.toLower)
  all.find? fun p => p.tags.contains word

end Package

/-- The versions detected on a host, where they are known. -/
structure InstalledVersions where
  drbd : Option String := none
  drbdUtils : Option String := none
  heartbeat : Option String := none
  pacemaker : Option String := none
  corosync : Option String := none
  openais : Option String := none
  deriving Repr, DecidableEq

namespace InstalledVersions

def empty : InstalledVersions := {}

def isEmpty (v : InstalledVersions) : Bool := v == empty

def get (v : InstalledVersions) : Package → Option String
  | .drbd => v.drbd
  | .drbdUtils => v.drbdUtils
  | .heartbeat => v.heartbeat
  | .pacemaker => v.pacemaker
  | .corosync => v.corosync
  | .openais => v.openais

def set (v : InstalledVersions) (p : Package) (version : Option String) : InstalledVersions :=
  match p with
  | .drbd => { v with drbd := version }
  | .drbdUtils => { v with drbdUtils := version }
  | .heartbeat => { v with heartbeat := version }
  | .pacemaker => { v with pacemaker := version }
  | .corosync => { v with corosync := version }
  | .openais => { v with openais := version }

theorem ext_get {v w : InstalledVersions} (h : ∀ p, v.get p = w.get p) : v = w := by
  cases v
  cases w
  congr
  · exact h .drbd
  · exact h .drbdUtils
  · exact h .heartbeat
  · exact h .pacemaker
  · exact h .corosync
  · exact h .openais

@[simp] theorem get_set (v : InstalledVersions) (p q : Package) (version : Option String) :
    (v.set p version).get q = if q = p then version else v.get q := by
  cases p <;> cases q <;> rfl

/-- Records a version unless one is known already. -/
def note (v : InstalledVersions) (p : Package) (version : String) : InstalledVersions :=
  match v.get p with
  | some _ => v
  | none => v.set p (some version)

/-- Forgets the packages of the cluster stacks. -/
def clearClusterStack (v : InstalledVersions) : InstalledVersions :=
  { v with heartbeat := none, pacemaker := none, corosync := none, openais := none }

end InstalledVersions

namespace Version

def isMark (c : Char) : Bool := c = '.' || c = '-' || c = '_' || c = '+' || c = '~'

/-- A version token starts with a digit, contains a dot, and has no characters but ASCII letters,
digits and marks. -/
def isToken (cs : List Char) : Bool :=
  (match cs with
    | [] => false
    | c :: _ => Chars.isDigit c) &&
  cs.contains '.' && cs.all fun c => Chars.isAlphanum c || isMark c

/-- Drops a package epoch, that is digits followed by a colon. -/
def dropEpoch (cs : List Char) : List Char :=
  match Chars.cut? ':' cs with
  | some (epoch, rest) => if !epoch.isEmpty && epoch.all Chars.isDigit then rest else cs
  | none => cs

/-- Reads one line of probe output. With a colon in it the line holds a tag and a value whose
first word, its epoch aside, is the version; without one it is a version of the storage module
that stands alone. -/
def readLine? (line : List Char) : Option (Package × List Char) :=
  let line := Chars.trim line
  match Chars.cut? ':' line with
  | some (tag, value) =>
    match Package.ofTag? tag, Chars.word? value with
    | some package, some (word, _) =>
      let token := dropEpoch word
      if isToken token then some (package, token) else none
    | _, _ => none
  | none => if isToken line then some (.drbd, line) else none

def ofLine? (line : String) : Option (Package × String) :=
  (readLine? line.toList).map fun found => (found.1, String.ofList found.2)

/-- Every version that a probe output reports; of several for one package the first counts. -/
def installed (output : String) : InstalledVersions :=
  ((Text.lines output).filterMap ofLine?).foldl (fun v found => v.note found.1 found.2) {}

end Version

end ClusterSetup

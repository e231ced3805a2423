import ClusterSetup.Component
import ClusterSetup.Text

namespace ClusterSetup.CommandLine

structure Options where
  config : Option String := none
  user : String := "root"
  port : Nat := 22
  dist : Option String := none
  distVersion : Option String := none
  arch : Option String := none
  cluster : Option String := none
  staging : Bool := false
  yes : Bool := false
  json : Bool := false
  deriving Repr, DecidableEq

inductive Command where
  /-- Report what is installed without changing the host. -/
  | check (address : String) (name : Option String)
  /-- Check the host and install what is missing. -/
  | install (address : String) (name : Option String)
  /-- List the install methods of a distribution. -/
  | methods (release : Option String) (component : Component)
  deriving Repr, DecidableEq

inductive Request where
  | run (options : Options) (command : Command)
  | showVersion
  | showHelp
  deriving Repr, DecidableEq

/-- The options that take a value, and those that do not. -/
def valueOptions : List String :=
  ["config", "user", "port", "dist", "dist-version", "arch", "cluster"]

def switches : List String := ["staging", "yes", "json"]

/-- The words for components. -/
def componentWord? (word : String) : Option Component :=
  if word = "drbd" then some .drbd
  else if word = "heartbeat" then some .heartbeat
  else if word = "pacemaker" then some .corosync
  else none

/-- Reads a port number below 65536. A sign may stand in front of it, a minus only of zero. -/
def port? (text : String) : Option Nat :=
  let (limit, digits) := match text.toList with
    | '+' :: r => (65536, r)
    | '-' :: r => (1, r)
    | cs => (65536, cs)
  (Chars.toNat? digits).filter fun n => n < limit

def acceptsValue (name value : String) : Bool :=
  if name = "port" then (port? value).isSome
  else if name = "config" then !value.isEmpty
  else true

/-- What one level of the arguments holds: the options with their values, the switches, and the
words. -/
structure Level where
  values : List (String × String) := []
  switches : List String := []
  words : List String := []
  deriving Repr, DecidableEq

/-- How a level of the arguments was read. -/
inductive Scan where
  /-- The arguments end here. -/
  | ended (level : Level)
  /-- A command follows, with its own arguments. There is no level in front of it if the last
  value there is not acceptable. -/
  | command (level : Option Level) (name : String) (rest : List String)
  | help
  | version
  | wrong

structure Grammar where
  values : List String
  switches : List String
  /-- Whether the first word is a command. -/
  hasCommands : Bool
  /-- Whether the version can be asked for. -/
  hasVersion : Bool
  /-- Which words may stand here if the first one is not a command. -/
  acceptsWord : String → Bool := fun _ => false

namespace Grammar

def main : Grammar :=
  { values := valueOptions, switches := CommandLine.switches, hasCommands := true,
    hasVersion := true }

def ownOptions : List (String × List String) :=
  [("check", ["name"]), ("install", ["name"]), ("methods", ["version"])]

/-- Whether a word can be that of a command: the name of a component behind `methods`, an address
behind the other ones. -/
def takesWord (command word : String) : Bool :=
  command != "methods" || (componentWord? word).isSome

/-- The level behind a command, with the options of its own. -/
def forCommand? (command : String) : Option Grammar :=
  (ownOptions.find? (·.1 == command)).map fun own =>
    { values := valueOptions ++ own.2, switches := CommandLine.switches, hasCommands := false,
      hasVersion := false, acceptsWord := takesWord command }

end Grammar

def isOption (arg : String) : Bool :=
  match arg.toList with
  | '-' :: _ :: _ => true
  | _ => false

/-- Adds a value, unless the option has one already or does not take this one. -/
def Level.addValue? (l : Level) (name value : String) : Option Level :=
  if l.values.any (·.1 == name) || !acceptsValue name value then none
  else some { l with values := l.values ++ [(name, value)] }

/-- Adds a word, of which there can be only one. -/
def Level.addWord? (l : Level) (g : Grammar) (word : String) : Option Level :=
  if l.words.isEmpty && g.acceptsWord word then some { l with words := [word] } else none

/-- Adds a switch, unless it is there already. -/
def Level.addSwitch? (l : Level) (name : String) : Option Level :=
  if l.switches.contains name then none else some { l with switches := l.switches ++ [name] }

/-- What follows when the last value of a level is not acceptable. If a command comes next, the
value is looked at only behind the arguments of the command, so that help about the command can
still be asked for. -/
def afterBadValue (g : Grammar) : List String → Scan
  | word :: rest => if g.hasCommands && !isOption word then .command none word rest else .wrong
  | [] => .wrong

/-- Reads the arguments of a level. Each one has to be right when it is read: help that is asked
for behind a mistake is not given. -/
def scan (g : Grammar) : Level → List String → Scan
  | l, [] => .ended l
  | l, arg :: rest =>
    match arg.toList with
    | ['-', '-'] =>
      if g.hasCommands && !rest.isEmpty then .wrong
      else .ended { l with words := l.words ++ rest }
    | '-' :: '-' :: long =>
      match Chars.cut? '=' long with
      | some (name, value) =>
        if g.values.contains (String.ofList name) then
          match l.addValue? (String.ofList name) (String.ofList value) with
          | some l => scan g l rest
          | none => .wrong
        else .wrong
      | none =>
        let name := String.ofList long
        if g.values.contains name then
          match rest with
          | value :: rest =>
            if isOption value then .wrong
            else
              match l.addValue? name value with
              | some l => scan g l rest
              | none => afterBadValue g rest
          | [] => .wrong
        else if g.switches.contains name then
          match l.addSwitch? name with
          | some l => scan g l rest
          | none => .wrong
        else if name = "help" then .help
        else if name = "version" && g.hasVersion then .version
        else .wrong
    | '-' :: short :: _ =>
      if short = 'h' then .help
      else if short = 'V' && g.hasVersion then .version
      else .wrong
    | _ =>
      if g.hasCommands then .command (some l) arg rest
      else
        match l.addWord? g arg with
        | some l => scan g l rest
        | none => .wrong

def valueOf (outer inner : Level) (name : String) : Option String :=
  ((inner.values ++ outer.values).find? (·.1 == name)).map (·.2)

def isSet (outer inner : Level) (name : String) : Bool :=
  inner.switches.contains name || outer.switches.contains name

/-- The options that two levels give together. -/
def options (outer inner : Level) : Options where
  config := valueOf outer inner "config"
  user := (valueOf outer inner "user").getD "root"
  port := ((valueOf outer inner "port").bind port?).getD 22
  dist := valueOf outer inner "dist"
  distVersion := valueOf outer inner "dist-version"
  arch := valueOf outer inner "arch"
  cluster := valueOf outer inner "cluster"
  staging := isSet outer inner "staging"
  yes := isSet outer inner "yes"
  json := isSet outer inner "json"

def command? (name : String) (inner : Level) : Option Command :=
  match inner.words with
  | [word] =>
    if name = "check" then some (.check word (valueOf {} inner "name"))
    else if name = "install" then some (.install word (valueOf {} inner "name"))
    else (componentWord? word).map (.methods (valueOf {} inner "version"))
  | _ => none

/-- Whether the command `help` can be followed by these words: none, or the name of a command. -/
def asksForHelp : List String → Bool
  | [] => true
  | [word] => word == "help" || (Grammar.forCommand? word).isSome
  | _ => false

/-- Reads the arguments of the program; there is no request if they are wrong. -/
def request? (args : List String) : Option Request :=
  match scan .main {} args with
  | .help => some .showHelp
  | .version => some .showVersion
  | .ended _ => none
  | .wrong => none
  | .command outer name rest =>
    match Grammar.forCommand? name with
    | none =>
      if name = "help" && asksForHelp rest then some .showHelp else none
    | some g =>
      match scan g {} rest with
      | .help => some .showHelp
      | .ended inner => do
        let outer ← outer
        let command ← command? name inner
        return .run (options outer inner) command
      | _ => none

end ClusterSetup.CommandLine

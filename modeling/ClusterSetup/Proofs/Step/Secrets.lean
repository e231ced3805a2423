import Mathlib.Data.List.Forall2
import ClusterSetup.Proofs.Step.Commands

/-!
What depends on the secrets of an install when a step is entered: the text of the command, and
nothing else. Two things are twins if they differ at most in secrets or in the texts of commands of
install methods.
-/

namespace ClusterSetup

/-- Credentials that differ at most in the password. -/
inductive VendorCredentials.Twins : VendorCredentials → VendorCredentials → Prop
  | of (user password password' : String) : Twins ⟨user, password⟩ ⟨user, password'⟩

inductive Cluster.Twins : Cluster → Cluster → Prop
  | of (name password password' : String) (hosts : List HostId) :
      Twins ⟨name, password, hosts⟩ ⟨name, password', hosts⟩

/-- Commands that differ at most in the text, and only if they are of an install method. -/
inductive RemoteCommand.Twins : RemoteCommand → RemoteCommand → Prop
  | refl (command : RemoteCommand) : Twins command command
  | installs (c : Component) (n : Nat) (text text' : String) :
      Twins ⟨ResourceKey.methodCommand c n, text⟩ ⟨ResourceKey.methodCommand c n, text'⟩

inductive RemoteCall.Twins : RemoteCall → RemoteCall → Prop
  | refl (call : RemoteCall) : Twins call call
  | execute (target : HostTarget) (timeout : Duration) {command command' : RemoteCommand}
      (h : command.Twins command') :
      Twins (.execute target command timeout) (.execute target command' timeout)

inductive Work.Twins : Work → Work → Prop
  | refl (work : Work) : Twins work work
  | execute (target : HostTarget) (timeout : Duration) {command command' : RemoteCommand}
      (h : command.Twins command') :
      Twins (.execute target command timeout) (.execute target command' timeout)

inductive RunningAction.Twins : RunningAction → RunningAction → Prop
  | of (step : StepId) (generation : Nat) (key : ActionKey) (guards : List Guard)
      {work work' : Work} (h : work.Twins work') :
      Twins ⟨step, generation, key, work, guards⟩ ⟨step, generation, key, work', guards⟩

/-- Contexts that differ at most in the passwords. -/
inductive EnterContext.Twins : EnterContext → EnterContext → Prop
  | of (host : Host) (resources : Resources) (timeouts : Timeouts)
      {credentials credentials' : Option VendorCredentials}
      (h : Option.Rel VendorCredentials.Twins credentials credentials')
      (stackPassword stackPassword' : Option String) :
      Twins ⟨host, resources, timeouts, credentials, stackPassword⟩
        ⟨host, resources, timeouts, credentials', stackPassword'⟩

inductive Entered.Twins : Entered → Entered → Prop
  | of (result : Except Refusal EnterOutcome) (step : Step) (guards : Guards)
      {started started' : List RunningAction}
      (h : List.Forall₂ RunningAction.Twins started started') :
      Twins ⟨result, step, guards, started⟩ ⟨result, step, guards, started'⟩

namespace VendorCredentials.Twins

theorem refl (v : VendorCredentials) : v.Twins v := .of v.user v.password v.password

theorem describe_eq {v w : VendorCredentials} (h : v.Twins w) : v.describe = w.describe := by
  cases h
  rfl

end VendorCredentials.Twins

namespace Cluster.Twins

variable {c d : Cluster}

theorem refl (c : Cluster) : c.Twins c := .of c.name c.stackPassword c.stackPassword c.hosts

theorem describe_eq (h : c.Twins d) : c.describe = d.describe := by
  cases h
  rfl

theorem addHost (h : c.Twins d) (host : Host) :
    (∃ e, c.addHost host = .error e ∧ d.addHost host = .error e) ∨
      ∃ added c' d' host', c.addHost host = .ok (added, c', host') ∧
        d.addHost host = .ok (added, d', host') ∧ c'.Twins d' := by
  obtain ⟨name, password, password', hosts⟩ := h
  have hentered : Twins
      (if contains ⟨name, password, hosts⟩ host.id then ⟨name, password, hosts⟩
        else ⟨name, password, hosts ++ [host.id]⟩)
      (if contains ⟨name, password', hosts⟩ host.id then ⟨name, password', hosts⟩
        else ⟨name, password', hosts ++ [host.id]⟩) := by
    rw [contains, contains]
    split
    · exact .of name password password' hosts
    · exact .of name password password' (hosts ++ [host.id])
  rw [Cluster.addHost, Cluster.addHost]
  dsimp only
  split
  · split
    · exact .inr ⟨_, _, _, _, rfl, rfl, hentered⟩
    · exact .inl ⟨_, rfl, rfl⟩
  · exact .inr ⟨_, _, _, _, rfl, rfl, hentered⟩

theorem removeHost (h : c.Twins d) (host : Host) :
    ∃ removed c' d' host', c.removeHost host = (removed, c', host') ∧
      d.removeHost host = (removed, d', host') ∧ c'.Twins d' := by
  obtain ⟨name, password, password', hosts⟩ := h
  exact ⟨_, _, _, _, rfl, rfl, .of name password password' (hosts.erase host.id)⟩

end Cluster.Twins

theorem map_eq_of_rel {α β : Type} {R : α → α → Prop} {f : α → β}
    (hf : ∀ {a b}, R a b → f a = f b) {x y : Option α} (h : Option.Rel R x y) :
    x.map f = y.map f := by
  cases h with
  | some h => exact congrArg some (hf h)
  | none => rfl

namespace RemoteCall.Twins

variable {call call' : RemoteCall}

theorem scriptKey_eq (h : call.Twins call') : call.scriptKey = call'.scriptKey := by
  cases h with
  | refl => rfl
  | execute _ _ h => cases h <;> rfl

theorem timeout_eq (h : call.Twins call') : call.timeout = call'.timeout := by
  cases h <;> rfl

theorem installs_of_ne (h : call.Twins call') (hne : call ≠ call') :
    ∃ c n, call.Installs c n ∧ call'.Installs c n := by
  cases h with
  | refl => exact absurd rfl hne
  | execute target timeout h =>
      cases h with
      | refl => exact absurd rfl hne
      | installs c n text text' => exact ⟨c, n, ⟨_, _, _, rfl, rfl⟩, ⟨_, _, _, rfl, rfl⟩⟩

end RemoteCall.Twins

namespace Work.Twins

variable {work work' : Work}

theorem call? (h : work.Twins work') :
    Option.Rel RemoteCall.Twins work.call? work'.call? := by
  cases h with
  | refl =>
      cases work.call? with
      | none => exact .none
      | some call => exact .some (.refl call)
  | execute target timeout h => exact .some (.execute target timeout h)

theorem proceed? (h : work.Twins work') (reply : Reply) :
    Option.Rel Work.Twins (work.proceed? reply) (work'.proceed? reply) := by
  cases h with
  | refl =>
      cases work.proceed? reply with
      | none => exact .none
      | some next => exact .some (.refl next)
  | execute =>
      cases reply with
      | lookedUp lookup => exact .none
      | answered answer => cases answer <;> exact .some (.refl _)

theorem repliesLeft_eq (h : work.Twins work') : work.repliesLeft = work'.repliesLeft := by
  cases h <;> rfl

end Work.Twins

inductive RunningAction.Advanced :
    RunningAction ⊕ ActionResult → RunningAction ⊕ ActionResult → Prop
  | runs {a b : RunningAction} (h : a.Twins b) : Advanced (.inl a) (.inl b)
  | arrives (r : ActionResult) : Advanced (.inr r) (.inr r)

namespace RunningAction.Twins

variable {a b : RunningAction}

theorem work (h : a.Twins b) : a.work.Twins b.work := by
  obtain ⟨-, -, -, -, hwork⟩ := h
  exact hwork

theorem movedTo (h : a.Twins b) {work work' : Work} (hwork : work.Twins work') :
    Advanced (a.movedTo work) (b.movedTo work') := by
  obtain ⟨step, generation, key, guards, -⟩ := h
  cases hwork with
  | refl =>
      cases work with
      | settled outcome => exact .arrives _
      | _ => exact .runs (.of _ _ _ _ (.refl _))
  | execute target timeout h => exact .runs (.of _ _ _ _ (.execute target timeout h))

theorem advance? (h : a.Twins b) (reply : Reply) :
    Option.Rel Advanced (a.advance? reply) (b.advance? reply) := by
  have hnext := h.work.proceed? reply
  rw [RunningAction.advance?, RunningAction.advance?]
  revert hnext
  generalize a.work.proceed? reply = next, b.work.proceed? reply = next'
  intro hnext
  cases hnext with
  | none => exact .none
  | some hnext => exact .some (h.movedTo hnext)

end RunningAction.Twins

theorem Entered.Twins.of_same (e : Entered) : e.Twins e := by
  refine .of e.result e.step e.guards (List.forall₂_same.mpr fun a _ => ?_)
  exact .of a.step a.generation a.key a.guards (.refl a.work)

theorem Entered.Twins.firstCalls {e e' : Entered} (h : e.Twins e') :
    List.Forall₂ RemoteCall.Twins e.firstCalls e'.firstCalls := by
  obtain ⟨result, step, guards, hstarted⟩ := h
  exact List.rel_filterMap (fun _ _ h => h.work.call?) hstarted

namespace Step

variable {ctx ctx' : EnterContext}

theorem lacksCredentials_twins (h : ctx.Twins ctx') (c : Component) (n : Nat) :
    lacksCredentials ctx c n = lacksCredentials ctx' c n := by
  obtain ⟨host, resources, timeouts, hcredentials, _, _⟩ := h
  cases hcredentials <;> rfl

/-- The secrets decide on the text of an install command, but not on whether there is one. -/
theorem installCommand_twins (h : ctx.Twins ctx') (c : Component) (n : Nat) :
    Option.Rel RemoteCommand.Twins (installCommand ctx c n) (installCommand ctx' c n) := by
  obtain ⟨host, resources, timeouts, hcredentials, stackPassword, stackPassword'⟩ := h
  rw [installCommand, installCommand, methodOf, methodOf]
  dsimp only
  cases (resources.methods host.dist c true none).find? n with
  | none => exact .none
  | some method =>
      rw [Option.bind_some, Option.bind_some, InstallCommand.render, InstallCommand.render]
      cases resources.resolveFor host.dist (method.commandKey c) with
      | none => exact .none
      | some template => exact .some (.installs c method.index _ _)

theorem startProbes_twins (h : ctx.Twins ctx') (s : Step)
    (taken : List (ProbeTarget × List Guard)) :
    startProbes ctx s taken = startProbes ctx' s taken := by
  rw [startProbes_eq, startProbes_eq]
  obtain ⟨host, resources, timeouts, _, _, _⟩ := h
  rfl

theorem enterInstall_twins (h : ctx.Twins ctx') (g : Guards) (s : Step) (c : Component) (n : Nat) :
    (enterInstall ctx g s c n).Twins (enterInstall ctx' g s c n) := by
  have hlacks := lacksCredentials_twins h c n
  have hcommand := installCommand_twins h c n
  obtain ⟨host, resources, timeouts, _, _, _⟩ := h
  rw [enterInstall, enterInstall, ← hlacks]
  split
  · exact .of_same _
  · revert hcommand
    generalize installCommand _ c n = command, installCommand _ c n = command'
    intro hcommand
    cases hcommand with
    | none => exact .of_same _
    | some hcommand =>
        dsimp only
        cases g.acquire host.id c with
        | error e => exact .of_same _
        | ok g' =>
            refine .of _ _ _ (.cons ?_ .nil)
            exact .of _ _ _ _ (.execute _ _ hcommand)

/-- A step that is entered with other secrets becomes the same step, takes the same guards and gives
the same answer; only the texts of install commands can differ. -/
theorem enter_twins (h : ctx.Twins ctx') (g : Guards) (s : Step) :
    (s.enter ctx g).Twins (s.enter ctx' g) := by
  have hinstall := fun c n => enterInstall_twins h g s c n
  have hprobes := fun s taken => startProbes_twins h s taken
  obtain ⟨host, resources, timeouts, _, _, _⟩ := h
  rw [enter, enter]
  split
  · exact .of_same _
  split
  · exact .of_same _
  split
  · exact .of_same _
  · rw [enterProbe, enterProbe]
    simp only [hprobes]
    exact .of_same _
  · exact hinstall _ _
  · exact .of_same _

end Step

end ClusterSetup

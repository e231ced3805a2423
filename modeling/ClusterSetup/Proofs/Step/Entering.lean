import ClusterSetup.Proofs.Guards.Acquiring

/-!
Entering a step. A step that is refused stays as it was, and so do the guards. A step that is
entered begins a new generation and starts one action for each key of its kind, each with the
guards of the components it works on; or it is settled at once without an action.
-/

namespace ClusterSetup

def ActionKey.components : ActionKey → List Component
  | .connect => []
  | .probe target => target.components
  | .install c => [c]

def ActionKey.guards (host : HostId) (key : ActionKey) : List Guard :=
  key.components.map (⟨host, ·⟩)

/-- What identifies a started action: its step, the generation of the step and its key. -/
structure Ticket where
  step : StepId
  generation : Nat
  key : ActionKey
  deriving Repr, DecidableEq

def RunningAction.ticket (a : RunningAction) : Ticket := ⟨a.step, a.generation, a.key⟩

def ActionResult.ticket (r : ActionResult) : Ticket := ⟨r.step, r.generation, r.key⟩

namespace StepKind

def keys : StepKind → List ActionKey
  | connect => [.connect]
  | probe scope => scope.targets.map .probe
  | install c _ => [.install c]
  | confirm => []

/-- The state of a step whose actions run. -/
def workingState : StepKind → StepState
  | connect => .connecting
  | probe _ => .probing
  | install _ _ => .installing
  | confirm => .finished

theorem keys_nodup (kind : StepKind) : kind.keys.Nodup := by
  rcases kind with _ | scope | ⟨c, n⟩ | _
  · decide
  · cases scope <;> decide
  · exact List.nodup_singleton _
  · decide

theorem keys_length_le (kind : StepKind) : kind.keys.length ≤ 2 := by
  rcases kind with _ | scope | ⟨c, n⟩ | _
  · exact Nat.le_succ 1
  · cases scope <;> decide
  · exact Nat.le_succ 1
  · exact Nat.zero_le 2

theorem components_nodup (kind : StepKind) : (kind.keys.flatMap (·.components)).Nodup := by
  rcases kind with _ | scope | ⟨c, n⟩ | _
  · decide
  · cases scope <;> decide
  · exact List.nodup_singleton c
  · decide

theorem guards_nodup (kind : StepKind) (host : HostId) :
    (kind.keys.flatMap (·.guards host)).Nodup := by
  have hmap := List.map_flatMap (f := (⟨host, ·⟩ : Component → Guard))
    (g := ActionKey.components) (l := kind.keys)
  have hnodup := kind.components_nodup.map (f := (⟨host, ·⟩ : Component → Guard))
    fun _ _ heq => congrArg Guard.component heq
  rw [hmap] at hnodup
  exact hnodup

theorem keys_ne_nil {kind : StepKind} (h : kind ≠ .confirm) : kind.keys ≠ [] := by
  cases kind with
  | probe scope => cases scope <;> simp [keys, ProbeScope.targets]
  | confirm => exact absurd rfl h
  | _ => exact List.cons_ne_nil _ []

theorem eq_connect {kind : StepKind} (h : .connect ∈ kind.keys) : kind = .connect := by
  cases kind with
  | connect => rfl
  | probe scope =>
      obtain ⟨target, -, htarget⟩ := List.mem_map.mp h
      cases htarget
  | confirm => cases h
  | install c n => cases List.mem_singleton.mp h

theorem exists_scope {kind : StepKind} {p : ProbeTarget} (h : .probe p ∈ kind.keys) :
    ∃ scope, kind = .probe scope := by
  cases kind with
  | probe scope => exact ⟨scope, rfl⟩
  | confirm => cases h
  | _ => cases List.mem_singleton.mp h

theorem exists_target {kind : StepKind} (htwo : 1 < kind.keys.length) {key : ActionKey}
    (h : key ∈ kind.keys) : ∃ p, key = .probe p := by
  cases kind with
  | probe scope =>
      obtain ⟨p, -, rfl⟩ := List.mem_map.mp h
      exact ⟨p, rfl⟩
  | confirm => cases h
  | _ => cases Nat.lt_irrefl _ htwo

end StepKind

namespace Step

def workOf (ctx : EnterContext) (kind : StepKind) : ActionKey → Work
  | .connect =>
      .lookUp ctx.host.target (commandFor ctx ResourceKey.distProbe) ctx.timeouts
  | .probe target =>
      .startCommand ctx.host.target (commandFor ctx (probeKey target)) ctx.timeouts.command
  | .install _ =>
      let command := match kind with
        | .install c n => installCommand ctx c n
        | _ => none
      .startCommand ctx.host.target command ctx.timeouts.install

def actionFor (ctx : EnterContext) (s : Step) (key : ActionKey) : RunningAction :=
  ⟨s.id, s.generation, key, workOf ctx s.kind key, key.guards ctx.host.id⟩

def working (s : Step) : Step :=
  { s.reset with state := s.kind.workingState, pending := s.kind.keys }

def unsupported (c : Component) (n : Nat) : ActionFailure :=
  .plain (c.label ++ " install method " ++ toString n ++ " is unsupported on this distribution")

/-- The ways in which a step is entered. -/
inductive Entry (ctx : EnterContext) (g : Guards) (s : Step) : Entered → Prop
  | started {g' : Guards} (runs : s.kind ≠ .confirm)
      (commanded : ∀ c n, s.kind = .install c n →
        lacksCredentials ctx c n = false ∧ (installCommand ctx c n).isSome = true)
      (took : Guards.Took g (s.kind.keys.flatMap (·.guards ctx.host.id)) g') :
      Entry ctx g s ⟨.ok .started, s.working, g', s.kind.keys.map (s.reset.actionFor ctx)⟩
  | awaiting {c : Component} {n : Nat} (kind_eq : s.kind = .install c n)
      (lacks : lacksCredentials ctx c n = true) :
      Entry ctx g s
        ⟨.ok .awaitingCredentials, { s.reset with state := .installMethodChosen }, g, []⟩
  | failed {c : Component} {n : Nat} (kind_eq : s.kind = .install c n)
      (lacks : lacksCredentials ctx c n = false) (none : installCommand ctx c n = none) :
      Entry ctx g s ⟨.ok .completed, s.reset.fail (unsupported c n), g, []⟩
  | finished (kind_eq : s.kind = .confirm) :
      Entry ctx g s
        ⟨.ok .completed, { s.reset with state := .finished, completed := true }, g, []⟩

theorem Entry.rerun {ctx : EnterContext} {g : Guards} {s : Step} {entered : Entered}
    (h : Entry ctx g s entered) : entered.step.entered = true ∧ entered.step.next = none ∧
      entered.step.kind = s.kind ∧ entered.step.previous = s.previous := by
  cases h <;> exact ⟨rfl, rfl, rfl, rfl⟩

theorem Entry.blank {ctx : EnterContext} {g : Guards} {s : Step} {entered : Entered}
    (h : Entry ctx g s entered) :
    entered.step.components = .const none ∧ entered.step.nextKind = none := by
  cases h <;> exact ⟨rfl, rfl⟩

/-- The reasons for which a step is not entered. -/
inductive EntryRefusal (ctx : EnterContext) (g : Guards) (s : Step) : Refusal → Prop
  | canceled (canceled : s.canceled = true) : EntryRefusal ctx g s (.stepCanceled s.id)
  | outstanding (pending : s.pending ≠ []) : EntryRefusal ctx g s (.actionOutstanding s.id)
  | busy (c : Component) (idle : s.pending = [])
      (held : (⟨ctx.host.id, c⟩ : Guard) ∈ g.held) :
      EntryRefusal ctx g s (.componentBusy ctx.host.id c)

theorem EntryRefusal.not_unknownStep {ctx : EnterContext} {g : Guards} {s : Step} (id : StepId) :
    ¬ EntryRefusal ctx g s (.unknownStep id) := nofun

theorem EntryRefusal.of_idle {ctx : EnterContext} {g : Guards} {s : Step} {e : Refusal}
    (h : EntryRefusal ctx g s e) (hlive : s.canceled = false) (hidle : s.pending = []) :
    ∃ c, e = .componentBusy ctx.host.id c ∧ (⟨ctx.host.id, c⟩ : Guard) ∈ g.held := by
  cases h with
  | canceled canceled =>
      rw [hlive] at canceled
      cases canceled
  | outstanding pending => exact absurd hidle pending
  | busy c _ held => exact ⟨c, rfl, held⟩

theorem startProbes_eq (ctx : EnterContext) (s : Step) (taken : List (ProbeTarget × List Guard)) :
    startProbes ctx s taken =
      ({ s with pending := s.pending ++ taken.map (.probe ·.1) },
        taken.map fun t =>
          ⟨s.id, s.generation, .probe t.1, workOf ctx s.kind (.probe t.1), t.2⟩) := by
  induction taken generalizing s with
  | nil => simp [startProbes]
  | cons t taken ih =>
      simp only [startProbes, start, ih, List.map_cons, List.append_assoc, List.singleton_append]
      rfl

/-- The guards of several probes are all taken, or one of them was held before and the registry ends
as it was before the first of them. -/
theorem acquireProbes_spec {g₀ g : Guards} {taken : List (ProbeTarget × List Guard)}
    (h : Guards.Took g₀ (taken.flatMap (·.2)) g) (host : HostId) (targets : List ProbeTarget)
    (hnodup : (taken.flatMap (·.2) ++
      targets.flatMap fun t => (ActionKey.probe t).guards host).Nodup) :
    (∃ g', g.acquireProbes host taken targets =
        (.ok (taken ++ targets.map fun t => (t, (ActionKey.probe t).guards host)), g') ∧
      Guards.Took g₀
        ((taken ++ targets.map fun t => (t, (ActionKey.probe t).guards host)).flatMap (·.2)) g') ∨
    ∃ c, (⟨host, c⟩ : Guard) ∈ g₀.held ∧
      g.acquireProbes host taken targets = (.error (.componentBusy host c), g₀) := by
  induction targets generalizing g taken with
  | nil =>
      left
      refine ⟨g, ?_, ?_⟩
      · simp [Guards.acquireProbes]
      · simpa using h
  | cons target targets ih =>
      rw [List.flatMap_cons, ← List.append_assoc] at hnodup
      have hfirst := hnodup.of_append_left
      rcases g.acquireAll_spec host target.components hfirst.of_append_right with
        ⟨g₁, heq, htook⟩ | ⟨c, hc, hbusy, heq⟩
      · have hmore : Guards.Took g₀
            ((taken ++ [(target, (ActionKey.probe target).guards host)]).flatMap (·.2)) g₁ := by
          rw [List.flatMap_append, List.flatMap_singleton]
          exact h.append htook
        have hrest : ((taken ++ [(target, (ActionKey.probe target).guards host)]).flatMap (·.2) ++
            targets.flatMap fun t => (ActionKey.probe t).guards host).Nodup := by
          rw [List.flatMap_append, List.flatMap_singleton]
          exact hnodup
        rcases ih hmore hrest with ⟨g', heq', htook'⟩ | ⟨c, hbusy, heq'⟩
        · left
          refine ⟨g', ?_, ?_⟩
          · simp only [Guards.acquireProbes, heq]
            rw [List.append_assoc] at heq'
            exact heq'
          · rw [List.append_assoc] at htook'
            exact htook'
        · right
          refine ⟨c, hbusy, ?_⟩
          simp only [Guards.acquireProbes, heq]
          exact heq'
      · right
        refine ⟨c, ?_, ?_⟩
        · rw [h.held_eq, List.mem_append, List.mem_reverse] at hbusy
          refine hbusy.resolve_left fun htaken => ?_
          exact (List.nodup_append.mp hfirst).2.2 _ htaken _ (List.mem_map_of_mem hc) rfl
        · simp only [Guards.acquireProbes, heq]
          rw [h.releaseAll]

theorem enterProbe_spec (ctx : EnterContext) (g : Guards) (s : Step) {scope : ProbeScope}
    (hkind : s.kind = .probe scope) :
    (∃ c, (⟨ctx.host.id, c⟩ : Guard) ∈ g.held ∧
      enterProbe ctx g s scope = ⟨.error (.componentBusy ctx.host.id c), s, g, []⟩) ∨
    Entry ctx g s (enterProbe ctx g s scope) := by
  have hkeys : s.kind.keys = scope.targets.map .probe := by rw [hkind]; rfl
  have hnone : Guards.Took g (([] : List (ProbeTarget × List Guard)).flatMap (·.2)) g :=
    Guards.Took.nil g
  have hguards : s.kind.keys.flatMap (·.guards ctx.host.id) =
      scope.targets.flatMap fun t => (ActionKey.probe t).guards ctx.host.id := by
    rw [hkeys, List.flatMap_map]
  have hnodup := s.kind.guards_nodup ctx.host.id
  rw [hguards] at hnodup
  rcases acquireProbes_spec hnone ctx.host.id scope.targets hnodup with
    ⟨g', heq, htook⟩ | ⟨c, hbusy, heq⟩
  · right
    rw [List.nil_append] at heq htook
    rw [List.flatMap_map] at htook
    have hentered : enterProbe ctx g s scope =
        ⟨.ok .started, s.working, g', s.kind.keys.map (s.reset.actionFor ctx)⟩ := by
      simp only [enterProbe, heq, startProbes_eq]
      simp [working, hkind, reset, StepKind.workingState, StepKind.keys, actionFor,
        Function.comp_def]
    rw [hentered]
    refine .started ?_ ?_ ?_
    · simp [hkind]
    · simp [hkind]
    · rw [hguards]
      exact htook
  · left
    refine ⟨c, hbusy, ?_⟩
    simp only [enterProbe, heq]

theorem enterInstall_spec (ctx : EnterContext) (g : Guards) (s : Step) {c : Component} {n : Nat}
    (hkind : s.kind = .install c n) :
    ((⟨ctx.host.id, c⟩ : Guard) ∈ g.held ∧
      enterInstall ctx g s c n = ⟨.error (.componentBusy ctx.host.id c), s, g, []⟩) ∨
    Entry ctx g s (enterInstall ctx g s c n) := by
  rw [enterInstall]
  split
  · rename_i hlacks
    exact .inr (.awaiting hkind hlacks)
  · rename_i hlacks
    rw [Bool.not_eq_true] at hlacks
    split
    · rename_i hnone
      exact .inr (.failed hkind hlacks hnone)
    · rename_i command hcommand
      cases hacquire : g.acquire ctx.host.id c with
      | error e =>
          obtain ⟨rfl, hbusy⟩ := Guards.acquire_eq_error hacquire
          exact .inl ⟨hbusy, rfl⟩
      | ok g' =>
          right
          have htook := Guards.acquire_eq_ok_iff.mp hacquire
          have hentered : Entry ctx g s
              ⟨.ok .started, s.working, g', s.kind.keys.map (s.reset.actionFor ctx)⟩ := by
            refine .started ?_ ?_ ?_
            · simp [hkind]
            · simp [hkind, hlacks, hcommand]
            · simpa [hkind, StepKind.keys, ActionKey.guards, ActionKey.components] using htook
          simpa [working, hkind, StepKind.keys, StepKind.workingState, start, actionFor, workOf,
            reset, hcommand, ActionKey.guards, ActionKey.components] using hentered

/-- A step is refused and leaves everything as it was, or it is entered in one of the four
ways. -/
theorem enter_spec (ctx : EnterContext) (g : Guards) (s : Step) :
    (∃ e, EntryRefusal ctx g s e ∧ s.enter ctx g = ⟨.error e, s, g, []⟩) ∨
    s.canceled = false ∧ s.pending = [] ∧ Entry ctx g s (s.enter ctx g) := by
  rw [enter]
  split
  · rename_i hcanceled
    exact .inl ⟨_, .canceled hcanceled, rfl⟩
  · rename_i hcanceled
    split
    · rename_i hpending
      have hwaits : s.pending ≠ [] := by simpa [hasPending] using hpending
      exact .inl ⟨_, .outstanding hwaits, rfl⟩
    · rename_i hpending
      have hidle : s.pending = [] := by simpa [hasPending] using hpending
      rw [Bool.not_eq_true] at hcanceled
      split
      · rename_i hkind
        refine .inr ⟨hcanceled, hidle, ?_⟩
        have hentered : Entry ctx g s
            ⟨.ok .started, s.working, g, s.kind.keys.map (s.reset.actionFor ctx)⟩ := by
          refine .started ?_ ?_ ?_
          · simp [hkind]
          · simp [hkind]
          · simpa [hkind, StepKind.keys, ActionKey.guards, ActionKey.components] using
              Guards.Took.nil g
        simpa [enterConnect, working, hkind, StepKind.keys, StepKind.workingState, start,
          actionFor, workOf, reset, ActionKey.guards, ActionKey.components] using hentered
      · rename_i scope hkind
        rcases enterProbe_spec ctx g s hkind with ⟨c, hbusy, heq⟩ | hentry
        · exact .inl ⟨_, .busy c hidle hbusy, heq⟩
        · exact .inr ⟨hcanceled, hidle, hentry⟩
      · rename_i c n hkind
        rcases enterInstall_spec ctx g s hkind with ⟨hbusy, heq⟩ | hentry
        · exact .inl ⟨_, .busy c hidle hbusy, heq⟩
        · exact .inr ⟨hcanceled, hidle, hentry⟩
      · rename_i hkind
        exact .inr ⟨hcanceled, hidle, .finished hkind⟩

end Step

end ClusterSetup

import ClusterSetup.Proofs.Methods
import ClusterSetup.Proofs.Step.Entering
import ClusterSetup.Proofs.Step.Replying
import ClusterSetup.Rehearsal

namespace ClusterSetup

theorem toString_nat_inj {n m : Nat} (h : toString n = toString m) : n = m := by
  have hdigits := congrArg (fun text => Nat.ofDigitChars 10 text.toList 0) h
  simpa [Nat.toString_eq_ofList_toDigits] using hdigits

namespace ResourceKey

theorem methodCommand_inj {c d : Component} {n m : Nat}
    (h : methodCommand c n = methodCommand d m) : c = d ∧ n = m := by
  have hcomponent : c = d := by
    have hchars := congrArg String.toList h
    cases c <;> cases d <;> simp [methodCommand, Component.resourceStem] at hchars ⊢
  subst hcomponent
  exact ⟨rfl, toString_nat_inj ((String.append_right_inj _).mp h)⟩

theorem methodCommand_ne_distProbe (c : Component) (n : Nat) : methodCommand c n ≠ distProbe := by
  intro h
  have hchars := congrArg String.toList h
  cases c <;> simp [methodCommand, distProbe, Component.resourceStem] at hchars

theorem methodCommand_ne_probeKey (c : Component) (n : Nat) (target : ProbeTarget) :
    methodCommand c n ≠ Step.probeKey target := by
  intro h
  have hchars := congrArg String.toList h
  cases c <;> cases target <;>
    simp [methodCommand, Step.probeKey, storageProbe, stackProbe, Component.resourceStem] at hchars

theorem probeKey_ne_distProbe (target : ProbeTarget) : Step.probeKey target ≠ distProbe := by
  cases target <;> decide

end ResourceKey

/-- The key by which a remote side counts what it is asked. -/
def Inquiry.scriptKey : Inquiry → String
  | .lookUp _ _ => "lookup"
  | .call asked => asked.scriptKey

def RemoteCall.Installs (call : RemoteCall) (c : Component) (n : Nat) : Prop :=
  ∃ target command timeout, call = .execute target command timeout ∧
    command.key = ResourceKey.methodCommand c n

def RemoteCall.Probes (call : RemoteCall) (p : ProbeTarget) : Prop :=
  ∃ target command timeout, call = .execute target command timeout ∧
    command.key = Step.probeKey p

/-- A call that belongs to connecting: it reaches out to the host or asks for its distribution. -/
inductive RemoteCall.Connects : RemoteCall → Prop
  | reaches (target : HostTarget) (timeout : Duration) : Connects (.connect target timeout)
  | asks (target : HostTarget) (timeout : Duration) {command : RemoteCommand}
      (key_eq : command.key = ResourceKey.distProbe) : Connects (.execute target command timeout)

theorem RemoteCall.Connects.not_installs {call : RemoteCall} (h : call.Connects) (c : Component)
    (n : Nat) : ¬ call.Installs c n := by
  rintro ⟨target, command, timeout, rfl, hkey⟩
  cases h with
  | asks _ _ key_eq => exact ResourceKey.methodCommand_ne_distProbe c n (hkey.symm.trans key_eq)

theorem RemoteCall.Connects.not_probes {call : RemoteCall} (h : call.Connects) (p : ProbeTarget) :
    ¬ call.Probes p := by
  rintro ⟨target, command, timeout, rfl, hkey⟩
  cases h with
  | asks _ _ key_eq => exact ResourceKey.probeKey_ne_distProbe p (hkey.symm.trans key_eq)

namespace Work

theorem call?_startCommand {target : HostTarget} {command : Option RemoteCommand}
    {timeout : Duration} {call : RemoteCall}
    (h : (startCommand target command timeout).call? = some call) :
    ∃ sent, command = some sent ∧ call = .execute target sent timeout := by
  cases command with
  | none => cases h
  | some sent =>
      cases h
      exact ⟨sent, rfl, rfl⟩

/-- The work that an action does for a key. Only connecting takes several replies: its first call
reaches out to the host and the second one asks for the distribution. A probe sends its own
command. -/
inductive Fits : ActionKey → Work → Prop
  | lookUp {target : HostTarget} {detect : Option RemoteCommand} {timeouts : Timeouts}
      (asks : ∀ command, detect = some command → command.key = ResourceKey.distProbe) :
      Fits .connect (.lookUp target detect timeouts)
  | connect {target : HostTarget} {addresses : List String} {detect : Option RemoteCommand}
      {timeouts : Timeouts}
      (asks : ∀ command, detect = some command → command.key = ResourceKey.distProbe) :
      Fits .connect (.connect target addresses detect timeouts)
  | detect {target : HostTarget} {addresses : List String} {command : RemoteCommand}
      {timeout : Duration} : Fits .connect (.detect target addresses command timeout)
  | execute {key : ActionKey} {target : HostTarget} {command : RemoteCommand}
      {timeout : Duration} (probes : ∀ p, key = .probe p → command.key = Step.probeKey p) :
      Fits key (.execute target command timeout)
  | settled {key : ActionKey} {outcome : Outcome} : Fits key (.settled outcome)

theorem fits_startCommand {key : ActionKey} {command : Option RemoteCommand}
    (h : ∀ sent p, command = some sent → key = .probe p → sent.key = Step.probeKey p)
    (target : HostTarget) (timeout : Duration) :
    Fits key (startCommand target command timeout) := by
  cases command with
  | none => exact .settled
  | some sent => exact .execute fun p => h sent p rfl

theorem Fits.proceeds {key : ActionKey} {work next : Work} {reply : Reply} (h : Fits key work)
    (hnext : work.Proceeds reply next) (unsettled : ∀ outcome, next ≠ .settled outcome) :
    Fits key next ∧ key = .connect ∧ ∀ call, next.call? = some call → call.Connects := by
  cases hnext with
  | resolved =>
      cases h with
      | lookUp asks =>
          refine ⟨.connect asks, rfl, ?_⟩
          rintro call ⟨⟩
          exact .reaches _ _
  | asks =>
      cases h with
      | connect asks =>
          refine ⟨.detect, rfl, ?_⟩
          rintro call ⟨⟩
          exact .asks _ _ (asks _ rfl)
  | _ => exact absurd rfl (unsettled _)

end Work

namespace Step

theorem key_of_commandFor {ctx : EnterContext} {key : String} {command : RemoteCommand}
    (h : commandFor ctx key = some command) : command.key = key := by
  obtain ⟨text, -, rfl⟩ := Option.map_eq_some_iff.mp h
  rfl

theorem key_of_installCommand {ctx : EnterContext} {c : Component} {n : Nat}
    {command : RemoteCommand} (h : installCommand ctx c n = some command) :
    command.key = ResourceKey.methodCommand c n := by
  obtain ⟨m, hm, hrender⟩ := Option.bind_eq_some_iff.mp h
  obtain ⟨-, hindex⟩ := MethodChoice.mem_of_find? hm
  obtain ⟨template, -, rfl⟩ := Option.map_eq_some_iff.mp hrender
  exact congrArg (ResourceKey.methodCommand c) hindex

theorem kind_of_installs {ctx : EnterContext} {kind : StepKind} {key : ActionKey}
    (hkey : key ∈ kind.keys) {call : RemoteCall} (hcall : (workOf ctx kind key).call? = some call)
    {c : Component} {n : Nat} (h : call.Installs c n) : kind = .install c n ∧ key = .install c := by
  obtain ⟨target, command, timeout, rfl, hcommand⟩ := h
  cases kind with
  | connect =>
      obtain rfl := List.mem_singleton.mp hkey
      cases hcall
  | probe scope =>
      obtain ⟨probed, -, rfl⟩ := List.mem_map.mp hkey
      obtain ⟨sent, hsent, heq⟩ := Work.call?_startCommand hcall
      cases heq
      rw [key_of_commandFor hsent] at hcommand
      exact absurd hcommand.symm (ResourceKey.methodCommand_ne_probeKey c n probed)
  | install d m =>
      obtain rfl := List.mem_singleton.mp hkey
      obtain ⟨sent, hsent, heq⟩ := Work.call?_startCommand hcall
      cases heq
      rw [key_of_installCommand hsent] at hcommand
      obtain ⟨rfl, rfl⟩ := ResourceKey.methodCommand_inj hcommand
      exact ⟨rfl, rfl⟩
  | confirm => cases hkey

/-- Only a step of an install sends the command of one, when all that it needs is there. Its action
takes the guard of the component. -/
theorem Entry.of_installs {ctx : EnterContext} {g : Guards} {s : Step} {entered : Entered}
    (h : Entry ctx g s entered) {call : RemoteCall} (hcall : call ∈ entered.firstCalls)
    {c : Component} {n : Nat} (hinstalls : call.Installs c n) :
    s.kind = .install c n ∧ lacksCredentials ctx c n = false ∧
      entered.started = [s.reset.actionFor ctx (.install c)] ∧
      (s.reset.actionFor ctx (.install c)).work.call? = some call ∧
      Guards.Took g [⟨ctx.host.id, c⟩] entered.guards := by
  cases h with
  | started runs commanded took =>
      obtain ⟨action, haction, hfirst⟩ := List.mem_filterMap.mp hcall
      obtain ⟨key, hkey, rfl⟩ := List.mem_map.mp haction
      obtain ⟨hkind, rfl⟩ := kind_of_installs hkey hfirst hinstalls
      refine ⟨hkind, (commanded c n hkind).1, by rw [hkind]; rfl, hfirst, ?_⟩
      rw [hkind] at took
      exact took
  | _ => cases hcall

/-- A connect step calls nobody before the address is looked up. -/
theorem Entry.firstCalls_of_connect {ctx : EnterContext} {g : Guards} {s : Step}
    {entered : Entered} (h : Entry ctx g s entered) (hkind : s.kind = .connect) :
    entered.firstCalls = [] := by
  cases h with
  | started runs commanded took =>
      rw [Entered.firstCalls, List.filterMap_eq_nil_iff]
      intro action haction
      obtain ⟨key, hkey, rfl⟩ := List.mem_map.mp haction
      rw [hkind] at hkey
      obtain rfl := List.mem_singleton.mp hkey
      rfl
  | _ => rfl

end Step

namespace RunningAction

/-- The work of an action is one for its key. -/
def Apt (a : RunningAction) : Prop := a.work.Fits a.key

theorem apt_actionFor (ctx : EnterContext) (s : Step) (key : ActionKey) :
    (s.actionFor ctx key).Apt := by
  cases key with
  | connect => exact .lookUp fun command h => Step.key_of_commandFor h
  | probe target =>
      refine Work.fits_startCommand ?_ _ _
      rintro sent p hsent ⟨⟩
      exact Step.key_of_commandFor hsent
  | install c =>
      refine Work.fits_startCommand ?_ _ _
      rintro _ _ _ ⟨⟩

theorem Apt.scriptKey_of_probe {a : RunningAction} (h : a.Apt) {p : ProbeTarget}
    (hkey : a.key = .probe p) {inquiry : Inquiry} (hinquiry : a.work.inquiry? = some inquiry) :
    inquiry.scriptKey = Step.probeKey p := by
  obtain ⟨step, generation, key, work, guards⟩ := a
  simp only [Apt] at h hkey hinquiry
  subst hkey
  cases h with
  | execute probes =>
      cases hinquiry
      exact probes p rfl
  | settled => cases hinquiry

end RunningAction

end ClusterSetup

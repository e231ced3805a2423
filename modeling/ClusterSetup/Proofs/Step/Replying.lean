import ClusterSetup.Action

namespace ClusterSetup

/-- A reply to what an action waits for. An action that waits for nothing takes any. -/
inductive Reply.IsTo : Reply → Option Inquiry → Prop
  | lookedUp (lookup : Lookup) (target : HostTarget) (timeout : Duration) :
      IsTo (.lookedUp lookup) (some (.lookUp target timeout))
  | answered (answer : CallAnswer) (call : RemoteCall) :
      IsTo (.answered answer) (some (.call call))
  | idle (reply : Reply) : IsTo reply none

/-- The reply to what an action waits for, where it is known what lookups and calls lead to. -/
def Reply.to (lookUp : HostTarget → Duration → Lookup) (answer : RemoteCall → CallAnswer) :
    Option Inquiry → Reply
  | some (.lookUp target timeout) => .lookedUp (lookUp target timeout)
  | some (.call call) => .answered (answer call)
  | none => .answered (.ok ⟨"", 0⟩)

theorem Reply.to_isTo (lookUp : HostTarget → Duration → Lookup) (answer : RemoteCall → CallAnswer)
    (inquiry : Option Inquiry) : (Reply.to lookUp answer inquiry).IsTo inquiry := by
  match inquiry with
  | some (.lookUp target timeout) => exact .lookedUp _ _ _
  | some (.call call) => exact .answered _ _
  | none => exact .idle _

namespace Work

/-- The ways in which a reply brings work on. -/
inductive Proceeds : Work → Reply → Work → Prop
  | resolved {target : HostTarget} {detect : Option RemoteCommand} {timeouts : Timeouts}
      {lookup : Lookup} {addresses : List String}
      (found : lookup.addresses target.address = .ok addresses) :
      Proceeds (.lookUp target detect timeouts) (.lookedUp lookup)
        (.connect target addresses detect timeouts)
  | unresolved {target : HostTarget} {detect : Option RemoteCommand} {timeouts : Timeouts}
      {lookup : Lookup} {failure : ActionFailure}
      (missed : lookup.addresses target.address = .error failure) :
      Proceeds (.lookUp target detect timeouts) (.lookedUp lookup) (.settled (.failed failure))
  | unreached {target : HostTarget} {addresses : List String} {detect : Option RemoteCommand}
      {timeouts : Timeouts} {e : TransportError} :
      Proceeds (.connect target addresses detect timeouts) (.answered (.error e))
        (.settled (.failed (.plain e.message)))
  | reached {target : HostTarget} {addresses : List String} {timeouts : Timeouts}
      {output : CommandOutput} :
      Proceeds (.connect target addresses none timeouts) (.answered (.ok output))
        (.settled (.connected addresses {}))
  | asks {target : HostTarget} {addresses : List String} {command : RemoteCommand}
      {timeouts : Timeouts} {output : CommandOutput} :
      Proceeds (.connect target addresses (some command) timeouts) (.answered (.ok output))
        (.detect target addresses command timeouts.command)
  | told {target : HostTarget} {addresses : List String} {command : RemoteCommand}
      {timeout : Duration} {answer : CallAnswer} :
      Proceeds (.detect target addresses command timeout) (.answered answer)
        (.settled (.connected addresses (detected answer)))
  | exited {target : HostTarget} {command : RemoteCommand} {timeout : Duration}
      {output : CommandOutput} :
      Proceeds (.execute target command timeout) (.answered (.ok output))
        (.settled (.exited output))
  | unanswered {target : HostTarget} {command : RemoteCommand} {timeout : Duration}
      {e : TransportError} :
      Proceeds (.execute target command timeout) (.answered (.error e))
        (.settled (.unanswered (.plain e.message)))
  | idle {outcome : Outcome} {reply : Reply} :
      Proceeds (.settled outcome) reply (.settled outcome)

variable {work next : Work} {reply : Reply}

theorem Proceeds.of_proceed? (h : work.proceed? reply = some next) :
    work.Proceeds reply next := by
  rw [proceed?.eq_def] at h
  split at h
  · split at h
    · rename_i hfound
      cases h
      exact .resolved hfound
    · rename_i hmissed
      cases h
      exact .unresolved hmissed
  all_goals cases h
  all_goals constructor

theorem exists_proceed? (h : reply.IsTo work.inquiry?) :
    ∃ next, work.proceed? reply = some next := by
  cases work with
  | lookUp target detect timeouts =>
      cases h with
      | lookedUp lookup =>
          rw [proceed?]
          split <;> exact ⟨_, rfl⟩
  | connect target addresses detect timeouts =>
      cases h with
      | answered answer => cases answer <;> cases detect <;> exact ⟨_, rfl⟩
  | detect target addresses command timeout =>
      cases h with
      | answered answer => exact ⟨_, rfl⟩
  | execute target command timeout =>
      cases h with
      | answered answer => cases answer <;> exact ⟨_, rfl⟩
  | settled outcome => exact ⟨_, rfl⟩

/-- A reply brings work to its outcome, or at least one reply closer to it. -/
theorem Proceeds.repliesLeft_lt (h : work.Proceeds reply next)
    (unsettled : ∀ outcome, next ≠ .settled outcome) : next.repliesLeft < work.repliesLeft := by
  cases h with
  | resolved => exact Nat.lt_succ_self 2
  | asks => exact Nat.lt_succ_self 1
  | _ => exact absurd rfl (unsettled _)

end Work

end ClusterSetup

import ClusterSetup.Proofs.Step.Entering
import ClusterSetup.Step.Complete

namespace ClusterSetup

def Outcome.connectivity : Outcome → Connectivity
  | .connected _ _ => .connected
  | _ => .failed

namespace Step

/-- What a step keeps for good, whatever is done with it. -/
structure SameStep (s t : Step) : Prop where
  id_eq : t.id = s.id
  kind_eq : t.kind = s.kind
  previous_eq : t.previous = s.previous
  canceled_eq : t.canceled = s.canceled

/-- What the result of an action makes of the step that waited for it and of the findings. -/
structure Receives (s : Step) (f : Findings) (t : Step) (f' : Findings) : Prop where
  same : SameStep s t
  generation_eq : t.generation = s.generation
  next_eq : t.next = s.next
  pending_eq : t.pending = s.pending
  hostId_eq : f'.host.id = f.host.id
  /-- A step that goes on waiting has decided on nothing. -/
  undecided : t.completed = false → t.nextKind = s.nextKind
  /-- A completed step is not the one that ends the session. -/
  unfinished : t.completed = true → t.state ≠ .finished
  /-- The confirmation comes only after success. -/
  success : t.completed = true → t.nextKind = some .confirm → f'.flags.success = true

theorem applyConnect_completed (s : Step) (outcome : Outcome) (f : Findings) :
    (s.applyConnect outcome f).1.completed = true := by
  cases outcome <;> rfl

theorem applyConnect_receives {s : Step} (hkind : s.kind = .connect) (outcome : Outcome)
    (f : Findings) :
    Receives s f (s.applyConnect outcome f).1 (s.applyConnect outcome f).2 := by
  cases outcome with
  | connected addresses dist =>
      exact ⟨⟨rfl, rfl, rfl, rfl⟩, rfl, rfl, rfl, rfl, by simp [applyConnect],
        by simp [applyConnect], by simp [applyConnect]⟩
  | exited output =>
      exact ⟨⟨rfl, rfl, rfl, rfl⟩, rfl, rfl, rfl, rfl, by simp [applyConnect, fail],
        by simp [applyConnect, fail, hkind], by simp [applyConnect, fail]⟩
  | unanswered failure =>
      exact ⟨⟨rfl, rfl, rfl, rfl⟩, rfl, rfl, rfl, rfl, by simp [applyConnect, fail],
        by simp [applyConnect, fail, hkind], by simp [applyConnect, fail]⟩
  | failed failure =>
      exact ⟨⟨rfl, rfl, rfl, rfl⟩, rfl, rfl, rfl, rfl, by simp [applyConnect, fail],
        by simp [applyConnect, fail, hkind], by simp [applyConnect, fail]⟩

theorem applyInstall_completed (s : Step) (c : Component) (n : Nat) (outcome : Outcome)
    (f : Findings) : (s.applyInstall c n outcome f).1.completed = true := by
  cases outcome with
  | exited output =>
      rw [applyInstall]
      split <;> rfl
  | _ => rfl

theorem fail_receives {s : Step} (failure : ActionFailure) (f : Findings) :
    Receives s f (s.fail failure) f where
  same := ⟨rfl, rfl, rfl, rfl⟩
  generation_eq := rfl
  next_eq := rfl
  pending_eq := rfl
  hostId_eq := rfl
  undecided := by simp [fail]
  unfinished := by
    intro _
    simp only [fail]
    split <;> simp
  success := by simp [fail]

theorem applyInstall_receives (s : Step) (c : Component) (n : Nat) (outcome : Outcome)
    (f : Findings) :
    Receives s f (s.applyInstall c n outcome f).1 (s.applyInstall c n outcome f).2 := by
  cases outcome with
  | connected addresses dist => exact fail_receives _ f
  | exited output =>
      rw [applyInstall]
      split
      · exact ⟨⟨rfl, rfl, rfl, rfl⟩, rfl, rfl, rfl, rfl, by simp, by simp, by simp⟩
      · exact fail_receives _ f
  | unanswered failure => exact fail_receives _ f
  | failed failure => exact fail_receives _ f

theorem verdict_state_ne_finished (scope : ProbeScope) (statuses : List ComponentStatus)
    (flags : Flags) : (Probe.verdict scope statuses flags).state ≠ .finished := by
  rw [Probe.verdict]
  split
  · dsimp only
    split <;> simp
  · simp

theorem success_of_verdict_next {scope : ProbeScope} {statuses : List ComponentStatus}
    {flags : Flags} (h : (Probe.verdict scope statuses flags).next = some .confirm) :
    flags.success = true := by
  rw [Probe.verdict] at h
  split at h
  · simp only [Probe.following] at h
    split at h
    · assumption
    · cases scope <;> simp at h
  · simp at h

theorem probe_apply_hostId (t : Resources) (target : ProbeTarget) (output : String)
    (f : Findings) : (Probe.apply t target output f).2.host.id = f.host.id := by
  cases target <;> rfl

theorem applyProbe_receives (t : Resources) {s : Step} (hs : s.completed = false)
    (scope : ProbeScope) (target : ProbeTarget) (outcome : Outcome) (f : Findings) :
    Receives s f (applyProbe t s scope target outcome f).1
      (applyProbe t s scope target outcome f).2 := by
  rw [applyProbe]
  dsimp only
  split
  · exact ⟨⟨rfl, rfl, rfl, rfl⟩, rfl, rfl, rfl, probe_apply_hostId t target _ f,
      by simp [noteStatuses], by simp [noteStatuses, hs], by simp [noteStatuses, hs]⟩
  · exact ⟨⟨rfl, rfl, rfl, rfl⟩, rfl, rfl, rfl, probe_apply_hostId t target _ f,
      by simp [conclude], fun _ => verdict_state_ne_finished _ _ _,
      fun _ hnext => success_of_verdict_next hnext⟩

theorem applyProbe_completed (t : Resources) {s : Step} (hs : s.completed = false)
    (scope : ProbeScope) (target : ProbeTarget) (outcome : Outcome) (f : Findings) :
    (applyProbe t s scope target outcome f).1.completed = s.pending.isEmpty := by
  rw [applyProbe]
  dsimp only
  split
  · rename_i hpending
    have hpending' : s.pending.isEmpty = false := by
      simpa [hasPending, noteStatuses] using hpending
    rw [hpending']
    exact hs
  · rename_i hpending
    have hpending' : s.pending.isEmpty = true := by
      simpa [hasPending, noteStatuses] using hpending
    rw [hpending']
    rfl

def without (s : Step) (key : ActionKey) : Step := { s with pending := s.pending.erase key }

theorem complete_connect (t : Resources) {s : Step} (hkind : s.kind = .connect)
    (hkey : .connect ∈ s.pending) (outcome : Outcome) (f : Findings) :
    s.complete t .connect outcome f =
      ⟨((s.without .connect).applyConnect outcome f).1,
        ((s.without .connect).applyConnect outcome f).2,
        ((s.without .connect).applyConnect outcome f).1.completed⟩ := by
  simp [complete, hkind, hkey, without]

theorem complete_probe (t : Resources) {s : Step} {scope : ProbeScope} {target : ProbeTarget}
    (hkind : s.kind = .probe scope) (hkey : .probe target ∈ s.pending) (outcome : Outcome)
    (f : Findings) :
    s.complete t (.probe target) outcome f =
      ⟨(applyProbe t (s.without (.probe target)) scope target outcome f).1,
        (applyProbe t (s.without (.probe target)) scope target outcome f).2,
        (applyProbe t (s.without (.probe target)) scope target outcome f).1.completed⟩ := by
  simp [complete, hkind, hkey, without]

theorem complete_install (t : Resources) {s : Step} {c d : Component} {n : Nat}
    (hkind : s.kind = .install c n) (hkey : .install d ∈ s.pending) (outcome : Outcome)
    (f : Findings) :
    s.complete t (.install d) outcome f =
      ⟨((s.without (.install d)).applyInstall c n outcome f).1,
        ((s.without (.install d)).applyInstall c n outcome f).2,
        ((s.without (.install d)).applyInstall c n outcome f).1.completed⟩ := by
  simp [complete, hkind, hkey, without]

theorem erase_of_sublist_singleton {keys : List ActionKey} {key other : ActionKey}
    (hkeys : keys.Sublist [other]) (hmem : key ∈ keys) : key = other ∧ keys.erase key = [] := by
  have hother : key = other := List.mem_singleton.mp (hkeys.subset hmem)
  refine ⟨hother, ?_⟩
  rcases List.sublist_singleton.mp hkeys with hnil | hone
  · rw [hnil] at hmem
    simp at hmem
  · rw [hone, hother]
    simp

/-- What a step is that waits for an action. Only probes can wait for another one besides. -/
inductive Awaits (s : Step) : ActionKey → Prop
  | connect (kind_eq : s.kind = .connect) (last : s.pending.erase .connect = []) :
      Awaits s .connect
  | probe {scope : ProbeScope} {target : ProbeTarget} (kind_eq : s.kind = .probe scope)
      (listed : target ∈ scope.targets) : Awaits s (.probe target)
  | install {c : Component} {n : Nat} (kind_eq : s.kind = .install c n)
      (last : s.pending.erase (.install c) = []) : Awaits s (.install c)

theorem awaits_of_pending {s : Step} {key : ActionKey} (hkey : key ∈ s.pending)
    (hkeys : s.pending.Sublist s.kind.keys) : s.Awaits key := by
  cases hkind : s.kind with
  | connect =>
      rw [hkind] at hkeys
      obtain ⟨rfl, hnil⟩ := erase_of_sublist_singleton hkeys hkey
      exact .connect hkind hnil
  | probe scope =>
      rw [hkind] at hkeys
      obtain ⟨target, htarget, rfl⟩ := List.mem_map.mp (hkeys.subset hkey)
      exact .probe hkind htarget
  | install c n =>
      rw [hkind] at hkeys
      obtain ⟨rfl, hnil⟩ := erase_of_sublist_singleton hkeys hkey
      exact .install hkind hnil
  | confirm =>
      rw [hkind] at hkeys
      cases hkeys.subset hkey

/-- A step that waits for a result receives it, and is completed if it waits for no other one. -/
theorem complete_spec (t : Resources) {s : Step} {key : ActionKey} (outcome : Outcome)
    (f : Findings) (hkey : key ∈ s.pending) (hkeys : s.pending.Sublist s.kind.keys)
    (hs : s.completed = false) :
    Receives (s.without key) f (s.complete t key outcome f).step
        (s.complete t key outcome f).findings ∧
      (s.complete t key outcome f).completed = (s.complete t key outcome f).step.completed ∧
      (s.complete t key outcome f).completed = (s.pending.erase key).isEmpty := by
  cases awaits_of_pending hkey hkeys with
  | connect hkind hnil =>
      have hkind' : (s.without .connect).kind = .connect := hkind
      rw [complete_connect t hkind hkey, hnil]
      exact ⟨applyConnect_receives hkind' outcome f, rfl, applyConnect_completed _ outcome f⟩
  | @probe scope target hkind =>
      have hs' : (s.without (.probe target)).completed = false := hs
      rw [complete_probe t hkind hkey]
      exact ⟨applyProbe_receives t hs' scope target outcome f, rfl,
        applyProbe_completed t hs' scope target outcome f⟩
  | @install c n hkind hnil =>
      rw [complete_install t hkind hkey, hnil]
      exact ⟨applyInstall_receives _ c n outcome f, rfl, applyInstall_completed _ c n outcome f⟩

theorem applyConnect_entered (s : Step) (outcome : Outcome) (f : Findings) :
    (s.applyConnect outcome f).1.entered = s.entered := by
  cases outcome <;> rfl

theorem applyProbe_entered (t : Resources) (s : Step) (scope : ProbeScope)
    (target : ProbeTarget) (outcome : Outcome) (f : Findings) :
    (applyProbe t s scope target outcome f).1.entered = s.entered := by
  rw [applyProbe]
  dsimp only
  split <;> rfl

theorem applyInstall_entered (s : Step) (c : Component) (n : Nat) (outcome : Outcome)
    (f : Findings) : (s.applyInstall c n outcome f).1.entered = s.entered := by
  cases outcome with
  | exited output =>
      rw [applyInstall]
      split <;> rfl
  | _ => rfl

theorem complete_entered (t : Resources) (s : Step) (key : ActionKey) (outcome : Outcome)
    (f : Findings) : (s.complete t key outcome f).step.entered = s.entered := by
  rw [complete]
  split
  · dsimp only
    split
    · exact applyConnect_entered _ outcome f
    · exact applyProbe_entered t _ _ _ outcome f
    · exact applyInstall_entered _ _ _ outcome f
    · rfl
  · rfl

/-- Probes and installs find out about the versions of a host and remember the methods; everything
else is found out by connecting. -/
theorem complete_host (t : Resources) {s : Step} (hkind : s.kind ≠ .connect) (key : ActionKey)
    (outcome : Outcome) (f : Findings) :
    ∃ versions installMethods probed, (s.complete t key outcome f).findings.host =
      { f.host with versions := versions, installMethods := installMethods, probed := probed } := by
  rw [complete]
  split
  · dsimp only
    split
    · rename_i hconnect _
      exact absurd hconnect hkind
    · rename_i scope target _ _
      rw [applyProbe]
      dsimp only
      cases target <;> split <;> exact ⟨_, _, _, rfl⟩
    · cases outcome with
      | exited output =>
          rw [applyInstall]
          split <;> exact ⟨_, _, _, rfl⟩
      | _ => exact ⟨_, _, _, rfl⟩
    · exact ⟨_, _, _, rfl⟩
  · exact ⟨_, _, _, rfl⟩

theorem applyConnect_connectivity (s : Step) (outcome : Outcome) (f : Findings) :
    (s.applyConnect outcome f).2.host.connectivity = outcome.connectivity := by
  cases outcome <;> rfl

theorem complete_connectivity (t : Resources) {s : Step} {key : ActionKey} (outcome : Outcome)
    (f : Findings) (hkey : key ∈ s.pending) (hkeys : s.pending.Sublist s.kind.keys) :
    (s.complete t key outcome f).findings.host.connectivity =
      if key = .connect then outcome.connectivity else f.host.connectivity := by
  have hmem : key ∈ s.kind.keys := hkeys.subset hkey
  by_cases hkind : s.kind = .connect
  · rw [hkind] at hmem
    obtain rfl := List.mem_singleton.mp hmem
    rw [complete_connect t hkind hkey, if_pos rfl]
    exact applyConnect_connectivity _ outcome f
  · have hother : key ≠ .connect := by
      rintro rfl
      exact hkind (StepKind.eq_connect hmem)
    obtain ⟨versions, installMethods, probed, heq⟩ := complete_host t hkind key outcome f
    rw [heq, if_neg hother]

theorem connectivity_of_decided (t : Resources) {s : Step} {key : ActionKey}
    (outcome : Outcome) (f : Findings) (hkind : s.kind = .connect) (hkey : key ∈ s.pending)
    (hkeys : s.pending.Sublist s.kind.keys)
    (hdecided : (s.complete t key outcome f).step.nextKind ≠ none) :
    (s.complete t key outcome f).findings.host.connectivity = .connected := by
  rw [hkind] at hkeys
  obtain ⟨rfl, -⟩ := erase_of_sublist_singleton hkeys hkey
  rw [complete_connect t hkind hkey] at hdecided ⊢
  cases outcome with
  | connected addresses dist => rfl
  | _ => exact absurd rfl hdecided

end Step

end ClusterSetup

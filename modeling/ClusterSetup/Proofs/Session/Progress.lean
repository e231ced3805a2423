import ClusterSetup.Proofs.Session.Histories
import ClusterSetup.Proofs.Step.Progress

namespace ClusterSetup

theorem Step.chosen_coherent {s : Step} {c : Component} (h : s.Coherent)
    (hoffers : s.offersInstall c = true) (method : Nat) : (s.chosen c method).Coherent := by
  have hcompleted := Desk.completed_of_offersInstall hoffers
  rw [offersInstall] at hoffers
  split at hoffers
  · rename_i scope hkind
    rw [Coherent, hkind] at h
    have hprogress := StepKind.eq_of_completed_probe h hcompleted
    simp only [progress, Progress.mk.injEq] at hprogress
    obtain ⟨hentered, -, hwaits, hfailure, -⟩ := hprogress
    have hafter : (s.chosen c method).progress = { completed := true, decided := true } := by
      rw [progress, Progress.mk.injEq]
      exact ⟨hentered, hcompleted, hwaits, hfailure, rfl⟩
    rw [Coherent, hafter]
    change s.kind.progress? .installMethodChosen = _
    rw [hkind]
    rfl
  · cases hoffers

namespace Session

/-- All that is stored of the steps agrees with their states, unless the session was canceled. -/
def Coherent (s : Session) : Prop := s.canceled = false → ∀ step ∈ s.steps, step.Coherent

theorem Coherent.keeps {d d' : Desk} (hvalid : d.session.Valid) (h : d.session.Coherent)
    (hchange : Desk.Change d d') : d'.session.Coherent := by
  intro hlive
  cases hchange with
  | credentials _ => exact h hlive
  | attempt _ _ => exact h hlive
  | join _ _ _ => exact h hlive
  | cancel active =>
      obtain ⟨cluster, membership, heq⟩ := Desk.cancel_eq active
      rw [heq] at hlive
      cases hlive
  | @start s g g' step active current live idle entry =>
      cases entry with
      | started runs commanded took => exact forall_mem_set (h hlive) (Step.working_coherent runs)
  | ask active current live idle kind_eq lacks =>
      exact forall_mem_set (h hlive) (Step.awaiting_coherent kind_eq)
  | @fail s g step c n active current live idle kind_eq lacks none =>
      have hkind : step.reset.kind = .connect ∨ ∃ c n, step.reset.kind = .install c n :=
        .inr ⟨c, n, kind_eq⟩
      exact forall_mem_set (h hlive) (Step.fail_coherent hkind rfl rfl (Step.unsupported c n))
  | finish active current live idle kind_eq =>
      exact forall_mem_set (h hlive) (Step.finished_coherent kind_eq)
  | @choose s g step c method active current live offers listed =>
      have hstep := h hlive step (List.mem_of_getElem? current)
      have hchosen : (step.chosen c method).Coherent := Step.chosen_coherent hstep offers method
      exact forall_mem_attach (t := step.chosen c method) (h hlive) (fun _ => hchosen)
        fun _ _ => Step.new_coherent _ _ _
  | @go s g step n active current completed next =>
      have hstep := h hlive step (List.mem_of_getElem? current)
      exact forall_mem_set (h hlive) (Step.proceed_coherent hstep)
  | back active current idle previous => exact h hlive
  | answer advance =>
      have hsame := (advance?_answered advance).same
      rw [hsame] at hlive ⊢
      exact h hlive
  | discard canceled arrived =>
      rw [canceled] at hlive
      cases hlive
  | @absorb s g result rest step step' f active arrived current ticket pending applied =>
      have hkeys := (hvalid.placed.arena.sound current).pending_sublist
      have hstep := h hlive step (List.mem_of_getElem? current)
      have hafter :=
        Step.complete_coherent s.resources result.outcome s.findings pending hkeys hstep
      rw [applied] at hafter
      exact forall_mem_set (h hlive) hafter
  | @complete s g result rest step step' f active arrived current ticket pending applied =>
      have hkeys := (hvalid.placed.arena.sound current).pending_sublist
      have hstep := h hlive step (List.mem_of_getElem? current)
      have hafter :=
        Step.complete_coherent s.resources result.outcome s.findings pending hkeys hstep
      rw [applied] at hafter
      exact forall_mem_attach (t := step') (h hlive) (fun _ => hafter)
        fun _ _ => Step.new_coherent _ _ _

theorem Reachable.coherent {s : Session} (h : Reachable s) : s.Coherent := by
  obtain ⟨host, resources, policy, options, credentials, hlater⟩ := h
  refine (hlater.induct Coherent.keeps (new_valid host resources policy options credentials) ?_).1
  intro _ step hstep
  rw [List.mem_singleton.mp hstep]
  exact Step.new_coherent _ _ _

theorem Valid.next_isSome_iff {s : Session} (h : s.Valid) {step : Step} (hstep : step ∈ s.steps) :
    step.next.isSome = true ↔ step.nextKind.isSome = true := by
  obtain ⟨i, hi⟩ := List.mem_iff_getElem?.mp hstep
  obtain ⟨hundecided, hfollows⟩ := h.placed.arena.linked hi
  rcases Option.eq_none_or_eq_some step.next with hnone | ⟨n, hn⟩
  · simp [hnone, hundecided hnone]
  · obtain ⟨-, t, -, -, hkind⟩ := hfollows n hn
    simp [hn, hkind]

/-- In a session that is not canceled a step is in a state of its kind, and the state tells whether
the step waits for results, is completed, has failed, and has a link to a following step. -/
theorem fields_agree_with_state {s : Session} (h : Reachable s) (hlive : s.canceled = false)
    {step : Step} (hstep : step ∈ s.steps) :
    step.state ∈ step.kind.states ∧
    (step.pending ≠ [] ↔ step.state ∈ [.connecting, .probing, .installing]) ∧
    (step.completed = true ↔ step.entered = true ∧ step.pending = [] ∧
      ¬ ((∃ c n, step.kind = .install c n) ∧ step.state = .installMethodChosen)) ∧
    (step.failure.isSome = true ↔ step.state ∈ [.connectFailed, .installFailed]) ∧
    (step.next.isSome = true ↔
      step.state ∈ [.connected, .upToDate, .upgradeAvailable, .installOk, .proceeding] ∨
        step.state = .installMethodChosen ∧ ∃ scope, step.kind = .probe scope) := by
  have hcoherent : step.kind.progress? step.state = some step.progress :=
    h.coherent hlive step hstep
  have hwaits : step.progress.waits = true ↔ step.pending ≠ [] := by
    simp [Step.progress, Step.hasPending]
  have hidle : step.progress.waits = false ↔ step.pending = [] := by
    simp [Step.progress, Step.hasPending]
  refine ⟨?_, ?_, ?_, StepKind.failed_iff hcoherent, ?_⟩
  · rw [StepKind.mem_states_iff, hcoherent]
    rfl
  · exact hwaits.symm.trans (StepKind.waits_iff hcoherent)
  · rw [← hidle]
    exact StepKind.completed_iff hcoherent
  · rw [h.valid.next_isSome_iff hstep]
    exact StepKind.decided_iff hcoherent

theorem fields_agree_with_state_sample :
    ∃ step ∈ (lackingPlayed 5).steps, (lackingPlayed 5).canceled = false ∧
      step.state = .needsInstall ∧ step.state ∈ step.kind.states ∧ step.pending = [] ∧
      step.completed = true ∧ step.failure = none ∧ step.next = none := by
  have hlive : (lackingPlayed 5).canceled = false := by decide
  have hfirst : (lackingPlayed 5).steps.map (fun step => (step.kind, step.state, step.entered)) =
      [(.probe .all, .needsInstall, true)] := by decide
  obtain ⟨step, hsteps, hfields⟩ := List.map_eq_singleton_iff.mp hfirst
  have hstep : step ∈ (lackingPlayed 5).steps := by
    rw [hsteps]
    exact List.mem_singleton_self step
  obtain ⟨hkind, hstate, hentered⟩ : step.kind = .probe .all ∧ step.state = .needsInstall ∧
      step.entered = true := by simpa using hfields
  obtain ⟨hmem, hpending, hcompleted, hfailure, hnext⟩ :=
    fields_agree_with_state (lackingPlayed_reachable 5) hlive hstep
  have hidle : step.pending = [] := by
    by_contra hne
    simpa [hstate] using hpending.mp hne
  refine ⟨step, hstep, hlive, hstate, hmem, hidle, ?_, ?_, ?_⟩
  · exact hcompleted.mpr ⟨hentered, hidle, by simp [hkind]⟩
  · simpa [hstate] using hfailure
  · simpa [hstate] using hnext

end Session

end ClusterSetup

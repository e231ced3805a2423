import ClusterSetup.CommandLine.Program
import ClusterSetup.Proofs.Session.Calls

namespace ClusterSetup

open Relation (ReflTransGen)

namespace Desk

/-- The install that a turn of a run starts: the step that the turn makes is one of an install. -/
def startedByTurn (d : Desk) : Option (Component × Nat) :=
  d.turn.2.session.steps[d.session.steps.length]?.bind fun step =>
    match step.kind with
    | .install c n => some (c, n)
    | _ => none

end Desk

namespace Session

/-- All that a run needs for starting an install on its own. -/
structure Warrants (s : Session) (c : Component) (n : Nat) : Prop where
  wanted : s.policy.installs c = true
  lacking : s.flags.get c = false
  reported : ∃ step scope status, s.steps[s.current]? = some step ∧ step.kind = .probe scope ∧
    step.completed = true ∧ step.components.get c = some status ∧
    (status.state = .needsInstall ∨ status.state = .upgradeAvailable)
  default : ∃ m, (s.methods c).default? = some m ∧ m.index = n

theorem Plans.warrants {s : Session} {step : Step} {c : Component} {n : Nat}
    (h : s.Plans step c n) (hstep : s.steps[s.current]? = some step) : s.Warrants c n := by
  obtain ⟨scope, status, hkind, hcompleted, hget, hstate⟩ :=
    Step.reported_of_offersInstall h.offers
  exact ⟨h.wanted, h.lacking, ⟨step, scope, status, hstep, hkind, hcompleted, hget, hstate⟩,
    h.default⟩

/-- How often a run has started an install of a component, according to a log. -/
def automaticInstalls (log : List (Desk × Move)) (c : Component) : Nat :=
  log.countP fun entry =>
    match entry.2 with
    | .turn => entry.1.startedByTurn.any (·.1 == c)
    | _ => false

theorem automaticInstalls_snoc (log : List (Desk × Move)) (d : Desk) (m : Move) (c : Component) :
    automaticInstalls (log ++ [(d, m)]) c = automaticInstalls log c ∨
      m = .turn ∧ (∃ n, d.startedByTurn = some (c, n)) ∧
        automaticInstalls (log ++ [(d, m)]) c = automaticInstalls log c + 1 := by
  rw [automaticInstalls, List.countP_append]
  cases m with
  | turn =>
      rcases Option.eq_none_or_eq_some d.startedByTurn with hnone | ⟨⟨e, n⟩, hstarted⟩
      · exact .inl (by simp [hnone, automaticInstalls])
      · by_cases he : e = c
        · subst he
          exact .inr ⟨rfl, ⟨n, hstarted⟩, by simp [hstarted, automaticInstalls]⟩
        · exact .inl (by simp [hstarted, he, automaticInstalls])
  | _ => exact .inl (by simp [automaticInstalls])

end Session

namespace Desk

theorem Entering.length_eq {s : Session} {g : Guards} {step : Step} {entered : Entered} {d : Desk}
    (h : Entering s g step entered d) : d.session.steps.length = s.steps.length := by
  rw [h.session_eq]
  exact List.length_set

theorem Choosing.made {s : Session} {g : Guards} {step : Step} {c : Component} {n : Nat} {d : Desk}
    (h : Choosing s g step c n d) : d.session.attempts = s.attempts ∧
      ∃ u, d.session.steps[s.steps.length]? = some u ∧ u.kind = .install c n := by
  obtain ⟨entered, entering⟩ := h.entering
  obtain ⟨-, -, hkind, -⟩ := entering.entry.rerun
  have hlength := (List.getElem?_eq_some_iff.mp entering.current).1
  rw [entering.session_eq]
  exact ⟨rfl, _, List.getElem?_set_self hlength, hkind⟩

section Turn

variable {s : Session} (g : Guards) {step : Step} (hstep : s.steps[s.current]? = some step)
include hstep

theorem startedByTurn_spec {c : Component} {n : Nat} (h : startedByTurn ⟨s, g⟩ = some (c, n)) :
    s.Plans step c n ∧ (turn ⟨s, g⟩).2.session.attempts = (s.counted c).attempts := by
  have hturned := turn_spec g hstep
  rw [startedByTurn] at h
  generalize (turn ⟨s, g⟩).2 = d at hturned h ⊢
  generalize (turn ⟨s, g⟩).1 = result at hturned
  obtain ⟨u, hu, hkind⟩ := Option.bind_eq_some_iff.mp h
  dsimp only at hu
  -- Where no step is added there is none at the place behind the last one.
  have hadded : s.steps.length < d.session.steps.length := (List.getElem?_eq_some_iff.mp hu).1
  cases hturned with
  | installs active entered last plans choosing =>
      obtain ⟨hattempts, v, hv, hinstall⟩ := choosing.made
      rw [show d.session.steps[s.steps.length]? = some v from hv, Option.some.injEq] at hu
      subst hu
      rw [hinstall] at hkind
      cases hkind
      exact ⟨plans, hattempts⟩
  | asks _ _ _ entering => exact absurd hadded (Nat.not_lt_of_le (Nat.le_of_eq entering.length_eq))
  | enters _ _ _ _ entering =>
      exact absurd hadded (Nat.not_lt_of_le (Nat.le_of_eq entering.length_eq))
  | goes _ _ _ _ => exact absurd hadded (Nat.not_lt_of_le (Nat.le_of_eq List.length_set))
  | _ => exact absurd hadded (Nat.lt_irrefl _)

theorem turn_calls (h : s.Reachable) :
    ∃ made, (turn ⟨s, g⟩).2.session.calls = s.calls ++ made ∧ ∀ call ∈ made, ∀ c n,
      call.Installs c n → startedByTurn ⟨s, g⟩ = some (c, n) := by
  have hturned := turn_spec g hstep
  rw [startedByTurn]
  generalize (turn ⟨s, g⟩).2 = d at hturned ⊢
  generalize (turn ⟨s, g⟩).1 = result at hturned
  have hfresh : ∀ {entered : Entered}, step.entered = false → Entering s g step entered d →
      ∃ made, d.session.calls = s.calls ++ made ∧
        ∀ call ∈ made, ∀ c n, ¬ call.Installs c n := by
    intro entered hfresh entering
    refine ⟨entered.firstCalls, by rw [entering.session_eq], ?_⟩
    intro call hcall c n hinstalls
    obtain ⟨hkind, -⟩ := entering.sent (h.valid.placed.arena.id_eq hstep) hcall hinstalls
    have hentered := h.installs_entered _ step hstep c n hkind
    rw [hfresh] at hentered
    cases hentered
  cases hturned with
  | asks _ fresh _ entering =>
      obtain ⟨made, hmade, hnone⟩ := hfresh fresh entering
      exact ⟨made, hmade, fun call hcall c n hinstalls => absurd hinstalls (hnone call hcall c n)⟩
  | enters _ fresh _ _ entering =>
      obtain ⟨made, hmade, hnone⟩ := hfresh fresh entering
      exact ⟨made, hmade, fun call hcall c n hinstalls => absurd hinstalls (hnone call hcall c n)⟩
  | installs active entered last plans choosing =>
      obtain ⟨-, v, hv, hinstall⟩ := choosing.made
      obtain ⟨entered', entering⟩ := choosing.entering
      refine ⟨entered'.firstCalls, by rw [entering.session_eq]; rfl, ?_⟩
      intro call hcall c n hinstalls
      obtain ⟨hkind, -⟩ := entering.sent rfl hcall hinstalls
      cases hkind
      rw [show d.session.steps[s.steps.length]? = some v from hv]
      simp [hinstall]
  | _ => exact ⟨[], (List.append_nil _).symm, fun _ hcall => (nomatch hcall)⟩

end Turn

end Desk

namespace Desk

theorem Change.policy_kept {d d' : Desk} (h : Change d d') :
    d'.session.policy = d.session.policy ∧
      ∀ c, d.session.attempts.get c ≤ d'.session.attempts.get c := by
  cases h with
  | attempt active c =>
      refine ⟨rfl, ?_⟩
      intro e
      rw [PerComponent.get_set]
      split
      · rename_i heq
        rw [heq]
        exact Nat.le_succ _
      · exact Nat.le_refl _
  | cancel active =>
      obtain ⟨cluster, membership, heq⟩ := cancel_eq active
      rw [heq]
      exact ⟨rfl, fun _ => Nat.le_refl _⟩
  | answer advance =>
      rw [(Session.advance?_answered advance).same]
      exact ⟨rfl, fun _ => Nat.le_refl _⟩
  | _ => exact ⟨rfl, fun _ => Nat.le_refl _⟩

theorem Moves.policy_kept {d d' : Desk} (h : Moves d d') (hvalid : d.session.Valid) :
    d'.session.policy = d.session.policy ∧
      ∀ c, d.session.attempts.get c ≤ d'.session.attempts.get c := by
  have hchanges := h.changes hvalid
  clear h
  induction hchanges with
  | refl => exact ⟨rfl, fun _ => Nat.le_refl _⟩
  | tail _ hchange ih =>
      obtain ⟨hpolicy, hattempts⟩ := hchange.policy_kept
      exact ⟨hpolicy.trans ih.1, fun c => Nat.le_trans (ih.2 c) (hattempts c)⟩

end Desk

namespace Session

/-- A session has counted all the installs that its runs have started, and never let one start
when as many had been started as its policy allows. -/
theorem Recorded.automaticInstalls_le {log : List (Desk × Move)} {s : Session}
    (h : Recorded log s) (c : Component) :
    automaticInstalls log c ≤ s.attempts.get c ∧
      automaticInstalls log c ≤ s.policy.maxInstallAttempts := by
  -- The attempts carry the induction: every start counts one, and none is forgotten.
  refine h.induct (P := fun log s => automaticInstalls log c ≤ s.attempts.get c ∧
      automaticInstalls log c ≤ s.policy.maxInstallAttempts) ?_ ?_
  · intro host resources policy options credentials
    exact ⟨Nat.zero_le _, Nat.zero_le _⟩
  · intro log s g m hlog ⟨hcounted, hbounded⟩
    have hvalid := hlog.reachable.valid
    obtain ⟨hpolicy, hattempts⟩ := Desk.Moves.policy_kept ⟨m, rfl⟩ hvalid (d := ⟨s, g⟩)
    rw [hpolicy]
    rcases automaticInstalls_snoc log ⟨s, g⟩ m c with hsame | ⟨rfl, ⟨n, hstarted⟩, hmore⟩
    · rw [hsame]
      exact ⟨Nat.le_trans hcounted (hattempts c), hbounded⟩
    · obtain ⟨step, hstep⟩ := hvalid.placed.current
      obtain ⟨hplans, hcount⟩ := Desk.startedByTurn_spec g hstep hstarted
      have hleft := hplans.left
      have hnow : (Move.turn.perform ⟨s, g⟩).session.attempts.get c = s.attempts.get c + 1 := by
        rw [Move.perform, hcount, counted, PerComponent.get_set, if_pos rfl]
      rw [hmore, hnow]
      dsimp only
      omega

theorem Recorded.policy_of_mem {log : List (Desk × Move)} {s : Session} (h : Recorded log s)
    {entry : Desk × Move} (hentry : entry ∈ log) : entry.1.session.policy = s.policy := by
  refine h.induct (P := fun log s => ∀ entry ∈ log, entry.1.session.policy = s.policy) ?_ ?_
    entry hentry
  · intro host resources policy options credentials entry hentry
    cases hentry
  · intro log s g m hlog ih entry hentry
    obtain ⟨hpolicy, -⟩ :=
      Desk.Moves.policy_kept ⟨m, rfl⟩ hlog.reachable.valid (d := ⟨s, g⟩)
    rw [hpolicy]
    rcases List.mem_append.mp hentry with hold | hnew
    · exact ih entry hold
    · rw [List.mem_singleton.mp hnew]

/-- A run makes turns and hears of results, and only a turn that starts an install sends its
command. -/
theorem runs_calls {s : Session} (h : s.Reachable) (g : Guards) {m : Move} (hm : m.Runs) :
    ∃ made, (m.perform ⟨s, g⟩).session.calls = s.calls ++ made ∧ ∀ call ∈ made, ∀ c n,
      call.Installs c n → m = .turn ∧ Desk.startedByTurn ⟨s, g⟩ = some (c, n) := by
  cases hm with
  | turn =>
      obtain ⟨step, hstep⟩ := h.valid.placed.current
      obtain ⟨made, hmade, hstarted⟩ := Desk.turn_calls g hstep h
      exact ⟨made, hmade, fun call hcall c n hinstalls => ⟨rfl, hstarted call hcall c n hinstalls⟩⟩
  | hears hhears =>
      obtain ⟨made, hmade, hsent⟩ := Desk.perform_calls h g m
      refine ⟨made, hmade, ?_⟩
      intro call hcall c n hinstalls
      exact absurd hhears (hsent call hcall c n hinstalls).1

theorem run_sends_no_install {s : Session} (h : s.Reachable)
    (hpolicy : ∀ c, s.policy.installs c = false) {σ : Type} (remote : Remote σ) (memory : σ)
    (g : Guards) : ∃ made,
      (Desk.run remote memory ⟨s, g⟩).2.2.2.session.calls = s.calls ++ made ∧
        ∀ call ∈ made, ∀ c n, ¬ call.Installs c n := by
  have hruns := Desk.runFor_runs remote (Desk.turnLimit s) 0 memory ⟨s, g⟩
  rw [← Desk.run.eq_1 remote memory ⟨s, g⟩] at hruns
  generalize (Desk.run remote memory ⟨s, g⟩).2.2.2 = d at hruns
  suffices hall : d.session.Reachable ∧ d.session.policy = s.policy ∧ ∃ made,
      d.session.calls = s.calls ++ made ∧ ∀ call ∈ made, ∀ c n, ¬ call.Installs c n from
    hall.2.2
  induction hruns with
  | refl => exact ⟨h, rfl, [], (List.append_nil _).symm, fun _ hcall => (nomatch hcall)⟩
  | @tail b _ _ hmove ih =>
      obtain ⟨hreachable, hsame, made, hmade, hnone⟩ := ih
      obtain ⟨m, hm, rfl⟩ := hmove
      obtain ⟨hkept, -⟩ := Desk.Moves.policy_kept (d := b) ⟨m, rfl⟩ hreachable.valid
      obtain ⟨step, hstep⟩ := hreachable.valid.placed.current
      obtain ⟨more, hmore, hsent⟩ := runs_calls hreachable b.guards hm
      refine ⟨hreachable.later (.single ⟨b.guards, _, .move m b⟩), hkept.trans hsame,
        made ++ more, by rw [hmore, hmade, List.append_assoc], ?_⟩
      intro call hcall c n hinstalls
      rcases List.mem_append.mp hcall with hold | hnew
      · exact hnone call hold c n hinstalls
      · obtain ⟨-, hstarted⟩ := hsent call hnew c n hinstalls
        have hwanted := (Desk.startedByTurn_spec b.guards hstep hstarted).1.wanted
        rw [hsame, hpolicy c] at hwanted
        cases hwanted

/-- Over the whole life of a session its runs start no more installs of a component than its policy
allows, each of them warranted at that moment, and the commands of installs that they send are
those of these installs. A run under the policy of a check sends none. -/
theorem automatic_installs_bounded {log : List (Desk × Move)} {s : Session} (h : Recorded log s) :
    (∀ (σ : Type) (remote : Remote σ) (memory : σ) (g : Guards), ∃ more,
      (∀ entry ∈ more, entry.2.Runs) ∧
        Recorded (log ++ more) (Desk.run remote memory ⟨s, g⟩).2.2.2.session) ∧
    (∀ c, automaticInstalls log c ≤ s.policy.maxInstallAttempts) ∧
    (∀ entry ∈ log, entry.1.session.policy = s.policy ∧
      (entry.2 = .turn → ∀ c n, entry.1.startedByTurn = some (c, n) →
        entry.1.session.Warrants c n) ∧
      (entry.2.Runs → ∃ made,
        (entry.2.perform entry.1).session.calls = entry.1.session.calls ++ made ∧
          ∀ call ∈ made, ∀ c n, call.Installs c n →
            entry.2 = .turn ∧ entry.1.startedByTurn = some (c, n))) ∧
    ∀ (o : CommandLine.Options) (config : Config), s.policy = CommandLine.policyFor o config false →
      ∀ (σ : Type) (remote : Remote σ) (memory : σ) (g : Guards), ∃ made,
        (Desk.run remote memory ⟨s, g⟩).2.2.2.session.calls = s.calls ++ made ∧
          ∀ call ∈ made, ∀ c n, ¬ call.Installs c n := by
  refine ⟨?_, fun c => (h.automaticInstalls_le c).2, ?_, ?_⟩
  · intro σ remote memory g
    obtain ⟨host, resources, policy, options, credentials, hlog⟩ := h
    obtain ⟨more, hkind, hmore⟩ :=
      hlog.append_moves (Desk.runFor_runs remote (Desk.turnLimit s) 0 memory ⟨s, g⟩)
    exact ⟨more, hkind, host, resources, policy, options, credentials, hmore⟩
  · intro entry hentry
    have hreachable := h.of_mem hentry
    obtain ⟨step, hstep⟩ := hreachable.valid.placed.current
    refine ⟨h.policy_of_mem hentry, ?_, runs_calls hreachable entry.1.guards⟩
    intro _ c n hstarted
    exact (Desk.startedByTurn_spec entry.1.guards hstep hstarted).1.warrants hstep
  · intro o config hpolicy σ remote memory g
    refine run_sends_no_install h.reachable ?_ remote memory g
    intro c
    rw [hpolicy]
    cases c <;> rfl

def unattendedLog : List (Desk × Move) :=
  Desk.logAll ⟨{ lackingSample with policy := .unattended }, .empty⟩ (lackingMoves ++ [.turn])

theorem automatic_installs_bounded_sample :
    automaticInstalls unattendedLog .drbd = 1 ∧ ∃ s, Recorded unattendedLog s ∧
      automaticInstalls unattendedLog .drbd ≤ s.policy.maxInstallAttempts ∧
      ∃ entry ∈ unattendedLog, entry.1.session.Warrants .drbd 1 := by
  have hlog : ∃ s, Recorded unattendedLog s :=
    ⟨_, _, _, .unattended, _, _,
      Logged.performAll (d := ⟨_, .empty⟩) .nil (lackingMoves ++ [.turn])⟩
  obtain ⟨s, hs⟩ := hlog
  obtain ⟨-, hbounded, hentries, -⟩ := automatic_installs_bounded hs
  have hturn : ∃ entry ∈ unattendedLog, entry.2 = .turn ∧
      entry.1.startedByTurn = some (.drbd, 1) := by
    exact ⟨unattendedLog.get ⟨5, by decide +kernel⟩, List.get_mem _ _, rfl, by decide +kernel⟩
  obtain ⟨entry, hentry, hmove, hstarted⟩ := hturn
  exact ⟨by decide +kernel, s, hs, hbounded .drbd, entry, hentry,
    (hentries entry hentry).2.1 hmove .drbd 1 hstarted⟩

end Session

end ClusterSetup

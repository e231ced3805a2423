import ClusterSetup.Proofs.Methods
import ClusterSetup.Proofs.Session.Cancellation
import ClusterSetup.Proofs.Session.Termination

namespace ClusterSetup

open Relation (ReflTransGen)

namespace Session

/-- A refusal that comes from a guard of the session's own host that is held. -/
def FindsBusy (s : Session) (g : Guards) (e : Refusal) : Prop :=
  ∃ c, e = .componentBusy s.host.id c ∧ g.isBusy s.host.id c = true

theorem FindsBusy.of_held {s : Session} {g : Guards} {c : Component}
    (h : (⟨s.host.id, c⟩ : Guard) ∈ g.held) : s.FindsBusy g (.componentBusy s.host.id c) :=
  ⟨c, rfl, Guards.mem_held_iff_isBusy.mpr h⟩

theorem Plans.findsBusy {s : Session} {g : Guards} {step : Step} {c : Component} {method : Nat}
    {e : Refusal} (hplans : s.Plans step c method) (hlive : step.canceled = false)
    (h : Desk.InstallRefusal (s.counted c) g step c method e) : s.FindsBusy g e := by
  obtain ⟨m, hm, rfl⟩ := hplans.default
  obtain ⟨hnonempty, hlisted⟩ := MethodChoice.lists_default hm
  cases h with
  | noMethod empty =>
      have hempty : (s.methods c).isEmpty = true := empty
      rw [hnonempty] at hempty
      cases hempty
  | unavailable unlisted =>
      have hnone : (s.methods c).find? m.index = none := unlisted
      rw [hnone] at hlisted
      cases hlisted
  | canceled canceled =>
      rw [hlive] at canceled
      cases canceled
  | notOffered offers =>
      rw [hplans.offers] at offers
      cases offers
  | busy d _ held => exact .of_held held

end Session

namespace Desk

theorem findsBusy_of_turn {s : Session} (h : s.Reachable) {g : Guards} {e : Refusal}
    {paused : Bool} {d : Desk} (hturn : turn ⟨s, g⟩ = (.stop (.refused e) paused, d)) :
    s.FindsBusy g e := by
  obtain ⟨step, hstep⟩ := h.valid.placed.current
  have hturned := turn_spec g hstep
  rw [hturn] at hturned
  have hlive : s.Active → step.canceled = false := fun hactive =>
    (h.valid.awaited hactive.live).waits.live hstep
  cases hturned with
  | ended _ plain => exact absurd rfl (plain e)
  | rests _ _ _ asked => exact absurd rfl (asked e)
  | notEntered active fresh refused =>
      have hcoherent := h.coherent active.live step (List.mem_of_getElem? hstep)
      have hidle : step.pending = [] := by
        by_contra hpending
        rw [(hcoherent.of_pending hpending).2.1] at fresh
        cases fresh
      obtain ⟨c, rfl, held⟩ := refused.of_idle (hlive active) hidle
      exact .of_held held
  | notInstalled active _ plans refused => exact plans.findsBusy (hlive active) refused

theorem MovesBy.later {kind : Move → Prop} {d d' : Desk} (h : ReflTransGen (MovesBy kind) d d') :
    Session.Later d.session d'.session := by
  induction h with
  | refl => exact .refl
  | @tail e e' _ hmove ih =>
      obtain ⟨m, -, rfl⟩ := hmove
      exact ih.tail (.of_desk (.move m e))

/-- A run that stops has come to a turn that stops it, and leaves the session as that turn did. -/
theorem last_turn_of_stopped {σ : Type} (remote : Remote σ) {fuel pauses : Nat} {memory : σ}
    {d : Desk} {reason : RunStop} (h : (runFor remote fuel pauses memory d).1 = .stopped reason) :
    ∃ e paused, ReflTransGen (MovesBy Move.Runs) d e ∧
      turn e = (.stop reason paused, (runFor remote fuel pauses memory d).2.2.2) := by
  induction fuel generalizing pauses memory d with
  | zero => cases h
  | succ fuel ih =>
      have hmove : MovesBy Move.Runs d d.turn.2 := ⟨.turn, .turn, rfl⟩
      rcases hturn : turn d with ⟨_ | _ | _, d'⟩
      · rename_i stopped paused
        rw [runFor_of_stop hturn] at h ⊢
        cases h
        exact ⟨d, paused, .refl, hturn⟩
      · rw [hturn] at hmove
        have hsettle := settleFor_hears remote d'.session.inFlight memory d'
        rcases hsettled : settle remote memory d' with ⟨_ | _, memory', d''⟩
        · rw [← settle, hsettled] at hsettle
          rw [runFor_of_settled hturn hsettled] at h ⊢
          obtain ⟨e, paused, hruns, hlast⟩ := ih h
          have hheard : ReflTransGen (MovesBy Move.Runs) d' d'' :=
            ReflTransGen.mono (fun _ _ h => h.mono .hears) _ _ hsettle
          exact ⟨e, paused, .head hmove (hheard.trans hruns), hlast⟩
        · rw [runFor_of_silent hturn hsettled] at h
          cases h
      · rename_i paused
        rw [hturn] at hmove
        rw [runFor_of_goOn hturn] at h ⊢
        obtain ⟨e, paused', hruns, hlast⟩ := ih h
        exact ⟨e, paused', .head hmove hruns, hlast⟩

theorem turn_of_stopped {σ : Type} (remote : Remote σ) {fuel pauses : Nat} {memory : σ} {d : Desk}
    {reason : RunStop} (h : (runFor remote fuel pauses memory d).1 = .stopped reason) :
    ∃ e paused d', ReflTransGen (MovesBy Move.Runs) d e ∧
      turn e = (.stop reason paused, d') := by
  obtain ⟨e, paused, hruns, hturn⟩ := last_turn_of_stopped remote h
  exact ⟨e, paused, _, hruns, hturn⟩

end Desk

namespace Desk

/-- An operation never says that a component is busy. -/
def NeverBusy {α : Type} (operation : Operation α) (d : Desk) : Prop :=
  ∀ host c, (operation d).1 ≠ .error (.componentBusy host c)

/-- No operation says that a component is busy, and no run is stopped by a refusal. -/
structure Unhindered (d : Desk) : Prop where
  enter : NeverBusy Desk.enter d
  retry : NeverBusy Desk.retry d
  next : NeverBusy Desk.next d
  previous : NeverBusy Desk.previous d
  chooseInstall : ∀ c method, NeverBusy (Desk.chooseInstall c method) d
  setCredentials : ∀ credentials, NeverBusy (Desk.setCredentials credentials) d
  join : ∀ cluster, NeverBusy (Desk.join cluster) d
  run : ∀ (σ : Type) (remote : Remote σ) (memory : σ) e,
    (Desk.run remote memory d).1 ≠ .stopped (.refused e)

/-- No one else has used the guards since the session was new. -/
def Alone (d : Desk) : Prop :=
  ∃ (host : Host) (resources : Resources) (policy : Policy) (options : SessionOptions)
    (credentials : Option VendorCredentials),
    Later ⟨.new host resources policy options credentials, .empty⟩ d

theorem Later.session {d d' : Desk} (h : Later d d') : Session.Later d.session d'.session := by
  induction h with
  | refl => exact .refl
  | tail _ hbecomes ih => exact ih.tail (.of_desk hbecomes)

theorem Alone.reachable {d : Desk} (h : Alone d) : d.session.Reachable := by
  obtain ⟨host, resources, policy, options, credentials, hlater⟩ := h
  exact ⟨host, resources, policy, options, credentials, hlater.session⟩

theorem Alone.balanced {d : Desk} (h : Alone d) : Balanced [] d := by
  obtain ⟨host, resources, policy, options, credentials, hlater⟩ := h
  have hvalid := Session.new_valid host resources policy options credentials
  exact (hlater.balanced hvalid ⟨.refl _, List.nodup_nil⟩).1

theorem Alone.runs {d e : Desk} (h : Alone d) (hruns : ReflTransGen (MovesBy Move.Runs) d e) :
    Alone e := by
  induction hruns with
  | refl => exact h
  | tail _ hmove ih =>
      obtain ⟨m, -, rfl⟩ := hmove
      obtain ⟨host, resources, policy, options, credentials, hlater⟩ := ih
      exact ⟨host, resources, policy, options, credentials, hlater.tail (.move m _)⟩

theorem Atomic.neverBusy {α : Type} {operation : Operation α} {reasons : Refusal → Prop}
    {s : Session} {g : Guards} (h : Atomic operation (OverOr s reasons) ⟨s, g⟩)
    (hreasons : s.Active → ∀ host c, ¬ reasons (.componentBusy host c)) :
    NeverBusy operation ⟨s, g⟩ := by
  intro host c hbusy
  obtain ⟨hactive, hreason⟩ := (h.of_error hbusy).1.resolve nofun nofun
  exact hreasons hactive host c hreason

section Alone

variable {s : Session} {g : Guards} {step : Step} (h : Alone ⟨s, g⟩)
include h

theorem Alone.held_eq_nil (hlive : s.canceled = false) (hstep : s.steps[s.current]? = some step)
    (hidle : step.pending = []) : g.held = [] := by
  have hcharges := (h.reachable.valid.awaited hlive).charges_eq_nil hstep hidle
  have hheld := h.balanced.held_perm
  rw [Session.heldGuards, hcharges] at hheld
  exact hheld.eq_nil

theorem Alone.enters (hlive : s.canceled = false) (hstep : s.steps[s.current]? = some step)
    {ctx : EnterContext} (host : HostId) (c : Component) :
    ¬ step.EntryRefusal ctx g (.componentBusy host c) := by
  rintro ⟨⟩
  rename_i hidle hheld
  rw [h.held_eq_nil hlive hstep hidle] at hheld
  cases hheld

theorem Alone.installs (hlive : s.canceled = false) (hstep : s.steps[s.current]? = some step)
    {t : Session} {c : Component} {method : Nat} (host : HostId) (d : Component) :
    ¬ InstallRefusal t g step c method (.componentBusy host d) := by
  rintro ⟨⟩
  rename_i hoffers hheld
  have hsound := h.reachable.valid.placed.arena.sound hstep
  rw [h.held_eq_nil hlive hstep (hsound.idle (completed_of_offersInstall hoffers))] at hheld
  cases hheld

theorem Alone.not_refused (e : Refusal) (paused : Bool) (d : Desk) :
    turn ⟨s, g⟩ ≠ (.stop (.refused e) paused, d) := by
  intro hturn
  obtain ⟨step, hstep⟩ := h.reachable.valid.placed.current
  obtain ⟨c, rfl, -⟩ := findsBusy_of_turn h.reachable hturn
  have hturned := turn_spec g hstep
  rw [hturn] at hturned
  cases hturned with
  | ended _ plain => exact plain _ rfl
  | rests _ _ _ asked => exact asked _ rfl
  | notEntered active _ refused => exact h.enters active.live hstep _ c refused
  | notInstalled active _ _ refused => exact h.installs active.live hstep _ c refused

end Alone

theorem Alone.unhindered {d : Desk} (h : Alone d) : Unhindered d := by
  obtain ⟨s, g⟩ := d
  obtain ⟨step, hstep⟩ := h.reachable.valid.placed.current
  have henter : s.Active → ∀ host c, ¬ step.EntryRefusal s.enterContext g (.componentBusy host c) :=
    fun hactive => h.enters hactive.live hstep
  refine ⟨?_, ?_, ?_, ?_, ?_, ?_, ?_, ?_⟩
  · exact (enter_atomic hstep).neverBusy henter
  · refine (retry_atomic hstep).neverBusy fun hactive host c => ?_
    rintro ⟨⟩
    rename_i hreason
    exact henter hactive host c (hreason.resolve nofun nofun).2
  · exact (next_atomic hstep).neverBusy fun _ _ _ => nofun
  · exact (previous_atomic hstep).neverBusy fun _ _ _ => nofun
  · intro c method
    exact (chooseInstall_atomic c method hstep).neverBusy fun hactive =>
      h.installs hactive.live hstep
  · intro credentials host c hbusy
    rcases setCredentials_spec (g := g) credentials hstep with
      ⟨e, hreason, heq⟩ | ⟨outcome, d, heq, -⟩
    · rw [heq] at hbusy
      cases hbusy
      obtain ⟨hactive, hreason⟩ := hreason.resolve nofun nofun
      exact h.enters hactive.live hstep host c hreason
    · rw [heq] at hbusy
      cases hbusy
  · intro cluster
    exact (join_atomic s g cluster).neverBusy fun _ _ _ => nofun
  · intro σ remote memory e hrefused
    obtain ⟨last, paused, d', hruns, hturn⟩ := turn_of_stopped remote hrefused
    exact (h.runs hruns).not_refused e paused d' hturn

end Desk

/-- However others use the guards between the rounds of a run, a turn that stops it with a refusal
does so because a component of the session's own host is busy. A session that has its guards for
itself is never told that a component is busy, and its runs are never stopped by a refusal. -/
theorem Session.refused_only_if_busy {s : Session} (h : s.Reachable) :
    (∀ t, ReflTransGen Round s t → ∀ g e paused d,
      Desk.turn ⟨t, g⟩ = (.stop (.refused e) paused, d) →
        t.host.id = s.host.id ∧ t.FindsBusy g e) ∧
    (∀ (σ : Type) (remote : Remote σ) (memory : σ) g e,
      (Desk.run remote memory ⟨s, g⟩).1 = .stopped (.refused e) →
        ∃ c, e = .componentBusy s.host.id c) ∧
    ∀ g, Desk.Alone ⟨s, g⟩ → Desk.Unhindered ⟨s, g⟩ := by
  refine ⟨?_, ?_, fun g => Desk.Alone.unhindered⟩
  · intro t hrounds g e paused d hturn
    have hlater : Later s t := ReflTransGen.mono (fun _ _ => Round.becomes) _ _ hrounds
    exact ⟨hlater.hostId_eq h.valid, Desk.findsBusy_of_turn (h.later hlater) hturn⟩
  · intro σ remote memory g e hrefused
    obtain ⟨last, paused, d, hruns, hturn⟩ := Desk.turn_of_stopped remote hrefused
    have hlater := Desk.MovesBy.later hruns
    obtain ⟨c, rfl, -⟩ := Desk.findsBusy_of_turn (h.later hlater) hturn
    exact ⟨c, by rw [hlater.hostId_eq h.valid]⟩

/-- With one cluster stack held by someone else the first probe is refused, and the run with it;
with the guards to itself it goes through. -/
theorem Session.refused_only_if_busy_sample :
    let held : Guards := ⟨[⟨⟨1⟩, .corosync⟩]⟩
    let remote : Remote Unit := .always (.ok ⟨"8.4", 0⟩)
    (Desk.run remote () ⟨sample, held⟩).1 = .stopped (.refused (.componentBusy ⟨1⟩ .corosync)) ∧
      (∃ c, Refusal.componentBusy ⟨1⟩ .corosync = .componentBusy sample.host.id c) ∧
      Desk.Unhindered ⟨sample, .empty⟩ := by
  intro held remote
  have hrefused : (Desk.run remote () ⟨sample, held⟩).1 =
      .stopped (.refused (.componentBusy ⟨1⟩ .corosync)) := by decide
  obtain ⟨-, hrun, halone⟩ := refused_only_if_busy (samplePlayed_reachable 0)
  exact ⟨hrefused, hrun Unit remote () held _ hrefused, halone .empty ⟨_, _, _, _, _, .refl⟩⟩

end ClusterSetup

import ClusterSetup.Proofs.Session.Histories

namespace ClusterSetup

open Relation (ReflTransGen)

namespace Session

/-- Nothing of a session has changed but its credentials, the calls that were made, and how far the
results have come that are still to be read. -/
def Frozen (c t : Session) : Prop :=
  t = { c with
    credentials := t.credentials
    running := t.running
    arrived := t.arrived
    inFlight := t.inFlight
    calls := t.calls }

theorem Frozen.keeps {c : Session} (hc : c.canceled = true) {d d' : Desk} (h : Frozen c d.session)
    (hchange : Desk.Change d d') : Frozen c d'.session := by
  have hcanceled : d.session.canceled = true := by rw [h]; exact hc
  have hover : ¬ d.session.Active := by
    intro hactive
    rw [hactive.live] at hcanceled
    cases hcanceled
  cases hchange with
  | credentials credentials =>
      exact congrArg (fun s : Session => { s with credentials := some credentials }) h
  | @answer s t g place reply advance =>
      have hsame := (advance?_answered advance).same
      have hcredentials : t.credentials = s.credentials := by rw [hsame]
      have hcount : t.inFlight = s.inFlight := by rw [hsame]
      rw [Frozen, hcredentials, hcount]
      exact hsame.trans (congrArg (fun u : Session =>
        { u with running := t.running, calls := t.calls, arrived := t.arrived }) h)
  | @discard s g result rest canceled arrived =>
      exact congrArg (fun u : Session =>
        { u with arrived := rest, inFlight := s.inFlight - 1 }) h
  | _ active => exact absurd ‹Active _› hover

theorem Later.frozen {c t : Session} (h : Later c t) (hc : c.Valid)
    (hcanceled : c.canceled = true) : Frozen c t ∧ t.Valid :=
  h.induct (fun _ hfrozen hchange => hfrozen.keeps hcanceled hchange) hc rfl

theorem Accounted.charges_eq_nil {s : Session} (h : s.Accounted) (hread : s.inFlight = 0) :
    s.charges = [] := by
  rw [h.inFlight_eq] at hread
  exact List.length_eq_zero_iff.mp hread

end Session

namespace Desk

/-- A desk that another one becomes in the course of time, while no one else touches the guards. -/
def Later : Desk → Desk → Prop := ReflTransGen Becomes

theorem Later.balanced {d d' : Desk} {rest : List Guard} (h : Later d d')
    (hvalid : d.session.Valid) (hd : Balanced rest d) : Balanced rest d' ∧ d'.session.Valid := by
  induction h with
  | refl => exact ⟨hd, hvalid⟩
  | tail _ hbecomes ih =>
      exact hbecomes.induct (fun _ hbalanced hchange => hchange.deals.balanced hbalanced) ih.2 ih.1

theorem whenActive_of_canceled {α : Type} (operation : Operation α) {d : Desk}
    (h : d.session.canceled = true) : whenActive operation d = (.error .sessionCanceled, d) :=
  whenActive_of_refused operation (by rw [Session.checkActive, if_pos h])

theorem run_of_canceled {σ : Type} (remote : Remote σ) (memory : σ) {d : Desk}
    (h : d.session.canceled = true) :
    run remote memory d = (.stopped .canceled, 0, memory, d) := by
  have hturn : turn d = (.stop .canceled false, d) := by
    rw [turn]
    exact if_pos h
  have hlimit : turnLimit d.session ≠ 0 := by
    rw [turnLimit]
    omega
  obtain ⟨fuel, hfuel⟩ := Nat.exists_eq_succ_of_ne_zero hlimit
  rw [run, hfuel, runFor, hturn]
  rfl

end Desk

/-- Every operation on a session is refused because it was canceled, and a run ends at once. -/
structure Session.RefusesAll (t : Session) : Prop where
  enter : ∀ g, Desk.enter ⟨t, g⟩ = (.error .sessionCanceled, ⟨t, g⟩)
  retry : ∀ g, Desk.retry ⟨t, g⟩ = (.error .sessionCanceled, ⟨t, g⟩)
  next : ∀ g, Desk.next ⟨t, g⟩ = (.error .sessionCanceled, ⟨t, g⟩)
  previous : ∀ g, Desk.previous ⟨t, g⟩ = (.error .sessionCanceled, ⟨t, g⟩)
  chooseInstall : ∀ c method g,
    Desk.chooseInstall c method ⟨t, g⟩ = (.error .sessionCanceled, ⟨t, g⟩)
  join : ∀ cluster g, Desk.join cluster ⟨t, g⟩ = (.error .sessionCanceled, ⟨t, g⟩)
  run : ∀ (σ : Type) (remote : Remote σ) (memory : σ) g,
    Desk.run remote memory ⟨t, g⟩ = (.stopped .canceled, 0, memory, ⟨t, g⟩)

theorem Session.refusesAll_of_canceled {t : Session} (h : t.canceled = true) : t.RefusesAll where
  enter _ := Desk.whenActive_of_canceled _ h
  retry _ := Desk.whenActive_of_canceled _ h
  next _ := Desk.whenActive_of_canceled _ h
  previous _ := Desk.whenActive_of_canceled _ h
  chooseInstall _ _ _ := Desk.whenActive_of_canceled _ h
  join _ _ := Desk.whenActive_of_canceled _ h
  run _ remote memory _ := Desk.run_of_canceled remote memory h

/-- Once an active session is canceled, whatever is done with it and whatever results still come,
what was found out about the host stays as it was before, the steps and the events stay as the
cancelation left them, and every operation is refused. When all results were read it holds no
guard, and only those are held that were held by others. -/
theorem Session.cancel_freezes {s : Session} (h : s.Reachable) (hactive : s.Active) (g : Guards) :
    ∃ c, Desk.cancel ⟨s, g⟩ = ⟨c, g⟩ ∧
      (∀ t, Later c t →
        (t.flags = s.flags ∧ t.host.versions = s.host.versions ∧ t.host.dist = s.host.dist ∧
          t.host.connectivity = s.host.connectivity ∧
          t.host.installMethods = s.host.installMethods) ∧
        (t.steps = c.steps ∧ t.current = c.current ∧ t.cluster = c.cluster ∧
          t.events = c.events) ∧
        t.RefusesAll ∧ (t.inFlight = 0 → t.outstanding = [] ∧ t.heldGuards = [])) ∧
      ∀ rest d, Desk.Balanced rest ⟨s, g⟩ → Desk.Later ⟨c, g⟩ d → d.session.inFlight = 0 →
        d.guards.held.Perm rest := by
  obtain ⟨cluster, membership, heq⟩ := Desk.cancel_eq (d := ⟨s, g⟩) hactive
  have hcancel : Desk.cancel ⟨s, g⟩ = ⟨(Desk.cancel ⟨s, g⟩).session, g⟩ := by rw [heq]
  generalize (Desk.cancel ⟨s, g⟩).session = c at hcancel
  have hchange : Desk.Change ⟨s, g⟩ ⟨c, g⟩ := hcancel ▸ .cancel hactive
  have hvalid : c.Valid := hchange.valid h.valid
  rw [hcancel] at heq
  have hc := congrArg Desk.session heq
  dsimp only at hc
  have hcanceled : c.canceled = true := by rw [hc]
  refine ⟨c, hcancel, ?_, ?_⟩
  · intro t hlater
    obtain ⟨hfrozen, hvalid'⟩ := hlater.frozen hvalid hcanceled
    have hover : t.canceled = true := by
      rw [hfrozen]
      exact hcanceled
    have hhost : t.host = { s.host with cluster := membership } := by
      rw [hfrozen, hc]
    refine ⟨⟨?_, ?_, ?_, ?_, ?_⟩, ⟨?_, ?_, ?_, ?_⟩, refusesAll_of_canceled hover, ?_⟩
    · rw [hfrozen, hc]
    · rw [hhost]
    · rw [hhost]
    · rw [hhost]
    · rw [hhost]
    · rw [hfrozen]
    · rw [hfrozen]
    · rw [hfrozen]
    · rw [hfrozen]
    · intro hread
      have hnone := hvalid'.accounted.charges_eq_nil hread
      constructor
      · rw [outstanding, hnone, List.map_nil]
      · rw [heldGuards, hnone, List.flatMap_nil]
  · intro rest d hbalanced hlater hread
    have hafter := hchange.deals.balanced hbalanced
    obtain ⟨hbalanced', hvalid'⟩ := hlater.balanced hvalid hafter
    have hheld := hbalanced'.held_perm
    rw [heldGuards, hvalid'.accounted.charges_eq_nil hread] at hheld
    exact hheld

theorem Session.cancel_freezes_sample :
    (samplePlayed 1).Active ∧ ∃ c, Desk.cancel ⟨samplePlayed 1, .empty⟩ = ⟨c, .empty⟩ ∧
      c.flags = (samplePlayed 1).flags ∧ c.inFlight = 2 ∧ c.RefusesAll := by
  have hactive : (samplePlayed 1).Active := ⟨by decide +kernel, by decide +kernel⟩
  obtain ⟨c, hcancel, hfrozen, -⟩ := cancel_freezes (samplePlayed_reachable 1) hactive .empty
  obtain ⟨⟨hflags, -⟩, -, hrefuses, -⟩ := hfrozen c .refl
  have hcount : (Desk.cancel ⟨samplePlayed 1, .empty⟩).session.inFlight = 2 := by decide +kernel
  rw [hcancel] at hcount
  exact ⟨hactive, c, hcancel, hflags, hcount, hrefuses⟩

end ClusterSetup

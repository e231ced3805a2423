import ClusterSetup.Proofs.Session.Placement

namespace ClusterSetup

theorem addHost_host {cluster joined : Cluster} {host host' : Host} {added : Bool}
    (h : cluster.addHost host = .ok (added, joined, host')) :
    host' = { host with cluster := some cluster.name } := by
  rw [Cluster.addHost] at h
  split at h
  · split at h
    · cases h
      rfl
    · cases h
  · cases h
    rfl

namespace Desk

/-- What becomes of the outstanding actions and of the guards. -/
inductive Deals (d d' : Desk) : Prop
  | keeps (charges_perm : d'.session.charges.Perm d.session.charges)
      (inFlight_eq : d'.session.inFlight = d.session.inFlight) (guards_eq : d'.guards = d.guards)
  | takes (tickets : List Ticket)
      (charges_perm : d'.session.charges.Perm
        (tickets.map (fun t => (t, t.key.guards d.session.host.id)) ++ d.session.charges))
      (inFlight_eq : d'.session.inFlight = d.session.inFlight + tickets.length)
      (took : Guards.Took d.guards (tickets.flatMap (·.key.guards d.session.host.id)) d'.guards)
  | returns (charge : Ticket × List Guard)
      (charges_perm : d.session.charges.Perm (charge :: d'.session.charges))
      (inFlight_eq : d'.session.inFlight = d.session.inFlight - 1)
      (guards_eq : d'.guards = d.guards.releaseAll charge.2)

theorem Change.hostId_eq {d d' : Desk} (h : d.session.Placed) (hchange : Change d d') :
    d'.session.host.id = d.session.host.id := by
  cases hchange with
  | join active held add => rw [addHost_host add]
  | cancel active =>
      obtain ⟨cluster, membership, heq⟩ := cancel_eq active
      rw [heq]
  | answer advance =>
      have hsame := (Session.advance?_answered advance).same
      rw [hsame]
  | absorb active arrived current ticket pending applied =>
      obtain ⟨hreads, -⟩ := h.reads current pending applied
      exact hreads.hostId_eq
  | complete active arrived current ticket pending applied =>
      obtain ⟨hreads, -⟩ := h.reads current pending applied
      exact hreads.hostId_eq
  | _ => rfl

theorem Change.deals {d d' : Desk} (hchange : Change d d') : Deals d d' := by
  cases hchange with
  | cancel active =>
      obtain ⟨cluster, membership, heq⟩ := cancel_eq active
      rw [heq]
      exact .keeps (.refl _) rfl rfl
  | @start s g g' step active current live idle entry =>
      cases entry with
      | started runs commanded took =>
          let tickets := step.kind.keys.map (⟨step.id, step.generation + 1, ·⟩ : _ → Ticket)
          refine .takes tickets ?_ ?_ ?_
          · have hstarted : (step.kind.keys.map (step.reset.actionFor s.enterContext)).map
                (fun a => (a.ticket, a.guards)) =
                tickets.map fun t => (t, t.key.guards s.host.id) := by
              rw [List.map_map, List.map_map]
              rfl
            simp only [Session.charges]
            rw [List.map_append, hstarted]
            rw [← List.append_assoc]
            exact List.perm_append_comm.append_right _
          · simp [tickets]
          · rw [List.flatMap_map]
            exact took
  | answer advance =>
      obtain ⟨hsame, hperm⟩ := Session.advance?_answered advance
      refine .keeps hperm ?_ rfl
      rw [hsame]
  | discard canceled arrived =>
      exact .returns _ (Session.charges_of_arrived arrived rfl rfl) rfl rfl
  | absorb active arrived current ticket pending applied =>
      exact .returns _ (Session.charges_of_arrived arrived rfl rfl) rfl rfl
  | complete active arrived current ticket pending applied =>
      exact .returns _ (Session.charges_of_arrived arrived rfl rfl) rfl rfl
  | _ => exact .keeps (.refl _) rfl rfl

theorem Deals.accounted {d d' : Desk} (hdeals : Deals d d') (h : d.session.Accounted)
    (hhost : d'.session.host.id = d.session.host.id) : d'.session.Accounted := by
  cases hdeals with
  | keeps charges_perm inFlight_eq guards_eq =>
      constructor
      · rw [inFlight_eq, h.inFlight_eq, charges_perm.length_eq]
      · intro charge hcharge
        rw [hhost]
        exact h.guarded charge (charges_perm.subset hcharge)
  | takes tickets charges_perm inFlight_eq took =>
      constructor
      · rw [inFlight_eq, h.inFlight_eq, charges_perm.length_eq, List.length_append,
          List.length_map, Nat.add_comm]
      · intro charge hcharge
        rw [hhost]
        rcases List.mem_append.mp (charges_perm.subset hcharge) with hnew | hold
        · obtain ⟨ticket, -, rfl⟩ := List.mem_map.mp hnew
          rfl
        · exact h.guarded charge hold
  | returns charge charges_perm inFlight_eq guards_eq =>
      constructor
      · rw [inFlight_eq, h.inFlight_eq, charges_perm.length_eq, List.length_cons,
          Nat.add_sub_cancel]
      · intro other hother
        rw [hhost]
        exact h.guarded other (charges_perm.symm.subset (List.mem_cons_of_mem charge hother))

/-- The guards that are held are those of a session and the rest, which others hold; no guard is
held twice. -/
structure Balanced (rest : List Guard) (d : Desk) : Prop where
  held_perm : d.guards.held.Perm (d.session.heldGuards ++ rest)
  nodup : d.guards.held.Nodup

theorem Deals.balanced {d d' : Desk} {rest : List Guard} (hdeals : Deals d d')
    (h : Balanced rest d) : Balanced rest d' := by
  cases hdeals with
  | keeps charges_perm inFlight_eq guards_eq =>
      have hheld := (charges_perm.flatMap_right (·.2)).append_right rest
      constructor
      · rw [guards_eq]
        exact h.held_perm.trans hheld.symm
      · rw [guards_eq]
        exact h.nodup
  | takes tickets charges_perm inFlight_eq took =>
      have hheld := (charges_perm.flatMap_right (·.2)).append_right rest
      rw [List.flatMap_append, List.flatMap_map, List.append_assoc] at hheld
      constructor
      · exact took.perm.trans ((h.held_perm.append_left _).trans hheld.symm)
      · exact took.nodup_held h.nodup
  | returns charge charges_perm inFlight_eq guards_eq =>
      have hheld := (charges_perm.flatMap_right (·.2)).append_right rest
      rw [List.flatMap_cons, List.append_assoc] at hheld
      have hbefore := h.held_perm.trans hheld
      have hafter : d'.guards.held.Perm (d'.session.heldGuards ++ rest) := by
        rw [guards_eq]
        exact Guards.held_releaseAll_perm hbefore
      refine ⟨hafter, ?_⟩
      have hnodup := hbefore.nodup_iff.mp h.nodup
      exact hafter.nodup_iff.mpr hnodup.of_append_right

end Desk

end ClusterSetup

import ClusterSetup.Proofs.Guards.Lending
import ClusterSetup.Proofs.Session.Histories

namespace ClusterSetup

open Relation (ReflTransGen)

/-- The sessions that are open, with the guards that they share. -/
structure Office where
  sessions : List Session
  guards : Guards

namespace Session

def actionsOn (s : Session) (host : HostId) (c : Component) : List Ticket :=
  if s.host.id = host then s.outstanding.filter fun t => c ∈ t.key.components else []

end Session

namespace Office

/-- The outstanding actions of all sessions that work on a component of a host. -/
def actionsOn (o : Office) (host : HostId) (c : Component) : List Ticket :=
  o.sessions.flatMap (·.actionsOn host c)

inductive Becomes : Office → Office → Prop
  | opens (o : Office) (host : Host) (resources : Resources) (policy : Policy)
      (options : SessionOptions) (credentials : Option VendorCredentials) :
      Becomes o
        { o with sessions := o.sessions ++ [.new host resources policy options credentials] }
  | acts {o : Office} {i : Nat} {s t : Session} {g : Guards} (session : o.sessions[i]? = some s)
      (becomes : Desk.Becomes ⟨s, o.guards⟩ ⟨t, g⟩) : Becomes o ⟨o.sessions.set i t, g⟩

def Reachable (o : Office) : Prop := ReflTransGen Becomes ⟨[], .empty⟩ o

/-- The guards that are held are those of the sessions, none of them held twice. -/
structure Valid (o : Office) : Prop where
  sessions : ∀ s ∈ o.sessions, s.Valid
  held_perm : o.guards.held.Perm (o.sessions.flatMap (·.heldGuards))
  nodup : o.guards.held.Nodup

end Office

theorem ActionKey.components_nodup (key : ActionKey) : key.components.Nodup := by
  cases key with
  | connect => exact List.nodup_nil
  | probe target => cases target <;> decide
  | install c => exact List.nodup_singleton c

theorem ActionKey.count_guards (key : ActionKey) (id host : HostId) (c : Component) :
    (key.guards id).count ⟨host, c⟩ =
      if id = host ∧ c ∈ key.components then 1 else 0 := by
  have hnodup : (key.guards id).Nodup := by
    refine key.components_nodup.map ?_
    intro a b hab
    exact congrArg Guard.component hab
  rw [hnodup.count]
  have hmem : (⟨host, c⟩ : Guard) ∈ key.guards id ↔
      id = host ∧ c ∈ key.components := by
    rw [guards, Guards.mem_guards_iff, eq_comm]
  simp only [hmem]

theorem Session.Accounted.count_heldGuards {s : Session} (h : s.Accounted) (host : HostId)
    (c : Component) : s.heldGuards.count ⟨host, c⟩ = (s.actionsOn host c).length := by
  have hguarded := h.guarded
  rw [heldGuards, actionsOn, outstanding]
  generalize s.charges = charges at hguarded
  induction charges with
  | nil => simp
  | cons charge charges ih =>
      have hcharge := hguarded charge List.mem_cons_self
      have hrest := ih fun other hother => hguarded other (List.mem_cons_of_mem charge hother)
      rw [List.flatMap_cons, List.count_append, hrest, hcharge, ActionKey.count_guards]
      by_cases hhost : s.host.id = host
      · by_cases hc : c ∈ charge.1.key.components
        · simp [hhost, hc, Nat.add_comm]
        · simp [hhost, hc]
      · simp [hhost]

theorem Desk.Deals.requested {d d' : Desk} (hdeals : Desk.Deals d d')
    (h : ∃ requests, (Lending.performAll {} requests).Balanced d.guards) :
    ∃ requests, (Lending.performAll {} requests).Balanced d'.guards := by
  obtain ⟨requests, hbalanced⟩ := h
  obtain ⟨more, hmore⟩ :
      ∃ more, ((Lending.performAll {} requests).performAll more).Balanced d'.guards := by
    cases hdeals with
    | keeps _ _ guards_eq => exact ⟨[], guards_eq ▸ hbalanced⟩
    | takes _ _ _ took => exact hbalanced.took_by_requests took
    | returns charge _ _ guards_eq => exact guards_eq ▸ hbalanced.released_by_requests charge.2
  exact ⟨requests ++ more, (Lending.performAll_append ..).symm ▸ hmore⟩

namespace Office

theorem Valid.count_held {o : Office} (h : o.Valid) (host : HostId) (c : Component) :
    o.guards.held.count ⟨host, c⟩ = (o.actionsOn host c).length := by
  have hsessions := h.sessions
  rw [h.held_perm.count_eq, actionsOn]
  generalize o.sessions = sessions at hsessions
  induction sessions with
  | nil => rfl
  | cons s sessions ih =>
      have hs := (hsessions s List.mem_cons_self).accounted
      have hrest := ih fun t ht => hsessions t (List.mem_cons_of_mem s ht)
      rw [List.flatMap_cons, List.flatMap_cons, List.count_append, List.length_append, hrest,
        hs.count_heldGuards]

theorem Valid.busy_iff {o : Office} (h : o.Valid) (host : HostId) (c : Component) :
    (o.guards.isBusy host c = true ↔ (o.actionsOn host c).length = 1) ∧
      (o.actionsOn host c).length ≤ 1 := by
  rw [← h.count_held host c, Guards.mem_held_iff_isBusy, ← List.count_pos_iff]
  have hle := List.nodup_iff_count_le_one.mp h.nodup ⟨host, c⟩
  refine ⟨?_, hle⟩
  omega

/-- What one session does keeps the guards of the others in their places. -/
theorem Valid.becomes {o o' : Office} (h : o.Valid) (hbecomes : Becomes o o') : o'.Valid := by
  cases hbecomes with
  | opens host resources policy options credentials =>
      refine ⟨?_, ?_, h.nodup⟩
      · intro s hs
        rcases List.mem_append.mp hs with hold | hnew
        · exact h.sessions s hold
        · rw [List.mem_singleton.mp hnew]
          exact Session.new_valid host resources policy options credentials
      · have hnone :
            (Session.new host resources policy options credentials).heldGuards = [] := rfl
        rw [List.flatMap_append, List.flatMap_singleton, hnone, List.append_nil]
        exact h.held_perm
  | @acts i s t g session becomes =>
      obtain ⟨hi, rfl⟩ := List.getElem?_eq_some_iff.mp session
      let rest := (o.sessions.eraseIdx i).flatMap (·.heldGuards)
      have hsplit := (List.getElem_cons_eraseIdx_perm hi).flatMap_right (·.heldGuards)
      have hbefore : Desk.Balanced rest ⟨o.sessions[i], o.guards⟩ :=
        ⟨h.held_perm.trans hsplit.symm, h.nodup⟩
      obtain ⟨hafter, hvalid⟩ := becomes.induct
        (fun _ hbalanced hchange => hchange.deals.balanced hbalanced)
        (h.sessions _ (List.getElem_mem hi)) hbefore
      have hjoin := (List.set_perm_cons_eraseIdx hi t).flatMap_right (·.heldGuards)
      refine ⟨?_, hafter.held_perm.trans hjoin.symm, hafter.nodup⟩
      intro u hu
      rcases List.mem_or_eq_of_mem_set hu with hold | rfl
      · exact h.sessions u hold
      · exact hvalid

theorem Reachable.valid {o : Office} (h : o.Reachable) : o.Valid := by
  induction h with
  | refl => exact ⟨fun s hs => (nomatch hs), .refl _, List.nodup_nil⟩
  | tail _ hbecomes ih => exact ih.becomes hbecomes

theorem Reachable.requested {o : Office} (h : o.Reachable) :
    ∃ requests, (Lending.performAll {} requests).Balanced o.guards := by
  induction h with
  | refl => exact ⟨[], .empty⟩
  | @tail o o' hbefore hbecomes ih =>
      cases hbecomes with
      | opens => exact ih
      | @acts i s t g session becomes =>
          have hs := (Reachable.valid hbefore).sessions s (List.mem_of_getElem? session)
          exact (becomes.induct
            (P := fun d => ∃ requests, (Lending.performAll {} requests).Balanced d.guards)
            (fun _ hrequested hchange => hchange.deals.requested hrequested) hs ih).1

/-- Where an office has come to, its guards have come to by requests at a table of locks. A
component of a host is busy there if and only if one outstanding action works on it, and there are
never two. -/
theorem busy_iff_one_action {o : Office} (h : o.Reachable) :
    (∃ requests, (Lending.performAll {} requests).table.Represents o.guards) ∧
    ∀ t : LockTable, t.Represents o.guards → ∀ host c,
      t.isBusy host c = o.guards.isBusy host c ∧
      (t.isBusy host c = true ↔ (o.actionsOn host c).length = 1) ∧
      (o.actionsOn host c).length ≤ 1 := by
  obtain ⟨requests, hbalanced⟩ := h.requested
  refine ⟨⟨requests, hbalanced.represents⟩, fun t ht host c => ?_⟩
  obtain ⟨hbusy, hone⟩ := h.valid.busy_iff host c
  rw [ht.isBusy_eq]
  exact ⟨rfl, hbusy, hone⟩

def sample : Office :=
  ⟨[Session.samplePlayed 1, Session.sample], (Desk.enter ⟨Session.sample, .empty⟩).2.guards⟩

theorem sample_reachable : sample.Reachable := by
  have hfirst : Becomes ⟨[], .empty⟩ ⟨[Session.sample], .empty⟩ := .opens _ _ _ _ _ _
  have hsecond : Becomes ⟨[Session.sample], .empty⟩
      ⟨[Session.sample, Session.sample], .empty⟩ := .opens _ _ _ _ _ _
  have hentered : Becomes ⟨[Session.sample, Session.sample], .empty⟩ sample :=
    .acts (i := 0) rfl (.move .enter ⟨Session.sample, .empty⟩)
  exact .tail (.tail (.single hfirst) hsecond) hentered

theorem busy_iff_one_action_sample :
    sample.guards.isBusy ⟨1⟩ .drbd = true ∧ (sample.actionsOn ⟨1⟩ .drbd).length = 1 ∧
      ∃ t : LockTable, t.Represents sample.guards ∧ t.isBusy ⟨1⟩ .drbd = true := by
  obtain ⟨⟨requests, hrequested⟩, hbusy⟩ := busy_iff_one_action sample_reachable
  obtain ⟨hsame, hone, -⟩ := hbusy _ hrequested ⟨1⟩ .drbd
  have htaken : sample.guards.isBusy ⟨1⟩ .drbd = true := by decide +kernel
  rw [htaken] at hsame
  exact ⟨htaken, hone.mp hsame, _, hrequested, hsame⟩

end Office

end ClusterSetup

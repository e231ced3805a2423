import ClusterSetup.Proofs.Step.Reporting

namespace ClusterSetup

theorem PerComponent.set_comm {α : Type} (t : PerComponent α) {c d : Component} (h : c ≠ d)
    (a b : α) : (t.set c a).set d b = (t.set d b).set c a := by
  apply ext_get
  intro e
  simp only [get_set]
  split
  · rename_i hd
    rw [if_neg fun hc => h (hc.symm.trans hd)]
  · rfl

namespace Probe

variable (t : Resources) (target : ProbeTarget) (output : String)

theorem apply_dist (f : Findings) : (apply t target output f).2.host.dist = f.host.dist := by
  cases target <;> rfl

theorem apply_statuses {f f' : Findings} (h : f'.host.dist = f.host.dist) :
    (apply t target output f').1 = (apply t target output f).1 := by
  cases target <;> simp only [apply, applyStorage, applyStack, h]

theorem apply_comm {p q : ProbeTarget} (h : p ≠ q) (op oq : String) (f : Findings) :
    (apply t q oq (apply t p op f).2).2 = (apply t p op (apply t q oq f).2).2 := by
  cases p with
  | storage =>
      cases q with
      | storage => exact absurd rfl h
      | clusterStack => rfl
  | clusterStack =>
      cases q with
      | storage => rfl
      | clusterStack => exact absurd rfl h

end Probe

theorem ProbeTarget.components_disjoint {p q : ProbeTarget} (h : p ≠ q) {c : Component}
    (hp : c ∈ p.components) : c ∉ q.components := by
  cases p <;> cases q <;> cases c <;> simp_all [components]

namespace Step

theorem noteStatuses_cons (s : Step) (status : ComponentStatus) (statuses : List ComponentStatus) :
    s.noteStatuses (status :: statuses) = (s.noteStatuses [status]).noteStatuses statuses := rfl

theorem noteStatuses_comm_singleton {x : ComponentStatus} {ys : List ComponentStatus}
    (h : ∀ y ∈ ys, x.component ≠ y.component) (s : Step) :
    (s.noteStatuses [x]).noteStatuses ys = (s.noteStatuses ys).noteStatuses [x] := by
  induction ys generalizing s with
  | nil => rfl
  | cons y ys ih =>
      have hswap :
          (s.noteStatuses [x]).noteStatuses [y] = (s.noteStatuses [y]).noteStatuses [x] := by
        have hset := s.components.set_comm (h y List.mem_cons_self) (some x) (some y)
        simp only [noteStatuses, List.foldl_cons, List.foldl_nil, hset]
      rw [noteStatuses_cons _ y, hswap, ih fun z hz => h z (List.mem_cons_of_mem y hz)]
      rfl

theorem noteStatuses_comm {xs ys : List ComponentStatus}
    (h : ∀ x ∈ xs, ∀ y ∈ ys, x.component ≠ y.component) (s : Step) :
    (s.noteStatuses xs).noteStatuses ys = (s.noteStatuses ys).noteStatuses xs := by
  induction xs generalizing s with
  | nil => rfl
  | cons x xs ih =>
      rw [noteStatuses_cons, ih fun z hz => h z (List.mem_cons_of_mem x hz),
        noteStatuses_comm_singleton (h x List.mem_cons_self)]
      rfl

section Probes

variable (t : Resources) {s : Step} {scope : ProbeScope} {p q : ProbeTarget}
  (hkind : s.kind = .probe scope)
include hkind

theorem complete_probe_of_more (hp : .probe p ∈ s.pending)
    (hmore : s.pending.erase (.probe p) ≠ []) (outcome : Outcome) (f : Findings) :
    s.complete t (.probe p) outcome f =
      ⟨(s.without (.probe p)).noteStatuses (Probe.apply t p (Probe.answer outcome) f).1,
        (Probe.apply t p (Probe.answer outcome) f).2, s.completed⟩ := by
  rw [complete_probe t hkind hp, applyProbe]
  have hpending : ((s.without (.probe p)).noteStatuses
      (Probe.apply t p (Probe.answer outcome) f).1).hasPending = true := by
    simpa [hasPending, noteStatuses, without] using hmore
  dsimp only
  rw [if_pos hpending]
  rfl

theorem complete_probe_of_last (hp : .probe p ∈ s.pending)
    (hlast : s.pending.erase (.probe p) = []) (outcome : Outcome) (f : Findings) :
    s.complete t (.probe p) outcome f =
      ⟨(((s.without (.probe p)).noteStatuses
          (Probe.apply t p (Probe.answer outcome) f).1).conclude scope
          (Probe.apply t p (Probe.answer outcome) f).2).1,
        (((s.without (.probe p)).noteStatuses
          (Probe.apply t p (Probe.answer outcome) f).1).conclude scope
          (Probe.apply t p (Probe.answer outcome) f).2).2, true⟩ := by
  rw [complete_probe t hkind hp, applyProbe]
  have hidle : ¬ ((s.without (.probe p)).noteStatuses
      (Probe.apply t p (Probe.answer outcome) f).1).hasPending = true := by
    simp [hasPending, noteStatuses, without, hlast]
  dsimp only
  rw [if_neg hidle]
  rfl

end Probes

/-- What the answers of two probes make of a step that waits for no other result. -/
def joined (t : Resources) (s : Step) (scope : ProbeScope) (p q : ProbeTarget)
    (op oq : Outcome) (f : Findings) : Step × Findings :=
  let first := Probe.apply t p (Probe.answer op) f
  let second := Probe.apply t q (Probe.answer oq) first.2
  ((((s.without (.probe p)).noteStatuses first.1).without (.probe q)).noteStatuses
    second.1).conclude scope second.2

theorem joined_comm (t : Resources) (s : Step) (scope : ProbeScope) {p q : ProbeTarget}
    (h : p ≠ q) (op oq : Outcome) (f : Findings) :
    s.joined t scope p q op oq f = s.joined t scope q p oq op f := by
  have hp := Probe.apply_statuses t p (Probe.answer op)
    (Probe.apply_dist t q (Probe.answer oq) f)
  have hq := Probe.apply_statuses t q (Probe.answer oq)
    (Probe.apply_dist t p (Probe.answer op) f)
  have hfindings := Probe.apply_comm t h (Probe.answer op) (Probe.answer oq) f
  have hcomponents : ∀ x ∈ (Probe.apply t p (Probe.answer op) f).1,
      ∀ y ∈ (Probe.apply t q (Probe.answer oq) f).1, x.component ≠ y.component := by
    intro x hx y hy hsame
    have hxp := (Probe.apply_found t p (Probe.answer op) f).components_eq
    have hyq := (Probe.apply_found t q (Probe.answer oq) f).components_eq
    refine ProbeTarget.components_disjoint h (hxp ▸ List.mem_map_of_mem hx) ?_
    rw [← hyq, hsame]
    exact List.mem_map_of_mem hy
  have hwithout : (s.without (.probe p)).without (.probe q) =
      (s.without (.probe q)).without (.probe p) := by
    simp only [without, List.erase_comm]
  have hnoted : ∀ (u : Step) (key : ActionKey) (statuses : List ComponentStatus),
      (u.noteStatuses statuses).without key = (u.without key).noteStatuses statuses :=
    fun _ _ _ => rfl
  rw [joined, joined]
  rw [hp, hq, hfindings, hnoted, hnoted, hwithout, noteStatuses_comm hcomponents]

theorem complete_probes (t : Resources) {s : Step} {scope : ProbeScope} {p q : ProbeTarget}
    (hkind : s.kind = .probe scope) (hne : p ≠ q) (hp : .probe p ∈ s.pending)
    (hq : .probe q ∈ s.pending) (hkeys : s.pending.Sublist s.kind.keys)
    (hopen : s.completed = false) (op oq : Outcome) (f : Findings) :
    ∃ first f', s.complete t (.probe p) op f = ⟨first, f', false⟩ ∧ first.pending ≠ [] ∧
      first.generation = s.generation ∧ first.canceled = s.canceled ∧
      first.complete t (.probe q) oq f' =
        ⟨(s.joined t scope p q op oq f).1, (s.joined t scope p q op oq f).2, true⟩ := by
  have hkey : ActionKey.probe q ≠ .probe p := fun h => hne (ActionKey.probe.inj h).symm
  have hleft : .probe q ∈ s.pending.erase (.probe p) := (List.mem_erase_of_ne hkey).mpr hq
  -- There are no more than two targets, so no probe is left after these two.
  have hnone : (s.pending.erase (.probe p)).erase (.probe q) = [] := by
    have htwo := Nat.le_trans hkeys.length_le s.kind.keys_length_le
    have hfirst := List.length_erase_of_mem hp
    have hsecond := List.length_erase_of_mem hleft
    exact List.length_eq_zero_iff.mp (by omega)
  have hfirst := complete_probe_of_more t hkind hp (List.ne_nil_of_mem hleft) op f
  have hsecond := complete_probe_of_last t
    (s := (s.without (.probe p)).noteStatuses (Probe.apply t p (Probe.answer op) f).1) hkind hleft
    hnone oq (Probe.apply t p (Probe.answer op) f).2
  rw [hopen] at hfirst
  exact ⟨_, _, hfirst, List.ne_nil_of_mem hleft, rfl, rfl, hsecond⟩

end Step

end ClusterSetup

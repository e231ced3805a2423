import Mathlib.Data.List.Nodup
import Mathlib.Logic.Function.Basic
import ClusterSetup.Cluster

namespace ClusterSetup

namespace Cluster

def withHost (c : Cluster) (id : HostId) : Cluster :=
  if c.contains id then c else { c with hosts := c.hosts ++ [id] }

theorem withHost_name (c : Cluster) (id : HostId) : (c.withHost id).name = c.name := by
  rw [withHost]
  split <;> rfl

theorem addHost_cases (c : Cluster) (h : Host) :
    (∃ other, h.cluster = some other ∧ other ≠ c.name ∧ c.addHost h = .error ⟨h.id, other⟩) ∨
      (∀ b, h.cluster = some b → b = c.name) ∧
        c.addHost h =
          .ok (!c.contains h.id, c.withHost h.id, { h with cluster := some c.name }) := by
  rw [addHost]
  split
  · rename_i other hother
    split
    · rename_i hsame
      refine .inr ⟨fun b hb => ?_, rfl⟩
      rwa [hother, Option.some.injEq, hsame, eq_comm] at hb
    · rename_i hdiffer
      exact .inl ⟨other, hother, hdiffer, rfl⟩
  · rename_i hnone
    refine .inr ⟨fun b hb => ?_, rfl⟩
    rw [hnone] at hb
    cases hb

end Cluster

structure Roster (κ η : Type) where
  clusters : κ → Cluster
  hosts : η → Host

namespace Roster

variable {κ η : Type}

/-- Some entry of `b` comes after all entries of `a`. -/
def EnteredBefore (entries : List HostId) (a b : HostId) : Prop :=
  ∃ earlier later, entries = earlier ++ b :: later ∧ a ∈ earlier ∧ a ∉ b :: later

theorem EnteredBefore.ne {entries : List HostId} {a b : HostId} (h : EnteredBefore entries a b) :
    a ≠ b := by
  obtain ⟨-, later, -, -, hlater⟩ := h
  rintro rfl
  exact hlater List.mem_cons_self

theorem EnteredBefore.append {entries : List HostId} {a b : HostId}
    (h : EnteredBefore entries a b) {c : HostId} (hc : a ≠ c) :
    EnteredBefore (entries ++ [c]) a b := by
  obtain ⟨earlier, later, rfl, hearlier, hlater⟩ := h
  refine ⟨earlier, later ++ [c], by simp, hearlier, ?_⟩
  simpa [hc] using hlater

theorem enteredBefore_last {entries : List HostId} {a b : HostId} (ha : a ∈ entries)
    (hne : a ≠ b) : EnteredBefore (entries ++ [b]) a b :=
  ⟨entries, [], rfl, ha, by simpa using hne⟩

/-- Both records of the memberships agree, and the clusters list their hosts by the entries that
there were. -/
structure Consistent (entered : κ → List HostId) (r : Roster κ η) : Prop where
  names : Function.Injective fun k => (r.clusters k).name
  ids : Function.Injective fun j => (r.hosts j).id
  placed : ∀ j name, (r.hosts j).cluster = some name → ∃ k, (r.clusters k).name = name
  mem_iff : ∀ k j, (r.hosts j).id ∈ (r.clusters k).hosts ↔
    (r.hosts j).cluster = some (r.clusters k).name
  known : ∀ k, ∀ id ∈ (r.clusters k).hosts, ∃ j, (r.hosts j).id = id
  mem_entered : ∀ k, ∀ id ∈ (r.clusters k).hosts, id ∈ entered k
  ordered : ∀ k, (r.clusters k).hosts.Pairwise (EnteredBefore (entered k))

namespace Consistent

variable {entered : κ → List HostId} {r : Roster κ η}

theorem of_empty (names : Function.Injective fun k => (r.clusters k).name)
    (ids : Function.Injective fun j => (r.hosts j).id)
    (empty : ∀ k, (r.clusters k).hosts = []) (free : ∀ j, (r.hosts j).cluster = none) :
    r.Consistent fun _ => [] where
  names := names
  ids := ids
  placed j name hname := by
    rw [free j] at hname
    cases hname
  mem_iff k j := by simp [empty k, free j]
  known k id hid := by
    rw [empty k] at hid
    cases hid
  mem_entered k id hid := by
    rw [empty k] at hid
    cases hid
  ordered k := by
    rw [empty k]
    exact List.Pairwise.nil

theorem nodup (h : r.Consistent entered) (k : κ) : (r.clusters k).hosts.Nodup :=
  (h.ordered k).imp EnteredBefore.ne

theorem not_mem_of_none (h : r.Consistent entered) {j : η} (hnone : (r.hosts j).cluster = none)
    (k : κ) : (r.hosts j).id ∉ (r.clusters k).hosts := by
  rw [h.mem_iff, hnone]
  exact nofun

theorem eq_of_mem (h : r.Consistent entered) {k k' : κ} {id : HostId}
    (hk : id ∈ (r.clusters k).hosts) (hk' : id ∈ (r.clusters k').hosts) : k = k' := by
  obtain ⟨j, rfl⟩ := h.known k id hk
  apply h.names
  exact Option.some.inj (((h.mem_iff k j).mp hk).symm.trans ((h.mem_iff k' j).mp hk'))

end Consistent

variable [DecidableEq κ] [DecidableEq η]

def put (r : Roster κ η) (k : κ) (j : η) (c : Cluster) (h : Host) : Roster κ η :=
  ⟨Function.update r.clusters k c, Function.update r.hosts j h⟩

section Put

variable (r : Roster κ η) {k : κ} {j : η} {c : Cluster} {h : Host}

@[simp]
theorem put_clusters_self : (r.put k j c h).clusters k = c := by
  simp [put]

@[simp]
theorem put_clusters_of_ne {i : κ} (hi : i ≠ k) : (r.put k j c h).clusters i = r.clusters i := by
  simp [put, hi]

@[simp]
theorem put_hosts_self : (r.put k j c h).hosts j = h := by
  simp [put]

@[simp]
theorem put_hosts_of_ne {l : η} (hl : l ≠ j) : (r.put k j c h).hosts l = r.hosts l := by
  simp [put, hl]

theorem put_self (k : κ) (j : η) : r.put k j (r.clusters k) (r.hosts j) = r := by
  rw [put, Function.update_eq_self, Function.update_eq_self]

theorem put_name (hname : c.name = (r.clusters k).name) (i : κ) :
    ((r.put k j c h).clusters i).name = (r.clusters i).name := by
  rcases eq_or_ne i k with rfl | hi
  · rw [put_clusters_self, hname]
  · rw [put_clusters_of_ne r hi]

theorem put_id (hid : h.id = (r.hosts j).id) (l : η) :
    ((r.put k j c h).hosts l).id = (r.hosts l).id := by
  rcases eq_or_ne l j with rfl | hl
  · rw [put_hosts_self, hid]
  · rw [put_hosts_of_ne r hl]

end Put

def add (r : Roster κ η) (k : κ) (j : η) : Except AlreadyMember Bool × Roster κ η :=
  match (r.clusters k).addHost (r.hosts j) with
  | .ok (entered, c, h) => (.ok entered, r.put k j c h)
  | .error e => (.error e, r)

def remove (r : Roster κ η) (k : κ) (j : η) : Bool × Roster κ η :=
  let (left, c, h) := (r.clusters k).removeHost (r.hosts j)
  (left, r.put k j c h)

inductive Request (κ η : Type) where
  | add (k : κ) (j : η)
  | remove (k : κ) (j : η)

def perform (r : Roster κ η) : Request κ η → Roster κ η
  | .add k j => (r.add k j).2
  | .remove k j => (r.remove k j).2

def performAll (r : Roster κ η) (requests : List (Request κ η)) : Roster κ η :=
  requests.foldl perform r

/-- The host that enters a cluster by a request, if one does. -/
def entering? (k : κ) (r : Roster κ η) : Request κ η → Option HostId
  | .add k' j =>
    match (r.add k' j).1 with
    | .ok true => if k' = k then some (r.hosts j).id else none
    | _ => none
  | .remove _ _ => none

/-- The hosts that enter a cluster in the course of requests, one entry after the other. -/
def entries (k : κ) : Roster κ η → List (Request κ η) → List HostId
  | _, [] => []
  | r, q :: rest => (entering? k r q).toList ++ entries k (r.perform q) rest

namespace Consistent

variable {entered : κ → List HostId} {r : Roster κ η}

theorem add_cases (h : r.Consistent entered) (k : κ) (j : η) :
    (∃ other, (r.hosts j).cluster = some other ∧ other ≠ (r.clusters k).name ∧
      r.add k j = (.error ⟨(r.hosts j).id, other⟩, r)) ∨
    ((r.hosts j).id ∈ (r.clusters k).hosts ∧ r.add k j = (.ok false, r)) ∨
    ((r.hosts j).cluster = none ∧ (r.hosts j).id ∉ (r.clusters k).hosts ∧
      r.add k j = (.ok true, r.put k j
        { r.clusters k with hosts := (r.clusters k).hosts ++ [(r.hosts j).id] }
        { r.hosts j with cluster := some (r.clusters k).name })) := by
  rcases (r.clusters k).addHost_cases (r.hosts j) with ⟨other, hother, hne, heq⟩ | ⟨hsame, heq⟩
  · exact .inl ⟨other, hother, hne, by rw [add, heq]⟩
  · by_cases hmem : (r.hosts j).id ∈ (r.clusters k).hosts
    · have hcontains : (r.clusters k).contains (r.hosts j).id = true := by
        simpa [Cluster.contains] using hmem
      have hhost : { r.hosts j with cluster := some (r.clusters k).name } = r.hosts j := by
        rw [← (h.mem_iff k j).mp hmem]
      refine .inr (.inl ⟨hmem, ?_⟩)
      rw [add, heq, Cluster.withHost, hcontains, if_pos rfl, hhost]
      dsimp only
      rw [put_self]
      rfl
    · have hcontains : (r.clusters k).contains (r.hosts j).id = false := by
        simpa [Cluster.contains] using hmem
      have hnone : (r.hosts j).cluster = none := by
        by_contra hsome
        obtain ⟨b, hb⟩ := Option.ne_none_iff_exists'.mp hsome
        exact hmem ((h.mem_iff k j).mpr (hsame b hb ▸ hb))
      refine .inr (.inr ⟨hnone, hmem, ?_⟩)
      rw [add, heq, Cluster.withHost, hcontains, if_neg Bool.false_ne_true]
      rfl

theorem remove_cases (h : r.Consistent entered) (k : κ) (j : η) :
    ((r.hosts j).id ∉ (r.clusters k).hosts ∧ r.remove k j = (false, r)) ∨
    ((r.hosts j).id ∈ (r.clusters k).hosts ∧ r.remove k j = (true, r.put k j
      { r.clusters k with hosts := (r.clusters k).hosts.erase (r.hosts j).id }
      { r.hosts j with cluster := none })) := by
  have hcluster := h.mem_iff k j
  by_cases hmem : (r.hosts j).id ∈ (r.clusters k).hosts
  · refine .inr ⟨hmem, ?_⟩
    have hcontains : (r.clusters k).contains (r.hosts j).id = true := by
      simpa [Cluster.contains] using hmem
    rw [remove, Cluster.removeHost, if_pos (hcluster.mp hmem), hcontains]
  · refine .inl ⟨hmem, ?_⟩
    have hcontains : (r.clusters k).contains (r.hosts j).id = false := by
      simpa [Cluster.contains] using hmem
    rw [remove, Cluster.removeHost, if_neg fun hsome => hmem (hcluster.mpr hsome), hcontains,
      List.erase_of_not_mem hmem]
    dsimp only
    rw [put_self]

/-- One cluster and one host that belongs to no other cluster are replaced, so that they agree about
that host and all else stays. -/
theorem put (h : r.Consistent entered) {entered' : κ → List HostId} {k : κ} {j : η} {c : Cluster}
    {g : Host} (name_eq : c.name = (r.clusters k).name) (id_eq : g.id = (r.hosts j).id)
    (placed : ∀ name, g.cluster = some name → name = (r.clusters k).name)
    (elsewhere : ∀ i, i ≠ k → (r.hosts j).id ∉ (r.clusters i).hosts)
    (self : (r.hosts j).id ∈ c.hosts ↔ g.cluster = some (r.clusters k).name)
    (others : ∀ id, id ≠ (r.hosts j).id → (id ∈ c.hosts ↔ id ∈ (r.clusters k).hosts))
    (mem_entered : ∀ id ∈ c.hosts, id ∈ entered' k)
    (ordered : c.hosts.Pairwise (EnteredBefore (entered' k)))
    (entered_eq : ∀ i, i ≠ k → entered' i = entered i) :
    (r.put k j c g).Consistent entered' where
  names := by
    simp only [put_name r name_eq]
    exact h.names
  ids := by
    simp only [put_id r id_eq]
    exact h.ids
  placed l name hname := by
    simp only [put_name r name_eq]
    rcases eq_or_ne l j with rfl | hl
    · rw [put_hosts_self] at hname
      exact ⟨k, (placed name hname).symm⟩
    · rw [put_hosts_of_ne r hl] at hname
      exact h.placed l name hname
  mem_iff i l := by
    rw [put_name r name_eq, put_id r id_eq]
    rcases eq_or_ne i k with rfl | hi <;> rcases eq_or_ne l j with rfl | hl
    · rw [put_clusters_self, put_hosts_self]
      exact self
    · rw [put_clusters_self, put_hosts_of_ne r hl, others _ (h.ids.ne hl)]
      exact h.mem_iff i l
    · -- another cluster neither lists the host nor is named by it, since the names differ
      rw [put_clusters_of_ne r hi, put_hosts_self]
      refine iff_of_false (elsewhere i hi) fun hcluster => ?_
      exact hi (h.names (placed _ hcluster))
    · rw [put_clusters_of_ne r hi, put_hosts_of_ne r hl]
      exact h.mem_iff i l
  known i id hid := by
    simp only [put_id r id_eq]
    rcases eq_or_ne i k with rfl | hi
    · rw [put_clusters_self] at hid
      by_cases hself : id = (r.hosts j).id
      · exact ⟨j, hself.symm⟩
      · exact h.known i id ((others id hself).mp hid)
    · rw [put_clusters_of_ne r hi] at hid
      exact h.known i id hid
  mem_entered i id hid := by
    rcases eq_or_ne i k with rfl | hi
    · rw [put_clusters_self] at hid
      exact mem_entered id hid
    · rw [put_clusters_of_ne r hi] at hid
      rw [entered_eq i hi]
      exact h.mem_entered i id hid
  ordered i := by
    rcases eq_or_ne i k with rfl | hi
    · rw [put_clusters_self]
      exact ordered
    · rw [put_clusters_of_ne r hi, entered_eq i hi]
      exact h.ordered i

theorem enter (h : r.Consistent entered) {k : κ} {j : η} (hnone : (r.hosts j).cluster = none)
    {entered' : κ → List HostId} (entered_self : entered' k = entered k ++ [(r.hosts j).id])
    (entered_eq : ∀ i, i ≠ k → entered' i = entered i) :
    (r.put k j { r.clusters k with hosts := (r.clusters k).hosts ++ [(r.hosts j).id] }
      { r.hosts j with cluster := some (r.clusters k).name }).Consistent entered' := by
  have hfree := h.not_mem_of_none hnone
  have hne : ∀ id ∈ (r.clusters k).hosts, id ≠ (r.hosts j).id := by
    rintro id hid rfl
    exact hfree k hid
  refine h.put rfl rfl (fun name hname => (Option.some.inj hname).symm) (fun i _ => hfree i)
    (iff_of_true (by simp) rfl) (fun id hid => by simp [hid]) (fun id hid => ?_) ?_ entered_eq
  · rw [entered_self, List.mem_append]
    exact (List.mem_append.mp hid).imp_left (h.mem_entered k id)
  · rw [entered_self]
    refine List.pairwise_append.mpr ⟨?_, List.pairwise_singleton _ _, fun a ha b hb => ?_⟩
    · exact (h.ordered k).imp_of_mem fun {a b} ha _ hab => hab.append (hne a ha)
    · rw [List.mem_singleton.mp hb]
      exact enteredBefore_last (h.mem_entered k a ha) (hne a ha)

theorem leave (h : r.Consistent entered) {k : κ} {j : η}
    (hmem : (r.hosts j).id ∈ (r.clusters k).hosts) :
    (r.put k j { r.clusters k with hosts := (r.clusters k).hosts.erase (r.hosts j).id }
      { r.hosts j with cluster := none }).Consistent entered := by
  have hsub := List.erase_sublist (a := (r.hosts j).id) (l := (r.clusters k).hosts)
  refine h.put rfl rfl (fun name hname => nomatch hname) ?_ (iff_of_false ?_ ?_) ?_
    (fun id hid => h.mem_entered k id (hsub.subset hid)) ((h.ordered k).sublist hsub)
    (fun _ _ => rfl)
  · intro i hi hother
    exact hi (h.eq_of_mem hother hmem)
  · exact (h.nodup k).not_mem_erase
  · exact nofun
  · intro id hid
    exact List.mem_erase_of_ne hid

/-- A request keeps both records in agreement; who enters a cluster by it is the last one to have
entered. -/
theorem perform (h : r.Consistent entered) (q : Request κ η) :
    (r.perform q).Consistent fun i => entered i ++ (entering? i r q).toList := by
  cases q with
  | add k j =>
      rcases h.add_cases k j with ⟨other, -, -, heq⟩ | ⟨-, heq⟩ | ⟨hnone, -, heq⟩
      · simpa [Roster.perform, entering?, heq] using h
      · simpa [Roster.perform, entering?, heq] using h
      · rw [Roster.perform, heq]
        refine h.enter hnone ?_ fun i hi => ?_
        · simp [entering?, heq]
        · simp [entering?, heq, hi.symm]
  | remove k j =>
      simp only [entering?, Option.toList_none, List.append_nil]
      rcases h.remove_cases k j with ⟨-, heq⟩ | ⟨hmem, heq⟩
      · rw [Roster.perform, heq]
        exact h
      · rw [Roster.perform, heq]
        exact h.leave hmem

theorem performAll (h : r.Consistent entered) (requests : List (Request κ η)) :
    (r.performAll requests).Consistent fun i => entered i ++ entries i r requests := by
  -- the entries that lie behind grow with the requests, those of the rest are counted from there
  induction requests generalizing r entered with
  | nil =>
      simp only [entries, List.append_nil]
      exact h
  | cons q requests ih =>
      simp only [entries, ← List.append_assoc]
      exact ih (h.perform q)

theorem add_fst_eq_error_iff (h : r.Consistent entered) (k : κ) (j : η) :
    (∃ e, (r.add k j).1 = .error e) ↔
      ∃ k', k' ≠ k ∧ (r.hosts j).id ∈ (r.clusters k').hosts := by
  rcases h.add_cases k j with ⟨other, hother, hne, heq⟩ | ⟨hmem, heq⟩ | ⟨hnone, -, heq⟩
  · rw [heq]
    obtain ⟨k', rfl⟩ := h.placed j other hother
    refine iff_of_true ⟨_, rfl⟩ ⟨k', ?_, (h.mem_iff k' j).mpr hother⟩
    rintro rfl
    exact hne rfl
  · rw [heq]
    refine iff_of_false (by simp) ?_
    rintro ⟨k', hne, hmem'⟩
    exact hne (h.eq_of_mem hmem' hmem)
  · rw [heq]
    refine iff_of_false (by simp) ?_
    rintro ⟨k', -, hmem⟩
    exact h.not_mem_of_none hnone k' hmem

theorem add_fst_eq_true_iff (h : r.Consistent entered) (k : κ) (j : η) :
    (r.add k j).1 = .ok true ↔ ∀ k', (r.hosts j).id ∉ (r.clusters k').hosts := by
  rcases h.add_cases k j with ⟨other, hother, -, heq⟩ | ⟨hmem, heq⟩ | ⟨hnone, -, heq⟩
  · rw [heq]
    obtain ⟨k', rfl⟩ := h.placed j other hother
    exact iff_of_false (by simp) fun hfree => hfree k' ((h.mem_iff k' j).mpr hother)
  · rw [heq]
    exact iff_of_false (by simp) fun hfree => hfree k hmem
  · rw [heq]
    exact iff_of_true rfl (h.not_mem_of_none hnone)

theorem mem_add_iff (h : r.Consistent entered) {k : κ} {j : η} {added : Bool}
    (hok : (r.add k j).1 = .ok added) (i : κ) (id : HostId) :
    id ∈ ((r.add k j).2.clusters i).hosts ↔
      id ∈ (r.clusters i).hosts ∨ i = k ∧ id = (r.hosts j).id := by
  rcases h.add_cases k j with ⟨other, -, -, heq⟩ | ⟨hmem, heq⟩ | ⟨-, -, heq⟩
  · rw [heq] at hok
    cases hok
  · rw [heq]
    refine ⟨.inl, ?_⟩
    rintro (hid | ⟨rfl, rfl⟩)
    · exact hid
    · exact hmem
  · rw [heq]
    rcases eq_or_ne i k with rfl | hi
    · simp
    · simp [hi]

theorem mem_remove_iff (h : r.Consistent entered) (k : κ) (j : η) (i : κ) (id : HostId) :
    id ∈ ((r.remove k j).2.clusters i).hosts ↔
      id ∈ (r.clusters i).hosts ∧ ¬ (i = k ∧ id = (r.hosts j).id) := by
  rcases h.remove_cases k j with ⟨habsent, heq⟩ | ⟨-, heq⟩
  · rw [heq]
    refine ⟨fun hid => ⟨hid, ?_⟩, And.left⟩
    rintro ⟨rfl, rfl⟩
    exact habsent hid
  · rw [heq]
    rcases eq_or_ne i k with rfl | hi
    · simp [(h.nodup i).mem_erase_iff, and_comm]
    · simp [hi]

end Consistent

/-- Clusters of different names and hosts of different numbers are put together, none of the hosts
in a cluster. After any requests a cluster has a host exactly if the host names that cluster, so no
host is in two of them, and each cluster lists its hosts once, in the order in which they entered it
last. A host is refused exactly if it is in another cluster, which changes nothing, and it is new
exactly if it is in none. A host that is not refused is in the cluster from then on, one that is
taken out is not, and no other is moved. -/
theorem members_name_their_cluster {first : Roster κ η}
    (names : Function.Injective fun k => (first.clusters k).name)
    (ids : Function.Injective fun j => (first.hosts j).id)
    (empty : ∀ k, (first.clusters k).hosts = []) (free : ∀ j, (first.hosts j).cluster = none)
    (requests : List (Request κ η)) :
    let r := first.performAll requests
    (∀ k j, (r.clusters k).contains (r.hosts j).id = true ↔
      (r.hosts j).cluster = some (r.clusters k).name) ∧
    (∀ k id, (r.clusters k).contains id = true → ∃ j, (r.hosts j).id = id) ∧
    (∀ k k' id, (r.clusters k).contains id = true → (r.clusters k').contains id = true → k = k') ∧
    (∀ k, (r.clusters k).hosts.Nodup ∧
      (∀ id ∈ (r.clusters k).hosts, id ∈ entries k first requests) ∧
      (r.clusters k).hosts.Pairwise (EnteredBefore (entries k first requests))) ∧
    ∀ k j,
      ((∃ e, (r.add k j).1 = .error e) ↔
        ∃ k', k' ≠ k ∧ (r.clusters k').contains (r.hosts j).id = true) ∧
      (∀ e, (r.add k j).1 = .error e → (r.add k j).2 = r) ∧
      ((r.add k j).1 = .ok true ↔ ∀ k', (r.clusters k').contains (r.hosts j).id = false) ∧
      (∀ added, (r.add k j).1 = .ok added → ∀ i id, ((r.add k j).2.clusters i).contains id = true ↔
        (r.clusters i).contains id = true ∨ i = k ∧ id = (r.hosts j).id) ∧
      ∀ i id, ((r.remove k j).2.clusters i).contains id = true ↔
        (r.clusters i).contains id = true ∧ ¬ (i = k ∧ id = (r.hosts j).id) := by
  intro r
  have h : r.Consistent fun k => entries k first requests := by
    simpa using (Consistent.of_empty names ids empty free).performAll requests
  simp only [Cluster.contains, List.contains_eq_mem, decide_eq_true_eq,
    decide_eq_false_iff_not]
  refine ⟨h.mem_iff, h.known, fun k k' id => h.eq_of_mem,
    fun k => ⟨h.nodup k, h.mem_entered k, h.ordered k⟩, fun k j => ⟨h.add_fst_eq_error_iff k j,
      fun e he => ?_, h.add_fst_eq_true_iff k j, fun _ => h.mem_add_iff, h.mem_remove_iff k j⟩⟩
  rcases h.add_cases k j with ⟨other, -, -, heq⟩ | ⟨-, heq⟩ | ⟨-, -, heq⟩
  · rw [heq]
  · rw [heq]
  · rw [heq] at he
    cases he

def sample : Roster Bool Bool where
  clusters k := { name := if k then "beta" else "alpha" }
  hosts j := if j then Host.new ⟨2⟩ "two" "10.0.0.2" else Host.new ⟨1⟩ "one" "10.0.0.1"

def sampleRequests : List (Request Bool Bool) :=
  [.add false false, .add false true, .remove false false, .add false false]

theorem members_name_their_cluster_sample :
    let r := sample.performAll sampleRequests
    (r.hosts true).cluster = some (r.clusters false).name ∧
      entries false sample sampleRequests = [⟨1⟩, ⟨2⟩, ⟨1⟩] ∧
      (r.clusters false).hosts = [⟨2⟩, ⟨1⟩] ∧
      EnteredBefore (entries false sample sampleRequests) ⟨2⟩ ⟨1⟩ ∧
      (∃ e, (r.add true true).1 = .error e) ∧ (r.add true true).2 = r := by
  intro r
  have hnames : Function.Injective fun k => (sample.clusters k).name := by
    intro k k'
    cases k <;> cases k' <;> decide
  have hids : Function.Injective fun j => (sample.hosts j).id := by
    intro j j'
    cases j <;> cases j' <;> decide
  obtain ⟨hmem, -, -, horder, hadd⟩ :=
    members_name_their_cluster hnames hids (fun _ => rfl) (fun j => by cases j <;> rfl)
      sampleRequests
  obtain ⟨hrefused, hkept, -⟩ := hadd true true
  have hhosts : (r.clusters false).hosts = [⟨2⟩, ⟨1⟩] := by decide +kernel
  have hlisted := (horder false).2.2
  rw [hhosts, List.pairwise_cons] at hlisted
  obtain ⟨e, he⟩ := hrefused.mpr ⟨false, Bool.false_ne_true, by decide +kernel⟩
  exact ⟨(hmem false true).mp (by decide +kernel), by decide +kernel, hhosts,
    hlisted.1 ⟨1⟩ (List.mem_singleton_self _), ⟨e, he⟩, hkept e he⟩

end Roster

end ClusterSetup

import ClusterSetup.Proofs.Roster
import ClusterSetup.Proofs.Session.Cancellation
import ClusterSetup.Proofs.Session.HostData

namespace ClusterSetup

/-- The cluster that the host is put into at an entry of a log, if it is put into one. -/
def joined? (entry : Desk × Move) : Option Cluster :=
  match entry.2 with
  | .join cluster =>
    match (Desk.join cluster entry.1).1 with
    | .ok _ => some cluster
    | .error _ => none
  | _ => none

def joinedClusters (log : List (Desk × Move)) : List Cluster := log.filterMap joined?

theorem joinedClusters_snoc (log : List (Desk × Move)) (entry : Desk × Move) :
    joinedClusters (log ++ [entry]) = joinedClusters log ++ (joined? entry).toList := by
  rw [joinedClusters, List.filterMap_append, joinedClusters]
  cases h : joined? entry <;> simp [h]

namespace Desk

open Session (SameMembership)

/-- A host is put into a cluster unless it or the session belongs to one of another name. -/
theorem join_spec (s : Session) (g : Guards) (cluster : Cluster) :
    (∃ e, join cluster ⟨s, g⟩ = (.error e, ⟨s, g⟩)) ∨
      (∀ held, s.cluster = some held → held.name = cluster.name) ∧
        (∀ b, s.host.cluster = some b → b = cluster.name) ∧
          ∃ entered : Cluster, entered.name = cluster.name ∧
            join cluster ⟨s, g⟩ = (.ok (!cluster.contains s.host.id), ⟨{ s with
              host := { s.host with cluster := some cluster.name }
              cluster := some entered
              joined := s.joined || !cluster.contains s.host.id }, g⟩) := by
  rcases s.active_or_refused with hactive | ⟨e, he⟩
  · rw [join, whenActive_of_active _ hactive]
    by_cases hheld : ∀ held, s.cluster = some held → held.name = cluster.name
    · rcases cluster.addHost_cases s.host with ⟨other, -, -, hadd⟩ | ⟨hbefore, hadd⟩
      · refine .inl ⟨.membership ⟨s.host.id, other⟩, ?_⟩
        cases hcluster : s.cluster with
        | none => simp [hadd, hcluster]
        | some held => simp [hheld held hcluster, hadd, hcluster]
      · refine .inr ⟨hheld, hbefore, cluster.withHost s.host.id,
          cluster.withHost_name s.host.id, ?_⟩
        cases hcluster : s.cluster with
        | none => simp [hadd, hcluster]
        | some held => simp [hheld held hcluster, hadd, hcluster]
    · push Not at hheld
      obtain ⟨held, hcluster, hname⟩ := hheld
      exact .inl ⟨.membership ⟨s.host.id, held.name⟩, by simp [hcluster, hname]⟩
  · exact .inl ⟨e, by rw [join, whenActive_of_refused _ he]⟩

theorem perform_membership {s : Session} (h : s.Valid) (g : Guards) {m : Move}
    (hother : ¬ m.Enrolls) : s.SameMembership (m.perform ⟨s, g⟩).session := by
  cases perform_spec h g m with
  | quiet _ _ _ _ _ _ _ membership => exact membership hother
  | reads _ _ _ _ _ _ membership => exact membership
  | answers advance =>
      rw [(Session.advance?_answered advance).same]
      exact ⟨rfl, rfl, rfl⟩
  | enters _ _ entering =>
      rw [entering.session_eq]
      exact ⟨rfl, rfl, rfl⟩
  | chooses _ choosing =>
      obtain ⟨entered, entering⟩ := choosing.entering
      rw [entering.session_eq]
      exact ⟨rfl, rfl, rfl⟩

theorem joined?_of_other {m : Move} (h : ¬ m.Enrolls) (d : Desk) : joined? (d, m) = none := by
  cases m with
  | join cluster => exact absurd (.join cluster) h
  | _ => rfl

end Desk

namespace Session

/-- What a session knows of the clusters that it has put its host into, where `before` is the host
as it was given to the session. -/
structure Enrolled (before : Host) (clusters : List Cluster) (s : Session) : Prop where
  id_eq : s.host.id = before.id
  joined_eq : s.joined = clusters.any fun c => !c.contains before.id
  untouched : clusters = [] → s.host.cluster = before.cluster ∧ s.cluster = none
  host_cluster : ∀ c ∈ clusters, s.host.cluster = some c.name
  held : ∀ c ∈ clusters, ∃ held, s.cluster = some held ∧ held.name = c.name
  before_cluster : ∀ c ∈ clusters, ∀ b, before.cluster = some b → b = c.name

theorem Enrolled.of_same {before : Host} {clusters : List Cluster} {s t : Session}
    (h : s.Enrolled before clusters) (hid : t.host.id = s.host.id) (hsame : s.SameMembership t) :
    t.Enrolled before clusters where
  id_eq := hid.trans h.id_eq
  joined_eq := hsame.joined_eq.trans h.joined_eq
  untouched hnone := by
    rw [hsame.host_eq, hsame.held_eq]
    exact h.untouched hnone
  host_cluster c hc := hsame.host_eq.trans (h.host_cluster c hc)
  held := by
    rw [hsame.held_eq]
    exact h.held
  before_cluster := h.before_cluster

theorem Enrolled.join {before : Host} {clusters : List Cluster} {s : Session}
    (h : s.Enrolled before clusters) {cluster entered : Cluster}
    (hheld : ∀ held, s.cluster = some held → held.name = cluster.name)
    (hbefore : ∀ b, s.host.cluster = some b → b = cluster.name)
    (hname : entered.name = cluster.name) :
    Enrolled before (clusters ++ [cluster])
      { s with
        host := { s.host with cluster := some cluster.name }
        cluster := some entered
        joined := s.joined || !cluster.contains s.host.id } := by
  -- The cluster that the session holds has the name of all those before it.
  have hnames : ∀ c ∈ clusters ++ [cluster], c.name = cluster.name := by
    intro c hc
    rcases List.mem_append.mp hc with hold | hnew
    · obtain ⟨held, hcluster, hc⟩ := h.held c hold
      exact hc.symm.trans (hheld held hcluster)
    · rw [List.mem_singleton.mp hnew]
  refine ⟨h.id_eq, ?_, fun hnone => ?_, fun c hc => ?_, fun c hc => ?_, fun c hc b hb => ?_⟩
  · simp only [List.any_append, List.any_cons, List.any_nil, Bool.or_false]
    rw [h.joined_eq, h.id_eq]
  · cases List.append_ne_nil_of_right_ne_nil clusters (List.cons_ne_nil cluster []) hnone
  · rw [hnames c hc]
  · exact ⟨entered, rfl, hname.trans (hnames c hc).symm⟩
  · rw [hnames c hc]
    cases hclusters : clusters with
    | nil =>
        rw [← (h.untouched hclusters).1] at hb
        exact hbefore b hb
    | cons first rest =>
        have hfirst : first ∈ clusters := hclusters ▸ List.mem_cons_self
        rw [h.before_cluster first hfirst b hb]
        exact hnames first (List.mem_append_left _ hfirst)

theorem Logged.enrolled {first s : Session} {log : List (Desk × Move)} (hvalid : first.Valid)
    (hcluster : first.cluster = none) (hjoined : first.joined = false) (h : Logged first log s)
    (hlive : s.canceled = false) : s.Enrolled first.host (joinedClusters log) := by
  induction h with
  | nil =>
      refine ⟨rfl, hjoined, fun _ => ⟨rfl, hcluster⟩, ?_, ?_, ?_⟩
      all_goals rintro c ⟨⟩
  | @snoc log s before g m ih =>
      have hs := before.later.valid hvalid
      have hstill : s.canceled = false := by
        by_contra hcanceled
        rw [Bool.not_eq_false] at hcanceled
        obtain ⟨hfrozen, -⟩ := (Logged.nil.snoc g m).later.frozen hs hcanceled
        rw [hfrozen] at hlive
        exact Bool.false_ne_true (hlive.symm.trans hcanceled)
      rw [joinedClusters_snoc]
      by_cases henrolls : m.Enrolls
      · cases henrolls with
        | join cluster =>
            rcases Desk.join_spec s g cluster with ⟨e, heq⟩ | ⟨hheld, hbefore, entered, hname, heq⟩
            · simp only [joined?, Move.perform, heq, Option.toList_none, List.append_nil]
              exact ih hstill
            · simp only [joined?, Move.perform, heq, Option.toList_some]
              exact (ih hstill).join hheld hbefore hname
        | cancel =>
            -- Had the session been active, it would be canceled now.
            have hover : ¬ s.Active := by
              intro hactive
              obtain ⟨cluster, membership, heq⟩ := Desk.cancel_eq (d := ⟨s, g⟩) hactive
              rw [Move.perform, heq] at hlive
              cases hlive
            rw [Move.perform, Desk.cancel_of_over (d := ⟨s, g⟩) hover]
            exact (List.append_nil _).symm ▸ ih hstill
      · rw [Desk.joined?_of_other henrolls, Option.toList_none, List.append_nil]
        exact (ih hstill).of_same (Desk.perform_keeps hs g m).id_eq
          (Desk.perform_membership hs g henrolls)

theorem Enrolled.cancel {before : Host} {clusters : List Cluster} {s : Session}
    (h : s.Enrolled before clusters) (hactive : s.Active) (g : Guards) :
    (Desk.cancel ⟨s, g⟩).session.host.cluster =
      if s.joined then none else s.host.cluster := by
  have hover : (s.canceled || s.finished) = false := by
    rw [hactive.live, hactive.open_, Bool.or_false]
  rw [Desk.cancel]
  dsimp only
  rw [hover]
  cases hjoined : s.joined with
  | false => simp [log]
  | true =>
      rw [h.joined_eq, List.any_eq_true] at hjoined
      obtain ⟨c, hc, -⟩ := hjoined
      obtain ⟨held, hheld, hname⟩ := h.held c hc
      have hcluster : s.host.cluster = some held.name := by
        rw [hname]
        exact h.host_cluster c hc
      simp [log, hheld, Cluster.removeHost, hcluster]

/-- The cluster that a host belongs to once a session that has put it into clusters is canceled. -/
def clusterLeft (before : Host) : List Cluster → Option String
  | [] => before.cluster
  | c :: rest =>
    if (c :: rest).any fun c => !c.contains before.id then none else some c.name

theorem Enrolled.clusterLeft_eq {before : Host} {clusters : List Cluster} {s : Session}
    (h : s.Enrolled before clusters) (hactive : s.Active) (g : Guards) :
    (Desk.cancel ⟨s, g⟩).session.host.cluster = clusterLeft before clusters := by
  rw [h.cancel hactive g, h.joined_eq]
  cases hclusters : clusters with
  | nil => exact (h.untouched hclusters).1
  | cons c rest =>
      rw [clusterLeft, h.host_cluster c (hclusters ▸ List.mem_cons_self)]

theorem Enrolled.clusterLeft_eq_iff {before : Host} {clusters : List Cluster} {s : Session}
    (h : s.Enrolled before clusters) :
    clusterLeft before clusters = before.cluster ↔
      clusters = [] ∨ (before.cluster = none ↔ ∃ c ∈ clusters, c.contains before.id = false) := by
  cases hclusters : clusters with
  | nil => exact iff_of_true rfl (.inl rfl)
  | cons c rest =>
      have hbefore := h.before_cluster c (hclusters ▸ List.mem_cons_self)
      have hany : ((c :: rest).any fun c => !c.contains before.id) = true ↔
          ∃ d ∈ c :: rest, d.contains before.id = false := by
        simp only [List.any_eq_true, Bool.not_eq_true']
      rw [clusterLeft, or_iff_right (List.cons_ne_nil c rest), ← hany]
      split
      · rename_i hentered
        rw [iff_true_right hentered, eq_comm]
      · rename_i hlisted
        rw [iff_false_right hlisted, eq_comm]
        constructor
        · intro heq hnone
          rw [hnone] at heq
          cases heq
        · intro hsome
          obtain ⟨b, hb⟩ := Option.ne_none_iff_exists'.mp hsome
          rw [hb, hbefore b hb]

section New

variable {host : Host} {resources : Resources} {policy : Policy} {options : SessionOptions}
  {credentials : Option VendorCredentials}

/-- After a cancelation the host belongs to the cluster it belonged to when the session was new
exactly if the session has put it into no cluster, or if it belonged to one then and was listed by
every cluster it was put into, or if it belonged to none and was not listed by all of them. -/
theorem cancel_restores_membership_iff {s : Session}
    (h : Later (.new host resources policy options credentials) s) (hactive : s.Active)
    (g : Guards) :
    (∃ log, Logged (.new host resources policy options credentials) log s) ∧
      ∀ log, Logged (.new host resources policy options credentials) log s →
        (Desk.cancel ⟨s, g⟩).session.host.cluster = clusterLeft host (joinedClusters log) ∧
          ((Desk.cancel ⟨s, g⟩).session.host.cluster = host.cluster ↔
            joinedClusters log = [] ∨
              (host.cluster = none ↔
                ∃ c ∈ joinedClusters log, c.contains host.id = false)) := by
  refine ⟨Logged.of_later h, fun log hlog => ?_⟩
  have hvalid : (new host resources policy options credentials).Valid :=
    Reachable.valid ⟨_, _, _, _, _, .refl⟩
  have henrolled := hlog.enrolled hvalid rfl rfl hactive.live
  have hleft := henrolled.clusterLeft_eq hactive g
  refine ⟨hleft, ?_⟩
  rw [hleft]
  exact henrolled.clusterLeft_eq_iff

end New

def memberSample (member : Option String) : Session :=
  .new { Host.new ⟨1⟩ "alpha" "10.0.0.1" with cluster := member } (.ofTable .empty)

def enrolledSample (member : Option String) (hosts : List HostId) : Session :=
  (Desk.performAll ⟨memberSample member, .empty⟩ [.join { name := "ha", hosts := hosts }]).session

theorem enrolledSample_later (member : Option String) (hosts : List HostId) :
    Later (memberSample member) (enrolledSample member hosts) :=
  Later.of_moves ⟨memberSample member, .empty⟩ _

theorem cancel_restores_membership_iff_sample :
    (enrolledSample none []).Active ∧
      (Desk.cancel ⟨enrolledSample none [], .empty⟩).session.host.cluster = none := by
  have hactive : (enrolledSample none []).Active := ⟨by decide +kernel, by decide +kernel⟩
  obtain ⟨-, hlogged⟩ :=
    cancel_restores_membership_iff (enrolledSample_later none []) hactive .empty
  obtain ⟨-, hiff⟩ := hlogged _ (Logged.performAll (d := ⟨memberSample none, .empty⟩) .nil _)
  refine ⟨hactive, hiff.mpr (.inr (iff_of_true rfl ?_))⟩
  decide +kernel

/-- A cancelation takes a host out of the cluster it belonged to before, if the session was handed
that cluster without its hosts, and it leaves a host in a cluster that lists it already. -/
theorem membership_not_restored :
    ((enrolledSample (some "ha") []).Active ∧
      (Desk.cancel ⟨enrolledSample (some "ha") [], .empty⟩).session.host.cluster = none) ∧
    ((enrolledSample none [⟨1⟩]).Active ∧
      (Desk.cancel ⟨enrolledSample none [⟨1⟩], .empty⟩).session.host.cluster = some "ha") ∧
    ¬ ∀ host resources policy options credentials s,
      Later (.new host resources policy options credentials) s → s.Active →
        ∀ g, (Desk.cancel ⟨s, g⟩).session.host.cluster = host.cluster := by
  have hlost : (enrolledSample (some "ha") []).Active ∧
      (Desk.cancel ⟨enrolledSample (some "ha") [], .empty⟩).session.host.cluster = none := by
    refine ⟨⟨?_, ?_⟩, ?_⟩ <;> decide +kernel
  refine ⟨hlost, ⟨⟨?_, ?_⟩, ?_⟩, fun hclaim => ?_⟩
  · decide +kernel
  · decide +kernel
  · decide +kernel
  · have hkept := hclaim _ _ _ _ _ _ (enrolledSample_later (some "ha") []) hlost.1 .empty
    rw [hlost.2] at hkept
    cases hkept

end Session

end ClusterSetup

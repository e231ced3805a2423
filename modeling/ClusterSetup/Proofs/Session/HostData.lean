import ClusterSetup.Proofs.Session.Evidence
import ClusterSetup.Proofs.Step.HostData

namespace ClusterSetup

namespace Receipt

def detected? (r : Receipt) : Option DistInfo := r.result.outcome.detected? r.result.key

def describes (r : Receipt) (h : Host) : Host := r.result.outcome.describes r.result.key h

theorem connected_of_detected? {r : Receipt} {found : DistInfo} (h : r.detected? = some found) :
    r.result.key = .connect ∧ ∃ addresses, r.result.outcome = .connected addresses found := by
  unfold detected? Outcome.detected? at h
  split at h
  · rename_i hkey houtcome
    cases h
    exact ⟨hkey, _, houtcome⟩
  · cases h

end Receipt

/-- What the attempts to connect of a log have detected, the oldest first. -/
def detections (log : List (Desk × Move)) : List DistInfo :=
  (receipts log).filterMap Receipt.detected?

theorem detections_snoc (log : List (Desk × Move)) (entry : Desk × Move) :
    detections (log ++ [entry]) =
      detections log ++ ((receipt? entry).bind Receipt.detected?).toList := by
  rw [detections, receipts_snoc, List.filterMap_append, detections]
  cases h : receipt? entry with
  | none => rfl
  | some r => cases hr : r.detected? <;> simp [hr]

/-- At an entry of a log an attempt to connect has reached the host, and tells of something that was
not known of its distribution. -/
def Learns (entry : Desk × Move) (field : DistField) : Prop :=
  entry.1.session.host.dist.get field = none ∧
    ∃ r addresses detected value, receipt? entry = some r ∧ r.kind = .connect ∧
      r.result.outcome = .connected addresses detected ∧ detected.get field = some value ∧
      (entry.2.perform entry.1).session.host.dist.get field = some value

namespace Desk

/-- Besides what a receipt tells of the host, only its versions, its methods, its cluster and
whether it was reached and probed change by a move. -/
theorem perform_describes {s : Session} (h : s.Valid) (g : Guards) (m : Move) :
    ∃ versions installMethods connectivity probed membership,
      (m.perform ⟨s, g⟩).session.host =
        { ((receipt? (⟨s, g⟩, m)).map (·.describes s.host)).getD s.host with
          versions := versions
          installMethods := installMethods
          connectivity := connectivity
          probed := probed
          cluster := membership } := by
  by_cases hread : m = .read
  · subst hread
    change ∃ versions installMethods connectivity probed membership,
      (readNext ⟨s, g⟩).session.findings.host = _
    rcases readNext_applying h g with ⟨hnone, -, hfindings⟩ | ⟨r, step, step', hreceipt, happlying⟩
    · rw [hnone, hfindings]
      exact ⟨_, _, _, _, _, rfl⟩
    · have hkeys := (h.placed.arena.sound happlying.current).pending_sublist
      obtain ⟨versions, installMethods, connectivity, probed, hhost⟩ :=
        Step.complete_describes s.resources r.result.outcome s.findings happlying.pending hkeys
      rw [hreceipt, happlying.findings_eq, hhost]
      exact ⟨versions, installMethods, connectivity, probed, _, rfl⟩
  · obtain ⟨-, membership, hhost⟩ := findings_of_other h g hread
    rw [receipt?_of_other hread, hhost]
    exact ⟨_, _, _, _, membership, rfl⟩

theorem perform_keeps {s : Session} (h : s.Valid) (g : Guards) (m : Move) :
    s.host.Keeps (m.perform ⟨s, g⟩).session.host := by
  obtain ⟨versions, installMethods, connectivity, probed, membership, hhost⟩ :=
    perform_describes h g m
  have hkeeps : s.host.Keeps (((receipt? (⟨s, g⟩, m)).map (·.describes s.host)).getD s.host) := by
    cases receipt? (⟨s, g⟩, m) with
    | none => exact .refl _
    | some r => exact r.result.outcome.describes_keeps r.result.key s.host
  rw [hhost]
  exact ⟨hkeeps.id_eq, hkeeps.name_eq, hkeeps.user_eq, hkeeps.port_eq, hkeeps.primaryAddress,
    hkeeps.dist⟩

theorem perform_dist {s : Session} (h : s.Valid) (g : Guards) (m : Move) :
    (m.perform ⟨s, g⟩).session.host.dist =
      (((receipt? (⟨s, g⟩, m)).bind Receipt.detected?).map s.host.dist.mergeMissing).getD
        s.host.dist := by
  obtain ⟨versions, installMethods, connectivity, probed, membership, hhost⟩ :=
    perform_describes h g m
  rw [hhost]
  cases receipt? (⟨s, g⟩, m) with
  | none => rfl
  | some r => exact r.result.outcome.describes_dist r.result.key s.host

theorem learns_of_detected {s : Session} (h : s.Valid) (g : Guards) {m : Move}
    {detected : DistInfo}
    (hdetected : (receipt? (⟨s, g⟩, m)).bind Receipt.detected? = some detected)
    {field : DistField} (hunknown : s.host.dist.get field = none)
    (htold : detected.get field ≠ none) : Learns (⟨s, g⟩, m) field := by
  have hdist := perform_dist h g m
  rw [hdetected, Option.map_some, Option.getD_some] at hdist
  obtain ⟨value, hvalue⟩ := Option.ne_none_iff_exists'.mp htold
  obtain ⟨r, hreceipt, hr⟩ := Option.bind_eq_some_iff.mp hdetected
  have hread : m = .read := by
    by_contra hother
    rw [receipt?_of_other hother] at hreceipt
    cases hreceipt
  subst hread
  obtain ⟨hkey, addresses, houtcome⟩ := r.connected_of_detected? hr
  have hkind : r.kind = .connect := by
    rcases readNext_applying h g with ⟨hnone, -⟩ | ⟨r', step, step', hreceipt', happlying⟩
    · rw [hnone] at hreceipt
      cases hreceipt
    · obtain rfl : r' = r := Option.some.inj (hreceipt'.symm.trans hreceipt)
      have hkeys := (h.placed.arena.sound happlying.current).pending_sublist
      have hmem := hkeys.subset happlying.pending
      rw [hkey] at hmem
      exact happlying.kind_eq.trans (StepKind.eq_connect hmem)
  refine ⟨hunknown, r, addresses, detected, value, hreceipt, hkind, houtcome, hvalue, ?_⟩
  rw [hdist, DistInfo.get_mergeMissing, hunknown, hvalue, Option.none_or]

theorem Change.settings_kept {d d' : Desk} (h : Change d d') :
    d'.session.resources = d.session.resources ∧ d'.session.options = d.session.options := by
  cases h with
  | cancel active =>
      obtain ⟨cluster, membership, heq⟩ := cancel_eq active
      rw [heq]
      exact ⟨rfl, rfl⟩
  | answer advance =>
      rw [(Session.advance?_answered advance).same]
      exact ⟨rfl, rfl⟩
  | _ => exact ⟨rfl, rfl⟩

end Desk

namespace Session

/-- The same texts are looked up for the host of two sessions, above all the same methods and latest
versions; the same method is taken by default where the host remembers the same one. -/
structure LooksUpAlike (s t : Session) : Prop where
  texts : ∀ key, t.resources.resolveFor t.host.dist key = s.resources.resolveFor s.host.dist key
  methods : ∀ c, (t.methods c).methods = (s.methods c).methods
  latest : ∀ c, Probe.latestFor t.resources t.host.dist c =
    Probe.latestFor s.resources s.host.dist c
  default : ∀ c, t.host.rememberedMethod c = s.host.rememberedMethod c → t.methods c = s.methods c

theorem LooksUpAlike.of_dist {s t : Session} (resources_eq : t.resources = s.resources)
    (options_eq : t.options = s.options) (dist_eq : t.host.dist = s.host.dist) :
    s.LooksUpAlike t where
  texts key := by rw [resources_eq, dist_eq]
  methods c := by rw [Session.methods, Session.methods, resources_eq, options_eq, dist_eq]; rfl
  latest c := by rw [resources_eq, dist_eq]
  default c hremembered := by
    rw [Session.methods, Session.methods, resources_eq, options_eq, dist_eq, hremembered]

theorem Later.settings_kept {s t : Session} (h : Later s t) (hvalid : s.Valid) :
    t.resources = s.resources ∧ t.options = s.options := by
  refine (h.induct (P := fun u => u.resources = s.resources ∧ u.options = s.options) ?_ hvalid
    ⟨rfl, rfl⟩).1
  intro d d' _ hkept hchange
  obtain ⟨hresources, hoptions⟩ := hchange.settings_kept
  exact ⟨hresources.trans hkept.1, hoptions.trans hkept.2⟩

section Logged

variable {first s : Session} {log : List (Desk × Move)} (hvalid : first.Valid)
include hvalid

theorem Logged.host_keeps (h : Logged first log s) : first.host.Keeps s.host := by
  induction h with
  | nil => exact .refl _
  | snoc before g m ih => exact ih.trans (Desk.perform_keeps (before.later.valid hvalid) g m)

theorem Logged.dist (h : Logged first log s) :
    s.host.dist = (detections log).foldl DistInfo.mergeMissing first.host.dist := by
  induction h with
  | nil => rfl
  | @snoc log s before g m ih =>
      rw [Desk.perform_dist (before.later.valid hvalid) g m, detections_snoc, List.foldl_append,
        ← ih]
      cases (receipt? (⟨s, g⟩, m)).bind Receipt.detected? <;> rfl

theorem Logged.dist_eq_of_nothing_learnt (h : Logged first log s)
    (hnothing : ∀ entry ∈ log, ∀ field, ¬ Learns entry field) : s.host.dist = first.host.dist := by
  induction h with
  | nil => rfl
  | @snoc log s before g m ih =>
      have hs := before.later.valid hvalid
      have hbefore := ih fun entry hentry => hnothing entry (List.mem_append_left _ hentry)
      rw [Desk.perform_dist hs g m, ← hbefore]
      cases hdetected : (receipt? (⟨s, g⟩, m)).bind Receipt.detected? with
      | none => rfl
      | some detected =>
          refine DistInfo.mergeMissing_eq_self fun field hunknown => ?_
          by_contra htold
          exact hnothing _ (List.mem_append_right _ List.mem_cons_self) field
            (Desk.learns_of_detected hs g hdetected hunknown htold)

end Logged

/-- Whatever becomes of a session, its host stays the same one with the same account and the same
first address, and what was known of the distribution stays known. The distribution is filled in by
what attempts to connect detect, the oldest first, and what is looked up for the host changes only
when one of them, which has reached the host, tells of something that was not known. -/
theorem known_host_data_kept {s t : Session} (h : s.Reachable) (hlater : Later s t) :
    s.host.Keeps t.host ∧ (∃ log, Logged s log t) ∧
      ∀ log, Logged s log t →
        t.host.dist = (detections log).foldl DistInfo.mergeMissing s.host.dist ∧
          (¬ s.LooksUpAlike t → ∃ entry ∈ log, ∃ field, Learns entry field) := by
  obtain ⟨log, hlog⟩ := Logged.of_later hlater
  refine ⟨hlog.host_keeps h.valid, ⟨log, hlog⟩, fun log hlog => ⟨hlog.dist h.valid, ?_⟩⟩
  intro hdiffer
  by_contra hnothing
  push Not at hnothing
  obtain ⟨hresources, hoptions⟩ := hlater.settings_kept h.valid
  exact hdiffer (.of_dist hresources hoptions (hlog.dist_eq_of_nothing_learnt h.valid hnothing))

def unknownSample (address : String) : Session :=
  .new (Host.new ⟨1⟩ "alpha" address)
    (.ofTable ⟨[⟨"", ResourceKey.distProbe, "detect"⟩,
      ⟨"fedora", ResourceKey.methodLabel .drbd 1, "yum"⟩]⟩)

/-- Two attempts to connect, between which the host has moved to another address. -/
def detectingMoves : List Move :=
  [.enter, .found ["10.0.0.1", "10.0.0.2"], .printed "",
    .printed "dist:fedora\nversion:13\n", .read,
    .retry, .found ["10.0.0.3", "10.0.0.3"], .printed "",
    .printed "dist:debian\narch:i686\n", .read]

theorem known_host_data_kept_sample :
    let first := unknownSample "alpha.example"
    let log := Desk.logAll ⟨first, .empty⟩ detectingMoves
    let known := (Desk.performAll ⟨first, .empty⟩ detectingMoves).session
    first.host.Keeps known.host ∧ known.host.addresses = ["alpha.example", "10.0.0.3"] ∧
      known.host.dist = { dist := some "fedora", version := some "13", arch := some "i686" } ∧
      (first.methods .drbd).methods.length = 0 ∧ (known.methods .drbd).methods.length = 1 ∧
      ∃ entry ∈ log, ∃ field, Learns entry field := by
  intro first log known
  have hlog : Logged first log known :=
    Logged.performAll (d := ⟨first, .empty⟩) .nil detectingMoves
  obtain ⟨hkeeps, -, hlogged⟩ :=
    known_host_data_kept (s := first) ⟨_, _, _, _, _, .refl⟩ hlog.later
  obtain ⟨hdist, hlearns⟩ := hlogged log hlog
  have hbefore : (first.methods .drbd).methods.length = 0 := by decide +kernel
  have hafter : (known.methods .drbd).methods.length = 1 := by decide +kernel
  refine ⟨hkeeps, by decide +kernel, ?_, hbefore, hafter, hlearns fun halike => ?_⟩
  · rw [hdist]
    decide +kernel
  · rw [halike.methods, hbefore] at hafter
    cases hafter

end Session

end ClusterSetup

import ClusterSetup.Proofs.Session.Evidence
import ClusterSetup.Proofs.Step.Reprobing
import ClusterSetup.Proofs.Version.Grammar

namespace ClusterSetup

/-- What the result of an action tells of the version of a package, if it tells of it. -/
def Outcome.version? (k : Package) (key : ActionKey) (outcome : Outcome) :
    Option (Option String) :=
  match key with
  | .probe p => if k.target = p then some (outcome.versions.get k) else none
  | _ => none

def Receipt.version? (k : Package) (r : Receipt) : Option (Option String) :=
  r.result.outcome.version? k r.result.key

theorem Step.complete_versions (t : Resources) {s : Step} {key : ActionKey} (outcome : Outcome)
    (f : Findings) (hkey : key ∈ s.pending) (hkeys : s.pending.Sublist s.kind.keys) (k : Package) :
    (s.complete t key outcome f).findings.host.versions.get k =
      (outcome.version? k key).getD (f.host.versions.get k) := by
  cases awaits_of_pending hkey hkeys with
  | connect hkind =>
      rw [complete_connect t hkind hkey]
      cases outcome <;> rfl
  | @probe scope target hkind =>
      have hhost :
          (applyProbe t (s.without (.probe target)) scope target outcome f).2.host.versions =
            (Probe.apply t target (Probe.answer outcome) f).2.host.versions := by
        rw [applyProbe]
        dsimp only
        split <;> rfl
      rw [complete_probe t hkind hkey, hhost, Probe.apply_versions, Outcome.version?]
      split <;> rfl
  | @install d n hkind =>
      rw [complete_install t hkind hkey]
      rcases applyInstall_findings (s.without (.install d)) d n outcome f with
        ⟨-, hfound⟩ | ⟨-, hfound⟩
      · rw [hfound]
        rfl
      · rw [hfound]
        rfl

theorem Desk.perform_versions {s : Session} (h : s.Valid) (g : Guards) (m : Move) (k : Package) :
    (m.perform ⟨s, g⟩).session.host.versions.get k =
      ((receipt? (⟨s, g⟩, m)).bind (·.version? k)).getD (s.host.versions.get k) := by
  by_cases hread : m = .read
  · subst hread
    change (readNext ⟨s, g⟩).session.findings.host.versions.get k = _
    rcases readNext_applying h g with ⟨hnone, -, hfindings⟩ | ⟨r, step, step', hreceipt, happlying⟩
    · rw [hnone, hfindings]
      rfl
    · have hkeys := (h.placed.arena.sound happlying.current).pending_sublist
      rw [hreceipt, happlying.findings_eq,
        Step.complete_versions s.resources r.result.outcome s.findings happlying.pending hkeys k]
      rfl
  · obtain ⟨-, membership, hhost⟩ := findings_of_other h g hread
    rw [receipt?_of_other hread, hhost]
    rfl

theorem Receipt.token_of_version? {r : Receipt} {k : Package} {v : String}
    (h : r.version? k = some (some v)) : Version.Token v.toList := by
  rw [version?] at h
  cases hkey : r.result.key with
  | probe p =>
      rw [hkey, Outcome.version?] at h
      split at h
      · rw [Option.some.injEq, Outcome.versions, Version.installedIn_eq] at h
        obtain ⟨line, -, htoken, -⟩ := Version.exists_line_of_installed h
        exact htoken
      · cases h
  | connect | install d =>
      rw [hkey] at h
      cases h

namespace Session

theorem Logged.versions {first s : Session} {log : List (Desk × Move)} (hvalid : first.Valid)
    (h : Logged first log s) (k : Package) :
    s.host.versions.get k = (latest (·.version? k) log).getD (first.host.versions.get k) := by
  induction h with
  | nil => rfl
  | @snoc log s before g m ih =>
      rw [Desk.perform_versions (before.later.valid hvalid) g m k, ih, latest_snoc]
      cases (receipt? (⟨s, g⟩, m)).bind (·.version? k) <;> rfl

/-- A line is read if and only if it is put together as the grammar says, and so a version that an
output tells of stands on one of its lines. The versions of a host are what the latest probe that
looked at them has told, or those that it came with, and a probe only tells of versions that are
such by the grammar. -/
theorem versions_read_by_grammar :
    (∀ line p v, Version.ofLine? line = some (p, v) ↔
      Version.ReportsOn p v.toList line.toList) ∧
    (∀ output p v, (Version.installed output).get p = some v →
      ∃ line ∈ Text.lines output, Version.ReportsOn p v.toList line.toList) ∧
    ∀ host resources policy options credentials log s,
      Logged (.new host resources policy options credentials) log s → ∀ p,
        s.host.versions.get p = (latest (·.version? p) log).getD (host.versions.get p) ∧
        (∀ r ∈ receipts log, ∀ v, r.version? p = some (some v) → Version.Token v.toList) ∧
        ∀ v, s.host.versions.get p = some v → Version.Token v.toList ∨
          host.versions.get p = some v ∧ ∀ r ∈ receipts log, r.version? p = none := by
  refine ⟨fun _ _ _ => Version.ofLine?_eq_some_iff,
    fun _ _ _ => Version.exists_line_of_installed, ?_⟩
  intro host resources policy options credentials log s hlog p
  have hversions := hlog.versions (new_valid host resources policy options credentials) p
  refine ⟨hversions, fun r _ v => Receipt.token_of_version?, fun v hv => ?_⟩
  rw [hversions] at hv
  cases hlatest : latest (·.version? p) log with
  | none =>
      rw [hlatest] at hv
      have hnothing := List.getLast?_eq_none_iff.mp hlatest
      exact .inr ⟨hv, List.filterMap_eq_nil_iff.mp hnothing⟩
  | some told =>
      rw [hlatest] at hv
      obtain rfl : told = some v := hv
      obtain ⟨r, -, hr⟩ := List.mem_filterMap.mp (List.mem_of_getLast? hlatest)
      exact .inl (Receipt.token_of_version? hr)

theorem versions_read_by_grammar_sample :
    Version.ofLine? "\tHB : 1:2.1.3-4 (build abc)\r" = some (.heartbeat, "2.1.3-4") ∧
      (∃ line ∈ Text.lines "hb: 3.0", Version.ReportsOn .heartbeat "3.0".toList line.toList) ∧
      (lackingPlayed 5).host.versions.heartbeat = some "3.0" ∧ Version.Token "3.0".toList := by
  have hlog : Logged lackingSample (Desk.logAll ⟨lackingSample, .empty⟩ (lackingMoves.take 5))
      (lackingPlayed 5) := Logged.performAll (d := ⟨lackingSample, .empty⟩) .nil
      (lackingMoves.take 5)
  obtain ⟨hline, houtput, hsession⟩ := versions_read_by_grammar
  obtain ⟨hversion, -, htoken⟩ := hsession _ _ _ _ _ _ _ hlog .heartbeat
  have hheartbeat : (lackingPlayed 5).host.versions.get .heartbeat = some "3.0" := by
    rw [hversion]
    decide +kernel
  have hframe : Version.Frame .heartbeat "\tHB : 1:".toList " (build abc)\r".toList :=
    @Version.Frame.tagged .heartbeat ['\t'] ['H', 'B'] [' '] [' '] ['1', ':'] _ (by decide)
      (by decide) (by decide) (by decide)
      (.inr ⟨['1'], by decide, List.forall_mem_singleton.mpr rfl, rfl⟩) (by decide)
  refine ⟨(hline ..).mpr ⟨Version.isToken_iff.mp (by decide), _, _, hframe, rfl⟩,
    houtput "hb: 3.0" .heartbeat "3.0" (by decide +kernel), hheartbeat, ?_⟩
  · rcases htoken "3.0" hheartbeat with h | ⟨h, -⟩
    · exact h
    · cases h

end Session

end ClusterSetup

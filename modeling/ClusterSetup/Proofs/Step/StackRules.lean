import ClusterSetup.Proofs.Step.Reprobing
import ClusterSetup.Proofs.Version.Grammar
import Mathlib.Data.List.Forall2

namespace ClusterSetup

namespace Version

/-- The version as which a version of Heartbeat counts on a release. -/
def countsAs (version : String) (release : Option String) : String :=
  if version = "2.1.3" ∧ release = some "sles10" then "2.1.4" else version

theorem readHeartbeat_compared (version : String) (release : Option String) :
    (readHeartbeat version release).compared = countsAs version release := by
  rw [readHeartbeat, countsAs]
  split <;> rfl

/-- Two reports that are the same, except that the second one may tell of Heartbeat 2.1.4 where the
first one tells of Heartbeat 2.1.3. -/
def ReportFixed (report report' : Package × String) : Prop :=
  report' = report ∨ report = (.heartbeat, "2.1.3") ∧ report' = (.heartbeat, "2.1.4")

def LineFixed (line line' : String) : Prop :=
  line' = line ∨ ∃ before after, Frame .heartbeat before after ∧
    line.toList = before ++ "2.1.3".toList ++ after ∧
    line'.toList = before ++ "2.1.4".toList ++ after

/-- The second output tells of Heartbeat 2.1.4 on lines on which the first one tells of Heartbeat
2.1.3, and is the same otherwise. -/
def Fixed (output output' : String) : Prop :=
  List.Forall₂ LineFixed (Text.lines output) (Text.lines output')

theorem LineFixed.reports {line line' : String} (h : LineFixed line line') :
    Option.Rel ReportFixed (ofLine? line) (ofLine? line') := by
  rcases h with rfl | ⟨before, after, hframe, hline, hline'⟩
  · cases ofLine? line' with
    | none => exact .none
    | some report => exact .some (.inl rfl)
  · have hold : ofLine? line = some (.heartbeat, "2.1.3") :=
      ofLine?_eq_some_iff.mpr ⟨isToken_iff.mp (by decide), before, after, hframe, hline⟩
    have hnew : ofLine? line' = some (.heartbeat, "2.1.4") :=
      ofLine?_eq_some_iff.mpr ⟨isToken_iff.mp (by decide), before, after, hframe, hline'⟩
    rw [hold, hnew]
    exact .some (.inr ⟨rfl, rfl⟩)

theorem firstReport_of_fixed {found found' : List (Package × String)}
    (h : List.Forall₂ ReportFixed found found') (p : Package) :
    firstReport p found' = firstReport p found ∨ p = .heartbeat ∧
      firstReport p found = some "2.1.3" ∧ firstReport p found' = some "2.1.4" := by
  induction h with
  | nil => exact .inl rfl
  | @cons report report' found found' hreport _ ih =>
      rw [firstReport_cons, firstReport_cons]
      rcases hreport with rfl | ⟨rfl, rfl⟩
      · by_cases hp : report'.1 = p
        · rw [if_pos hp, Option.some_or, Option.some_or]
          exact .inl rfl
        · rw [if_neg hp, Option.none_or, Option.none_or]
          exact ih
      · by_cases hp : Package.heartbeat = p
        · rw [if_pos hp, if_pos hp, Option.some_or, Option.some_or]
          exact .inr ⟨hp.symm, rfl, rfl⟩
        · rw [if_neg hp, if_neg hp, Option.none_or, Option.none_or]
          exact ih

theorem Fixed.installed_eq {output output' : String} (h : Fixed output output') :
    installed output' = installed output ∨ (installed output).heartbeat = some "2.1.3" ∧
      installed output' = { installed output with heartbeat := some "2.1.4" } := by
  have hreports : List.Forall₂ ReportFixed (reports output) (reports output') := by
    rw [reports, reports]
    exact List.rel_filterMap (R := LineFixed) (P := ReportFixed)
      (fun _ _ => LineFixed.reports) h
  have hget : ∀ p, (installed output').get p = (installed output).get p ∨ p = .heartbeat ∧
      (installed output).get p = some "2.1.3" ∧ (installed output').get p = some "2.1.4" := by
    intro p
    rw [get_installed, get_installed]
    exact firstReport_of_fixed hreports p
  -- Only the version of Heartbeat can be another one.
  have hothers : ∀ p, p ≠ .heartbeat → (installed output').get p = (installed output).get p :=
    fun p hp => (hget p).resolve_right fun hfixed => hp hfixed.1
  rcases hget .heartbeat with hsame | ⟨-, hold, hnew⟩
  · refine .inl (InstalledVersions.ext_get fun p => ?_)
    by_cases hp : p = .heartbeat
    · rw [hp, hsame]
    · exact hothers p hp
  · refine .inr ⟨hold, InstalledVersions.ext_get fun p => ?_⟩
    cases p with
    | heartbeat => exact hnew
    | _ => exact hothers _ (by decide)

end Version

def ComponentStatus.withoutText (s : ComponentStatus) : ComponentStatus := { s with shown := none }

namespace Probe

/-- How an installed component is rated: it can be upgraded if and only if the resources have a
latest version of it and the version that is compared is older, and it is up to date otherwise. -/
structure Rated (t : Resources) (info : DistInfo) (compared : String)
    (status : ComponentStatus) : Prop where
  upgradeAvailable_iff : status.state = .upgradeAvailable ↔
    ∃ latest, latestFor t info status.component = some latest ∧
      Version.order compared latest = .lt
  installed : status.state = .upgradeAvailable ∨ status.state = .upToDate

theorem present_rated (t : Resources) (info : DistInfo) (c : Component)
    (label compared shown : String) :
    Rated t info compared (present t info c label compared shown) := by
  cases hlatest : latestFor t info c with
  | none => constructor <;> simp [present, versionState, hlatest]
  | some latest =>
      cases horder : Version.order compared latest <;>
        constructor <;> simp [present, versionState, Version.isOlder, hlatest, horder]

def NothingBeside (found : InstalledVersions) (compared : String) : Prop :=
  found.pacemaker = none ∨ found.pacemaker = some compared

/-- The rules for Heartbeat, which is there if a version of it was found. -/
structure HeartbeatRules (t : Resources) (info : DistInfo) (found : InstalledVersions)
    (status : ComponentStatus) : Prop where
  component_eq : status.component = .heartbeat
  present_iff : status.isPresent = true ↔ found.heartbeat.isSome = true
  rated : ∀ version, found.heartbeat = some version →
    Rated t info (Version.countsAs version info.version) status
  label_iff : ∀ version, found.heartbeat = some version →
    (status.label = "Heartbeat" ↔ NothingBeside found (Version.countsAs version info.version))
  shown_iff : ∀ version, found.heartbeat = some version →
    (status.shown = some (Version.readHeartbeat version info.version).shown ↔
      NothingBeside found (Version.countsAs version info.version))
  beside : ∀ version pacemaker, found.heartbeat = some version →
    found.pacemaker = some pacemaker → pacemaker ≠ Version.countsAs version info.version →
    status.label = "Pcmk/Heartbeat" ∧
      status.shown = some (pacemaker ++ "/" ++ (Version.readHeartbeat version info.version).shown)

/-- The rules for the other stack, which is there if versions of Pacemaker and of a messaging layer
were found. -/
structure CorosyncRules (t : Resources) (info : DistInfo) (found : InstalledVersions)
    (status : ComponentStatus) : Prop where
  component_eq : status.component = .corosync
  present_iff : status.isPresent = true ↔ found.pacemaker.isSome = true ∧
    (found.corosync.isSome = true ∨ found.openais.isSome = true)
  rated : ∀ pacemaker, found.pacemaker = some pacemaker → status.isPresent = true →
    Rated t info pacemaker status
  corosync : ∀ pacemaker version, found.pacemaker = some pacemaker →
    found.corosync = some version →
    status.label = "Pcmk/Corosync" ∧ status.shown = some (pacemaker ++ "/" ++ version)
  openais : ∀ pacemaker version, found.pacemaker = some pacemaker → found.corosync = none →
    found.openais = some version →
    status.label = "Pcmk/AIS" ∧ status.shown = some (pacemaker ++ "/" ++ version)

variable (t : Resources) (info : DistInfo)

theorem pair_ne_text (pacemaker text : String) : pacemaker ++ "/" ++ text ≠ text := by
  intro h
  have hlength := congrArg String.length h
  rw [String.length_append, String.length_append] at hlength
  have hslash : "/".length = 1 := rfl
  omega

theorem exists_beside {found : InstalledVersions} {compared : String}
    (h : ¬ NothingBeside found compared) :
    ∃ pacemaker, found.pacemaker = some pacemaker ∧ pacemaker ≠ compared := by
  rw [NothingBeside, not_or] at h
  obtain ⟨pacemaker, hpacemaker⟩ := Option.ne_none_iff_exists'.mp h.1
  exact ⟨pacemaker, hpacemaker, fun hsame => h.2 (hsame ▸ hpacemaker)⟩

section Heartbeat

variable {found : InstalledVersions} {version : String}
  (hversion : found.heartbeat = some version)
include hversion

theorem heartbeatStatus_alone
    (halone : NothingBeside found (Version.countsAs version info.version)) :
    heartbeatStatus t info found =
      present t info .heartbeat "Heartbeat" (Version.countsAs version info.version)
        (Version.readHeartbeat version info.version).shown := by
  rw [heartbeatStatus, hversion]
  rcases halone with hnone | hsame
  · simp only [hnone, Version.readHeartbeat_compared]
  · simp only [hsame, Version.readHeartbeat_compared, if_true]

theorem heartbeatStatus_beside {pacemaker : String} (hpacemaker : found.pacemaker = some pacemaker)
    (hne : pacemaker ≠ Version.countsAs version info.version) :
    heartbeatStatus t info found =
      present t info .heartbeat "Pcmk/Heartbeat" (Version.countsAs version info.version)
        (pacemaker ++ "/" ++ (Version.readHeartbeat version info.version).shown) := by
  rw [heartbeatStatus, hversion]
  simp only [hpacemaker, Version.readHeartbeat_compared, hne, if_false]
  rfl

theorem heartbeatStatus_withoutText {found' : InstalledVersions} {version' : String}
    (hversion' : found'.heartbeat = some version') (hpacemaker : found'.pacemaker = found.pacemaker)
    (hcounts : Version.countsAs version' info.version = Version.countsAs version info.version) :
    (heartbeatStatus t info found').withoutText = (heartbeatStatus t info found).withoutText := by
  by_cases halone : NothingBeside found (Version.countsAs version info.version)
  · have halone' : NothingBeside found' (Version.countsAs version' info.version) := by
      rwa [NothingBeside, hpacemaker, hcounts]
    rw [heartbeatStatus_alone t info hversion halone,
      heartbeatStatus_alone t info hversion' halone', hcounts]
    rfl
  · obtain ⟨pacemaker, hbeside, hne⟩ := exists_beside halone
    rw [heartbeatStatus_beside t info hversion hbeside hne,
      heartbeatStatus_beside t info hversion' (hpacemaker.trans hbeside) (hcounts ▸ hne), hcounts]
    rfl

end Heartbeat

theorem heartbeatStatus_rules (found : InstalledVersions) :
    HeartbeatRules t info found (heartbeatStatus t info found) where
  component_eq := heartbeatStatus_component t info found
  present_iff := by rw [heartbeatStatus_isPresent, InstalledVersions.lists]
  rated version hversion := by
    by_cases halone : NothingBeside found (Version.countsAs version info.version)
    · rw [heartbeatStatus_alone t info hversion halone]
      exact present_rated ..
    · obtain ⟨pacemaker, hpacemaker, hne⟩ := exists_beside halone
      rw [heartbeatStatus_beside t info hversion hpacemaker hne]
      exact present_rated ..
  label_iff version hversion := by
    by_cases halone : NothingBeside found (Version.countsAs version info.version)
    · rw [heartbeatStatus_alone t info hversion halone]
      exact iff_of_true rfl halone
    · obtain ⟨pacemaker, hpacemaker, hne⟩ := exists_beside halone
      have hlabels : "Pcmk/Heartbeat" ≠ "Heartbeat" := by decide
      rw [heartbeatStatus_beside t info hversion hpacemaker hne]
      exact iff_of_false hlabels halone
  shown_iff version hversion := by
    by_cases halone : NothingBeside found (Version.countsAs version info.version)
    · rw [heartbeatStatus_alone t info hversion halone]
      exact iff_of_true rfl halone
    · obtain ⟨pacemaker, hpacemaker, hne⟩ := exists_beside halone
      rw [heartbeatStatus_beside t info hversion hpacemaker hne]
      exact iff_of_false (mt Option.some.inj (pair_ne_text _ _)) halone
  beside version pacemaker hversion hpacemaker hne := by
    rw [heartbeatStatus_beside t info hversion hpacemaker hne]
    exact ⟨rfl, rfl⟩

theorem corosyncStatus_rules (found : InstalledVersions) :
    CorosyncRules t info found (corosyncStatus t info found) where
  component_eq := corosyncStatus_component t info found
  present_iff := by
    rw [corosyncStatus_isPresent, InstalledVersions.lists, Bool.and_eq_true, Bool.or_eq_true]
  rated pacemaker hpacemaker hpresent := by
    rw [corosyncStatus, hpacemaker] at hpresent ⊢
    cases hlayer : messagingLayer found with
    | none =>
        rw [hlayer] at hpresent
        cases hpresent
    | some layer => exact present_rated ..
  corosync pacemaker version hpacemaker hversion := by
    rw [corosyncStatus, messagingLayer, hpacemaker, hversion]
    exact ⟨rfl, rfl⟩
  openais pacemaker version hpacemaker hcorosync hversion := by
    rw [corosyncStatus, messagingLayer, hpacemaker, hcorosync, hversion]
    exact ⟨rfl, rfl⟩

/-- On the release where Heartbeat 2.1.3 counts as 2.1.4, nothing but the text that is shown depends
on which of the two was found. -/
theorem statusOf_fixed {info : DistInfo} (hrelease : info.version = some "sles10")
    {output output' : String} (h : Version.Fixed output output') (c : Component) :
    (statusOf t info (installedIn output') c).withoutText =
      (statusOf t info (installedIn output) c).withoutText := by
  rw [Version.installedIn_eq, Version.installedIn_eq]
  rcases h.installed_eq with hsame | ⟨hold, hnew⟩
  · rw [hsame]
  · cases c with
    | heartbeat =>
        have hcounts : Version.countsAs "2.1.4" info.version =
            Version.countsAs "2.1.3" info.version := by
          rw [hrelease]
          decide
        exact heartbeatStatus_withoutText t info hold (by rw [hnew]) (by rw [hnew]) hcounts
    | _ =>
        rw [hnew]
        rfl

theorem applyStack_eq (output : String) (f : Findings) :
    (applyStack t output f).1 = [statusOf t f.host.dist (installedIn output) .heartbeat,
      statusOf t f.host.dist (installedIn output) .corosync] ∧
    (applyStack t output f).2.flags =
      PerComponent.set
        (f.flags.set .heartbeat (statusOf t f.host.dist (installedIn output) .heartbeat).isPresent)
        .corosync (statusOf t f.host.dist (installedIn output) .corosync).isPresent :=
  ⟨rfl, rfl⟩

theorem isPresent_of_withoutText {status status' : ComponentStatus}
    (h : status'.withoutText = status.withoutText) : status'.isPresent = status.isPresent := by
  have hpresent := congrArg ComponentStatus.isPresent h
  exact hpresent

theorem applyStack_fixed {f : Findings} (hrelease : f.host.dist.version = some "sles10")
    {output output' : String} (h : Version.Fixed output output') :
    (applyStack t output' f).2.flags = (applyStack t output f).2.flags ∧
      (applyStack t output' f).1.map (·.withoutText) =
        (applyStack t output f).1.map (·.withoutText) := by
  obtain ⟨hstatuses, hflags⟩ := applyStack_eq t output f
  obtain ⟨hstatuses', hflags'⟩ := applyStack_eq t output' f
  have hsame := statusOf_fixed t hrelease h
  constructor
  · rw [hflags, hflags', isPresent_of_withoutText (hsame .heartbeat),
      isPresent_of_withoutText (hsame .corosync)]
  · rw [hstatuses, hstatuses', List.map_cons, List.map_cons, List.map_cons, List.map_cons,
      hsame .heartbeat, hsame .corosync, List.map_nil]

theorem verdict_of_withoutText {statuses statuses' : List ComponentStatus}
    (h : statuses'.map (·.withoutText) = statuses.map (·.withoutText)) (scope : ProbeScope)
    (flags : Flags) : verdict scope statuses' flags = verdict scope statuses flags := by
  have hany : ∀ l : List ComponentStatus, l.any (·.state == .upgradeAvailable) =
      (l.map (·.withoutText)).any (·.state == .upgradeAvailable) := by
    intro l
    rw [List.any_map]
    rfl
  rw [verdict, verdict, hany, h, ← hany]

end Probe

namespace Step

/-- Two steps that differ in nothing but the versions that their statuses show. -/
structure SameButText (u v : Step) : Prop where
  step_eq : v = { u with components := v.components }
  statuses_eq : ∀ c, (v.components.get c).map (·.withoutText) =
    (u.components.get c).map (·.withoutText)

theorem SameButText.refl (s : Step) : SameButText s s := ⟨rfl, fun _ => rfl⟩

theorem statuses_map {α : Type} (s : Step) (g : ComponentStatus → α) :
    s.statuses.map g = Component.all.filterMap fun c => (s.components.get c).map g := by
  simp [statuses, PerComponent.entries, List.map_filterMap, Function.comp_def]

theorem SameButText.conclude {u v : Step} (h : SameButText u v) (scope : ProbeScope)
    {f e : Findings} (hflags : e.flags = f.flags) :
    SameButText (u.conclude scope f).1 (v.conclude scope e).1 := by
  have hverdict :
      Probe.verdict scope v.statuses e.flags = Probe.verdict scope u.statuses f.flags := by
    rw [hflags]
    refine Probe.verdict_of_withoutText ?_ scope f.flags
    simp only [statuses_map, h.statuses_eq]
  refine ⟨?_, h.statuses_eq⟩
  rw [Step.conclude, Step.conclude, hverdict, h.step_eq]

theorem noteStatuses_fixed (t : Resources) {f : Findings}
    (hrelease : f.host.dist.version = some "sles10") {output output' : String}
    (h : Version.Fixed output output') (s : Step) :
    SameButText (s.noteStatuses (Probe.applyStack t output f).1)
      (s.noteStatuses (Probe.applyStack t output' f).1) := by
  refine ⟨rfl, fun c => ?_⟩
  have hold := Probe.apply_components t .clusterStack output f s c
  have hnew := Probe.apply_components t .clusterStack output' f s c
  rw [Probe.apply] at hold hnew
  rw [hold, hnew]
  split
  · exact congrArg some (Probe.statusOf_fixed t hrelease h c)
  · rfl

theorem complete_fixed (t : Resources) {f : Findings}
    (hrelease : f.host.dist.version = some "sles10") {o o' : Outcome}
    (h : Version.Fixed (Probe.answer o) (Probe.answer o')) (s : Step) :
    SameButText (s.complete t (.probe .clusterStack) o f).step
        (s.complete t (.probe .clusterStack) o' f).step ∧
      (s.complete t (.probe .clusterStack) o' f).findings.flags =
        (s.complete t (.probe .clusterStack) o f).findings.flags := by
  by_cases hkey : .probe .clusterStack ∈ s.pending
  · cases hkind : s.kind with
    | probe scope =>
        have hflags := (Probe.applyStack_fixed t hrelease h).1
        have hnoted := noteStatuses_fixed t hrelease h (s.without (.probe .clusterStack))
        by_cases hlast : s.pending.erase (.probe .clusterStack) = []
        · rw [complete_probe_of_last t hkind hkey hlast, complete_probe_of_last t hkind hkey hlast]
          exact ⟨hnoted.conclude scope hflags, hflags⟩
        · rw [complete_probe_of_more t hkind hkey hlast, complete_probe_of_more t hkind hkey hlast]
          exact ⟨hnoted, hflags⟩
    | _ => simp [complete, hkind, hkey, SameButText.refl]
  · simp [complete, hkey, SameButText.refl]

/-- What a probe reports on the cluster stacks follows the rules, whatever it has printed. So where
Heartbeat 2.1.3 counts as 2.1.4, no flag, no state and no label depends on which of the two an
output tells of, and a step ends with the same verdict. -/
theorem stack_rules (t : Resources) (f : Findings) :
    (∀ output, ∃ heartbeat corosync,
      (Probe.applyStack t output f).1 = [heartbeat, corosync] ∧
      Probe.HeartbeatRules t f.host.dist (Version.installed output) heartbeat ∧
      Probe.CorosyncRules t f.host.dist (Version.installed output) corosync ∧
      (Probe.applyStack t output f).2.flags.get .heartbeat = heartbeat.isPresent ∧
      (Probe.applyStack t output f).2.flags.get .corosync = corosync.isPresent) ∧
    (f.host.dist.version = some "sles10" →
      (∀ output output', Version.Fixed output output' →
        (Probe.applyStack t output' f).2.flags = (Probe.applyStack t output f).2.flags ∧
        (Probe.applyStack t output' f).1.map (·.withoutText) =
          (Probe.applyStack t output f).1.map (·.withoutText)) ∧
      ∀ (s : Step) (o o' : Outcome), Version.Fixed (Probe.answer o) (Probe.answer o') →
        SameButText (s.complete t (.probe .clusterStack) o f).step
            (s.complete t (.probe .clusterStack) o' f).step ∧
          (s.complete t (.probe .clusterStack) o' f).findings.flags =
            (s.complete t (.probe .clusterStack) o f).findings.flags) := by
  refine ⟨fun output => ?_, fun hrelease =>
    ⟨fun _ _ => Probe.applyStack_fixed t hrelease, fun s _ _ h => complete_fixed t hrelease h s⟩⟩
  obtain ⟨hstatuses, hflags⟩ := Probe.applyStack_eq t output f
  refine ⟨_, _, hstatuses, ?_, ?_, ?_, ?_⟩
  · rw [Version.installedIn_eq]
    exact Probe.heartbeatStatus_rules t f.host.dist _
  · rw [Version.installedIn_eq]
    exact Probe.corosyncStatus_rules t f.host.dist _
  · rw [hflags, PerComponent.get_set, PerComponent.get_set]
    rfl
  · rw [hflags, PerComponent.get_set]
    rfl

def releaseSample : Findings where
  host := { Host.new ⟨1⟩ "alpha" "10.0.0.1" with
    dist := { dist := some "suse", version := some "sles10" } }
  flags := .none

theorem stack_rules_sample :
    let t : Resources :=
      .ofTable ⟨[⟨"", ResourceKey.latest .heartbeat, "2.1.4"⟩]⟩
    let old := Probe.applyStack t "hb:2.1.3\npm:1.0.9" releaseSample
    let new := Probe.applyStack t "hb:2.1.4\npm:1.0.9" releaseSample
    (∃ heartbeat corosync, old.1 = [heartbeat, corosync] ∧ heartbeat.label = "Pcmk/Heartbeat" ∧
        heartbeat.shown = some "1.0.9/2.1.3 (2.1.4)" ∧ heartbeat.state = .upToDate ∧
        ¬ corosync.isPresent = true) ∧
      releaseSample.host.dist.version = some "sles10" ∧ new.2.flags = old.2.flags ∧
      new.1.map (·.withoutText) = old.1.map (·.withoutText) := by
  intro t old new
  have hframe : Version.Frame .heartbeat "hb:".toList [] :=
    @Version.Frame.tagged .heartbeat [] ['h', 'b'] [] [] [] _ (by decide) (by decide) (by decide)
      (by decide) (.inl rfl) (by decide)
  have hlines : Text.lines "hb:2.1.3\npm:1.0.9" = ["hb:2.1.3", "pm:1.0.9"] := by decide +kernel
  have hlines' : Text.lines "hb:2.1.4\npm:1.0.9" = ["hb:2.1.4", "pm:1.0.9"] := by decide +kernel
  have hfixed : Version.Fixed "hb:2.1.3\npm:1.0.9" "hb:2.1.4\npm:1.0.9" := by
    rw [Version.Fixed, hlines, hlines']
    exact .cons (.inr ⟨_, _, hframe, rfl, rfl⟩) (.cons (.inl rfl) .nil)
  obtain ⟨hrules, hrelease⟩ := stack_rules t releaseSample
  obtain ⟨hflags, hstatuses⟩ := (hrelease rfl).1 _ _ hfixed
  refine ⟨?_, rfl, hflags, hstatuses⟩
  obtain ⟨heartbeat, corosync, hold, hheartbeat, hcorosync, -⟩ := hrules "hb:2.1.3\npm:1.0.9"
  have hfound : Version.installed "hb:2.1.3\npm:1.0.9" =
      { heartbeat := some "2.1.3", pacemaker := some "1.0.9" } := by decide +kernel
  rw [hfound] at hheartbeat hcorosync
  obtain ⟨hlabel, hshown⟩ := hheartbeat.beside "2.1.3" "1.0.9" rfl rfl (by decide)
  have hrated : Probe.Rated t releaseSample.host.dist "2.1.4" heartbeat :=
    hheartbeat.rated "2.1.3" rfl
  refine ⟨heartbeat, corosync, hold, hlabel, hshown, hrated.installed.resolve_left ?_, ?_⟩
  · rw [hrated.upgradeAvailable_iff, hheartbeat.component_eq]
    rintro ⟨latest, hlatest, holder⟩
    obtain rfl : "2.1.4" = latest := Option.some.inj hlatest
    have hsame : Version.order "2.1.4" "2.1.4" = .eq := by cbv
    rw [hsame] at holder
    cases holder
  · rw [hcorosync.present_iff]
    decide

end Step

end ClusterSetup

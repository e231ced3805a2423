import ClusterSetup.Proofs.Step.Evidence
import ClusterSetup.Proofs.Step.Joining

namespace ClusterSetup

def Component.target : Component → ProbeTarget
  | .drbd => .storage
  | .heartbeat | .corosync => .clusterStack

def Package.target : Package → ProbeTarget
  | .drbd | .drbdUtils => .storage
  | .heartbeat | .pacemaker | .corosync | .openais => .clusterStack

theorem ProbeTarget.mem_components_iff (p : ProbeTarget) (c : Component) :
    c ∈ p.components ↔ c.target = p := by
  cases p <;> cases c <;> decide

namespace Outcome

def versions (o : Outcome) : InstalledVersions := Probe.installedIn (Probe.answer o)

/-- A command that failed or printed nothing but blanks, or no answer at all. -/
def TellsNothing (o : Outcome) : Prop :=
  ∀ output, o = .exited output → output.exitCode ≠ 0 ∨ Text.isBlank output.output = true

theorem TellsNothing.versions_eq {o : Outcome} (h : o.TellsNothing) : o.versions = {} := by
  cases o with
  | exited output =>
      rw [versions, Probe.answer, CommandOutput.success]
      rcases h output rfl with hfailed | hblank
      · rw [beq_eq_false_iff_ne.mpr hfailed]
        rfl
      · split
        · rw [Probe.installedIn, if_pos hblank]
        · rfl
  | _ => rfl

end Outcome

namespace Probe

def statusOf (t : Resources) (info : DistInfo) (found : InstalledVersions) :
    Component → ComponentStatus
  | .drbd => storageStatus t info found
  | .heartbeat => heartbeatStatus t info found
  | .corosync => corosyncStatus t info found

variable (t : Resources) (p : ProbeTarget) (output : String) (f : Findings)

theorem apply_versions (k : Package) : (apply t p output f).2.host.versions.get k =
    if k.target = p then (installedIn output).get k else f.host.versions.get k := by
  cases p <;> cases k <;> rfl

theorem apply_host : (apply t p output f).2.host =
    { f.host with versions := (apply t p output f).2.host.versions } := by
  cases p <;> rfl

theorem apply_flags_target (c : Component) : (apply t p output f).2.flags.get c =
    if c.target = p then (installedIn output).lists c else f.flags.get c := by
  simp only [apply_flags, ProbeTarget.mem_components_iff]

theorem apply_of_installedIn {output output' : String}
    (h : installedIn output' = installedIn output) : apply t p output' f = apply t p output f := by
  cases p <;> simp only [apply, applyStorage, applyStack, h]

theorem apply_components (s : Step) (c : Component) :
    (s.noteStatuses (apply t p output f).1).components.get c =
      if c.target = p then some (statusOf t f.host.dist (installedIn output) c)
      else s.components.get c := by
  cases p with
  | storage =>
      simp only [apply, applyStorage, Step.noteStatuses, List.foldl_cons, List.foldl_nil,
        storageStatus_component, PerComponent.get_set]
      cases c <;> rfl
  | clusterStack =>
      simp only [apply, applyStack, Step.noteStatuses, List.foldl_cons, List.foldl_nil,
        heartbeatStatus_component, corosyncStatus_component, PerComponent.get_set]
      cases c <;> rfl

end Probe

namespace Step

theorem complete_of_tellsNothing (t : Resources) (s : Step) (p : ProbeTarget) {o : Outcome}
    (h : o.TellsNothing) (f : Findings) :
    s.complete t (.probe p) o f = s.complete t (.probe p) (.exited ⟨"", 0⟩) f := by
  have hempty : Outcome.TellsNothing (.exited ⟨"", 0⟩) := by
    rintro output ⟨⟩
    exact .inr rfl
  have happly : Probe.apply t p (Probe.answer o) f =
      Probe.apply t p (Probe.answer (.exited ⟨"", 0⟩)) f :=
    Probe.apply_of_installedIn t p f (h.versions_eq.trans hempty.versions_eq.symm)
  by_cases hp : .probe p ∈ s.pending
  · cases hkind : s.kind with
    | probe scope => simp only [complete_probe t hkind hp, applyProbe, happly]
    | _ => simp [complete, hkind, hp]
  · simp [complete, hp]

def completeProbes (t : Resources) (answers : ProbeTarget → Outcome) (s : Step) :
    List ProbeTarget → Findings → Step × Findings
  | [], f => (s, f)
  | p :: order, f =>
    let applied := s.complete t (.probe p) (answers p) f
    completeProbes t answers applied.step order applied.findings

/-- What is known after some probes have answered. What they look at is written anew, and everything
else is as it was. -/
structure Told (t : Resources) (answers : ProbeTarget → Outcome) (targets : List ProbeTarget)
    (s : Step) (f : Findings) (u : Step) (e : Findings) : Prop where
  dist_eq : e.host.dist = f.host.dist
  components : ∀ c, c.target ∈ targets →
    u.components.get c = some (Probe.statusOf t f.host.dist (answers c.target).versions c)
  flags : ∀ c, c.target ∈ targets → e.flags.get c = (answers c.target).versions.lists c
  versions : ∀ k, k.target ∈ targets →
    e.host.versions.get k = (answers k.target).versions.get k
  other_components : ∀ c, c.target ∉ targets → u.components.get c = s.components.get c
  other_flags : ∀ c, c.target ∉ targets → e.flags.get c = f.flags.get c
  other_versions : ∀ k, k.target ∉ targets → e.host.versions.get k = f.host.versions.get k

section Told

variable {t : Resources} {answers : ProbeTarget → Outcome} {s u v : Step} {f e d : Findings}

theorem Told.nil : Told t answers [] s f s f := by
  constructor
  · rfl
  · rintro c ⟨⟩
  · rintro c ⟨⟩
  · rintro k ⟨⟩
  all_goals exact fun _ _ => rfl

theorem Told.append {targets targets' : List ProbeTarget} (h : Told t answers targets s f u e)
    (h' : Told t answers targets' u e v d) : Told t answers (targets ++ targets') s f v d := by
  constructor
  · exact h'.dist_eq.trans h.dist_eq
  all_goals
    intro x hx
    rw [List.mem_append] at hx
  · by_cases hlater : x.target ∈ targets'
    · rw [h'.components x hlater, h.dist_eq]
    · rw [h'.other_components x hlater, h.components x (hx.resolve_right hlater)]
  · by_cases hlater : x.target ∈ targets'
    · exact h'.flags x hlater
    · rw [h'.other_flags x hlater, h.flags x (hx.resolve_right hlater)]
  · by_cases hlater : x.target ∈ targets'
    · exact h'.versions x hlater
    · rw [h'.other_versions x hlater, h.versions x (hx.resolve_right hlater)]
  all_goals
    rw [not_or] at hx
    obtain ⟨hearlier, hlater⟩ := hx
  · rw [h'.other_components x hlater, h.other_components x hearlier]
  · rw [h'.other_flags x hlater, h.other_flags x hearlier]
  · rw [h'.other_versions x hlater, h.other_versions x hearlier]

theorem apply_told (t : Resources) (answers : ProbeTarget → Outcome) (p : ProbeTarget)
    (s : Step) (f : Findings) :
    Told t answers [p] s f
      ((s.without (.probe p)).noteStatuses (Probe.apply t p (Probe.answer (answers p)) f).1)
      (Probe.apply t p (Probe.answer (answers p)) f).2 := by
  constructor
  · exact Probe.apply_dist t p _ f
  all_goals
    intro x hx
    rw [List.mem_singleton] at hx
  · rw [Probe.apply_components, if_pos hx, hx]
    rfl
  · rw [Probe.apply_flags_target, if_pos hx, hx]
    rfl
  · rw [Probe.apply_versions, if_pos hx, hx]
    rfl
  · rw [Probe.apply_components, if_neg hx]
    rfl
  · rw [Probe.apply_flags_target, if_neg hx]
  · rw [Probe.apply_versions, if_neg hx]

/-- Two steps and two findings hold the same of what some probes look at. -/
structure Alike (looked : ProbeTarget → Prop) (u : Step) (e : Findings) (v : Step) (d : Findings) :
    Prop where
  components : ∀ c, looked c.target → v.components.get c = u.components.get c
  flags : ∀ c, looked c.target → d.flags.get c = e.flags.get c
  versions : ∀ k, looked k.target → d.host.versions.get k = e.host.versions.get k

theorem Told.others {targets order : List ProbeTarget} (h : Told t answers order s f u e)
    (horder : order.Perm targets) : Alike (· ∉ targets) s f u e where
  components c hc := h.other_components c (mt horder.mem_iff.mp hc)
  flags c hc := h.other_flags c (mt horder.mem_iff.mp hc)
  versions k hk := h.other_versions k (mt horder.mem_iff.mp hk)

theorem Told.alike {answers' : ProbeTarget → Outcome} {targets order order' : List ProbeTarget}
    {s' : Step} {f' : Findings} (h : Told t answers order s f u e)
    (h' : Told t answers' order' s' f' v d) (horder : order.Perm targets)
    (horder' : order'.Perm targets) (hdist : f'.host.dist = f.host.dist)
    (halike : ∀ p ∈ targets, (answers' p).versions = (answers p).versions) :
    Alike (· ∈ targets) u e v d := by
  constructor
  all_goals
    intro x hx
    have hmem := horder.mem_iff.mpr hx
    have hmem' := horder'.mem_iff.mpr hx
  · rw [h'.components x hmem', h.components x hmem, hdist, halike _ hx]
  · rw [h'.flags x hmem', h.flags x hmem, halike _ hx]
  · rw [h'.versions x hmem', h.versions x hmem, halike _ hx]

theorem Alike.components_eq {targets : List ProbeTarget} (h : Alike (· ∈ targets) u e v d)
    (hothers : ∀ c, c.target ∉ targets → v.components.get c = u.components.get c) :
    v.components = u.components := by
  apply PerComponent.ext_get
  intro c
  by_cases hc : c.target ∈ targets
  · exact h.components c hc
  · exact hothers c hc

theorem Alike.findings_eq {targets : List ProbeTarget} (h : Alike (· ∈ targets) u e v d)
    (hothers : Alike (· ∉ targets) s e v d) :
    d.flags = e.flags ∧ d.host.versions = e.host.versions := by
  constructor
  · apply PerComponent.ext_get
    intro c
    by_cases hc : c.target ∈ targets
    · exact h.flags c hc
    · exact hothers.flags c hc
  · apply InstalledVersions.ext_get
    intro k
    by_cases hk : k.target ∈ targets
    · exact h.versions k hk
    · exact hothers.versions k hk

end Told

/-- A step of a scope that waits for the results of some probes and for nothing else. -/
structure AwaitsProbes (s : Step) (scope : ProbeScope) (targets : List ProbeTarget) : Prop where
  kind_eq : s.kind = .probe scope
  pending_perm : s.pending.Perm (targets.map .probe)

structure Concluded (scope : ProbeScope) (s : Step) (f : Findings) (u : Step) (e : Findings) :
    Prop where
  step_eq : u = { s with
    pending := []
    components := u.components
    state := (Probe.verdict scope u.statuses e.flags).state
    policyFailure := (Probe.verdict scope u.statuses e.flags).policyFailure
    nextKind := (Probe.verdict scope u.statuses e.flags).next
    completed := true }
  host_eq : e.host = { f.host with versions := e.host.versions, probed := true }

section Answers

variable (t : Resources) {scope : ProbeScope} (answers : ProbeTarget → Outcome) {s : Step}
  {p : ProbeTarget} {targets order : List ProbeTarget}

theorem AwaitsProbes.of_perm (h : s.AwaitsProbes scope targets) (hperm : order.Perm targets) :
    s.AwaitsProbes scope order :=
  ⟨h.kind_eq, h.pending_perm.trans (hperm.symm.map ActionKey.probe)⟩

theorem AwaitsProbes.mem (h : s.AwaitsProbes scope (p :: targets)) : .probe p ∈ s.pending :=
  h.pending_perm.mem_iff.mpr List.mem_cons_self

theorem AwaitsProbes.erase (h : s.AwaitsProbes scope (p :: targets)) :
    (s.pending.erase (.probe p)).Perm (targets.map .probe) := by
  have herase := h.pending_perm.erase (.probe p)
  rwa [List.map_cons, List.erase_cons_head] at herase

theorem AwaitsProbes.complete (h : s.AwaitsProbes scope (p :: targets)) (o : Outcome)
    (f : Findings) : (s.complete t (.probe p) o f).step.AwaitsProbes scope targets := by
  rw [complete_probe t h.kind_eq h.mem, applyProbe]
  dsimp only
  split
  · exact ⟨h.kind_eq, h.erase⟩
  · exact ⟨h.kind_eq, h.erase⟩

theorem AwaitsProbes.told_one (h : s.AwaitsProbes scope (p :: targets)) (f : Findings) :
    Told t answers [p] s f (s.complete t (.probe p) (answers p) f).step
      (s.complete t (.probe p) (answers p) f).findings := by
  have htold := apply_told t answers p s f
  rw [complete_probe t h.kind_eq h.mem, applyProbe]
  dsimp only
  split
  · exact htold
  · exact ⟨htold.dist_eq, htold.components, htold.flags, htold.versions, htold.other_components,
      htold.other_flags, htold.other_versions⟩

theorem AwaitsProbes.told (h : s.AwaitsProbes scope order) (f : Findings) :
    Told t answers order s f (s.completeProbes t answers order f).1
      (s.completeProbes t answers order f).2 := by
  induction order generalizing s f with
  | nil => exact .nil
  | cons p order ih => exact (h.told_one t answers f).append (ih (h.complete t (answers p) f) _)

theorem AwaitsProbes.concluded (h : s.AwaitsProbes scope order) (hsome : order ≠ [])
    (f : Findings) :
    Concluded scope s f (s.completeProbes t answers order f).1
      (s.completeProbes t answers order f).2 := by
  induction order generalizing s f with
  | nil => exact absurd rfl hsome
  | cons p order ih =>
      have happly := Probe.apply_host t p (Probe.answer (answers p)) f
      cases order with
      | nil =>
          have hlast := complete_probe_of_last t h.kind_eq h.mem h.erase.eq_nil (answers p) f
          rw [completeProbes, completeProbes, hlast]
          constructor
          · simp only [conclude, noteStatuses, without, statuses, h.erase.eq_nil]
          · simp only [conclude]
            rw [happly]
      | cons q order =>
          have hmore : s.pending.erase (.probe p) ≠ [] := by
            intro hnil
            have hleft := h.erase
            rw [hnil] at hleft
            cases hleft.symm.eq_nil
          have hrest := ih (h.complete t (answers p) f) (List.cons_ne_nil q order)
            (s.complete t (.probe p) (answers p) f).findings
          rw [completeProbes]
          generalize completeProbes t answers
            (s.complete t (.probe p) (answers p) f).step (q :: order)
            (s.complete t (.probe p) (answers p) f).findings = last at hrest
          rw [complete_probe_of_more t h.kind_eq h.mem hmore] at hrest
          constructor
          · exact hrest.step_eq
          · rw [hrest.host_eq, happly]

end Answers

theorem enter_of_started {ctx : EnterContext} {g : Guards} {s : Step}
    (h : (s.enter ctx g).result = .ok .started) : (s.enter ctx g).step = s.working := by
  rcases enter_spec ctx g s with ⟨e, -, heq⟩ | ⟨-, -, hentry⟩
  · rw [heq] at h
    cases h
  · generalize s.enter ctx g = entered at h hentry
    cases hentry with
    | started => rfl
    | _ => cases h

theorem working_awaits {s : Step} {scope : ProbeScope} (hkind : s.kind = .probe scope) :
    s.working.AwaitsProbes scope scope.targets := by
  refine ⟨hkind, ?_⟩
  rw [working, hkind]
  exact .refl _

theorem targets_ne_nil {scope : ProbeScope} {order : List ProbeTarget}
    (h : order.Perm scope.targets) : order ≠ [] := by
  rintro rfl
  cases scope <;> cases h.symm.eq_nil

theorem Concluded.judged {scope : ProbeScope} {s u : Step} {f e : Findings}
    (h : Concluded scope s f u e) : u.Judged scope e.flags := by
  have hstep := h.step_eq
  exact ⟨congrArg Step.state hstep, congrArg Step.policyFailure hstep,
    congrArg Step.nextKind hstep⟩

/-- A step that was at most linked to another one, or left, since it was completed. -/
def LeftAs (u w : Step) : Prop :=
  w = { u with state := w.state, next := w.next, nextKind := w.nextKind }

theorem Concluded.again {scope : ProbeScope} {s u v w : Step} {f e d : Findings}
    (h : Concluded scope s.working f u e) (hleft : u.LeftAs w)
    (h' : Concluded scope w.working e v d) (hcomponents : v.components = u.components)
    (hflags : d.flags = e.flags) : v = { u with generation := u.generation + 1 } := by
  have hu := h.step_eq
  have hstatuses : v.statuses = u.statuses := by rw [statuses, hcomponents, statuses]
  rw [h'.step_eq, hstatuses, hflags, hcomponents, hleft]
  generalize Probe.verdict scope u.statuses e.flags = verdict at hu ⊢
  generalize u.components = components at hu ⊢
  subst hu
  rfl

/-- A probe step that is entered once more, and whose probes answer as they did before, becomes the
same step of the next generation, and the findings stay as they are. -/
theorem completeProbes_again (t : Resources) {scope : ProbeScope} {s w : Step}
    (hkind : s.kind = .probe scope) {answers answers' : ProbeTarget → Outcome}
    (halike : ∀ p ∈ scope.targets, (answers' p).versions = (answers p).versions)
    {order order' : List ProbeTarget} (horder : order.Perm scope.targets)
    (horder' : order'.Perm scope.targets) (f : Findings)
    (hleft : (s.working.completeProbes t answers order f).1.LeftAs w) :
    w.working.completeProbes t answers' order' (s.working.completeProbes t answers order f).2 =
      ({ (s.working.completeProbes t answers order f).1 with
          generation := (s.working.completeProbes t answers order f).1.generation + 1 },
        (s.working.completeProbes t answers order f).2) := by
  have hawaits := (working_awaits hkind).of_perm horder
  have htold := hawaits.told t answers f
  have hconcluded := hawaits.concluded t answers (targets_ne_nil horder) f
  generalize s.working.completeProbes t answers order f = first at *
  obtain ⟨u, e⟩ := first
  dsimp only at htold hconcluded hleft ⊢
  have hkind' : w.kind = .probe scope := by
    rw [hleft, hconcluded.step_eq]
    exact hkind
  have hawaits' := (working_awaits hkind').of_perm horder'
  have htold' := hawaits'.told t answers' e
  have hconcluded' := hawaits'.concluded t answers' (targets_ne_nil horder') e
  generalize w.working.completeProbes t answers' order' e = last at *
  obtain ⟨v, d⟩ := last
  dsimp only at htold' hconcluded'
  have hsame := htold.alike htold' horder horder' htold.dist_eq halike
  have hothers := htold.others horder
  have hothers' := htold'.others horder'
  obtain ⟨hflags, hversions⟩ := hsame.findings_eq hothers'
  -- Neither time anything is held of what the probes do not look at.
  have hcomponents := hsame.components_eq fun c hc =>
    (hothers'.components c hc).trans (hothers.components c hc).symm
  have hhost : d.host = e.host := by
    rw [hconcluded'.host_eq, hversions, hconcluded.host_eq]
  exact Prod.ext (hconcluded.again hleft hconcluded' hcomponents hflags)
    (congrArg₂ Findings.mk hhost hflags)

/-- What the probes of a scope find out does not depend on what was known before. Of what they look
at a step and the findings hold the same afterwards, whatever they held before and whichever probe
answers first; the rest stays as it was. If the scope is all, the verdict is the same too. A probe
that failed or printed nothing but blanks counts as one that printed nothing. So a step that is
entered again, and whose probes answer as they did before, ends as it ended before. -/
theorem probe_results_independent_of_history (t : Resources) {scope : ProbeScope}
    {answers answers' : ProbeTarget → Outcome}
    (halike : ∀ p ∈ scope.targets, (answers' p).versions = (answers p).versions)
    {order order' : List ProbeTarget} (horder : order.Perm scope.targets)
    (horder' : order'.Perm scope.targets) :
    (∀ (s s' : Step) (f f' : Findings), s.AwaitsProbes scope scope.targets →
      s'.AwaitsProbes scope scope.targets → f'.host.dist = f.host.dist →
        ∀ u e v d, s.completeProbes t answers order f = (u, e) →
          s'.completeProbes t answers' order' f' = (v, d) →
            Alike (· ∈ scope.targets) u e v d ∧
            (Alike (· ∉ scope.targets) s f u e ∧
              e.host = { f.host with versions := e.host.versions, probed := true }) ∧
            (scope = .all → v.components = u.components ∧ v.state = u.state ∧
              v.policyFailure = u.policyFailure ∧ v.nextKind = u.nextKind)) ∧
    (∀ (s : Step) (p : ProbeTarget) (o : Outcome) (f : Findings), o.TellsNothing →
      s.complete t (.probe p) o f = s.complete t (.probe p) (.exited ⟨"", 0⟩) f) ∧
    (∀ (s : Step) (ctx : EnterContext) (g : Guards) (f : Findings), s.kind = .probe scope →
      (s.enter ctx g).result = .ok .started →
        (s.enter ctx g).step.AwaitsProbes scope scope.targets ∧
        ∀ u e, (s.enter ctx g).step.completeProbes t answers order f = (u, e) →
          ∀ w ctx' g', u.LeftAs w → (w.enter ctx' g').result = .ok .started →
            (w.enter ctx' g').step.completeProbes t answers' order' e =
              ({ u with generation := u.generation + 1 }, e)) := by
  refine ⟨?_, fun s p o f ho => complete_of_tellsNothing t s p ho f, ?_⟩
  · intro s s' f f' h h' hdist u e v d hrun hrun'
    have htold := (h.of_perm horder).told t answers f
    have htold' := (h'.of_perm horder').told t answers' f'
    have hconcluded := (h.of_perm horder).concluded t answers (targets_ne_nil horder) f
    have hconcluded' := (h'.of_perm horder').concluded t answers' (targets_ne_nil horder') f'
    rw [hrun] at htold hconcluded
    rw [hrun'] at htold' hconcluded'
    dsimp only at htold hconcluded htold' hconcluded'
    have hsame := htold.alike htold' horder horder' hdist halike
    refine ⟨hsame, ⟨htold.others horder, hconcluded.host_eq⟩, ?_⟩
    rintro rfl
    have hall : ∀ p, p ∈ ProbeScope.all.targets := by rintro ⟨⟩ <;> decide
    have hcomponents := hsame.components_eq fun c hc => absurd (hall _) hc
    have hflags : d.flags = e.flags := PerComponent.ext_get fun c => hsame.flags c (hall _)
    obtain ⟨hstate, hfailure, hnext⟩ := hconcluded.judged
    obtain ⟨hstate', hfailure', hnext'⟩ := hconcluded'.judged
    rw [statuses, hcomponents, hflags] at hstate' hfailure' hnext'
    exact ⟨hcomponents, hstate'.trans hstate.symm, hfailure'.trans hfailure.symm,
      hnext'.trans hnext.symm⟩
  · intro s ctx g f hkind hstarted
    rw [enter_of_started hstarted]
    refine ⟨working_awaits hkind, ?_⟩
    intro u e hrun w ctx' g' hleft hagain
    rw [enter_of_started hagain]
    have hfirst := completeProbes_again (w := w) t hkind halike horder horder' f
    rw [hrun] at hfirst
    exact hfirst hleft

def sampleAnswers : ProbeTarget → Outcome
  | .storage => .exited ⟨"8.4.1", 0⟩
  | .clusterStack => .exited ⟨"hb:3.0.5", 127⟩

def staleSample : Findings where
  host := { Host.new ⟨1⟩ "alpha" "10.0.0.1" with versions := { heartbeat := some "2.1.4" } }
  flags := .const true

theorem probe_results_independent_of_history_sample :
    let s := (Step.new 0 (.probe .all) none).working
    let fresh : Findings := ⟨Host.new ⟨1⟩ "alpha" "10.0.0.1", .none⟩
    let u := s.completeProbes (.ofTable .empty) sampleAnswers [.storage, .clusterStack] fresh
    let v := s.completeProbes (.ofTable .empty) sampleAnswers [.clusterStack, .storage] staleSample
    Alike (· ∈ ProbeScope.all.targets) u.1 u.2 v.1 v.2 ∧ v.1.state = u.1.state ∧
      u.1.state = .needsInstall ∧ v.2.host.versions.heartbeat = none := by
  intro s fresh u v
  have hanswers : ∀ p ∈ ProbeScope.all.targets,
      (sampleAnswers p).versions = (sampleAnswers p).versions := fun _ _ => rfl
  have horder : [ProbeTarget.storage, .clusterStack].Perm ProbeScope.all.targets := by decide
  have horder' : [ProbeTarget.clusterStack, .storage].Perm ProbeScope.all.targets := by decide
  obtain ⟨hruns, -, -⟩ :=
    probe_results_independent_of_history (.ofTable .empty) hanswers horder horder'
  have hawaits : s.AwaitsProbes .all ProbeScope.all.targets := working_awaits rfl
  obtain ⟨halike, -, hverdict⟩ :=
    hruns s s fresh staleSample hawaits hawaits rfl u.1 u.2 v.1 v.2 rfl rfl
  obtain ⟨-, hstate, -, -⟩ := hverdict rfl
  refine ⟨halike, hstate, ?_, ?_⟩
  · decide +kernel
  · decide +kernel

end Step

end ClusterSetup

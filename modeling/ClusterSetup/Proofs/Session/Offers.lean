import ClusterSetup.Proofs.Session.Performing

/-!
Installs on the path. The step of an install stays on the path only as long as the probe that it
was chosen on still offers the install, and the method is still listed: what changes the one or the
other cuts the path before the step.
-/

namespace ClusterSetup

namespace Session

/-- Every step of an install on the path follows a probe that offers the install, and its method is
listed. -/
def Backed (steps : List Step) (listed : Component → Nat → Prop) : Prop :=
  ∀ (i : StepId) (u : Step), OnPath steps i → steps[i]? = some u →
    ∀ c n, u.kind = .install c n → listed c n ∧
      ∃ p v, u.previous = some p ∧ steps[p]? = some v ∧ v.offersInstall c = true

theorem Backed.mono {steps : List Step} {listed listed' : Component → Nat → Prop}
    (h : Backed steps listed) (hlisted : ∀ c n, listed c n → listed' c n) :
    Backed steps listed' := by
  intro i u hpath hu c n hkind
  obtain ⟨hmethod, hoffer⟩ := h i u hpath hu c n hkind
  exact ⟨hlisted c n hmethod, hoffer⟩

theorem backed_of_first {steps : List Step} {s : Step} (hs : steps[0]? = some s)
    (hnext : s.next = none) (hkind : s.kind = .connect) (listed : Component → Nat → Prop) :
    Backed steps listed := by
  intro i u hpath hu c n hinstall
  rcases Relation.ReflTransGen.cases_head hpath with rfl | ⟨m, ⟨first, hfirst, hlink⟩, -⟩
  · rw [hs, Option.some.injEq] at hu
    rw [← hu, hkind] at hinstall
    cases hinstall
  · rw [hs, Option.some.injEq] at hfirst
    rw [← hfirst, hnext] at hlink
    cases hlink

theorem Backed.set {steps : List Step} {listed : Component → Nat → Prop} (h : Backed steps listed)
    {i : StepId} {s t : Step} (hs : steps[i]? = some s) (hsame : s.SameStep t)
    (harena : Arena (steps.set i t)) (hnext : ∀ n, t.next = some n → s.next = some n)
    (hoffers : ∀ n, t.next = some n → ∀ c, s.offersInstall c = true → t.offersInstall c = true) :
    Backed (steps.set i t) listed := by
  have hi : i < steps.length := (List.getElem?_eq_some_iff.mp hs).1
  intro j u hpath hu c n hkind
  have hold : ∃ old, steps[j]? = some old ∧ old.kind = u.kind ∧ old.previous = u.previous := by
    rcases getElem?_set_cases hu with ⟨rfl, rfl⟩ | ⟨-, hu⟩
    · exact ⟨s, hs, hsame.kind_eq.symm, hsame.previous_eq.symm⟩
    · exact ⟨u, hu, rfl, rfl⟩
  obtain ⟨old, hold, hkind', hprevious⟩ := hold
  obtain ⟨hlisted, p, v, hp, hv, hoffer⟩ :=
    h j old (hpath.of_set hs hnext) hold c n (hkind'.trans hkind)
  rw [hprevious] at hp
  refine ⟨hlisted, p, ?_⟩
  by_cases hpi : p = i
  · subst hpi
    obtain ⟨-, t', ht', hlink⟩ := hpath.previous harena hu hp
    rw [List.getElem?_set_self hi, Option.some.injEq] at ht'
    subst ht'
    rw [hs, Option.some.injEq] at hv
    subst hv
    exact ⟨t, hp, List.getElem?_set_self hi, hoffers j hlink c hoffer⟩
  · refine ⟨v, hp, ?_, hoffer⟩
    rw [List.getElem?_set_ne fun hip => hpi hip.symm, hv]

theorem getElem?_attach_of_ne {steps : List Step} {i j : StepId} {t v : Step} (hne : j ≠ i)
    (hv : steps[j]? = some v) : (attach steps i t)[j]? = some v := by
  have hj : j < steps.length := (List.getElem?_eq_some_iff.mp hv).1
  rcases Option.eq_none_or_eq_some t.nextKind with hkind | ⟨kind, hkind⟩
  · rw [attach_of_undecided hkind, List.getElem?_set_ne fun h => hne h.symm, hv]
  · rw [attach_of_decided hkind, List.getElem?_set_ne fun h => hne h.symm,
      List.getElem?_append_left hj, hv]

theorem Backed.attach {steps : List Step} {listed : Component → Nat → Prop}
    (h : Backed steps listed) {i : StepId} {s t : Step} (hs : steps[i]? = some s)
    (hsame : s.SameStep t) (harena : Arena (Session.attach steps i t)) (hnext : t.next = none)
    (hchosen : ∀ c n, t.nextKind = some (.install c n) →
      listed c n ∧ t.offersInstall c = true) :
    Backed (Session.attach steps i t) listed := by
  have hi : i < steps.length := (List.getElem?_eq_some_iff.mp hs).1
  obtain ⟨next, hself, hnone, hsome⟩ := getElem?_attach_self hi t
  intro j u hpath hu c n hkind
  by_cases hj : j < steps.length
  · have hold : ∃ old, steps[j]? = some old ∧ old.kind = u.kind ∧ old.previous = u.previous := by
      rcases getElem?_attach_cases hu with ⟨rfl, next', rfl⟩ | ⟨-, hu⟩ | ⟨rfl, -⟩
      · exact ⟨s, hs, hsame.kind_eq.symm, hsame.previous_eq.symm⟩
      · exact ⟨u, hu, rfl, rfl⟩
      · exact absurd hj (Nat.lt_irrefl _)
    obtain ⟨old, hold, hkind', hprevious⟩ := hold
    have hpath' : OnPath steps j := by
      rcases hpath.of_attach hs hnext with hbefore | ⟨rfl, -⟩
      · exact hbefore
      · exact absurd hj (Nat.lt_irrefl _)
    obtain ⟨hlisted, p, v, hp, hv, hoffer⟩ := h j old hpath' hold c n (hkind'.trans hkind)
    rw [hprevious] at hp
    -- The step that is attached to leads to the new one, if anywhere.
    have hpi : p ≠ i := by
      rintro rfl
      obtain ⟨-, t', ht', hlink⟩ := hpath.previous harena hu hp
      rw [hself, Option.some.injEq] at ht'
      subst ht'
      dsimp only at hlink
      rcases Option.eq_none_or_eq_some t.nextKind with hundecided | ⟨kind, hdecided⟩
      · rw [hnone hundecided, hnext] at hlink
        cases hlink
      · have hlast := hsome (by rw [hdecided]; exact Option.some_ne_none kind)
        rw [hlink, Option.some.injEq] at hlast
        exact Nat.lt_irrefl _ (hlast ▸ hj)
    exact ⟨hlisted, p, v, hp, getElem?_attach_of_ne hpi hv, hoffer⟩
  · rcases getElem?_attach_cases hu with ⟨rfl, -⟩ | ⟨-, hu⟩ | ⟨rfl, kind, hdecided, rfl⟩
    · exact absurd hi hj
    · exact absurd (List.getElem?_eq_some_iff.mp hu).1 hj
    · obtain ⟨hlisted, hoffer⟩ := hchosen c n (hdecided.trans (congrArg some hkind))
      exact ⟨hlisted, i, _, rfl, hself, hoffer⟩

def Lists (s : Session) (c : Component) (n : Nat) : Prop :=
  ((s.methods c).find? n).isSome = true

theorem lists_congr {s t : Session} (hresources : t.resources = s.resources)
    (hdist : t.host.dist = s.host.dist) (hoptions : t.options = s.options) (c : Component)
    (n : Nat) : s.Lists c n → t.Lists c n := by
  intro h
  simp only [Lists, methods, hresources, hdist, hoptions]
  exact h

/-- Connecting comes first or not at all. -/
def ConnectsFirst (steps : List Step) : Prop :=
  ∀ (i : StepId) (u : Step), steps[i]? = some u → u.kind = .connect → i = 0

theorem ConnectsFirst.set {steps : List Step} (h : ConnectsFirst steps) {i : StepId} {s t : Step}
    (hs : steps[i]? = some s) (hsame : s.SameStep t) : ConnectsFirst (steps.set i t) := by
  intro j u hu hkind
  rcases getElem?_set_cases hu with ⟨rfl, rfl⟩ | ⟨-, hu⟩
  · exact h j s hs (hsame.kind_eq.symm.trans hkind)
  · exact h j u hu hkind

theorem ConnectsFirst.attach {steps : List Step} (h : ConnectsFirst steps) {i : StepId}
    {s t : Step} (hs : steps[i]? = some s) (hsame : s.SameStep t)
    (hnew : t.nextKind ≠ some .connect) : ConnectsFirst (Session.attach steps i t) := by
  intro j u hu hkind
  rcases getElem?_attach_cases hu with ⟨rfl, next, rfl⟩ | ⟨-, hu⟩ | ⟨-, kind, hdecided, rfl⟩
  · exact h j s hs (hsame.kind_eq.symm.trans hkind)
  · exact h j u hu hkind
  · exact absurd (hdecided.trans (congrArg some hkind)) hnew

theorem offering_of_set {steps : List Step} {listed : Component → Nat → Prop}
    (h : Backed steps listed ∧ ConnectsFirst steps) {i : StepId} {s t : Step}
    (hs : steps[i]? = some s) (hsame : s.SameStep t) (harena : Arena (steps.set i t))
    (hnext : t.next = none) : Backed (steps.set i t) listed ∧ ConnectsFirst (steps.set i t) := by
  have hends : ∀ n, t.next ≠ some n := by
    intro n hn
    rw [hnext] at hn
    cases hn
  exact ⟨h.1.set hs hsame harena (fun n hn => absurd hn (hends n))
    (fun n hn => absurd hn (hends n)), h.2.set hs hsame⟩

/-- Unless a session was canceled, the installs on its path are backed. -/
def Offering (s : Session) : Prop :=
  s.canceled = false → Backed s.steps s.Lists ∧ ConnectsFirst s.steps

/-- A result for the current step leaves the methods as they were that are needed on the path. -/
theorem backed_of_applied {s t : Session} (hvalid : s.Valid) (hbacked : Backed s.steps s.Lists)
    (hconnects : ConnectsFirst s.steps) {step step' : Step} {f : Findings} {key : ActionKey}
    {outcome : Outcome} {done : Bool} (hstep : s.steps[s.current]? = some step)
    (hpending : key ∈ step.pending)
    (happlied : step.complete s.resources key outcome s.findings = ⟨step', f, done⟩)
    (hresources : t.resources = s.resources) (hhost : t.host = f.host)
    (hoptions : t.options = s.options) : Backed s.steps t.Lists := by
  -- Only connecting changes the distribution. It comes first, and nothing follows it yet.
  by_cases hkind : step.kind = .connect
  · have hfirst := hconnects s.current step hstep hkind
    have hopen := (hvalid.placed.arena.sound hstep).not_completed (List.ne_nil_of_mem hpending)
    have hnext := hvalid.placed.arena.next_eq_none hstep hopen
    rw [hfirst] at hstep
    exact backed_of_first hstep hnext hkind _
  · obtain ⟨versions, installMethods, probed, hkept⟩ :=
      Step.complete_host s.resources hkind key outcome s.findings
    rw [happlied] at hkept
    have hdist : t.host.dist = s.host.dist := by
      rw [hhost, hkept]
      rfl
    exact hbacked.mono (lists_congr hresources hdist hoptions)

theorem Offering.keeps {d d' : Desk} (hvalid : d.session.Valid) (h : d.session.Offering)
    (hchange : Desk.Change d d') : d'.session.Offering := by
  intro hlive
  have harena := (hchange.valid hvalid).placed.arena
  cases hchange with
  | credentials _ => exact h hlive
  | attempt _ _ => exact h hlive
  | join _ _ add =>
      obtain ⟨hbacked, hconnects⟩ := h hlive
      have hdist := congrArg Host.dist (addHost_host add)
      exact ⟨hbacked.mono (lists_congr rfl hdist rfl), hconnects⟩
  | cancel active =>
      obtain ⟨cluster, membership, heq⟩ := Desk.cancel_eq active
      rw [heq] at hlive
      cases hlive
  | start active current live idle entry =>
      exact offering_of_set (h hlive) current ⟨rfl, rfl, rfl, rfl⟩ harena rfl
  | ask active current live idle kind_eq lacks =>
      exact offering_of_set (h hlive) current ⟨rfl, rfl, rfl, rfl⟩ harena rfl
  | fail active current live idle kind_eq lacks none =>
      exact offering_of_set (h hlive) current ⟨rfl, rfl, rfl, rfl⟩ harena rfl
  | finish active current live idle kind_eq =>
      exact offering_of_set (h hlive) current ⟨rfl, rfl, rfl, rfl⟩ harena rfl
  | @choose s g step c method active current live offers listed =>
      obtain ⟨hbacked, hconnects⟩ := h hlive
      have hsame : step.SameStep (step.chosen c method) := ⟨rfl, rfl, rfl, rfl⟩
      refine ⟨hbacked.attach current hsame harena rfl ?_, hconnects.attach current hsame nofun⟩
      intro d n hchosen
      cases hchosen
      exact ⟨listed, offers⟩
  | @go s g step n active current completed next =>
      obtain ⟨hbacked, hconnects⟩ := h hlive
      have hlinks := Step.proceed_sameLinks step
      have hsame : step.SameStep step.proceed :=
        ⟨hlinks.id_eq, hlinks.kind_eq, hlinks.previous_eq, Step.proceed_canceled step⟩
      refine ⟨hbacked.set current hsame harena ?_ ?_, hconnects.set current hsame⟩
      · intro m hm
        rwa [hlinks.next_eq] at hm
      · intro _ _ c hoffers
        rw [Step.proceed]
        split <;> exact hoffers
  | back _ _ _ _ => exact h hlive
  | answer advance =>
      have hsame := (advance?_answered advance).same
      rw [hsame] at hlive ⊢
      exact h hlive
  | discard canceled arrived =>
      rw [canceled] at hlive
      cases hlive
  | @absorb s g result rest step step' f active arrived current ticket pending applied =>
      obtain ⟨hbacked, hconnects⟩ := h hlive
      obtain ⟨hreads, -⟩ := hvalid.placed.reads current pending applied
      have hkept := backed_of_applied (t := (Desk.absorbed s g result rest step' f).session) hvalid
        hbacked hconnects current pending applied rfl rfl rfl
      exact offering_of_set ⟨hkept, hconnects⟩ current hreads.same harena hreads.next_eq
  | @complete s g result rest step step' f active arrived current ticket pending applied =>
      obtain ⟨hbacked, hconnects⟩ := h hlive
      obtain ⟨hreads, -⟩ := hvalid.placed.reads current pending applied
      have hkept := backed_of_applied (t := (Desk.completed s g result rest step' f).session) hvalid
        hbacked hconnects current pending applied rfl rfl rfl
      have hnew := decided_of_applied hvalid current pending applied
      refine ⟨hkept.attach current hreads.same harena hreads.next_eq ?_,
        hconnects.attach current hreads.same ?_⟩
      · intro c n hinstall
        rcases hnew _ hinstall with hconfirm | ⟨scope, hprobe⟩
        · cases hconfirm
        · cases hprobe
      · intro hconnect
        rcases hnew _ hconnect with hconfirm | ⟨scope, hprobe⟩
        · cases hconfirm
        · cases hprobe

theorem Reachable.offering {s : Session} (h : s.Reachable) : s.Offering := by
  obtain ⟨host, resources, policy, options, credentials, hlater⟩ := h
  refine (hlater.induct Offering.keeps (new_valid host resources policy options credentials) ?_).1
  intro _
  refine ⟨?_, ?_⟩
  · intro i u _ hu c n hkind
    exact absurd hkind (new_has_no_install hu c n)
  · intro i u hu _
    have hi := (List.getElem?_eq_some_iff.mp hu).1
    exact Nat.lt_one_iff.mp hi

end Session

end ClusterSetup

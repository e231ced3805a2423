import ClusterSetup.Proofs.Session.Reading

namespace ClusterSetup

open Relation (ReflTransGen)

theorem Step.stopped_sameLinks (current : StepId) (s : Step) :
    SameLinks s (s.stopped current) := by
  rw [stopped]
  split
  · rw [cancel]
    split <;> exact ⟨rfl, rfl, rfl, rfl, rfl, rfl, rfl⟩
  · exact ⟨rfl, rfl, rfl, rfl, rfl, rfl, rfl⟩

theorem Step.proceed_sameLinks (s : Step) : SameLinks s s.proceed := by
  rw [proceed]
  split <;> exact ⟨rfl, rfl, rfl, rfl, rfl, rfl, rfl⟩

theorem Step.proceed_canceled (s : Step) : s.proceed.canceled = s.canceled := by
  rw [proceed]
  split <;> rfl

namespace Session

namespace Placed

variable {s s' : Session} {step t : Step}

theorem keep (h : s.Placed) (steps_eq : s'.steps = s.steps) (current_eq : s'.current = s.current)
    (canceled_eq : s'.canceled = s.canceled) (finished_eq : s'.finished = s.finished) :
    s'.Placed := by
  constructor
  · rw [steps_eq]
    exact h.arena
  · rw [steps_eq, current_eq]
    exact h.current
  · rw [steps_eq, current_eq]
    exact h.onPath
  · rw [steps_eq, current_eq, canceled_eq, finished_eq]
    exact h.finished

theorem replace (h : s.Placed) (hstep : s.steps[s.current]? = some step)
    (hsound : t.Sound) (hsame : step.SameStep t) (hlinked : LinkedAt s.steps s.current t)
    (steps_eq : s'.steps = s.steps.set s.current t) (current_eq : s'.current = s.current)
    (hfinished : s'.finished = true → s'.canceled = false ∧ t.kind = .confirm) :
    s'.Placed := by
  have hid : s.current < s.steps.length := (List.getElem?_eq_some_iff.mp hstep).1
  have hself : s'.steps[s'.current]? = some t := by
    rw [steps_eq, current_eq]
    exact List.getElem?_set_self hid
  constructor
  · rw [steps_eq]
    exact h.arena.set hstep hsame hsound hlinked
  · exact ⟨t, hself⟩
  · rw [steps_eq, current_eq]
    exact h.onPath.set h.arena hid t
  · intro hs'
    obtain ⟨hlive, hkind⟩ := hfinished hs'
    refine ⟨hlive, ?_⟩
    intro u hu
    rw [hself, Option.some.injEq] at hu
    subst hu
    exact hkind

theorem rerun (h : s.Placed) (hstep : s.steps[s.current]? = some step)
    (hsound : t.Sound) (hsame : step.SameStep t) (hnext : t.next = none)
    (hkind : t.nextKind = none) (steps_eq : s'.steps = s.steps.set s.current t)
    (current_eq : s'.current = s.current) (hopen : s'.finished = false) : s'.Placed := by
  refine h.replace hstep hsound hsame (.of_undecided hnext hkind) steps_eq current_eq ?_
  intro hfinished
  rw [hopen] at hfinished
  cases hfinished

theorem extend (h : s.Placed) (hstep : s.steps[s.current]? = some step)
    (hsound : t.Sound) (hsame : step.SameStep t) (hnext : t.next = none)
    (steps_eq : s'.steps = attach s.steps s.current t) (current_eq : s'.current = s.current)
    (hopen : s'.finished = false) : s'.Placed := by
  have hid : s.current < s.steps.length := (List.getElem?_eq_some_iff.mp hstep).1
  obtain ⟨next, hself, -⟩ := getElem?_attach_self hid t
  constructor
  · rw [steps_eq]
    exact h.arena.attach hstep hsame hsound hnext
  · rw [steps_eq, current_eq]
    exact ⟨_, hself⟩
  · rw [steps_eq, current_eq]
    exact h.onPath.attach h.arena hid t
  · intro hfinished
    rw [hopen] at hfinished
    cases hfinished

theorem move (h : s.Placed) (hpath : OnPath s.steps s'.current) (steps_eq : s'.steps = s.steps)
    (hopen : s'.finished = false) : s'.Placed := by
  obtain ⟨u, hu⟩ := h.current
  have hne : s.steps ≠ [] := by
    intro hnil
    rw [hnil] at hu
    cases hu
  constructor
  · rw [steps_eq]
    exact h.arena
  · rw [steps_eq]
    exact hpath.exists_step h.arena hne
  · rw [steps_eq]
    exact hpath
  · intro hfinished
    rw [hopen] at hfinished
    cases hfinished

end Placed

end Session

namespace Desk

theorem Change.placed {d d' : Desk} (h : d.session.Placed) (hchange : Change d d') :
    d'.session.Placed := by
  cases hchange with
  | credentials _ => exact h.keep rfl rfl rfl rfl
  | attempt _ _ => exact h.keep rfl rfl rfl rfl
  | join _ _ _ => exact h.keep rfl rfl rfl rfl
  | cancel active =>
      obtain ⟨cluster, membership, heq⟩ := cancel_eq active
      have hlinks := Step.stopped_sameLinks d.session.current
      obtain ⟨step, hstep⟩ := h.current
      rw [heq]
      constructor
      · exact h.arena.map hlinks
      · exact ⟨_, by rw [List.getElem?_map, hstep, Option.map_some]⟩
      · exact h.onPath.map hlinks
      · intro hfinished
        rw [active.open_] at hfinished
        cases hfinished
  | @start s g g' step active current live idle entry =>
      have hsound : step.working.Sound :=
        ⟨List.Sublist.refl _, fun h => (nomatch h), fun h => absurd rfl h, fun _ => rfl⟩
      exact h.rerun current hsound ⟨rfl, rfl, rfl, rfl⟩ rfl rfl rfl rfl active.open_
  | @ask s g step c n active current live idle kind_eq lacks =>
      have hsound : Step.Sound { step.reset with state := .installMethodChosen } :=
        .of_idle rfl rfl
      exact h.rerun current hsound ⟨rfl, rfl, rfl, rfl⟩ rfl rfl rfl rfl active.open_
  | @fail s g step c n active current live idle kind_eq lacks none =>
      have hsound : (step.reset.fail (Step.unsupported c n)).Sound := .of_idle rfl rfl
      exact h.rerun current hsound ⟨rfl, rfl, rfl, rfl⟩ rfl rfl rfl rfl active.open_
  | @finish s g step active current live idle kind_eq =>
      have hsound : Step.Sound { step.reset with state := .finished, completed := true } :=
        .of_idle rfl rfl
      have hsame : step.SameStep { step.reset with state := .finished, completed := true } :=
        ⟨rfl, rfl, rfl, rfl⟩
      exact h.replace current hsound hsame (.of_undecided rfl rfl) rfl rfl
        fun _ => ⟨active.live, kind_eq⟩
  | @choose s g step c method active current live offers listed =>
      have hold := h.arena.sound current
      have hcompleted := completed_of_offersInstall offers
      have hprobe : step.kind ≠ .confirm := by
        intro hkind
        simp [Step.offersInstall, hkind] at offers
      have hsound : (step.chosen c method).Sound :=
        ⟨hold.pending_sublist, hold.idle, fun _ => hcompleted, fun hkind => absurd hkind hprobe⟩
      exact h.extend current hsound ⟨rfl, rfl, rfl, rfl⟩ rfl rfl rfl active.open_
  | @go s g step n active current completed next =>
      have hlinks := Step.proceed_sameLinks step
      have hsame : step.SameStep step.proceed :=
        ⟨hlinks.id_eq, hlinks.kind_eq, hlinks.previous_eq, Step.proceed_canceled step⟩
      have hid : s.current < s.steps.length := (List.getElem?_eq_some_iff.mp current).1
      have hnext : step.proceed.next = some n := hlinks.next_eq.trans next
      have hleft : Session.Placed { s with steps := s.steps.set s.current step.proceed } := by
        refine h.replace current ((h.arena.sound current).of_sameLinks hlinks) hsame
          ((h.arena.linked current).of_sameLinks hlinks) rfl rfl ?_
        intro hfinished
        rw [active.open_] at hfinished
        cases hfinished
      have hlead : Session.LeadsTo (s.steps.set s.current step.proceed) s.current n :=
        ⟨step.proceed, List.getElem?_set_self hid, hnext⟩
      exact hleft.move (hleft.onPath.tail hlead) rfl active.open_
  | @back s g step p active current idle previous =>
      obtain ⟨hpath, -⟩ := h.onPath.previous h.arena current previous
      exact h.move hpath rfl active.open_
  | answer advance =>
      have hsame := (Session.advance?_answered advance).same
      rw [hsame]
      exact h.keep rfl rfl rfl rfl
  | discard canceled arrived => exact h.keep rfl rfl rfl rfl
  | absorb active arrived current ticket pending applied =>
      obtain ⟨hreads, hcompleted⟩ := h.reads current pending applied
      exact h.rerun current hreads.sound hreads.same hreads.next_eq
        (hreads.sound.undecided hcompleted) rfl rfl active.open_
  | complete active arrived current ticket pending applied =>
      obtain ⟨hreads, -⟩ := h.reads current pending applied
      exact h.extend current hreads.sound hreads.same hreads.next_eq rfl rfl active.open_

end Desk

end ClusterSetup

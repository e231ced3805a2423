import Mathlib.Logic.Relation
import ClusterSetup.Proofs.Step.Completing
import ClusterSetup.Session

/-!
The steps of a session and the links between them. A step leads forward to a later step that was
made for it, and back to the earlier step for which it was made. The path is what the forward links
reach from the first step; steps beside it have been left for good.
-/

namespace ClusterSetup

namespace Step

/-- What holds of every step by itself. -/
structure Sound (s : Step) : Prop where
  pending_sublist : s.pending.Sublist s.kind.keys
  idle : s.completed = true → s.pending = []
  decided : s.nextKind ≠ none → s.completed = true
  last : s.kind = .confirm → s.nextKind = none

theorem Sound.of_idle {s : Step} (hpending : s.pending = []) (hkind : s.nextKind = none) :
    s.Sound where
  pending_sublist := by
    rw [hpending]
    exact List.nil_sublist _
  idle _ := hpending
  decided h := absurd hkind h
  last _ := hkind

theorem new_sound (id : StepId) (kind : StepKind) (previous : Option StepId) :
    (new id kind previous).Sound :=
  .of_idle rfl rfl

theorem Sound.not_completed {s : Step} (h : s.Sound) (hpending : s.pending ≠ []) :
    s.completed = false := by
  rw [← Bool.not_eq_true]
  intro hcompleted
  exact hpending (h.idle hcompleted)

theorem Sound.undecided {s : Step} (h : s.Sound) (hs : s.completed = false) :
    s.nextKind = none := by
  by_contra hdecided
  rw [h.decided hdecided] at hs
  cases hs

theorem Sound.pending_nodup {s : Step} (h : s.Sound) : s.pending.Nodup :=
  h.pending_sublist.nodup s.kind.keys_nodup

/-- What leads from step to step, and what a step waits for, do not depend on its state. -/
structure SameLinks (s t : Step) : Prop where
  id_eq : t.id = s.id
  kind_eq : t.kind = s.kind
  previous_eq : t.previous = s.previous
  next_eq : t.next = s.next
  nextKind_eq : t.nextKind = s.nextKind
  pending_eq : t.pending = s.pending
  completed_eq : t.completed = s.completed

theorem Sound.of_sameLinks {s t : Step} (h : s.Sound) (hsame : s.SameLinks t) : t.Sound where
  pending_sublist := by
    rw [hsame.pending_eq, hsame.kind_eq]
    exact h.pending_sublist
  idle := by
    rw [hsame.completed_eq, hsame.pending_eq]
    exact h.idle
  decided := by
    rw [hsame.nextKind_eq, hsame.completed_eq]
    exact h.decided
  last := by
    rw [hsame.kind_eq, hsame.nextKind_eq]
    exact h.last

end Step

/-- The forward link of a step, put at a place among steps, leads to a later step that was made
for it and is of the kind it decided on; without a link nothing is decided. -/
structure LinkedAt (steps : List Step) (i : StepId) (s : Step) : Prop where
  undecided : s.next = none → s.nextKind = none
  follows : ∀ n, s.next = some n →
    i < n ∧ ∃ t, steps[n]? = some t ∧ t.previous = some i ∧ s.nextKind = some t.kind

/-- The steps of a session, each at the place of its number. -/
structure Arena (steps : List Step) : Prop where
  id_eq : ∀ {i : StepId} {s : Step}, steps[i]? = some s → s.id = i
  sound : ∀ {i : StepId} {s : Step}, steps[i]? = some s → s.Sound
  first_iff : ∀ {i : StepId} {s : Step}, steps[i]? = some s → (s.previous = none ↔ i = 0)
  previous_lt : ∀ {i p : StepId} {s : Step}, steps[i]? = some s → s.previous = some p → p < i
  linked : ∀ {i : StepId} {s : Step}, steps[i]? = some s → LinkedAt steps i s

theorem LinkedAt.of_undecided {steps : List Step} {i : StepId} {s : Step} (hnext : s.next = none)
    (hkind : s.nextKind = none) : LinkedAt steps i s where
  undecided _ := hkind
  follows n hn := by
    rw [hnext] at hn
    cases hn

theorem LinkedAt.of_sameLinks {steps : List Step} {i : StepId} {s t : Step}
    (h : LinkedAt steps i s) (hsame : s.SameLinks t) : LinkedAt steps i t where
  undecided := by
    rw [hsame.next_eq, hsame.nextKind_eq]
    exact h.undecided
  follows := by
    rw [hsame.next_eq, hsame.nextKind_eq]
    exact h.follows

theorem getElem?_set_cases {steps : List Step} {i j : StepId} {t u : Step}
    (h : (steps.set i t)[j]? = some u) : j = i ∧ u = t ∨ j ≠ i ∧ steps[j]? = some u := by
  by_cases hj : i = j
  · subst hj
    have hi : i < steps.length := by
      rw [← List.length_set]
      exact (List.getElem?_eq_some_iff.mp h).1
    rw [List.getElem?_set_self hi, Option.some.injEq] at h
    exact .inl ⟨rfl, h.symm⟩
  · rw [List.getElem?_set_ne hj] at h
    exact .inr ⟨fun hij => hj hij.symm, h⟩

theorem getElem?_concat_cases {steps : List Step} {j : StepId} {t u : Step}
    (h : (steps ++ [t])[j]? = some u) : j = steps.length ∧ u = t ∨ steps[j]? = some u := by
  rcases Nat.lt_trichotomy j steps.length with hj | rfl | hj
  · rw [List.getElem?_append_left hj] at h
    exact .inr h
  · rw [List.getElem?_concat_length, Option.some.injEq] at h
    exact .inl ⟨rfl, h.symm⟩
  · rw [List.getElem?_eq_none (by simp; omega)] at h
    cases h

namespace Arena

theorem singleton (kind : StepKind) : Arena [Step.new 0 kind none] := by
  have hfirst : ∀ {i : StepId} {s : Step}, [Step.new 0 kind none][i]? = some s →
      i = 0 ∧ s = Step.new 0 kind none := by
    intro i s h
    rw [List.getElem?_eq_some_iff] at h
    obtain ⟨hi, rfl⟩ := h
    rw [List.length_singleton, Nat.lt_one_iff] at hi
    subst hi
    exact ⟨rfl, rfl⟩
  constructor
  · intro i s h
    obtain ⟨rfl, rfl⟩ := hfirst h
    rfl
  · intro i s h
    obtain ⟨rfl, rfl⟩ := hfirst h
    exact Step.new_sound _ _ _
  · intro i s h
    obtain ⟨rfl, rfl⟩ := hfirst h
    exact ⟨fun _ => rfl, fun _ => rfl⟩
  · intro i s p h hp
    obtain ⟨rfl, rfl⟩ := hfirst h
    cases hp
  · intro i s h
    obtain ⟨rfl, rfl⟩ := hfirst h
    exact ⟨fun _ => rfl, fun n hn => nomatch hn⟩

theorem set {steps : List Step} (h : Arena steps) {i : StepId} {s t : Step}
    (hs : steps[i]? = some s) (hsame : s.SameStep t) (hsound : t.Sound)
    (hlinked : LinkedAt steps i t) : Arena (steps.set i t) := by
  have hi : i < steps.length := (List.getElem?_eq_some_iff.mp hs).1
  -- Whatever leads to the replaced step leads to its new state, which is of the same kind.
  have hkeep : ∀ {j : StepId} {u : Step}, LinkedAt steps j u → LinkedAt (steps.set i t) j u := by
    rintro j u ⟨hnone, hsome⟩
    refine ⟨hnone, ?_⟩
    intro n hn
    obtain ⟨hjn, v, hv, hprevious, hkind⟩ := hsome n hn
    refine ⟨hjn, ?_⟩
    by_cases hin : i = n
    · subst hin
      rw [hs, Option.some.injEq] at hv
      subst hv
      exact ⟨t, List.getElem?_set_self hi, hsame.previous_eq.trans hprevious,
        by rw [hkind, hsame.kind_eq]⟩
    · exact ⟨v, by rw [List.getElem?_set_ne hin, hv], hprevious, hkind⟩
  constructor
  · intro j u hu
    rcases getElem?_set_cases hu with ⟨rfl, rfl⟩ | ⟨-, hu⟩
    · exact hsame.id_eq.trans (h.id_eq hs)
    · exact h.id_eq hu
  · intro j u hu
    rcases getElem?_set_cases hu with ⟨rfl, rfl⟩ | ⟨-, hu⟩
    · exact hsound
    · exact h.sound hu
  · intro j u hu
    rcases getElem?_set_cases hu with ⟨rfl, rfl⟩ | ⟨-, hu⟩
    · rw [hsame.previous_eq]
      exact h.first_iff hs
    · exact h.first_iff hu
  · intro j u p hu hp
    rcases getElem?_set_cases hu with ⟨rfl, rfl⟩ | ⟨-, hu⟩
    · rw [hsame.previous_eq] at hp
      exact h.previous_lt hs hp
    · exact h.previous_lt hu hp
  · intro j u hu
    rcases getElem?_set_cases hu with ⟨rfl, rfl⟩ | ⟨-, hu⟩
    · exact hkeep hlinked
    · exact hkeep (h.linked hu)

theorem append {steps : List Step} (h : Arena steps) {i : StepId} (hi : i < steps.length)
    (kind : StepKind) : Arena (steps ++ [Step.new steps.length kind (some i)]) := by
  constructor
  · intro j u hu
    rcases getElem?_concat_cases hu with ⟨rfl, rfl⟩ | hu
    · rfl
    · exact h.id_eq hu
  · intro j u hu
    rcases getElem?_concat_cases hu with ⟨rfl, rfl⟩ | hu
    · exact Step.new_sound _ _ _
    · exact h.sound hu
  · intro j u hu
    rcases getElem?_concat_cases hu with ⟨rfl, rfl⟩ | hu
    · constructor
      · intro hnone
        cases hnone
      · intro hzero
        rw [hzero] at hi
        exact absurd hi (Nat.not_lt_zero i)
    · exact h.first_iff hu
  · intro j u p hu hp
    rcases getElem?_concat_cases hu with ⟨rfl, rfl⟩ | hu
    · cases hp
      exact hi
    · exact h.previous_lt hu hp
  · intro j u hu
    rcases getElem?_concat_cases hu with ⟨rfl, rfl⟩ | hu
    · exact ⟨fun _ => rfl, fun n hn => nomatch hn⟩
    · obtain ⟨hnone, hsome⟩ := h.linked hu
      refine ⟨hnone, ?_⟩
      intro n hn
      obtain ⟨hjn, v, hv, hprevious, hkind⟩ := hsome n hn
      have hlt : n < steps.length := (List.getElem?_eq_some_iff.mp hv).1
      exact ⟨hjn, v, by rw [List.getElem?_append_left hlt, hv], hprevious, hkind⟩

end Arena

theorem Arena.map {steps : List Step} (h : Arena steps) {f : Step → Step}
    (hf : ∀ s, Step.SameLinks s (f s)) : Arena (steps.map f) := by
  have hback : ∀ {i : StepId} {u : Step}, (steps.map f)[i]? = some u →
      ∃ s, steps[i]? = some s ∧ s.SameLinks u := by
    intro i u hu
    rw [List.getElem?_map, Option.map_eq_some_iff] at hu
    obtain ⟨s, hs, rfl⟩ := hu
    exact ⟨s, hs, hf s⟩
  constructor
  · intro i u hu
    obtain ⟨s, hs, hsame⟩ := hback hu
    exact hsame.id_eq.trans (h.id_eq hs)
  · intro i u hu
    obtain ⟨s, hs, hsame⟩ := hback hu
    exact (h.sound hs).of_sameLinks hsame
  · intro i u hu
    obtain ⟨s, hs, hsame⟩ := hback hu
    rw [hsame.previous_eq]
    exact h.first_iff hs
  · intro i p u hu hp
    obtain ⟨s, hs, hsame⟩ := hback hu
    rw [hsame.previous_eq] at hp
    exact h.previous_lt hs hp
  · intro i u hu
    obtain ⟨s, hs, hsame⟩ := hback hu
    obtain ⟨hnone, hsome⟩ := h.linked hs
    constructor
    · rw [hsame.next_eq, hsame.nextKind_eq]
      exact hnone
    · intro n hn
      rw [hsame.next_eq] at hn
      obtain ⟨hin, t, ht, hprevious, hkind⟩ := hsome n hn
      refine ⟨hin, f t, ?_, ?_, ?_⟩
      · rw [List.getElem?_map, ht, Option.map_some]
      · rw [(hf t).previous_eq]
        exact hprevious
      · rw [hsame.nextKind_eq, (hf t).kind_eq]
        exact hkind

theorem Arena.next_eq_none {steps : List Step} (h : Arena steps) {i : StepId} {s : Step}
    (hs : steps[i]? = some s) (hopen : s.completed = false) : s.next = none := by
  rcases Option.eq_none_or_eq_some s.next with hnone | ⟨n, hn⟩
  · exact hnone
  · obtain ⟨-, t, -, -, hkind⟩ := (h.linked hs).follows n hn
    rw [(h.sound hs).undecided hopen] at hkind
    cases hkind

namespace Session

open Relation (ReflTransGen)

def LeadsTo (steps : List Step) (i n : StepId) : Prop :=
  ∃ s, steps[i]? = some s ∧ s.next = some n

/-- The steps that the forward links reach from the first one. -/
def OnPath (steps : List Step) : StepId → Prop := ReflTransGen (LeadsTo steps) 0

/-- Puts a step that is completed in its place, and makes the step it has decided on. -/
def attach (steps : List Step) (i : StepId) (s : Step) : List Step :=
  match s.nextKind with
  | none => steps.set i s
  | some kind =>
    (steps ++ [Step.new steps.length kind (some i)]).set i { s with next := some steps.length }

theorem attach_of_undecided {steps : List Step} {i : StepId} {s : Step} (h : s.nextKind = none) :
    attach steps i s = steps.set i s := by
  rw [attach, h]

theorem attach_of_decided {steps : List Step} {i : StepId} {s : Step} {kind : StepKind}
    (h : s.nextKind = some kind) :
    attach steps i s = (steps ++ [Step.new steps.length kind (some i)]).set i
      { s with next := some steps.length } := by
  rw [attach, h]

theorem set_eq_self {steps : List Step} {id : StepId} {step : Step}
    (h : steps[id]? = some step) : steps.set id step = steps := by
  obtain ⟨hid, rfl⟩ := List.getElem?_eq_some_iff.mp h
  exact List.set_getElem_self hid

theorem attach_set (steps : List Step) {id : StepId} (hid : id < steps.length) (old step : Step) :
    attach (steps.set id old) id step = attach steps id step := by
  cases hkind : step.nextKind with
  | none => rw [attach_of_undecided hkind, attach_of_undecided hkind, List.set_set]
  | some kind =>
      rw [attach_of_decided hkind, attach_of_decided hkind, List.length_set,
        List.set_append_left _ _ (by rwa [List.length_set]), List.set_append_left _ _ hid,
        List.set_set]

theorem getElem?_attach_self {steps : List Step} {id : StepId} (hid : id < steps.length)
    (step : Step) :
    ∃ next, (attach steps id step)[id]? = some { step with next := next } ∧
      (step.nextKind = none → next = step.next) ∧
      (step.nextKind ≠ none → next = some steps.length) := by
  rcases Option.eq_none_or_eq_some step.nextKind with hkind | ⟨kind, hkind⟩
  · rw [attach_of_undecided hkind]
    exact ⟨step.next, List.getElem?_set_self hid, fun _ => rfl, fun h => absurd hkind h⟩
  · rw [attach_of_decided hkind]
    refine ⟨some steps.length, List.getElem?_set_self ?_, ?_, fun _ => rfl⟩
    · rw [List.length_append]
      exact Nat.lt_add_right _ hid
    · intro hnone
      rw [hkind] at hnone
      cases hnone

theorem getElem?_attach_length {steps : List Step} {id : StepId} {step : Step} {kind : StepKind}
    (hid : id < steps.length) (hkind : step.nextKind = some kind) :
    (attach steps id step)[steps.length]? = some (Step.new steps.length kind (some id)) := by
  rw [attach_of_decided hkind, List.getElem?_set_ne (Nat.ne_of_lt hid),
    List.getElem?_concat_length]

theorem getElem?_attach_cases {steps : List Step} {i j : StepId} {t u : Step}
    (h : (attach steps i t)[j]? = some u) :
    (j = i ∧ ∃ next, u = { t with next := next }) ∨ (j ≠ i ∧ steps[j]? = some u) ∨
      j = steps.length ∧ ∃ kind, t.nextKind = some kind ∧
        u = Step.new steps.length kind (some i) := by
  rcases Option.eq_none_or_eq_some t.nextKind with hkind | ⟨kind, hkind⟩
  · rw [attach_of_undecided hkind] at h
    rcases getElem?_set_cases h with ⟨rfl, rfl⟩ | hother
    · exact .inl ⟨rfl, u.next, rfl⟩
    · exact .inr (.inl hother)
  · rw [attach_of_decided hkind] at h
    rcases getElem?_set_cases h with ⟨rfl, rfl⟩ | ⟨hne, hu⟩
    · exact .inl ⟨rfl, _, rfl⟩
    · rcases getElem?_concat_cases hu with ⟨rfl, rfl⟩ | hu
      · exact .inr (.inr ⟨rfl, kind, hkind, rfl⟩)
      · exact .inr (.inl ⟨hne, hu⟩)

theorem forall_mem_set {P : Step → Prop} {steps : List Step} {i : StepId} {t : Step}
    (h : ∀ u ∈ steps, P u) (ht : P t) : ∀ u ∈ steps.set i t, P u := by
  intro u hu
  rcases List.mem_or_eq_of_mem_set hu with hold | rfl
  · exact h u hold
  · exact ht

theorem forall_mem_attach {P : Step → Prop} {steps : List Step} {i : StepId} {t : Step}
    (h : ∀ u ∈ steps, P u) (ht : ∀ next, P { t with next := next })
    (hnew : ∀ kind, t.nextKind = some kind → P (Step.new steps.length kind (some i))) :
    ∀ u ∈ attach steps i t, P u := by
  intro u hu
  obtain ⟨j, hj⟩ := List.mem_iff_getElem?.mp hu
  rcases getElem?_attach_cases hj with ⟨-, next, rfl⟩ | ⟨-, hold⟩ | ⟨-, kind, hkind, rfl⟩
  · exact ht next
  · exact h u (List.mem_of_getElem? hold)
  · exact hnew kind hkind

end Session

theorem Arena.attach {steps : List Step} (h : Arena steps) {i : StepId} {s t : Step}
    (hs : steps[i]? = some s) (hsame : s.SameStep t) (hsound : t.Sound) (hnext : t.next = none) :
    Arena (Session.attach steps i t) := by
  have hi : i < steps.length := (List.getElem?_eq_some_iff.mp hs).1
  cases hkind : t.nextKind with
  | none =>
      rw [Session.attach_of_undecided hkind]
      refine h.set hs hsame hsound ⟨fun _ => hkind, ?_⟩
      intro n hn
      rw [hnext] at hn
      cases hn
  | some kind =>
      rw [Session.attach_of_decided hkind]
      have hs' : (steps ++ [Step.new steps.length kind (some i)])[i]? = some s := by
        rw [List.getElem?_append_left hi, hs]
      have hsame' : s.SameStep { t with next := some steps.length } :=
        ⟨hsame.id_eq, hsame.kind_eq, hsame.previous_eq, hsame.canceled_eq⟩
      have hsound' : Step.Sound { t with next := some steps.length } :=
        ⟨hsound.pending_sublist, hsound.idle, hsound.decided, hsound.last⟩
      refine (h.append hi kind).set hs' hsame' hsound' ⟨?_, ?_⟩
      · intro hnone
        cases hnone
      · intro n hn
        cases hn
        exact ⟨hi, _, List.getElem?_concat_length, rfl, hkind⟩

namespace Session

open Relation (ReflTransGen)

theorem LeadsTo.lt {steps : List Step} (h : Arena steps) {i n : StepId}
    (hlead : LeadsTo steps i n) : i < n := by
  obtain ⟨s, hs, hn⟩ := hlead
  exact ((h.linked hs).follows n hn).1

/-- A path to a step is not touched by changes of the links from that step on. -/
theorem OnPath.of_agree {steps steps' : List Step} (h : Arena steps) {i : StepId}
    (hpath : OnPath steps i)
    (hagree : ∀ j n, j < i → LeadsTo steps j n → LeadsTo steps' j n) : OnPath steps' i := by
  induction hpath with
  | refl => exact .refl
  | tail _ hlead ih =>
      rename_i j n _
      have hjn := hlead.lt h
      refine .tail (ih ?_) (hagree j n hjn hlead)
      intro k m hk hkm
      exact hagree k m (Nat.lt_trans hk hjn) hkm

theorem OnPath.total {steps : List Step} {i j : StepId} (hi : OnPath steps i)
    (hj : OnPath steps j) :
    ReflTransGen (LeadsTo steps) i j ∨ ReflTransGen (LeadsTo steps) j i := by
  refine ReflTransGen.total_of_right_unique ?_ hi hj
  rintro k m n ⟨s, hs, hm⟩ ⟨t, ht, hn⟩
  rw [hs, Option.some.injEq] at ht
  subst ht
  rw [hm, Option.some.injEq] at hn
  exact hn

/-- The step before a step on the path leads to it and is on the path, too. -/
theorem OnPath.previous {steps : List Step} (h : Arena steps) {i p : StepId} {s : Step}
    (hpath : OnPath steps i) (hs : steps[i]? = some s) (hp : s.previous = some p) :
    OnPath steps p ∧ LeadsTo steps p i := by
  cases hpath with
  | refl =>
      have hnone := (h.first_iff hs).mpr rfl
      rw [hnone] at hp
      cases hp
  | tail hbefore hlead =>
      obtain ⟨t, ht, hn⟩ := id hlead
      obtain ⟨-, u, hu, hprevious, -⟩ := (h.linked ht).follows i hn
      rw [hs, Option.some.injEq] at hu
      subst hu
      rw [hp, Option.some.injEq] at hprevious
      subst hprevious
      exact ⟨hbefore, hlead⟩

theorem OnPath.exists_step {steps : List Step} (h : Arena steps) (hne : steps ≠ []) {i : StepId}
    (hpath : OnPath steps i) : ∃ s, steps[i]? = some s := by
  cases hpath with
  | refl =>
      have hpos : 0 < steps.length := List.length_pos_iff.mpr hne
      exact ⟨steps[0], List.getElem?_eq_getElem hpos⟩
  | tail _ hlead =>
      obtain ⟨t, ht, hn⟩ := hlead
      obtain ⟨-, u, hu, -⟩ := (h.linked ht).follows i hn
      exact ⟨u, hu⟩

theorem leadsTo_set {steps : List Step} {i j n : StepId} {t : Step} (hi : i < steps.length) :
    LeadsTo (steps.set i t) j n ↔ j = i ∧ t.next = some n ∨ j ≠ i ∧ LeadsTo steps j n := by
  by_cases hj : i = j
  · subst hj
    simp [LeadsTo, hi]
  · have hj' : j ≠ i := fun h => hj h.symm
    simp [LeadsTo, List.getElem?_set_ne hj, hj']

theorem OnPath.set {steps : List Step} (h : Arena steps) {i : StepId} (hi : i < steps.length)
    (hpath : OnPath steps i) (t : Step) : OnPath (steps.set i t) i := by
  refine hpath.of_agree h ?_
  intro j n hj hlead
  exact (leadsTo_set hi).mpr (.inr ⟨Nat.ne_of_lt hj, hlead⟩)

theorem OnPath.of_set {steps : List Step} {i k : StepId} {s t : Step} (hs : steps[i]? = some s)
    (hnext : ∀ n, t.next = some n → s.next = some n) (hpath : OnPath (steps.set i t) k) :
    OnPath steps k := by
  have hi : i < steps.length := (List.getElem?_eq_some_iff.mp hs).1
  refine ReflTransGen.mono ?_ _ _ hpath
  intro j n hlead
  rcases (leadsTo_set hi).mp hlead with ⟨rfl, hn⟩ | ⟨-, hlead⟩
  · exact ⟨s, hs, hnext n hn⟩
  · exact hlead

theorem leadsTo_of_append {steps : List Step} {i j n : StepId} {kind : StepKind}
    (h : LeadsTo (steps ++ [Step.new steps.length kind (some i)]) j n) : LeadsTo steps j n := by
  obtain ⟨u, hu, hn⟩ := h
  rcases getElem?_concat_cases hu with ⟨-, rfl⟩ | hu
  · cases hn
  · exact ⟨u, hu, hn⟩

theorem OnPath.append {steps : List Step} {i k : StepId} {kind : StepKind}
    (hpath : OnPath steps k) :
    OnPath (steps ++ [Step.new steps.length kind (some i)]) k := by
  refine ReflTransGen.mono ?_ _ _ hpath
  rintro j n ⟨u, hu, hn⟩
  have hj : j < steps.length := (List.getElem?_eq_some_iff.mp hu).1
  exact ⟨u, by rw [List.getElem?_append_left hj, hu], hn⟩

theorem OnPath.attach {steps : List Step} (h : Arena steps) {i : StepId} (hi : i < steps.length)
    (hpath : OnPath steps i) (t : Step) : OnPath (attach steps i t) i := by
  cases hkind : t.nextKind with
  | none =>
      rw [attach_of_undecided hkind]
      exact hpath.set h hi t
  | some kind =>
      rw [attach_of_decided hkind]
      have hi' : i < (steps ++ [Step.new steps.length kind (some i)]).length := by
        rw [List.length_append]
        exact Nat.lt_add_right _ hi
      exact hpath.append.set (h.append hi kind) hi' _

/-- Only the step that is made for a completed one is new on the path. -/
theorem OnPath.of_attach {steps : List Step} {i k : StepId} {s t : Step}
    (hs : steps[i]? = some s) (hnext : t.next = none)
    (hpath : OnPath (Session.attach steps i t) k) :
    OnPath steps k ∨ k = steps.length ∧ t.nextKind ≠ none := by
  have hi : i < steps.length := (List.getElem?_eq_some_iff.mp hs).1
  cases hkind : t.nextKind with
  | none =>
      rw [attach_of_undecided hkind] at hpath
      refine .inl (hpath.of_set hs ?_)
      intro n hn
      rw [hnext] at hn
      cases hn
  | some kind =>
      rw [attach_of_decided hkind] at hpath
      have hi' : i < (steps ++ [Step.new steps.length kind (some i)]).length := by
        rw [List.length_append]
        exact Nat.lt_add_right _ hi
      induction hpath with
      | refl => exact .inl .refl
      | tail _ hlead ih =>
          rcases (leadsTo_set hi').mp hlead with ⟨-, hn⟩ | ⟨-, hlead⟩
          · cases hn
            exact .inr ⟨rfl, fun h => nomatch h⟩
          · have hlead' := leadsTo_of_append hlead
            rcases ih with hbefore | ⟨rfl, -⟩
            · exact .inl (hbefore.tail hlead')
            · -- The new step leads nowhere.
              obtain ⟨u, hu, -⟩ := hlead'
              exact absurd (List.getElem?_eq_some_iff.mp hu).1 (Nat.lt_irrefl _)

theorem OnPath.map {steps : List Step} {i : StepId} (h : OnPath steps i) {f : Step → Step}
    (hf : ∀ s, Step.SameLinks s (f s)) : OnPath (steps.map f) i := by
  refine ReflTransGen.mono ?_ _ _ h
  rintro j n ⟨s, hs, hn⟩
  refine ⟨f s, ?_, ?_⟩
  · rw [List.getElem?_map, hs, Option.map_some]
  · rw [(hf s).next_eq, hn]

end Session

end ClusterSetup

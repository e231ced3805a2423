import Mathlib.Data.List.Nodup
import ClusterSetup.Step.Enter

namespace ClusterSetup.Guards

/-- Guards were taken one after the other, none of them twice and none that was held before. -/
structure Took (before : Guards) (taken : List Guard) (after : Guards) : Prop where
  held_eq : after.held = taken.reverse ++ before.held
  nodup : taken.Nodup
  free : ∀ guard ∈ taken, guard ∉ before.held

namespace Took

theorem nil (g : Guards) : Took g [] g where
  held_eq := by simp
  nodup := List.nodup_nil
  free := by simp

theorem append {g₀ g₁ g₂ : Guards} {taken more : List Guard}
    (first : Took g₀ taken g₁) (second : Took g₁ more g₂) : Took g₀ (taken ++ more) g₂ where
  held_eq := by
    rw [second.held_eq, first.held_eq, List.reverse_append, List.append_assoc]
  nodup := by
    rw [List.nodup_append]
    refine ⟨first.nodup, second.nodup, ?_⟩
    rintro guard htaken _ hmore rfl
    apply second.free guard hmore
    rw [first.held_eq]
    exact List.mem_append_left _ (List.mem_reverse.mpr htaken)
  free := by
    intro guard hguard
    rcases List.mem_append.mp hguard with htaken | hmore
    · exact first.free guard htaken
    · intro hheld
      apply second.free guard hmore
      rw [first.held_eq]
      exact List.mem_append_right _ hheld

theorem cons {g g' : Guards} {guard : Guard} {rest : List Guard} (h : Took g (guard :: rest) g') :
    Took g [guard] ⟨guard :: g.held⟩ ∧ Took ⟨guard :: g.held⟩ rest g' := by
  obtain ⟨hguard, hrest⟩ := List.nodup_cons.mp h.nodup
  refine ⟨⟨rfl, List.nodup_singleton _, ?_⟩, ⟨?_, hrest, ?_⟩⟩
  · intro other hother
    exact h.free other (List.mem_cons.mpr (.inl (List.mem_singleton.mp hother)))
  · rw [h.held_eq, List.reverse_cons, List.append_assoc]
    rfl
  · intro other hother hheld
    rcases List.mem_cons.mp hheld with rfl | hheld
    · exact hguard hother
    · exact h.free other (List.mem_cons_of_mem _ hother) hheld

theorem perm {g g' : Guards} {taken : List Guard} (h : Took g taken g') :
    g'.held.Perm (taken ++ g.held) := by
  rw [h.held_eq]
  exact (List.reverse_perm taken).append_right g.held

theorem nodup_held {g g' : Guards} {taken : List Guard} (h : Took g taken g')
    (hheld : g.held.Nodup) : g'.held.Nodup := by
  rw [h.perm.nodup_iff, List.nodup_append]
  refine ⟨h.nodup, hheld, ?_⟩
  rintro guard htaken _ hguard rfl
  exact h.free guard htaken hguard

end Took

theorem releaseAll_cons (g : Guards) (guard : Guard) (guards : List Guard) :
    g.releaseAll (guard :: guards) = (g.release guard).releaseAll guards := rfl

theorem release_releaseAll (g : Guards) (guard : Guard) (guards : List Guard) :
    (g.release guard).releaseAll guards = (g.releaseAll guards).release guard := by
  induction guards generalizing g with
  | nil => rfl
  | cons other guards ih =>
      have hswap : (g.release guard).release other = (g.release other).release guard := by
        rw [release, release, release, release, List.erase_comm]
      rw [releaseAll_cons, releaseAll_cons, hswap, ih]

theorem releaseAll_comm (g : Guards) (guards more : List Guard) :
    (g.releaseAll guards).releaseAll more = (g.releaseAll more).releaseAll guards := by
  induction guards generalizing g with
  | nil => rfl
  | cons guard guards ih =>
      rw [releaseAll_cons, releaseAll_cons, ih, release_releaseAll]

/-- Guards that lie on top of the held ones, the last taken first, are given back in the order in
which they were taken. -/
theorem releaseAll_of_held_eq {g g₀ : Guards} {taken : List Guard} (hnodup : taken.Nodup)
    (hheld : g.held = taken.reverse ++ g₀.held) : g.releaseAll taken = g₀ := by
  induction taken generalizing g with
  | nil =>
      cases g
      cases g₀
      simpa [releaseAll] using hheld
  | cons guard rest ih =>
      rw [List.nodup_cons] at hnodup
      rw [releaseAll_cons]
      apply ih hnodup.2
      have hrest : guard ∉ rest.reverse := by simpa using hnodup.1
      rw [release, hheld, List.reverse_cons, List.append_assoc,
        List.erase_append_right _ hrest]
      simp

theorem Took.releaseAll {g g' : Guards} {taken : List Guard} (h : Took g taken g') :
    g'.releaseAll taken = g :=
  releaseAll_of_held_eq h.nodup h.held_eq

theorem held_releaseAll_perm {g : Guards} {guards rest : List Guard}
    (h : g.held.Perm (guards ++ rest)) : (g.releaseAll guards).held.Perm rest := by
  induction guards generalizing g with
  | nil => simpa [releaseAll] using h
  | cons guard guards ih =>
      rw [releaseAll_cons]
      apply ih
      simpa [release] using h.erase guard

theorem mem_held_iff_isBusy {g : Guards} {host : HostId} {c : Component} :
    g.isBusy host c = true ↔ (⟨host, c⟩ : Guard) ∈ g.held := by
  simp [isBusy]

theorem mem_guards_iff {host host' : HostId} {c : Component} {cs : List Component} :
    (⟨host', c⟩ : Guard) ∈ cs.map (⟨host, ·⟩) ↔ host' = host ∧ c ∈ cs := by
  rw [List.mem_map]
  constructor
  · rintro ⟨d, hd, heq⟩
    cases heq
    exact ⟨rfl, hd⟩
  · rintro ⟨rfl, hc⟩
    exact ⟨c, hc, rfl⟩

theorem acquire_eq_ok_iff {g g' : Guards} {host : HostId} {c : Component} :
    g.acquire host c = .ok g' ↔ Took g [⟨host, c⟩] g' := by
  constructor
  · intro h
    rw [acquire] at h
    split at h
    · cases h
    · rename_i hfree
      rw [mem_held_iff_isBusy] at hfree
      cases h
      exact ⟨rfl, List.nodup_singleton _, by simpa using hfree⟩
  · intro h
    have hfree : g.isBusy host c = false := by
      rw [← Bool.not_eq_true, mem_held_iff_isBusy]
      exact h.free _ (List.mem_singleton_self _)
    cases g'
    simpa [acquire, hfree] using h.held_eq.symm

theorem acquire_eq_error {g : Guards} {host : HostId} {c : Component} {e : Refusal}
    (h : g.acquire host c = .error e) :
    e = .componentBusy host c ∧ (⟨host, c⟩ : Guard) ∈ g.held := by
  rw [acquire] at h
  split at h
  · rename_i hbusy
    cases h
    exact ⟨rfl, mem_held_iff_isBusy.mp hbusy⟩
  · cases h

/-- The guards of several components are all taken, or one of them is held before or was taken
already, and the registry ends as it was before the first of them. -/
theorem acquireFrom_cases {g₀ g : Guards} {taken : List Guard} (h : Took g₀ taken g)
    (host : HostId) (cs : List Component) :
    (∃ g', acquireFrom host g taken cs = (.ok (taken ++ cs.map (⟨host, ·⟩)), g') ∧
      Took g₀ (taken ++ cs.map (⟨host, ·⟩)) g') ∨
    ∃ before c after g', cs = before ++ c :: after ∧
      Took g₀ (taken ++ before.map (⟨host, ·⟩)) g' ∧ (⟨host, c⟩ : Guard) ∈ g'.held ∧
      acquireFrom host g taken cs = (.error (.componentBusy host c), g₀) := by
  induction cs generalizing g taken with
  | nil =>
      left
      refine ⟨g, ?_, ?_⟩
      · simp [acquireFrom]
      · simpa using h
  | cons c cs ih =>
      cases hc : g.acquire host c with
      | error e =>
          right
          obtain ⟨rfl, hbusy⟩ := acquire_eq_error hc
          refine ⟨[], c, cs, g, rfl, by simpa using h, hbusy, ?_⟩
          simp only [acquireFrom, hc]
          rw [h.releaseAll]
      | ok g₁ =>
          have hone : Took g₀ (taken ++ [⟨host, c⟩]) g₁ :=
            h.append (acquire_eq_ok_iff.mp hc)
          rcases ih hone with ⟨g', heq, htook⟩ | ⟨before, d, after, g', rfl, htook, hbusy, heq⟩
          · left
            refine ⟨g', ?_, ?_⟩
            · simpa [acquireFrom, hc] using heq
            · simpa using htook
          · right
            refine ⟨c :: before, d, after, g', rfl, by simpa using htook, hbusy, ?_⟩
            simpa [acquireFrom, hc] using heq

theorem acquireAll_cases (g : Guards) (host : HostId) (cs : List Component) :
    (∃ g', g.acquireAll host cs = (.ok (cs.map (⟨host, ·⟩)), g') ∧
      Took g (cs.map (⟨host, ·⟩)) g') ∨
    ∃ before c after g', cs = before ++ c :: after ∧ Took g (before.map (⟨host, ·⟩)) g' ∧
      (⟨host, c⟩ : Guard) ∈ g'.held ∧
      g.acquireAll host cs = (.error (.componentBusy host c), g) := by
  simpa [acquireAll] using acquireFrom_cases (Took.nil g) host cs

theorem acquireAll_spec (g : Guards) (host : HostId) (cs : List Component)
    (hnodup : (cs.map (⟨host, ·⟩ : Component → Guard)).Nodup) :
    (∃ g', g.acquireAll host cs = (.ok (cs.map (⟨host, ·⟩)), g') ∧
      Took g (cs.map (⟨host, ·⟩)) g') ∨
    ∃ c ∈ cs, (⟨host, c⟩ : Guard) ∈ g.held ∧
      g.acquireAll host cs = (.error (.componentBusy host c), g) := by
  rcases g.acquireAll_cases host cs with
    hok | ⟨before, c, after, g', rfl, htook, hbusy, heq⟩
  · exact .inl hok
  · refine .inr ⟨c, by simp, ?_, heq⟩
    rw [htook.held_eq, List.mem_append, List.mem_reverse] at hbusy
    refine hbusy.resolve_left fun htaken => ?_
    rw [List.map_append, List.map_cons] at hnodup
    exact (List.nodup_append.mp hnodup).2.2 _ htaken _ List.mem_cons_self rfl

end ClusterSetup.Guards

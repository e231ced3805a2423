import ClusterSetup.LockTable
import ClusterSetup.Proofs.Guards.Acquiring

/-!
The table of locks represents the set of held guards: each operation on the table gives the answer
that the set gives, and leads to a table that represents the set it leads to.
-/

namespace ClusterSetup.LockTable

/-- The locks that are held are those of the held guards. Each component of a host has a lock of
its own. -/
structure Represents (t : LockTable) (g : Guards) : Prop where
  known : ∀ {place : Guard} {lock : Nat}, t.slots.lookup place = some lock → lock < t.locked.length
  own : ∀ {place place' : Guard} {lock : Nat}, t.slots.lookup place = some lock →
    t.slots.lookup place' = some lock → place = place'
  held_iff : ∀ place, place ∈ g.held ↔
    ∃ lock, t.slots.lookup place = some lock ∧ t.locked[lock]? = some true
  nodup : g.held.Nodup

theorem Represents.empty : Represents {} .empty where
  known h := nomatch h
  own h := nomatch h
  held_iff _ := ⟨fun h => (nomatch h), fun ⟨_, h, _⟩ => (nomatch h)⟩
  nodup := List.nodup_nil

/-- A table that has all the locks of another one where that one has them. -/
def Extends (t t' : LockTable) : Prop :=
  ∀ place lock, t.slots.lookup place = some lock → t'.slots.lookup place = some lock

theorem Extends.trans {t₀ t₁ t₂ : LockTable} (h : t₀.Extends t₁) (h' : t₁.Extends t₂) :
    t₀.Extends t₂ :=
  fun place lock hlock => h' place lock (h place lock hlock)

variable {t : LockTable} {g : Guards}

theorem slots_dropAll (t : LockTable) (guards : List ComponentGuard) :
    (t.dropAll guards).slots = t.slots := by
  induction guards generalizing t with
  | nil => rfl
  | cons guard guards ih => exact ih (t.drop guard)

theorem lookup_slot_self (t : LockTable) (place : Guard) :
    (t.slot place).2.slots.lookup place = some (t.slot place).1 := by
  rw [slot]
  split
  · assumption
  · exact List.lookup_cons_self

theorem extends_slot (t : LockTable) (place : Guard) : t.Extends (t.slot place).2 := by
  intro other lock hother
  rw [slot]
  split
  · exact hother
  · rename_i hnew
    have hne : other ≠ place := by
      rintro rfl
      rw [hnew] at hother
      cases hother
    rw [List.lookup_cons, beq_false_of_ne hne]
    exact hother

/-- A new lock has the number behind all others. -/
theorem Represents.lookup_cases (h : t.Represents g) {place other : Guard} {lock : Nat}
    (hother : List.lookup other ((place, t.locked.length) :: t.slots) = some lock) :
    other = place ∧ lock = t.locked.length ∨
      t.slots.lookup other = some lock ∧ lock < t.locked.length := by
  rw [List.lookup_cons] at hother
  split at hother
  · rename_i heq
    exact .inl ⟨eq_of_beq heq, (Option.some.inj hother).symm⟩
  · exact .inr ⟨hother, h.known hother⟩

theorem Represents.slot (h : t.Represents g) (place : Guard) :
    (t.slot place).2.Represents g := by
  rw [LockTable.slot]
  split
  · exact h
  · rename_i hnew
    refine ⟨?_, ?_, ?_, h.nodup⟩
    · intro other lock hother
      rw [List.length_append, List.length_singleton]
      rcases h.lookup_cases hother with ⟨-, rfl⟩ | ⟨-, hlock⟩
      · exact Nat.lt_succ_self _
      · exact Nat.lt_succ_of_lt hlock
    · intro other other' lock hother hother'
      rcases h.lookup_cases hother with ⟨rfl, rfl⟩ | ⟨hold, hlock⟩ <;>
        rcases h.lookup_cases hother' with ⟨rfl, hlock'⟩ | ⟨hold', hlock'⟩
      · rfl
      · exact absurd hlock' (Nat.lt_irrefl _)
      · exact absurd hlock (hlock' ▸ Nat.lt_irrefl _)
      · exact h.own hold hold'
    · intro other
      rw [h.held_iff]
      constructor
      · rintro ⟨lock, hother, hlocked⟩
        refine ⟨lock, ?_, ?_⟩
        · have hextends := t.extends_slot place _ _ hother
          rw [LockTable.slot, hnew] at hextends
          exact hextends
        · rw [List.getElem?_append_left (h.known hother)]
          exact hlocked
      · rintro ⟨lock, hother, hlocked⟩
        rcases h.lookup_cases hother with ⟨-, rfl⟩ | ⟨hold, hlock⟩
        -- Nobody holds the new lock.
        · rw [List.getElem?_concat_length] at hlocked
          cases hlocked
        · rw [List.getElem?_append_left hlock] at hlocked
          exact ⟨lock, hold, hlocked⟩

theorem Represents.set (h : t.Represents g) {place : Guard} {lock : Nat}
    (hlock : t.slots.lookup place = some lock) {g' : Guards} {held : Bool}
    (hheld : ∀ other, other ∈ g'.held ↔ if other = place then held = true else other ∈ g.held)
    (hnodup : g'.held.Nodup) : Represents { t with locked := t.locked.set lock held } g' where
  known hother := by
    rw [List.length_set]
    exact h.known hother
  own := h.own
  held_iff other := by
    rw [hheld]
    split
    · rename_i heq
      subst heq
      refine ⟨fun hset => ⟨lock, hlock, ?_⟩, fun ⟨lock', hother, hset⟩ => ?_⟩
      · rw [List.getElem?_set_self (h.known hlock), hset]
      · obtain rfl : lock = lock' := Option.some.inj (hlock.symm.trans hother)
        rw [List.getElem?_set_self (h.known hlock)] at hset
        exact Option.some.inj hset
    · rename_i hne
      rw [h.held_iff]
      refine exists_congr fun lock' => and_congr_right fun hother => ?_
      have hlocks : lock ≠ lock' := by
        rintro rfl
        exact hne (h.own hother hlock)
      rw [List.getElem?_set_ne hlocks]
  nodup := hnodup

theorem Represents.locked_eq (h : t.Represents g) {place : Guard} {lock : Nat}
    (hlock : t.slots.lookup place = some lock) :
    t.locked[lock]? = some (decide (place ∈ g.held)) := by
  rw [List.getElem?_eq_getElem (h.known hlock), Option.some.injEq, Bool.eq_iff_iff,
    decide_eq_true_eq, h.held_iff]
  constructor
  · intro hlocked
    exact ⟨lock, hlock, List.getElem?_eq_some_iff.mpr ⟨h.known hlock, hlocked⟩⟩
  · rintro ⟨lock', hlock', hlocked⟩
    obtain rfl : lock = lock' := Option.some.inj (hlock.symm.trans hlock')
    exact (List.getElem?_eq_some_iff.mp hlocked).2

theorem Represents.isBusy_eq (h : t.Represents g) (host : HostId) (c : Component) :
    t.isBusy host c = g.isBusy host c := by
  rw [Bool.eq_iff_iff, Guards.mem_held_iff_isBusy, isBusy]
  cases hlock : t.slots.lookup ⟨host, c⟩ with
  | none =>
      refine iff_of_false Bool.false_ne_true fun hheld => ?_
      obtain ⟨lock, hsome, -⟩ := (h.held_iff _).mp hheld
      rw [hlock] at hsome
      cases hsome
  | some lock => simp [tryLock?, h.locked_eq hlock]

theorem Represents.isBusy_congr {t' : LockTable} (h : t.Represents g) (h' : t'.Represents g) :
    t.isBusy = t'.isBusy := by
  funext host c
  rw [h.isBusy_eq, h'.isBusy_eq]

/-- The lock of a guard is that of this component of a host. -/
def Lends (t : LockTable) (place : Guard) (guard : ComponentGuard) : Prop :=
  t.slots.lookup place = some guard.lock

theorem Represents.tryAcquire (h : t.Represents g) (host : HostId) (c : Component) :
    (∃ guard t' g', t.tryAcquire host c = (.ok guard, t') ∧ g.acquire host c = .ok g' ∧
      t'.Represents g' ∧ t.Extends t' ∧ t'.Lends ⟨host, c⟩ guard) ∨
    ∃ e t', t.tryAcquire host c = (.error e, t') ∧ g.acquire host c = .error e ∧
      t'.Represents g ∧ t.Extends t' := by
  have hslot := h.slot ⟨host, c⟩
  have hextends := t.extends_slot ⟨host, c⟩
  have hlock := t.lookup_slot_self ⟨host, c⟩
  rw [LockTable.tryAcquire, Guards.acquire]
  generalize t.slot ⟨host, c⟩ = found at hslot hextends hlock
  obtain ⟨lock, t⟩ := found
  have hlocked := hslot.locked_eq hlock
  cases hbusy : g.isBusy host c with
  | true =>
      rw [Guards.mem_held_iff_isBusy] at hbusy
      exact .inr ⟨_, t, by simp [tryLock?, hlocked, hbusy], rfl, hslot, hextends⟩
  | false =>
      have hfree : (⟨host, c⟩ : Guard) ∉ g.held := by
        rw [← Guards.mem_held_iff_isBusy, hbusy]
        exact Bool.false_ne_true
      refine .inl ⟨⟨lock⟩, { t with locked := t.locked.set lock true }, _,
        by simp [tryLock?, hlocked, hfree], rfl, hslot.set hlock ?_ ?_, hextends, hlock⟩
      · intro other
        rw [List.mem_cons]
        split <;> simp [*]
      · exact List.nodup_cons.mpr ⟨hfree, h.nodup⟩

theorem Represents.drop (h : t.Represents g) {place : Guard} {guard : ComponentGuard}
    (hlends : t.Lends place guard) : (t.drop guard).Represents (g.release place) := by
  refine h.set hlends (fun other => ?_) (h.nodup.sublist List.erase_sublist)
  rw [Guards.release, h.nodup.mem_erase_iff]
  split <;> simp [*]

theorem Represents.dropAll (h : t.Represents g) {places : List Guard}
    {guards : List ComponentGuard} (hlends : List.Forall₂ t.Lends places guards) :
    (t.dropAll guards).Represents (g.releaseAll places) := by
  induction guards generalizing t g places with
  | nil =>
      cases hlends
      exact h
  | cons guard guards ih =>
      cases hlends with
      | cons hfirst hrest => exact ih (h.drop hfirst) hrest

theorem Extends.lends {t' : LockTable} (h : t.Extends t') {places : List Guard}
    {guards : List ComponentGuard} (hlends : List.Forall₂ t.Lends places guards) :
    List.Forall₂ t'.Lends places guards :=
  hlends.imp fun _ _ => h _ _

theorem Represents.tryAcquireFrom (h : t.Represents g) {places : List Guard}
    {guards : List ComponentGuard} (htaken : List.Forall₂ t.Lends places guards) (host : HostId)
    (cs : List Component) :
    (∃ taken places' t' g', tryAcquireFrom host t guards cs = (.ok taken, t') ∧
      Guards.acquireFrom host g places cs = (.ok places', g') ∧ t'.Represents g' ∧
      t.Extends t' ∧ List.Forall₂ t'.Lends places' taken) ∨
    ∃ e t' g', LockTable.tryAcquireFrom host t guards cs = (.error e, t') ∧
      Guards.acquireFrom host g places cs = (.error e, g') ∧ t'.Represents g' ∧ t.Extends t' := by
  induction cs generalizing t g places guards with
  | nil => exact .inl ⟨guards, places, t, g, rfl, rfl, h, fun _ _ hlock => hlock, htaken⟩
  | cons c cs ih =>
      rw [LockTable.tryAcquireFrom, Guards.acquireFrom]
      rcases h.tryAcquire host c with
        ⟨guard, t₁, g₁, heq, heq', hnext, hextends, hlends⟩ | ⟨e, t₁, heq, heq', hnext, hextends⟩
      · rw [heq, heq']
        have hmore : List.Forall₂ t₁.Lends (places ++ [⟨host, c⟩]) (guards ++ [guard]) :=
          List.rel_append (hextends.lends htaken) (.cons hlends .nil)
        rcases ih hnext hmore with
          ⟨taken, places', t', g', hok, hok', h', hextends', hlends'⟩ |
          ⟨e, t', g', herror, herror', h', hextends'⟩
        · exact .inl ⟨taken, places', t', g', hok, hok', h',
            hextends.trans hextends', hlends'⟩
        · exact .inr ⟨e, t', g', herror, herror', h', hextends.trans hextends'⟩
      · rw [heq, heq']
        refine .inr ⟨e, _, _, rfl, rfl, hnext.dropAll (hextends.lends htaken), ?_⟩
        rw [Extends, slots_dropAll]
        exact hextends

theorem Represents.tryAcquireAll (h : t.Represents g) (host : HostId) (cs : List Component) :
    (∃ taken places t' g', t.tryAcquireAll host cs = (.ok taken, t') ∧
      g.acquireAll host cs = (.ok places, g') ∧ t'.Represents g' ∧ t.Extends t' ∧
      List.Forall₂ t'.Lends places taken) ∨
    ∃ e t' g', t.tryAcquireAll host cs = (.error e, t') ∧ g.acquireAll host cs = (.error e, g') ∧
      t'.Represents g' ∧ t.Extends t' :=
  h.tryAcquireFrom .nil host cs

end ClusterSetup.LockTable

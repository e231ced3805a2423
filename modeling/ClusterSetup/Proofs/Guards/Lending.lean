import Mathlib.Data.List.Perm.Basic
import ClusterSetup.Proofs.Guards.LockTable

namespace ClusterSetup

namespace Guards

/-- The guards of the components can be taken together. -/
structure Available (g : Guards) (host : HostId) (cs : List Component) : Prop where
  nodup : cs.Nodup
  free : ∀ c ∈ cs, g.isBusy host c = false

theorem isBusy_eq_false_iff {g : Guards} {host : HostId} {c : Component} :
    g.isBusy host c = false ↔ (⟨host, c⟩ : Guard) ∉ g.held := by
  rw [← Bool.not_eq_true, mem_held_iff_isBusy]

theorem Took.available {g g' : Guards} {host : HostId} {cs : List Component}
    (h : Took g (cs.map (⟨host, ·⟩)) g') : g.Available host cs where
  nodup := List.Nodup.of_map _ h.nodup
  free _ hc := isBusy_eq_false_iff.mpr (h.free _ (mem_guards_iff.mpr ⟨rfl, hc⟩))

theorem Took.isBusy_iff {g g' : Guards} {host : HostId} {cs : List Component}
    (h : Took g (cs.map (⟨host, ·⟩)) g') (host' : HostId) (c : Component) :
    g'.isBusy host' c = true ↔ g.isBusy host' c = true ∨ host' = host ∧ c ∈ cs := by
  rw [mem_held_iff_isBusy, mem_held_iff_isBusy, h.perm.mem_iff, List.mem_append, mem_guards_iff,
    or_comm]

/-- Of several components the first one that is busy, or was listed before, cannot be taken. -/
def Stops (g : Guards) (host : HostId) (cs : List Component) (c : Component) : Prop :=
  ∃ before after, cs = before ++ c :: after ∧ g.Available host before ∧
    (g.isBusy host c = true ∨ c ∈ before)

theorem Stops.not_available {g : Guards} {host : HostId} {cs : List Component} {c : Component}
    (h : g.Stops host cs c) : ¬ g.Available host cs := by
  rintro ⟨hnodup, hfree⟩
  obtain ⟨before, after, rfl, -, hbusy | hlisted⟩ := h
  · rw [hfree c (by simp)] at hbusy
    cases hbusy
  · exact (List.nodup_append.mp hnodup).2.2 c hlisted c List.mem_cons_self rfl

theorem acquireAll_taken_or_stops (g : Guards) (host : HostId) (cs : List Component) :
    (∃ g', g.acquireAll host cs = (.ok (cs.map (⟨host, ·⟩)), g') ∧
      Took g (cs.map (⟨host, ·⟩)) g') ∨
    ∃ c, g.acquireAll host cs = (.error (.componentBusy host c), g) ∧ g.Stops host cs c := by
  rcases g.acquireAll_cases host cs with hok | ⟨before, c, after, g', rfl, htook, hbusy, heq⟩
  · exact .inl hok
  · refine .inr ⟨c, heq, before, after, rfl, htook.available, ?_⟩
    rw [← mem_held_iff_isBusy, htook.isBusy_iff] at hbusy
    exact hbusy.imp_right And.right

end Guards

namespace LockTable

variable {t : LockTable} {g : Guards}

theorem Represents.tryAcquire_cases (h : t.Represents g) (host : HostId) (c : Component) :
    (∃ guard t' g', t.tryAcquire host c = (.ok guard, t') ∧ Guards.Took g [⟨host, c⟩] g' ∧
      t'.Represents g' ∧ t.Extends t' ∧ t'.Lends ⟨host, c⟩ guard) ∨
    ∃ t', t.tryAcquire host c = (.error (.componentBusy host c), t') ∧
      g.isBusy host c = true ∧ t'.Represents g ∧ t.Extends t' := by
  rcases h.tryAcquire host c with
    ⟨guard, t', g', heq, hok, hnext⟩ | ⟨e, t', heq, herror, hnext⟩
  · exact .inl ⟨guard, t', g', heq, Guards.acquire_eq_ok_iff.mp hok, hnext⟩
  · obtain ⟨rfl, htaken⟩ := Guards.acquire_eq_error herror
    exact .inr ⟨t', heq, Guards.mem_held_iff_isBusy.mpr htaken, hnext⟩

theorem Represents.tryAcquireAll_cases (h : t.Represents g) (host : HostId) (cs : List Component) :
    (∃ taken t' g', t.tryAcquireAll host cs = (.ok taken, t') ∧
      Guards.Took g (cs.map (⟨host, ·⟩)) g' ∧ t'.Represents g' ∧ t.Extends t' ∧
      List.Forall₂ t'.Lends (cs.map (⟨host, ·⟩)) taken) ∨
    ∃ c t', t.tryAcquireAll host cs = (.error (.componentBusy host c), t') ∧
      g.Stops host cs c ∧ t'.Represents g ∧ t.Extends t' := by
  rcases h.tryAcquireAll host cs with
      ⟨taken, places, t', g', heq, hok, hnext⟩ | ⟨e, t', g', heq, herror, hnext⟩ <;>
    rcases g.acquireAll_taken_or_stops host cs with ⟨g₁, hok₁, htook⟩ | ⟨c, herror₁, hstops⟩
  · cases hok.symm.trans hok₁
    exact .inl ⟨taken, t', g', heq, htook, hnext⟩
  · cases hok.symm.trans herror₁
  · cases herror.symm.trans hok₁
  · cases herror.symm.trans herror₁
    exact .inr ⟨c, t', heq, hstops, hnext⟩

/-- What taking one guard says of the components that are busy before and after. -/
theorem Represents.tryAcquire_spec (h : t.Represents g) (host : HostId) (c : Component) :
    ((∃ guard t', t.tryAcquire host c = (.ok guard, t')) ↔ t.isBusy host c = false) ∧
    (∀ guard t', t.tryAcquire host c = (.ok guard, t') → ∀ host' c',
      t'.isBusy host' c' = true ↔ t.isBusy host' c' = true ∨ host' = host ∧ c' = c) ∧
    ∀ e t', t.tryAcquire host c = (.error e, t') →
      e = .componentBusy host c ∧ t'.isBusy = t.isBusy := by
  rcases h.tryAcquire_cases host c with
    ⟨guard, t', g', heq, htook, hnext, -⟩ | ⟨t', heq, htaken, hnext, -⟩
  · have htook : Guards.Took g ([c].map (⟨host, ·⟩)) g' := htook
    rw [heq, h.isBusy_eq, htook.available.free c List.mem_cons_self]
    refine ⟨iff_of_true ⟨guard, t', rfl⟩ rfl, fun guard' t'' hok host' c' => ?_, nofun⟩
    cases hok
    rw [hnext.isBusy_eq, htook.isBusy_iff, h.isBusy_eq, List.mem_singleton]
  · rw [heq, h.isBusy_eq, htaken]
    refine ⟨by simp, nofun, fun e t'' herror => ?_⟩
    cases herror
    exact ⟨rfl, hnext.isBusy_congr h⟩

/-- What taking several guards says of the components that are busy before and after. -/
theorem Represents.tryAcquireAll_spec (h : t.Represents g) (host : HostId) (cs : List Component) :
    ((∃ taken t', t.tryAcquireAll host cs = (.ok taken, t')) ↔
      cs.Nodup ∧ ∀ c ∈ cs, t.isBusy host c = false) ∧
    (∀ taken t', t.tryAcquireAll host cs = (.ok taken, t') →
      taken.length = cs.length ∧ ∀ host' c, t'.isBusy host' c = true ↔
        t.isBusy host' c = true ∨ host' = host ∧ c ∈ cs) ∧
    ∀ e t', t.tryAcquireAll host cs = (.error e, t') →
      t'.isBusy = t.isBusy ∧ ∃ before c after, e = .componentBusy host c ∧
        cs = before ++ c :: after ∧ (t.isBusy host c = true ∨ c ∈ before) ∧
        before.Nodup ∧ ∀ b ∈ before, t.isBusy host b = false := by
  simp only [h.isBusy_eq]
  rcases h.tryAcquireAll_cases host cs with
    ⟨taken, t', g', heq, htook, hnext, -, hlends⟩ | ⟨c, t', heq, hstops, hnext, -⟩
  · rw [heq]
    refine ⟨iff_of_true ⟨taken, t', rfl⟩ ⟨htook.available.nodup, htook.available.free⟩,
      fun taken' t'' hok => ?_, nofun⟩
    cases hok
    refine ⟨?_, fun host' c => ?_⟩
    · rw [← hlends.length_eq, List.length_map]
    · rw [hnext.isBusy_eq, htook.isBusy_iff]
  · rw [heq]
    refine ⟨iff_of_false (by simp) fun hall => hstops.not_available ⟨hall.1, hall.2⟩, nofun,
      fun e t'' herror => ?_⟩
    cases herror
    obtain ⟨before, after, rfl, havailable, hwhy⟩ := hstops
    exact ⟨hnext.isBusy_congr h, before, c, after, rfl, rfl, hwhy, havailable.nodup,
      havailable.free⟩

end LockTable

/-- A registry together with the guards that it has lent and that were not dropped, each with what
it was lent for. -/
structure Lending where
  table : LockTable := {}
  lent : List (Guard × ComponentGuard) := []
  deriving DecidableEq

namespace Lending

inductive Request where
  | acquire (host : HostId) (c : Component)
  | acquireAll (host : HostId) (cs : List Component)
  /-- One of the lent guards is dropped, whichever it is. -/
  | drop (place : Nat)

def perform (l : Lending) : Request → Lending
  | .acquire host c =>
    match l.table.tryAcquire host c with
    | (.ok guard, t) => ⟨t, l.lent ++ [(⟨host, c⟩, guard)]⟩
    | (.error _, t) => ⟨t, l.lent⟩
  | .acquireAll host cs =>
    match l.table.tryAcquireAll host cs with
    | (.ok taken, t) => ⟨t, l.lent ++ (cs.map (⟨host, ·⟩)).zip taken⟩
    | (.error _, t) => ⟨t, l.lent⟩
  | .drop place =>
    match l.lent[place]? with
    | some (_, guard) => ⟨l.table.drop guard, l.lent.eraseIdx place⟩
    | none => l

def performAll (l : Lending) (requests : List Request) : Lending := requests.foldl perform l

/-- The locks that are held are those of the guards that are lent, and nothing is lent twice. -/
structure Balanced (l : Lending) (g : Guards) : Prop where
  represents : l.table.Represents g
  held_perm : g.held.Perm (l.lent.map (·.1))
  lends : ∀ entry ∈ l.lent, l.table.Lends entry.1 entry.2

variable {l : Lending} {g : Guards}

theorem Balanced.took (h : l.Balanced g) {places : List Guard} {taken : List ComponentGuard}
    {t : LockTable} {g' : Guards} (htook : Guards.Took g places g') (hnext : t.Represents g')
    (hextends : l.table.Extends t) (hlends : List.Forall₂ t.Lends places taken) :
    Balanced ⟨t, l.lent ++ places.zip taken⟩ g' where
  represents := hnext
  held_perm := by
    have hplaces : (places.zip taken).map (·.1) = places :=
      List.map_fst_zip (Nat.le_of_eq hlends.length_eq)
    rw [List.map_append, hplaces]
    exact (htook.perm.trans (h.held_perm.append_left places)).trans List.perm_append_comm
  lends entry hentry := by
    rcases List.mem_append.mp hentry with hold | hnew
    · exact hextends _ _ (h.lends entry hold)
    · exact (List.forall₂_iff_zip.mp hlends).2 hnew

theorem Balanced.refused (h : l.Balanced g) {t : LockTable} (hnext : t.Represents g)
    (hextends : l.table.Extends t) : Balanced ⟨t, l.lent⟩ g :=
  ⟨hnext, h.held_perm, fun entry hentry => hextends _ _ (h.lends entry hentry)⟩

theorem Balanced.acquire (h : l.Balanced g) {host : HostId} {c : Component} {g' : Guards}
    (hok : g.acquire host c = .ok g') : (l.perform (.acquire host c)).Balanced g' := by
  rw [Lending.perform]
  rcases h.represents.tryAcquire host c with
    ⟨guard, t, g₁, heq, hok₁, hnext, hextends, hlends⟩ | ⟨e, t, -, herror, -⟩
  · cases hok.symm.trans hok₁
    rw [heq]
    exact h.took (Guards.acquire_eq_ok_iff.mp hok) hnext hextends (.cons hlends .nil)
  · cases hok.symm.trans herror

theorem Balanced.drop (h : l.Balanced g) {place : Nat} {pair : Guard} {guard : ComponentGuard}
    (hentry : l.lent[place]? = some (pair, guard)) :
    (l.perform (.drop place)).Balanced (g.release pair) := by
  simp only [Lending.perform, hentry]
  obtain ⟨hplace, hentry⟩ := List.getElem?_eq_some_iff.mp hentry
  refine ⟨h.represents.drop ?_, ?_, fun entry hkept => ?_⟩
  · exact h.lends (pair, guard) (List.mem_of_getElem hentry)
  · have hsplit := (List.getElem_cons_eraseIdx_perm hplace).map (·.1)
    rw [hentry, List.map_cons] at hsplit
    have herased := (h.held_perm.trans hsplit.symm).erase pair
    rw [List.erase_cons_head] at herased
    exact herased
  · exact h.lends entry (List.mem_of_mem_eraseIdx hkept)

theorem Balanced.perform (h : l.Balanced g) (q : Request) : ∃ g', (l.perform q).Balanced g' := by
  cases q with
  | acquire host c =>
      rw [Lending.perform]
      rcases h.represents.tryAcquire_cases host c with
        ⟨guard, t, g', heq, htook, hnext, hextends, hlends⟩ | ⟨t, heq, -, hnext, hextends⟩
      · rw [heq]
        exact ⟨g', h.took htook hnext hextends (.cons hlends .nil)⟩
      · rw [heq]
        exact ⟨g, h.refused hnext hextends⟩
  | acquireAll host cs =>
      rw [Lending.perform]
      rcases h.represents.tryAcquireAll_cases host cs with
        ⟨taken, t, g', heq, htook, hnext, hextends, hlends⟩ | ⟨c, t, heq, -, hnext, hextends⟩
      · rw [heq]
        exact ⟨g', h.took htook hnext hextends hlends⟩
      · rw [heq]
        exact ⟨g, h.refused hnext hextends⟩
  | drop place =>
      cases hentry : l.lent[place]? with
      | some entry => exact ⟨_, h.drop hentry⟩
      | none =>
          rw [Lending.perform, hentry]
          exact ⟨g, h⟩

theorem Balanced.performAll (h : l.Balanced g) (requests : List Request) :
    ∃ g', (l.performAll requests).Balanced g' := by
  induction requests generalizing l g with
  | nil => exact ⟨g, h⟩
  | cons q requests ih =>
      obtain ⟨g', h'⟩ := h.perform q
      exact ih h'

theorem performAll_append (l : Lending) (requests more : List Request) :
    l.performAll (requests ++ more) = (l.performAll requests).performAll more :=
  List.foldl_append

theorem Balanced.took_by_requests (h : l.Balanced g) {places : List Guard} {g' : Guards}
    (htook : Guards.Took g places g') : ∃ requests, (l.performAll requests).Balanced g' := by
  induction places generalizing l g with
  | nil =>
      obtain rfl : g' = g := by
        cases g
        cases g'
        simpa using htook.held_eq
      exact ⟨[], h⟩
  | cons place places ih =>
      obtain ⟨hone, hrest⟩ := htook.cons
      obtain ⟨requests, hall⟩ := ih (h.acquire (Guards.acquire_eq_ok_iff.mpr hone)) hrest
      exact ⟨_ :: requests, hall⟩

theorem Balanced.released_by_requests (h : l.Balanced g) (places : List Guard) :
    ∃ requests, (l.performAll requests).Balanced (g.releaseAll places) := by
  induction places generalizing l g with
  | nil => exact ⟨[], h⟩
  | cons place places ih =>
      by_cases hheld : place ∈ g.held
      · obtain ⟨entry, hentry, rfl⟩ := List.mem_map.mp (h.held_perm.subset hheld)
        obtain ⟨i, hi⟩ := List.getElem?_of_mem hentry
        obtain ⟨requests, hall⟩ := ih (h.drop hi)
        exact ⟨.drop i :: requests, hall⟩
      · have hsame : g.release place = g := by rw [Guards.release, List.erase_of_not_mem hheld]
        obtain ⟨requests, hall⟩ := ih h
        rw [Guards.releaseAll_cons, hsame]
        exact ⟨requests, hall⟩

theorem Balanced.empty : Balanced {} .empty :=
  ⟨.empty, .refl _, fun _ hentry => absurd hentry List.not_mem_nil⟩

/-- Whatever guards were taken and dropped, the locks that are held are those of the guards that are
lent: a component of a host is busy exactly if a guard for it is lent, and there are never two. One
guard is lent exactly if it is free, and then just it is held in addition. Several are lent exactly
if the components differ and are all free, and then just they are held in addition; if not, the
first component that is busy or repeated is named, and what is held stays as it was. -/
theorem busy_exactly_while_lent (requests : List Request) :
    let l := performAll {} requests
    (∃ g, l.table.Represents g ∧ g.held.Perm (l.lent.map (·.1))) ∧
    (∀ host c, (l.table.isBusy host c = true ↔ ∃ guard, (⟨host, c⟩, guard) ∈ l.lent) ∧
      (l.lent.map (·.1)).count ⟨host, c⟩ ≤ 1) ∧
    (∀ host c,
      ((∃ guard t, l.table.tryAcquire host c = (.ok guard, t)) ↔ l.table.isBusy host c = false) ∧
      (∀ guard t, l.table.tryAcquire host c = (.ok guard, t) → ∀ host' c',
        t.isBusy host' c' = true ↔ l.table.isBusy host' c' = true ∨ host' = host ∧ c' = c) ∧
      ∀ e t, l.table.tryAcquire host c = (.error e, t) →
        e = .componentBusy host c ∧ t.isBusy = l.table.isBusy) ∧
    ∀ host cs,
      ((∃ taken t, l.table.tryAcquireAll host cs = (.ok taken, t)) ↔
        cs.Nodup ∧ ∀ c ∈ cs, l.table.isBusy host c = false) ∧
      (∀ taken t, l.table.tryAcquireAll host cs = (.ok taken, t) →
        taken.length = cs.length ∧ ∀ host' c, t.isBusy host' c = true ↔
          l.table.isBusy host' c = true ∨ host' = host ∧ c ∈ cs) ∧
      ∀ e t, l.table.tryAcquireAll host cs = (.error e, t) →
        t.isBusy = l.table.isBusy ∧ ∃ before c after, e = .componentBusy host c ∧
          cs = before ++ c :: after ∧ (l.table.isBusy host c = true ∨ c ∈ before) ∧
          before.Nodup ∧ ∀ b ∈ before, l.table.isBusy host b = false := by
  intro l
  obtain ⟨g, hbalanced⟩ := Balanced.empty.performAll requests
  have hrepresents : l.table.Represents g := hbalanced.represents
  have hheld : g.held.Perm (l.lent.map (·.1)) := hbalanced.held_perm
  refine ⟨⟨g, hrepresents, hheld⟩, fun host c => ⟨?_, ?_⟩, hrepresents.tryAcquire_spec,
    hrepresents.tryAcquireAll_spec⟩
  · rw [hrepresents.isBusy_eq, Guards.mem_held_iff_isBusy, hheld.mem_iff, List.mem_map]
    exact ⟨fun ⟨entry, hentry, heq⟩ => ⟨entry.2, heq ▸ hentry⟩,
      fun ⟨guard, hentry⟩ => ⟨_, hentry, rfl⟩⟩
  · exact List.nodup_iff_count_le_one.mp (hheld.nodup_iff.mp hrepresents.nodup) _

def sampleRequests : List Request :=
  [.acquire ⟨1⟩ .drbd, .drop 0, .acquireAll ⟨1⟩ [.heartbeat, .corosync],
    .acquireAll ⟨1⟩ [.drbd, .corosync]]

example : performAll {} sampleRequests =
    ⟨⟨[(⟨⟨1⟩, .corosync⟩, 2), (⟨⟨1⟩, .heartbeat⟩, 1), (⟨⟨1⟩, .drbd⟩, 0)], [false, true, true]⟩,
      [(⟨⟨1⟩, .heartbeat⟩, ⟨1⟩), (⟨⟨1⟩, .corosync⟩, ⟨2⟩)]⟩ := by decide

theorem busy_exactly_while_lent_sample :
    let l := performAll {} sampleRequests
    l.table.isBusy ⟨1⟩ .corosync = true ∧ l.table.isBusy ⟨1⟩ .drbd = false ∧
      (∃ guard t, l.table.tryAcquire ⟨1⟩ .drbd = (.ok guard, t)) ∧
      ¬ ∃ taken t, l.table.tryAcquireAll ⟨2⟩ [.drbd, .drbd] = (.ok taken, t) := by
  intro l
  obtain ⟨-, hbusy, hone, hall⟩ := busy_exactly_while_lent sampleRequests
  have hcorosync : (⟨⟨1⟩, .corosync⟩, ⟨2⟩) ∈ l.lent := by decide
  have hfree : l.table.isBusy ⟨1⟩ .drbd = false := by decide
  refine ⟨(hbusy ⟨1⟩ .corosync).1.mpr ⟨_, hcorosync⟩, hfree, (hone ⟨1⟩ .drbd).1.mpr hfree,
    fun htaken => ?_⟩
  obtain ⟨hnodup, -⟩ := (hall ⟨2⟩ [.drbd, .drbd]).1.mp htaken
  exact absurd hnodup (by decide)

end Lending

end ClusterSetup

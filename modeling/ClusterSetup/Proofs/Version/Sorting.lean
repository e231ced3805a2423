import ClusterSetup.Proofs.Version.Order

namespace ClusterSetup.Version

open Std (TransCmp OrientedCmp ReflCmp)

def Ascending (vs : List String) : Prop := vs.Pairwise fun a b => order a b ≠ .gt

/-- The versions of a list that compare equal to a version. -/
def alike (v : String) (vs : List String) : List String := vs.filter (order v · == .eq)

theorem mem_alike {v a : String} {vs : List String} :
    a ∈ alike v vs ↔ a ∈ vs ∧ order v a = .eq := by
  rw [alike, List.mem_filter, beq_iff_eq]

theorem mem_of_alike {vs ws : List String} (h : ∀ v, alike v vs = alike v ws) {a : String}
    (ha : a ∈ vs) : a ∈ ws := by
  have hself : a ∈ alike a vs := mem_alike.mpr ⟨ha, ReflCmp.compare_self⟩
  rw [h a] at hself
  exact (mem_alike.mp hself).1

theorem Ascending.head_isLE {a b : String} {vs : List String} (h : Ascending (a :: vs))
    (hb : b ∈ a :: vs) : (order a b).isLE := by
  rcases List.mem_cons.mp hb with rfl | hb
  · exact ReflCmp.isLE_rfl
  · exact Ordering.isLE_iff_ne_gt.mpr (List.rel_of_pairwise_cons h hb)

theorem Ascending.eq_of_alike {vs ws : List String} (hvs : Ascending vs) (hws : Ascending ws)
    (h : ∀ v, alike v vs = alike v ws) : vs = ws := by
  induction vs generalizing ws with
  | nil =>
      symm
      exact List.eq_nil_iff_forall_not_mem.mpr fun b hb =>
        nomatch mem_of_alike (fun v => (h v).symm) hb
  | cons a vs ih =>
      cases ws with
      | nil => exact nomatch mem_of_alike h List.mem_cons_self
      | cons b ws =>
          -- Each head is among the other list, so neither comes before the other.
          have hab := hvs.head_isLE (mem_of_alike (fun v => (h v).symm) List.mem_cons_self)
          have hba := hws.head_isLE (mem_of_alike h List.mem_cons_self)
          have heq : order a b = .eq := OrientedCmp.isLE_antisymm hab hba
          have hself : order a a = .eq := ReflCmp.compare_self
          have hheads := h a
          simp only [alike, List.filter_cons, hself, heq, beq_self_eq_true, if_true] at hheads
          obtain ⟨rfl, -⟩ := List.cons.inj hheads
          congr 1
          refine ih hvs.of_cons hws.of_cons fun v => ?_
          have htails := h v
          simp only [alike, List.filter_cons] at htails
          split at htails
          · exact (List.cons.inj htails).2
          · exact htails

theorem bne_gt_eq_isLE (o : Ordering) : (o != .gt) = o.isLE := by cases o <;> rfl

theorem not_newer_trans (a b c : String) (hab : (order a b != .gt) = true)
    (hbc : (order b c != .gt) = true) : (order a c != .gt) = true := by
  rw [bne_gt_eq_isLE] at hab hbc ⊢
  exact TransCmp.isLE_trans hab hbc

theorem not_newer_total (a b : String) : (order a b != .gt || order b a != .gt) = true := by
  have hswap : order b a = (order a b).swap := OrientedCmp.eq_swap
  rw [hswap]
  cases order a b <;> rfl

theorem ascending_alike (v : String) (vs : List String) :
    (alike v vs).Pairwise fun a b => (order a b != .gt) = true := by
  apply List.pairwise_of_forall_mem_list
  intro a ha b hb
  have hva := (mem_alike.mp ha).2
  have heq : order a b = .eq := by rw [← TransCmp.congr_left hva, (mem_alike.mp hb).2]
  rw [heq]
  rfl

theorem ascending_sort (vs : List String) : Ascending (sort vs) :=
  (List.pairwise_mergeSort not_newer_trans not_newer_total vs).imp fun h => bne_iff_ne.mp h

theorem alike_sort (v : String) (vs : List String) : alike v (sort vs) = alike v vs := by
  have hplaced : (alike v vs).Sublist (sort vs) :=
    List.sublist_mergeSort not_newer_trans not_newer_total (ascending_alike v vs)
      List.filter_sublist
  have hsub : (alike v vs).Sublist (alike v (sort vs)) := by
    have hboth := hplaced.filter (order v · == .eq)
    rwa [alike, List.filter_filter, funext fun a => Bool.and_self (order v a == .eq)] at hboth
  have hperm : (alike v (sort vs)).Perm (alike v vs) := (List.mergeSort_perm vs _).filter _
  exact (hsub.eq_of_length hperm.length_eq.symm).symm

/-- Sorting is determined by its result being ascending and keeping versions that compare equal
in their places. -/
theorem sort_eq_iff {vs ws : List String} :
    sort vs = ws ↔ Ascending ws ∧ ∀ v, alike v ws = alike v vs := by
  constructor
  · rintro rfl
    exact ⟨ascending_sort vs, fun v => alike_sort v vs⟩
  · rintro ⟨hascending, halike⟩
    exact (ascending_sort vs).eq_of_alike hascending fun v =>
      (alike_sort v vs).trans (halike v).symm

/-- Versions are totally preordered, and versions that compare equal compare alike with every third
one. Segments `.0` at the end make no difference, unless a blank stands in front of them. So being
older is a strict order, and there is one way to sort versions that keeps those that compare equal
in their places. -/
theorem order_totally_preorders :
    (∀ a, order a a = .eq) ∧
    (∀ a b, order a b = (order b a).swap) ∧
    (∀ a b c, order a b ≠ .gt → order b c ≠ .gt → order a c ≠ .gt) ∧
    (∀ a b c, order a b = .eq → order a c = order b c ∧ order c a = order c b) ∧
    (∀ v k w, Chars.endsBlank v.toList = false →
      order (v ++ zeros k) w = order v w ∧ order w (v ++ zeros k) = order w v) ∧
    (∀ a, isOlder a a = false) ∧
    (∀ a b c, isOlder a b = true → isOlder b c = true → isOlder a c = true) ∧
    ∀ vs ws, sort vs = ws ↔ Ascending ws ∧ ∀ v, alike v ws = alike v vs := by
  have hself (a : String) : order a a = .eq := ReflCmp.compare_self
  have hswap (a b : String) : order a b = (order b a).swap := OrientedCmp.eq_swap
  refine ⟨hself, hswap, fun a b c hab hbc => ?_, fun a b c hab => ⟨?_, ?_⟩,
    fun v k w hv => ⟨order_append_zeros hv k w, ?_⟩, fun a => ?_, fun a b c hab hbc => ?_,
    fun vs ws => sort_eq_iff⟩
  · exact Ordering.isLE_iff_ne_gt.mp (TransCmp.isLE_trans (Ordering.isLE_iff_ne_gt.mpr hab)
      (Ordering.isLE_iff_ne_gt.mpr hbc))
  · exact TransCmp.congr_left hab
  · exact TransCmp.congr_right hab
  · rw [hswap, order_append_zeros hv, ← hswap]
  · rw [isOlder, hself]
    rfl
  · rw [isOlder, beq_iff_eq] at hab hbc ⊢
    exact TransCmp.lt_trans hab hbc

theorem order_totally_preorders_sample :
    order "1.1.0rc1" "1.1" ≠ .gt ∧ order "1.1.0rc1" "1.1.0-2" ≠ .gt ∧
      order "1.1.0" "1.1-0rc1" = order "1.1" "1.1-0rc1" ∧
      order ("1.1" ++ zeros 3) "1.1.0rc1" = order "1.1" "1.1.0rc1" ∧
      isOlder "1.1.0rc1" "1.2" = true ∧
      Ascending (sort ["1.2", "1.1", "1.1.0rc1", "1.1.0"]) := by
  obtain ⟨-, -, htrans, hcongr, hzeros, -, holder, hsort⟩ := order_totally_preorders
  have hsuffix : order "1.1.0rc1" "1.1" = .lt := by cbv
  have hbuild : order "1.1" "1.1.0-2" = .lt := by cbv
  have hnewer : order "1.1" "1.2" = .lt := by cbv
  have hzero : order "1.1.0" "1.1" = .eq := by cbv
  refine ⟨?_, htrans _ "1.1" _ ?_ ?_, (hcongr _ _ _ hzero).1, (hzeros _ 3 _ ?_).1,
    holder _ "1.1" _ (beq_iff_eq.mpr hsuffix) (beq_iff_eq.mpr hnewer), ((hsort _ _).mp rfl).1⟩
  · rw [hsuffix]
    decide
  · rw [hsuffix]
    decide
  · rw [hbuild]
    decide
  · decide +kernel

end ClusterSetup.Version

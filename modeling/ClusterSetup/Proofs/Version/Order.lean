import ClusterSetup.Proofs.Text.Splitting
import ClusterSetup.Version.Order

namespace ClusterSetup.Version

open Std (TransCmp OrientedCmp)

namespace Segment

instance : TransCmp compareSuffix where
  eq_swap {a b} := by
    cases a with
    | nil => cases b <;> rfl
    | cons c a =>
        cases b with
        | nil => rfl
        | cons d b => exact @OrientedCmp.eq_swap _ compare _ (c :: a) (d :: b)
  isLE_trans {a b e} hab hbe := by
    cases e with
    | nil => cases a <;> rfl
    | cons x e =>
        cases b with
        | nil => cases hbe
        | cons d b =>
            cases a with
            | nil => cases hab
            | cons c a => exact @TransCmp.isLE_trans _ compare _ (c :: a) (d :: b) (x :: e) hab hbe

instance : TransCmp fun a b : Segment => compareSuffix a.suffix b.suffix where
  eq_swap := OrientedCmp.eq_swap
  isLE_trans := TransCmp.isLE_trans

instance : TransCmp cmp :=
  inferInstanceAs (TransCmp (compareLex (compareOn number)
    fun a b => compareSuffix a.suffix b.suffix))

end Segment

section Padding

variable {α : Type} (a : α) (n : Nat)

theorem rightpad_succ (l : List α) :
    l.rightpad (n + 1) a = l.headD a :: l.tail.rightpad n a := by
  cases l with
  | nil => rfl
  | cons b l => simp [List.rightpad]

theorem rightpad_eq_map {l : List α} {n : Nat} (h : l.length ≤ n) :
    l.rightpad n a = (List.range n).map (l.getD · a) := by
  induction n generalizing l with
  | zero =>
      obtain rfl := List.length_eq_zero_iff.mp (Nat.le_zero.mp h)
      rfl
  | succ n ih =>
      have htail : l.tail.length ≤ n := by
        rw [List.length_tail]
        omega
      rw [rightpad_succ, ih htail, List.range_succ_eq_map, List.map_cons, List.map_map]
      cases l <;> rfl

theorem rightpad_append_replicate {l : List α} {k : Nat} (h : l.length + k ≤ n) :
    (l ++ List.replicate k a).rightpad n a = l.rightpad n a := by
  rw [List.rightpad, List.rightpad, List.append_assoc, List.length_append, List.length_replicate,
    List.replicate_append_replicate]
  congr 2
  omega

end Padding

theorem compareSegments_eq_then (as bs : List Segment) :
    compareSegments as bs =
      ((as.headD .zero).cmp (bs.headD .zero)).then (compareSegments as.tail bs.tail) := by
  cases as with
  | nil =>
      cases bs with
      | nil =>
          rw [List.tail_nil, compareSegments]
          rfl
      | cons b bs =>
          rw [List.tail_nil, List.tail_cons, List.headD_nil, List.headD_cons, compareSegments]
  | cons a as =>
      cases bs with
      | nil => rw [List.tail_nil, List.tail_cons, List.headD_nil, List.headD_cons, compareSegments]
      | cons b bs =>
          rw [List.tail_cons, List.tail_cons, List.headD_cons, List.headD_cons, compareSegments]

theorem compareSegments_eq_compareLex {as bs : List Segment} {n : Nat} (ha : as.length ≤ n)
    (hb : bs.length ≤ n) :
    compareSegments as bs =
      List.compareLex Segment.cmp (as.rightpad n .zero) (bs.rightpad n .zero) := by
  induction n generalizing as bs with
  | zero =>
      obtain rfl := List.length_eq_zero_iff.mp (Nat.le_zero.mp ha)
      obtain rfl := List.length_eq_zero_iff.mp (Nat.le_zero.mp hb)
      rw [compareSegments]
      rfl
  | succ n ih =>
      have hatail : as.tail.length ≤ n := by
        rw [List.length_tail]
        omega
      have hbtail : bs.tail.length ≤ n := by
        rw [List.length_tail]
        omega
      rw [compareSegments_eq_then, ih hatail hbtail, rightpad_succ, rightpad_succ,
        List.compareLex_cons_cons]

instance : TransCmp compareSegments where
  eq_swap {as bs} := by
    have ha := Nat.le_max_left as.length bs.length
    have hb := Nat.le_max_right as.length bs.length
    rw [compareSegments_eq_compareLex ha hb, compareSegments_eq_compareLex hb ha]
    exact OrientedCmp.eq_swap
  isLE_trans {as bs cs} hab hbc := by
    obtain ⟨n, ha, hb, hc⟩ : ∃ n, as.length ≤ n ∧ bs.length ≤ n ∧ cs.length ≤ n :=
      ⟨max as.length (max bs.length cs.length), by omega, by omega, by omega⟩
    rw [compareSegments_eq_compareLex ha hb] at hab
    rw [compareSegments_eq_compareLex hb hc] at hbc
    rw [compareSegments_eq_compareLex ha hc]
    exact TransCmp.isLE_trans hab hbc

instance : TransCmp order where
  eq_swap {a b} := @OrientedCmp.eq_swap _ compareSegments _ (segments a) (segments b)
  isLE_trans {a b c} hab hbc :=
    @TransCmp.isLE_trans _ compareSegments _ (segments a) (segments b) (segments c) hab hbc

theorem compareSegments_append_zeros (as bs : List Segment) (k : Nat) :
    compareSegments (as ++ List.replicate k .zero) bs = compareSegments as bs := by
  obtain ⟨n, ha, hb⟩ : ∃ n, as.length + k ≤ n ∧ bs.length ≤ n :=
    ⟨max (as.length + k) bs.length, by omega, by omega⟩
  have hlong : (as ++ List.replicate k Segment.zero).length ≤ n := by
    rwa [List.length_append, List.length_replicate]
  rw [compareSegments_eq_compareLex hlong hb, rightpad_append_replicate _ _ ha,
    compareSegments_eq_compareLex (Nat.le_of_add_right_le ha) hb]

def isSeparator (c : Char) : Bool := c = '.' || c = '-'

def segmentsIn (cs : List Char) : List Segment :=
  ((Chars.pieces isSeparator cs).filter (!·.isEmpty)).map .ofChars

theorem segments_eq (v : String) : segments v = segmentsIn (Chars.trim v.toList) := rfl

theorem segmentsIn_append (cs ds : List Char) :
    segmentsIn (cs ++ '.' :: ds) = segmentsIn cs ++ segmentsIn ds := by
  have hdot : isSeparator '.' = true := rfl
  rw [segmentsIn, Chars.pieces_append hdot, List.filter_append, List.map_append]
  rfl

theorem segmentsIn_piece {cs : List Char} (hne : cs ≠ []) (h : ∀ c ∈ cs, isSeparator c = false) :
    segmentsIn cs = [.ofChars cs] := by
  simp [segmentsIn, Chars.pieces_of_unseparated h, hne]

/-- A number of segments `0`, each behind a dot. -/
def zeros (k : Nat) : String := String.join (List.replicate k ".0")

theorem toList_zeros_succ (k : Nat) : (zeros (k + 1)).toList = '.' :: '0' :: (zeros k).toList := by
  rw [zeros, zeros, String.toList_join, String.toList_join, List.replicate_succ, List.flatMap_cons]
  rfl

theorem isBlank_of_mem_zeros (k : Nat) : ∀ c ∈ (zeros k).toList, Chars.isBlank c = false := by
  induction k with
  | zero => exact fun c hc => nomatch hc
  | succ k ih =>
      rw [toList_zeros_succ]
      intro c hc
      rcases List.mem_cons.mp hc with rfl | hc
      · rfl
      · rcases List.mem_cons.mp hc with rfl | hc
        · rfl
        · exact ih c hc

theorem segmentsIn_append_zeros (cs : List Char) (k : Nat) :
    segmentsIn (cs ++ (zeros k).toList) = segmentsIn cs ++ List.replicate k .zero := by
  induction k generalizing cs with
  | zero =>
      rw [List.replicate_zero, List.append_nil]
      exact congrArg segmentsIn (List.append_nil cs)
  | succ k ih =>
      have hzero : segmentsIn ['0'] = [.zero] := rfl
      rw [toList_zeros_succ, segmentsIn_append, ← List.singleton_append, ih ['0'], hzero,
        List.replicate_succ, List.singleton_append]

theorem order_append_zeros {v : String} (h : Chars.endsBlank v.toList = false) (k : Nat)
    (w : String) : order (v ++ zeros k) w = order v w := by
  rw [order, segments_eq, String.toList_append, Chars.trim_append h (isBlank_of_mem_zeros k),
    segmentsIn_append_zeros, compareSegments_append_zeros]
  rfl

end ClusterSetup.Version

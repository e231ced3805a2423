import Mathlib.Data.List.GetD
import Mathlib.Data.Nat.Find
import ClusterSetup.Proofs.Version.Order

namespace ClusterSetup.Version

/-- Compares lists of numbers by the first place where they differ; the shorter list is filled up
with zeros. -/
def compareNumbers (as bs : List Nat) : Ordering :=
  let n := max as.length bs.length
  compare (as.rightpad n 0) (bs.rightpad n 0)

/-- The first place where two lists of numbers differ, with a zero for a number that is missing. -/
structure FirstDifference (as bs : List Nat) (i : Nat) : Prop where
  differ : as.getD i 0 ≠ bs.getD i 0
  agree : ∀ j < i, as.getD j 0 = bs.getD j 0

section Numbers

variable {as bs : List Nat}

def Segment.plain (n : Nat) : Segment := ⟨n, []⟩

theorem Segment.cmp_plain (a b : Nat) : (plain a).cmp (plain b) = compare a b := Ordering.then_eq

theorem compareLex_plain (as bs : List Nat) :
    List.compareLex Segment.cmp (as.map .plain) (bs.map .plain) = compare as bs := by
  rw [List.compare_eq_compareLex]
  induction as generalizing bs with
  | nil => cases bs <;> rfl
  | cons a as ih =>
      cases bs with
      | nil => rfl
      | cons b bs =>
          rw [List.map_cons, List.map_cons, List.compareLex_cons_cons, List.compareLex_cons_cons,
            Segment.cmp_plain, ih]

theorem rightpad_plain (n : Nat) (as : List Nat) :
    (as.map Segment.plain).rightpad n .zero = (as.rightpad n 0).map .plain := by
  simp [List.rightpad, Segment.zero, Segment.plain]

theorem compareSegments_plain (as bs : List Nat) :
    compareSegments (as.map .plain) (bs.map .plain) = compareNumbers as bs := by
  have ha : (as.map Segment.plain).length ≤ max as.length bs.length := by
    rw [List.length_map]
    exact Nat.le_max_left _ _
  have hb : (bs.map Segment.plain).length ≤ max as.length bs.length := by
    rw [List.length_map]
    exact Nat.le_max_right _ _
  rw [compareSegments_eq_compareLex ha hb, rightpad_plain, rightpad_plain, compareLex_plain,
    compareNumbers]

theorem compareNumbers_eq_then (as bs : List Nat) :
    compareNumbers as bs =
      (compare (as.getD 0 0) (bs.getD 0 0)).then (compareNumbers as.tail bs.tail) := by
  have hhead (l : List Nat) : (l.map .plain).headD .zero = Segment.plain (l.getD 0 0) := by
    cases l <;> rfl
  rw [← compareSegments_plain, compareSegments_eq_then, hhead, hhead, Segment.cmp_plain,
    ← List.map_tail, ← List.map_tail, compareSegments_plain]

theorem FirstDifference.exists_or (as bs : List Nat) :
    (∃ i, FirstDifference as bs i) ∨ ∀ i, as.getD i 0 = bs.getD i 0 := by
  by_cases h : ∃ i, as.getD i 0 ≠ bs.getD i 0
  · exact .inl ⟨Nat.find h, Nat.find_spec h, fun j hj => not_not.mp (Nat.find_min h hj)⟩
  · exact .inr fun i => not_not.mp fun hne => h ⟨i, hne⟩

theorem FirstDifference.compareNumbers_eq {i : Nat} (h : FirstDifference as bs i) :
    compareNumbers as bs = compare (as.getD i 0) (bs.getD i 0) := by
  rw [compareNumbers_eq_then]
  induction i generalizing as bs with
  | zero =>
      cases hcompare : compare (as.getD 0 0) (bs.getD 0 0) with
      | lt => rfl
      | eq => exact absurd (Nat.compare_eq_eq.mp hcompare) h.differ
      | gt => rfl
  | succ i ih =>
      have hshift (l : List Nat) (j : Nat) : l.tail.getD j 0 = l.getD (j + 1) 0 := by
        cases l <;> rfl
      have htail : FirstDifference as.tail bs.tail i := by
        refine ⟨?_, fun j hj => ?_⟩
        · rw [hshift, hshift]
          exact h.differ
        · rw [hshift, hshift]
          exact h.agree (j + 1) (Nat.succ_lt_succ hj)
      rw [h.agree 0 (Nat.succ_pos i), Nat.compare_eq_eq.mpr rfl, Ordering.eq_then,
        compareNumbers_eq_then, ih htail, hshift, hshift]

theorem compareNumbers_of_same (h : ∀ i, as.getD i 0 = bs.getD i 0) :
    compareNumbers as bs = .eq := by
  rw [compareNumbers, rightpad_eq_map 0 (Nat.le_max_left _ _),
    rightpad_eq_map 0 (Nat.le_max_right _ _), funext h]
  exact Std.ReflCmp.compare_self

end Numbers

/-- The number that is read for a number: zero for one that does not fit. -/
def readable (n : Nat) : Nat := if n < Segment.numberLimit then n else 0

theorem getD_readable (l : List Nat) (i : Nat) :
    (l.map readable).getD i 0 = readable (l.getD i 0) := List.getD_map l 0 readable

theorem readable_of_lt {n : Nat} (h : n < Segment.numberLimit) : readable n = n := if_pos h

section Reading

variable {as bs : List Nat} {i : Nat}

theorem FirstDifference.compareNumbers_readable (h : FirstDifference as bs i)
    (hdiffer : readable (as.getD i 0) ≠ readable (bs.getD i 0)) :
    compareNumbers (as.map readable) (bs.map readable) =
      compare (readable (as.getD i 0)) (readable (bs.getD i 0)) := by
  have hread : FirstDifference (as.map readable) (bs.map readable) i := by
    refine ⟨?_, fun j hj => ?_⟩
    · rwa [getD_readable, getD_readable]
    · rw [getD_readable, getD_readable, h.agree j hj]
  rw [hread.compareNumbers_eq, getD_readable, getD_readable]

/-- Reading changes nothing where the first difference is between numbers that fit. -/
theorem compareNumbers_readable
    (h : ∀ i, FirstDifference as bs i →
      as.getD i 0 < Segment.numberLimit ∧ bs.getD i 0 < Segment.numberLimit) :
    compareNumbers (as.map readable) (bs.map readable) = compareNumbers as bs := by
  rcases FirstDifference.exists_or as bs with ⟨i, hfirst⟩ | hsame
  · have ha := readable_of_lt (h i hfirst).1
    have hb := readable_of_lt (h i hfirst).2
    have hdiffer : readable (as.getD i 0) ≠ readable (bs.getD i 0) := by
      rw [ha, hb]
      exact hfirst.differ
    rw [hfirst.compareNumbers_readable hdiffer, hfirst.compareNumbers_eq, ha, hb]
  · rw [compareNumbers_of_same hsame, compareNumbers_of_same fun i => ?_]
    rw [getD_readable, getD_readable, hsame i]

theorem compareNumbers_oversized (h : FirstDifference as bs i) (hpos : 0 < as.getD i 0)
    (hfits : as.getD i 0 < Segment.numberLimit) (hlarge : Segment.numberLimit ≤ bs.getD i 0) :
    compareNumbers as bs = .lt ∧ compareNumbers (as.map readable) (bs.map readable) = .gt := by
  have ha := readable_of_lt hfits
  have hb : readable (bs.getD i 0) = 0 := if_neg (Nat.not_lt.mpr hlarge)
  have hdiffer : readable (as.getD i 0) ≠ readable (bs.getD i 0) := by
    rw [ha, hb]
    exact Nat.ne_of_gt hpos
  constructor
  · rw [h.compareNumbers_eq]
    exact Nat.compare_eq_lt.mpr (Nat.lt_of_lt_of_le hfits hlarge)
  · rw [h.compareNumbers_readable hdiffer, ha, hb]
    exact Nat.compare_eq_gt.mpr hpos

end Reading

/-- A decimal numeral. Zeros may stand in front. -/
structure Numeral where
  digits : List Char
  nonempty : digits ≠ []
  decimal : ∀ d ∈ digits, Chars.isDigit d = true

def Numeral.value (n : Numeral) : Nat := Chars.toNat n.digits

/-- The version that is made of numerals. -/
def dotted (ns : List Numeral) : String := ".".intercalate (ns.map fun n => .ofList n.digits)

/-- A text of letters and digits that begins with a letter. -/
structure Suffix where
  letter : Char
  rest : List Char
  isLetter : Chars.isDigit letter = false
  alphanum : ∀ c ∈ letter :: rest, Chars.isAlphanum c = true

def Suffix.text (s : Suffix) : String := .ofList (s.letter :: s.rest)

section Pieces

theorem isSeparator_of_isAlphanum {c : Char} (h : Chars.isAlphanum c = true) :
    isSeparator c = false := by
  rw [isSeparator, Bool.or_eq_false_iff, decide_eq_false_iff_not, decide_eq_false_iff_not]
  constructor <;> rintro rfl <;> cases h

def IsWord (w : List Char) : Prop := w ≠ [] ∧ ∀ c ∈ w, Chars.isAlphanum c = true

theorem Numeral.isWord (n : Numeral) : IsWord n.digits :=
  ⟨n.nonempty, fun d hd => Chars.isAlphanum_of_isDigit (n.decimal d hd)⟩

theorem segmentsIn_intercalate {ws : List (List Char)} (h : ∀ w ∈ ws, IsWord w) :
    segmentsIn (['.'].intercalate ws) = ws.map .ofChars := by
  induction ws with
  | nil => rfl
  | cons w ws ih =>
      obtain ⟨hne, hword⟩ := h w List.mem_cons_self
      have hpiece := segmentsIn_piece hne fun c hc => isSeparator_of_isAlphanum (hword c hc)
      have hrest := ih fun u hu => h u (List.mem_cons_of_mem w hu)
      cases ws with
      | nil => simpa using hpiece
      | cons u ws =>
          rw [List.intercalate_cons_cons, List.append_assoc, List.singleton_append,
            segmentsIn_append, hpiece, hrest]
          rfl

theorem isBlank_of_mem_intercalate {ws : List (List Char)} (h : ∀ w ∈ ws, IsWord w) :
    ∀ c ∈ ['.'].intercalate ws, Chars.isBlank c = false := by
  induction ws with
  | nil => exact fun c hc => nomatch hc
  | cons w ws ih =>
      have hword : ∀ c ∈ w, Chars.isBlank c = false := fun c hc =>
        Chars.isBlank_of_isAlphanum ((h w List.mem_cons_self).2 c hc)
      have hrest := ih fun u hu => h u (List.mem_cons_of_mem w hu)
      cases ws with
      | nil => simpa using hword
      | cons u ws =>
          rw [List.intercalate_cons_cons, List.append_assoc]
          intro c hc
          rcases List.mem_append.mp hc with hc | hc
          · exact hword c hc
          · rcases List.mem_cons.mp hc with rfl | hc
            · rfl
            · exact hrest c hc

theorem intercalate_append_last (ws : List (List Char)) (w s : List Char) :
    ['.'].intercalate (ws ++ [w]) ++ s = ['.'].intercalate (ws ++ [w ++ s]) := by
  induction ws with
  | nil => simp
  | cons u ws ih => cases ws <;> simp_all

theorem segments_of_words {v : String} {ws : List (List Char)} (h : ∀ w ∈ ws, IsWord w)
    (hv : v.toList = ['.'].intercalate ws) : segments v = ws.map .ofChars := by
  rw [segments_eq, hv, Chars.trim_of_solid (isBlank_of_mem_intercalate h), segmentsIn_intercalate h]

end Pieces

theorem Numeral.ofChars_append (n : Numeral) {s : List Char}
    (h : ∀ c, s.head? = some c → Chars.isDigit c = false) :
    Segment.ofChars (n.digits ++ s) = ⟨readable n.value, s⟩ := by
  obtain ⟨htake, hdrop⟩ : s.takeWhile Chars.isDigit = [] ∧ s.dropWhile Chars.isDigit = s := by
    cases s with
    | nil => exact ⟨rfl, rfl⟩
    | cons c s => rw [List.takeWhile_cons, List.dropWhile_cons, h c rfl]; exact ⟨rfl, rfl⟩
  rw [Segment.ofChars, List.takeWhile_append_of_pos n.decimal,
    List.dropWhile_append_of_pos n.decimal, htake, hdrop, List.append_nil]
  rfl

theorem Numeral.ofChars_digits (n : Numeral) :
    Segment.ofChars n.digits = .plain (readable n.value) := by
  have h := n.ofChars_append (s := []) fun c hc => nomatch hc
  rwa [List.append_nil] at h

theorem toList_dotted (ns : List Numeral) :
    (dotted ns).toList = ['.'].intercalate (ns.map Numeral.digits) := by
  simp [dotted, String.toList_intercalate, Function.comp_def]

theorem isWord_of_mem_digits (ns : List Numeral) : ∀ w ∈ ns.map Numeral.digits, IsWord w := by
  intro w hw
  obtain ⟨n, -, rfl⟩ := List.mem_map.mp hw
  exact n.isWord

def readings (ns : List Numeral) : List Nat := (ns.map Numeral.value).map readable

theorem ofChars_numerals (ns : List Numeral) :
    (ns.map Numeral.digits).map Segment.ofChars = (readings ns).map .plain := by
  rw [readings, List.map_map, List.map_map, List.map_map]
  exact List.map_congr_left fun n _ => n.ofChars_digits

theorem order_dotted (as bs : List Numeral) :
    order (dotted as) (dotted bs) = compareNumbers (readings as) (readings bs) := by
  have hsegments (ns : List Numeral) : segments (dotted ns) = (readings ns).map .plain := by
    rw [segments_of_words (isWord_of_mem_digits ns) (toList_dotted ns), ofChars_numerals]
  rw [order, hsegments, hsegments, compareSegments_plain]

theorem segments_dotted_append (ns : List Numeral) (n : Numeral) {s : List Char}
    (hword : ∀ c ∈ s, Chars.isAlphanum c = true)
    (hhead : ∀ c, s.head? = some c → Chars.isDigit c = false) :
    segments (dotted (ns ++ [n]) ++ .ofList s) =
      (readings ns).map .plain ++ [⟨readable n.value, s⟩] := by
  have hlast : IsWord (n.digits ++ s) := by
    refine ⟨List.append_ne_nil_of_left_ne_nil n.nonempty s, fun c hc => ?_⟩
    rcases List.mem_append.mp hc with hc | hc
    · exact n.isWord.2 c hc
    · exact hword c hc
  have hwords : ∀ w ∈ ns.map Numeral.digits ++ [n.digits ++ s], IsWord w := by
    intro w hw
    rcases List.mem_append.mp hw with hw | hw
    · exact isWord_of_mem_digits ns w hw
    · rwa [List.mem_singleton.mp hw]
  have htext : (dotted (ns ++ [n]) ++ .ofList s).toList =
      ['.'].intercalate (ns.map Numeral.digits ++ [n.digits ++ s]) := by
    rw [String.toList_append, toList_dotted, String.toList_ofList, List.map_append, List.map_cons,
      List.map_nil, intercalate_append_last]
  rw [segments_of_words hwords htext, List.map_append, ofChars_numerals, List.map_cons,
    List.map_nil, n.ofChars_append hhead]

theorem compareSegments_suffix (ss : List Segment) (n : Nat) (c : Char) (cs : List Char) :
    compareSegments (ss ++ [⟨n, c :: cs⟩]) (ss ++ [⟨n, []⟩]) = .lt := by
  induction ss with
  | nil =>
      rw [compareSegments_eq_then]
      simp [Segment.cmp, Segment.compareSuffix]
  | cons s ss ih =>
      have hself : s.cmp s = .eq := Std.ReflCmp.compare_self
      rw [List.cons_append, List.cons_append, compareSegments, hself, ih]
      rfl

theorem order_suffix (ns : List Numeral) (n : Numeral) (s : Suffix) :
    order (dotted (ns ++ [n]) ++ s.text) (dotted (ns ++ [n])) = .lt := by
  have hhead : ∀ c, (s.letter :: s.rest).head? = some c → Chars.isDigit c = false := by
    rintro c ⟨⟩
    exact s.isLetter
  have hplain := segments_dotted_append ns n (s := []) (fun c hc => nomatch hc)
    fun c hc => nomatch hc
  rw [String.ofList_nil, String.append_empty] at hplain
  rw [order, Suffix.text, segments_dotted_append ns n s.alphanum hhead, hplain,
    compareSegments_suffix]

/-- Versions of numerals are compared number by number, where a numeral that does not fit into 64
bits counts as zero. So they are in the order of their numbers if those at the first place where
they differ fit, and in the opposite order if there the smaller one fits and is not zero, but the
larger one does not fit. A version is newer than the same version with a suffix. -/
theorem dotted_compared_as_read (as bs : List Numeral) :
    order (dotted as) (dotted bs) = compareNumbers (readings as) (readings bs) ∧
    ((∀ i, FirstDifference (as.map Numeral.value) (bs.map Numeral.value) i →
        (as.map Numeral.value).getD i 0 < Segment.numberLimit ∧
        (bs.map Numeral.value).getD i 0 < Segment.numberLimit) →
      order (dotted as) (dotted bs) =
        compareNumbers (as.map Numeral.value) (bs.map Numeral.value)) ∧
    (∀ i, FirstDifference (as.map Numeral.value) (bs.map Numeral.value) i →
      0 < (as.map Numeral.value).getD i 0 →
      (as.map Numeral.value).getD i 0 < Segment.numberLimit →
      Segment.numberLimit ≤ (bs.map Numeral.value).getD i 0 →
      compareNumbers (as.map Numeral.value) (bs.map Numeral.value) = .lt ∧
        order (dotted as) (dotted bs) = .gt) ∧
    ∀ (n : Numeral) (s : Suffix),
      order (dotted (as ++ [n]) ++ s.text) (dotted (as ++ [n])) = .lt := by
  refine ⟨order_dotted as bs, fun hfits => ?_, fun i hfirst hpos hfits hlarge => ?_,
    order_suffix as⟩
  · rw [order_dotted, readings, readings, compareNumbers_readable hfits]
  · rw [order_dotted]
    exact compareNumbers_oversized hfirst hpos hfits hlarge

def Numeral.one : Numeral :=
  ⟨"1".toList, by decide +kernel, List.all_eq_true.mp (by decide +kernel)⟩

def Numeral.seven : Numeral :=
  ⟨"007".toList, by decide +kernel, List.all_eq_true.mp (by decide +kernel)⟩

def Numeral.oversized : Numeral :=
  ⟨"18446744073709551616".toList, by decide +kernel, List.all_eq_true.mp (by decide +kernel)⟩

theorem dotted_compared_as_read_sample :
    order (dotted [.oversized, .seven]) (dotted [.oversized, .one]) =
        compareNumbers [18446744073709551616, 7] [18446744073709551616, 1] ∧
      order (dotted [.one, .seven]) (dotted [.one, .oversized]) = .gt := by
  have hlast {j : Nat} (hj : j < 1) {as bs : List Nat} (h : as.getD 0 0 = bs.getD 0 0) :
      as.getD j 0 = bs.getD j 0 := by rwa [Nat.lt_one_iff.mp hj]
  obtain ⟨-, hright, -⟩ := dotted_compared_as_read [.oversized, .seven] [.oversized, .one]
  obtain ⟨-, -, hreversed, -⟩ := dotted_compared_as_read [.one, .seven] [.one, .oversized]
  refine ⟨hright fun i hfirst => ?_, ?_⟩
  · match i with
    | 0 => exact absurd rfl hfirst.differ
    | 1 => decide +kernel
    | i + 2 => exact absurd rfl hfirst.differ
  · exact (hreversed 1 ⟨by decide, fun j hj => hlast hj rfl⟩ (by decide) (by decide)
      (by decide)).2

/-- `18446744073709551616` counts as older than `1`. -/
theorem oversized_numeral_older :
    dotted [.oversized] = "18446744073709551616" ∧ dotted [.one] = "1" ∧
      order (dotted [.oversized]) (dotted [.one]) = .lt ∧
      compareNumbers ([Numeral.oversized].map Numeral.value) ([Numeral.one].map Numeral.value) =
        .gt := by
  refine ⟨?_, ?_, ?_, ?_⟩
  · decide +kernel
  · decide +kernel
  · rw [order_dotted]
    decide +kernel
  · decide +kernel

end ClusterSetup.Version

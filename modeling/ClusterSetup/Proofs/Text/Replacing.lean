import Mathlib.Data.List.Infix
import Mathlib.Data.List.TakeWhile
import ClusterSetup.Text.Chars

/-!
Replacing patterns in a text. A text falls into the patterns that occur in it and the texts between
them. Where a character that no pattern contains stands between any two of the occurrences, whatever
is put in their places can be replaced in each place by itself: no pattern can begin in one place
and end outside of it.
-/

namespace ClusterSetup.Chars

section Replacing

variable {pattern : List Char} (value : List Char)

theorem replaceAll_of_absent {cs : List Char} (h : occursIn pattern cs = false) :
    replaceAll pattern value cs = cs := by
  induction cs with
  | nil => rfl
  | cons c r ih =>
      rw [occursIn, Bool.or_eq_false_iff] at h
      rw [replaceAll, replaceFrom, h.1, if_neg Bool.false_ne_true]
      exact congrArg (c :: ·) (ih h.2)

theorem replaceFrom_length (cs : List Char) : replaceFrom pattern value cs.length cs = [] := by
  induction cs with
  | nil => rfl
  | cons c r ih => exact ih

theorem replaceAll_self (h : pattern ≠ []) : replaceAll pattern value pattern = value := by
  cases pattern with
  | nil => exact absurd rfl h
  | cons c r =>
      have hself : (c :: r).isPrefixOf (c :: r) = true :=
        List.isPrefixOf_iff_prefix.mpr (List.prefix_refl _)
      rw [replaceAll, replaceFrom, hself, if_pos rfl, List.length_cons, Nat.add_sub_cancel,
        replaceFrom_length, List.append_nil]

theorem replaceAll_eq_self_iff {value : List Char} (hlength : value.length = pattern.length)
    (hne : value ≠ pattern) (cs : List Char) :
    replaceAll pattern value cs = cs ↔ occursIn pattern cs = false := by
  refine ⟨fun h => ?_, replaceAll_of_absent value⟩
  induction cs with
  | nil =>
      rw [occursIn, List.isEmpty_eq_false_iff]
      rintro rfl
      exact hne (List.length_eq_zero_iff.mp hlength)
  | cons c r ih =>
      rw [replaceAll, replaceFrom] at h
      split at h
      · rename_i hoccurs
        have hpattern := List.isPrefixOf_iff_prefix.mp hoccurs
        have hvalue : value <+: c :: r := ⟨_, h⟩
        have hpart := List.prefix_of_prefix_length_le hvalue hpattern hlength.le
        exact absurd (hpart.eq_of_length hlength) hne
      · rename_i hother
        rw [occursIn, ih (List.cons.inj h).2, Bool.or_false]
        exact Bool.not_eq_true _ ▸ hother

/-- No occurrence of the pattern begins in a text and ends behind it. -/
def Apart (pattern a b : List Char) : Prop :=
  ∀ a', a' <:+ a → a' ≠ [] → pattern <+: a' ++ b → pattern <+: a'

theorem replaceFrom_append {a b : List Char} (h : Apart pattern a b) {skip : Nat}
    (hskip : skip ≤ a.length) :
    replaceFrom pattern value skip (a ++ b) =
      replaceFrom pattern value skip a ++ replaceAll pattern value b := by
  induction a generalizing skip with
  | nil =>
      obtain rfl := Nat.le_zero.mp hskip
      rfl
  | cons c a ih =>
      have hrest : Apart pattern a b := fun a' ha' => h a' (ha'.trans (List.suffix_cons c a))
      cases skip with
      | succ skip => exact ih hrest (Nat.le_of_succ_le_succ hskip)
      | zero =>
          have hprefix : pattern.isPrefixOf (c :: (a ++ b)) = pattern.isPrefixOf (c :: a) := by
            rw [Bool.eq_iff_iff, List.isPrefixOf_iff_prefix, List.isPrefixOf_iff_prefix]
            constructor
            · exact h (c :: a) (List.suffix_refl _) (List.cons_ne_nil c a)
            · exact fun hp => hp.trans (List.prefix_append (c :: a) b)
          rw [List.cons_append, replaceFrom, replaceFrom, hprefix]
          split
          · rename_i hp
            have hlength := (List.isPrefixOf_iff_prefix.mp hp).length_le
            rw [List.length_cons] at hlength
            rw [ih hrest (by omega), List.append_assoc]
          · rw [ih hrest (Nat.zero_le _), List.cons_append]

theorem replaceAll_append {a b : List Char} (h : Apart pattern a b) :
    replaceAll pattern value (a ++ b) = replaceAll pattern value a ++ replaceAll pattern value b :=
  replaceFrom_append value h (Nat.zero_le _)

end Replacing

/-- A text as the text in front of the first pattern in it, and each pattern with the text behind
it. -/
structure Segments where
  first : List Char
  rest : List (List Char × List Char)
  deriving Repr, DecidableEq

def Segments.fill (holes : List Char → List Char) (s : Segments) : List Char :=
  s.first ++ s.rest.flatMap fun segment => holes segment.1 ++ segment.2

theorem Segments.fill_congr {s : Segments} {holes holes' : List Char → List Char}
    (h : ∀ segment ∈ s.rest, holes segment.1 = holes' segment.1) :
    s.fill holes = s.fill holes' := by
  rw [fill, fill]
  congr 1
  apply List.flatMap_congr
  intro segment hsegment
  rw [h segment hsegment]

/-- Finds the patterns in a text while a number of characters, the rest of an occurrence, is still
to be passed over. -/
def segmentsFrom (patterns : List (List Char)) : Nat → List Char → Segments
  | _, [] => ⟨[], []⟩
  | skip + 1, _ :: r => segmentsFrom patterns skip r
  | 0, c :: r =>
    match patterns.find? (·.isPrefixOf (c :: r)) with
    | some pattern =>
      let later := segmentsFrom patterns (pattern.length - 1) r
      ⟨[], (pattern, later.first) :: later.rest⟩
    | none =>
      let later := segmentsFrom patterns 0 r
      ⟨c :: later.first, later.rest⟩

def segments (patterns : List (List Char)) (cs : List Char) : Segments :=
  segmentsFrom patterns 0 cs

section Segments

variable {patterns : List (List Char)} (hpatterns : ∀ pattern ∈ patterns, pattern ≠ [])
include hpatterns

theorem found_of_find {c : Char} {r pattern : List Char}
    (h : patterns.find? (·.isPrefixOf (c :: r)) = some pattern) :
    pattern ∈ patterns ∧ pattern ++ r.drop (pattern.length - 1) = c :: r := by
  have hmem := List.mem_of_find?_eq_some h
  obtain ⟨r', hr⟩ : pattern <+: c :: r := by
    rw [← List.isPrefixOf_iff_prefix]
    exact List.find?_some (p := fun p : List Char => p.isPrefixOf (c :: r)) h
  refine ⟨hmem, ?_⟩
  cases pattern with
  | nil => exact absurd rfl (hpatterns [] hmem)
  | cons d p =>
      rw [List.cons_append, List.cons.injEq] at hr
      obtain ⟨rfl, rfl⟩ := hr
      rw [List.length_cons, Nat.add_sub_cancel, List.drop_left, List.cons_append]

theorem segmentsFrom_fill (skip : Nat) (cs : List Char) :
    (segmentsFrom patterns skip cs).fill id = cs.drop skip := by
  induction cs generalizing skip with
  | nil => cases skip <;> rfl
  | cons c r ih =>
      cases skip with
      | succ skip => exact ih skip
      | zero =>
          rw [segmentsFrom]
          split
          · rename_i pattern hfound
            obtain ⟨-, heq⟩ := found_of_find hpatterns hfound
            have hlater := ih (pattern.length - 1)
            rw [Segments.fill] at hlater
            rw [Segments.fill, List.flatMap_cons, List.append_assoc, hlater]
            exact heq
          · exact congrArg (c :: ·) (ih 0)

theorem segmentsFrom_mem (skip : Nat) (cs : List Char) :
    ∀ segment ∈ (segmentsFrom patterns skip cs).rest, segment.1 ∈ patterns := by
  induction cs generalizing skip with
  | nil =>
      cases skip <;> rintro segment ⟨⟩
  | cons c r ih =>
      cases skip with
      | succ skip => exact ih skip
      | zero =>
          rw [segmentsFrom]
          split
          · rename_i pattern hfound
            rintro segment hsegment
            rcases List.mem_cons.mp hsegment with rfl | hlater
            · exact (found_of_find hpatterns hfound).1
            · exact ih _ segment hlater
          · exact ih 0

theorem segmentsFrom_absent (skip : Nat) (cs : List Char) :
    ∀ pattern ∈ patterns, occursIn pattern (segmentsFrom patterns skip cs).first = false ∧
      ∀ segment ∈ (segmentsFrom patterns skip cs).rest, occursIn pattern segment.2 = false := by
  intro pattern hmem
  have hnil : occursIn pattern [] = false := by
    rw [occursIn, List.isEmpty_eq_false_iff]
    exact hpatterns pattern hmem
  induction cs generalizing skip with
  | nil =>
      cases skip <;> exact ⟨hnil, fun segment hsegment => nomatch hsegment⟩
  | cons c r ih =>
      cases skip with
      | succ skip => exact ih skip
      | zero =>
          have hfill := segmentsFrom_fill hpatterns 0 r
          rw [segmentsFrom]
          split
          · rename_i found hfound
            obtain ⟨hfirst, hrest⟩ := ih (found.length - 1)
            refine ⟨hnil, fun segment hsegment => ?_⟩
            rcases List.mem_cons.mp hsegment with rfl | hlater
            · exact hfirst
            · exact hrest segment hlater
          · rename_i hnone
            obtain ⟨hfirst, hrest⟩ := ih 0
            refine ⟨?_, hrest⟩
            -- What begins at `c` and ends in the text in front of the next pattern begins there in
            -- the whole text too, where it would have been found.
            have hno := List.find?_eq_none.mp hnone pattern hmem
            rw [occursIn, hfirst, Bool.or_false, ← Bool.not_eq_true]
            rw [List.isPrefixOf_iff_prefix] at hno ⊢
            intro hprefix
            apply hno
            have hcons := congrArg (c :: ·) hfill
            exact hprefix.trans ⟨_, hcons⟩

end Segments

def foreign (patterns : List (List Char)) (c : Char) : Bool :=
  patterns.all fun pattern => !pattern.contains c

def sealsBefore (patterns : List (List Char)) (mark : Char) (cs : List Char) : Bool :=
  (cs.takeWhile (· ≠ mark)).any (foreign patterns)

def sealsBehind (patterns : List (List Char)) (mark : Char) (cs : List Char) : Bool :=
  sealsBefore patterns mark cs.reverse

/-- Between two patterns, and between a pattern and any other mark, stands a character that no
pattern contains. -/
def separatedFrom (patterns : List (List Char)) (mark : Char) :
    List Char → List (List Char × List Char) → Bool
  | _, [] => true
  | front, (_, back) :: rest =>
    (!front.contains mark || sealsBehind patterns mark front) &&
    (sealsBefore patterns mark back || (rest.isEmpty && !back.contains mark)) &&
    separatedFrom patterns mark back rest

def Segments.separated (patterns : List (List Char)) (mark : Char) (s : Segments) : Bool :=
  separatedFrom patterns mark s.first s.rest

section Separated

variable {patterns : List (List Char)} {mark : Char}

theorem exists_of_sealsBefore {cs : List Char} (h : sealsBefore patterns mark cs = true) :
    ∃ u c w, cs = u ++ c :: w ∧ mark ∉ u ∧ ∀ pattern ∈ patterns, c ∉ pattern := by
  rw [sealsBefore, List.any_eq_true] at h
  obtain ⟨c, hc, hforeign⟩ := h
  obtain ⟨u, w, htake⟩ := List.append_of_mem hc
  refine ⟨u, c, w ++ cs.dropWhile (· ≠ mark), ?_, ?_, ?_⟩
  · rw [← List.cons_append, ← List.append_assoc, ← htake, List.takeWhile_append_dropWhile]
  · intro hmark
    have hall := List.mem_takeWhile_imp (htake ▸ List.mem_append_left _ hmark)
    simp at hall
  · simpa [foreign] using hforeign

theorem exists_of_sealsBehind {cs : List Char} (h : sealsBehind patterns mark cs = true) :
    ∃ u c w, cs = u ++ c :: w ∧ mark ∉ w ∧ ∀ pattern ∈ patterns, c ∉ pattern := by
  obtain ⟨u, c, w, hcs, hmark, hforeign⟩ := exists_of_sealsBefore h
  refine ⟨w.reverse, c, u.reverse, ?_, ?_, hforeign⟩
  · have hreverse := congrArg List.reverse hcs
    simpa using hreverse
  · rwa [List.mem_reverse]

/-- Every pattern begins and ends with the mark. -/
def Marked (patterns : List (List Char)) (mark : Char) : Prop :=
  ∀ pattern ∈ patterns, pattern.head? = some mark ∧ pattern.getLast? = some mark

variable (hmarked : Marked patterns mark) {pattern : List Char} (hpattern : pattern ∈ patterns)
include hmarked hpattern

/-- What begins in a text that is sealed behind its last mark ends in it. -/
theorem apart_of_sealed_behind {a : List Char}
    (h : (!a.contains mark || sealsBehind patterns mark a) = true) (b : List Char) :
    Apart pattern a b := by
  intro a' hsuffix hsome hprefix
  rcases Nat.lt_or_ge a'.length pattern.length with hlength | hlength
  · exfalso
    have hbegins : a' <+: pattern :=
      List.prefix_of_prefix_length_le (List.prefix_append a' b) hprefix (Nat.le_of_lt hlength)
    have hhead : mark ∈ a' := by
      obtain ⟨c, r, rfl⟩ := List.exists_cons_of_ne_nil hsome
      obtain ⟨r', rfl⟩ := hbegins
      obtain rfl : c = mark := Option.some.inj (hmarked _ hpattern).1
      exact List.mem_cons_self
    have hsealed : sealsBehind patterns mark a = true := by
      simpa [hsuffix.subset hhead] using h
    obtain ⟨u, c, w, rfl, hmark, hforeign⟩ := exists_of_sealsBehind hsealed
    -- All of `a'` lies in the pattern: the seal does not, and behind the seal there is no mark.
    rcases Nat.lt_or_ge w.length a'.length with hlong | hshort
    · have hwhole : c :: w <:+ a' :=
        List.suffix_of_suffix_length_le (List.suffix_append u (c :: w)) hsuffix hlong
      exact hforeign pattern hpattern (hbegins.subset (hwhole.subset List.mem_cons_self))
    · have hpart : a' <:+ w := by
        refine List.suffix_of_suffix_length_le hsuffix ?_ hshort
        exact (List.suffix_cons c w).trans (List.suffix_append u (c :: w))
      exact hmark (hpart.subset hhead)
  · exact List.prefix_of_prefix_length_le hprefix (List.prefix_append a' b) hlength

theorem apart_of_sealed_before {b : List Char} {more : List Char}
    (h : sealsBefore patterns mark b = true ∨ more = [] ∧ mark ∉ b) (a : List Char) :
    Apart pattern a (b ++ more) := by
  rintro a' - hsome hprefix
  rcases Nat.lt_or_ge a'.length pattern.length with hlength | hlength
  · exfalso
    obtain ⟨r, rfl⟩ : a' <+: pattern :=
      List.prefix_of_prefix_length_le (List.prefix_append a' _) hprefix (Nat.le_of_lt hlength)
    have hr : r <+: b ++ more := (List.prefix_append_right_inj a').mp hprefix
    have hrest : r ≠ [] := by
      rintro rfl
      simp at hlength
    have hlast : mark ∈ r := by
      have hends := (hmarked _ hpattern).2
      rw [List.getLast?_append_of_ne_nil a' hrest] at hends
      exact List.mem_of_getLast? hends
    rcases h with hsealed | ⟨rfl, hmark⟩
    · obtain ⟨u, c, w, rfl, hmark, hforeign⟩ := exists_of_sealsBefore hsealed
      rcases Nat.lt_or_ge u.length r.length with hlong | hshort
      · have hwhole : u ++ [c] <+: r := by
          refine List.prefix_of_prefix_length_le ⟨w ++ more, ?_⟩ hr ?_
          · simp
          · rw [List.length_append]
            exact hlong
        exact hforeign _ hpattern (List.mem_append_right a' (hwhole.subset (by simp)))
      · have hpart : r <+: u := by
          refine List.prefix_of_prefix_length_le hr ⟨c :: w ++ more, ?_⟩ hshort
          simp
        exact hmark (hpart.subset hlast)
    · rw [List.append_nil] at hr
      exact hmark (hr.subset hlast)
  · exact List.prefix_of_prefix_length_le hprefix (List.prefix_append a' _) hlength

/-- Where the patterns are separated, each place is replaced in by itself. -/
theorem replaceAll_fill (value : List Char) (holes : List Char → List Char) {s : Segments}
    (hseparated : s.separated patterns mark = true) (hfirst : occursIn pattern s.first = false)
    (hrest : ∀ segment ∈ s.rest, occursIn pattern segment.2 = false) :
    replaceAll pattern value (s.fill holes) =
      s.fill fun p => replaceAll pattern value (holes p) := by
  obtain ⟨front, rest⟩ := s
  dsimp only at hfirst hrest
  rw [Segments.separated] at hseparated
  dsimp only at hseparated
  rw [Segments.fill, Segments.fill]
  dsimp only
  induction rest generalizing front with
  | nil => simp only [List.flatMap_nil, List.append_nil, replaceAll_of_absent value hfirst]
  | cons segment rest ih =>
      obtain ⟨hole, back⟩ := segment
      rw [separatedFrom, Bool.and_eq_true, Bool.and_eq_true] at hseparated
      obtain ⟨⟨hfront, hback⟩, hlater⟩ := hseparated
      have hclosed : sealsBefore patterns mark back = true ∨
          (rest.flatMap fun segment => holes segment.1 ++ segment.2) = [] ∧ mark ∉ back := by
        rw [Bool.or_eq_true, Bool.and_eq_true] at hback
        rcases hback with hsealed | ⟨hnone, hmark⟩
        · exact .inl hsealed
        · rw [List.isEmpty_iff] at hnone
          rw [hnone]
          exact .inr ⟨rfl, by simpa using hmark⟩
      have hlast := ih back hlater (hrest _ List.mem_cons_self)
        fun segment hsegment => hrest segment (List.mem_cons_of_mem _ hsegment)
      rw [List.flatMap_cons, List.flatMap_cons,
        replaceAll_append value (apart_of_sealed_behind hmarked hpattern hfront _),
        replaceAll_of_absent value hfirst, List.append_assoc,
        replaceAll_append value (apart_of_sealed_before hmarked hpattern hclosed _), hlast,
        List.append_assoc]

end Separated

end ClusterSetup.Chars

import Mathlib.Data.List.DropRight
import ClusterSetup.Text.Chars

namespace ClusterSetup.Chars

theorem toNat_of_isAlphanum {c : Char} (h : isAlphanum c = true) :
    48 ≤ c.toNat ∧ c.toNat ≤ 122 := by
  simp [isAlphanum, isDigit, Char.le_def, UInt32.le_iff_toNat_le] at h
  omega

theorem isAlphanum_of_isDigit {c : Char} (h : isDigit c = true) : isAlphanum c = true := by
  rw [isAlphanum, h, Bool.true_or, Bool.true_or]

theorem isBlank_of_isAlphanum {c : Char} (h : isAlphanum c = true) : isBlank c = false := by
  obtain ⟨hlow, hhigh⟩ := toNat_of_isAlphanum h
  simp [isBlank]
  omega

section Pieces

variable {p : Char → Bool}

theorem pieces_eq_splitOnP (p : Char → Bool) (cs : List Char) : pieces p cs = cs.splitOnP p := by
  induction cs with
  | nil => rfl
  | cons c r ih =>
      rw [pieces, List.splitOnP_cons_eq_if_modifyHead, ih]
      split
      · rfl
      · obtain ⟨first, rest, h⟩ := List.exists_cons_of_ne_nil (List.splitOnP_ne_nil p r)
        rw [h]
        rfl

theorem pieces_append {sep : Char} (h : p sep = true) (a b : List Char) :
    pieces p (a ++ sep :: b) = pieces p a ++ pieces p b := by
  simp only [pieces_eq_splitOnP, List.splitOnP_append_cons a b h]

theorem pieces_of_unseparated {cs : List Char} (h : ∀ c ∈ cs, p c = false) :
    pieces p cs = [cs] := by
  rw [pieces_eq_splitOnP, List.splitOnP_eq_singleton h]

end Pieces

section Trimming

def endsBlank (cs : List Char) : Bool := cs.getLast?.any isBlank

theorem endsBlank_append {a b : List Char} (ha : endsBlank a = false) (hb : endsBlank b = false) :
    endsBlank (a ++ b) = false := by
  rw [endsBlank, List.getLast?_append]
  cases hlast : b.getLast? with
  | none => exact ha
  | some c => rwa [endsBlank, hlast] at hb

theorem trimRight_eq_self {cs : List Char} (h : endsBlank cs = false) : trimRight cs = cs := by
  apply List.rdropWhile_eq_self_iff.mpr
  intro hne
  rw [endsBlank, List.getLast?_eq_some_getLast hne] at h
  simpa using h

theorem endsBlank_trimLeft {cs : List Char} (h : endsBlank cs = false) :
    endsBlank (trimLeft cs) = false := by
  obtain ⟨front, hfront⟩ := List.dropWhile_suffix isBlank (l := cs)
  rw [endsBlank, ← hfront, List.getLast?_append] at h
  rw [endsBlank, trimLeft]
  cases hlast : (cs.dropWhile isBlank).getLast? with
  | none => rfl
  | some c => rwa [hlast] at h

theorem trim_eq_trimLeft {cs : List Char} (h : endsBlank cs = false) : trim cs = trimLeft cs :=
  trimRight_eq_self (endsBlank_trimLeft h)

variable {a b : List Char}

theorem trimLeft_append (ha : endsBlank a = false) (hb : ∀ c ∈ b, isBlank c = false) :
    trimLeft (a ++ b) = trimLeft a ++ b := by
  rw [trimLeft, trimLeft, List.dropWhile_append]
  split
  · rename_i hall
    -- Only the empty text is blank throughout and does not end in a blank.
    have hnil : a = [] := by
      by_contra hne
      rw [endsBlank, List.getLast?_eq_some_getLast hne] at ha
      rw [List.isEmpty_iff, List.dropWhile_eq_nil_iff] at hall
      have hlast := hall _ (List.getLast_mem hne)
      simp [hlast] at ha
    subst hnil
    cases b with
    | nil => rfl
    | cons c r => simp [hb c List.mem_cons_self]
  · rfl

theorem endsBlank_of_solid (hb : ∀ c ∈ b, isBlank c = false) : endsBlank b = false := by
  rw [endsBlank]
  cases hlast : b.getLast? with
  | none => rfl
  | some c => exact hb c (List.mem_of_getLast? hlast)

theorem trim_append (ha : endsBlank a = false) (hb : ∀ c ∈ b, isBlank c = false) :
    trim (a ++ b) = trim a ++ b := by
  rw [trim_eq_trimLeft (endsBlank_append ha (endsBlank_of_solid hb)), trim_eq_trimLeft ha,
    trimLeft_append ha hb]

theorem trim_append_blank (hb : ∀ c ∈ b, isBlank c = true) : trim (a ++ b) = trim a := by
  have hright (cs : List Char) : trimRight (cs ++ b) = trimRight cs := by
    rw [trimRight, trimRight, List.reverse_append,
      List.dropWhile_append_of_pos fun c hc => hb c (List.mem_reverse.mp hc)]
  rw [trim, trim, trimLeft, trimLeft, List.dropWhile_append]
  split
  · rename_i hnil
    rw [List.isEmpty_iff.mp hnil, List.dropWhile_eq_nil_iff.mpr hb]
  · exact hright _

theorem trim_of_blank (hb : ∀ c ∈ b, isBlank c = true) : trim b = [] := by
  rw [← List.nil_append b, trim_append_blank hb]
  rfl

theorem trim_of_solid (hb : ∀ c ∈ b, isBlank c = false) : trim b = b :=
  trim_append (a := []) rfl hb

end Trimming

end ClusterSetup.Chars

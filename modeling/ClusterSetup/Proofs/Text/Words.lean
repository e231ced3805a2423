import ClusterSetup.Proofs.Text.Splitting

namespace ClusterSetup.Chars

/-- A run of blanks, which may be empty. -/
def Blank (cs : List Char) : Prop := ∀ c ∈ cs, isBlank c = true

def Solid (cs : List Char) : Prop := ∀ c ∈ cs, isBlank c = false

def startsBlank (cs : List Char) : Bool := cs.head?.any isBlank

/-- A text without blanks at its ends. -/
structure Trimmed (cs : List Char) : Prop where
  front : startsBlank cs = false
  back : endsBlank cs = false

/-- A text that can stand behind a word without becoming part of it. -/
def Detached (cs : List Char) : Prop := cs = [] ∨ startsBlank cs = true

instance (cs : List Char) : Decidable (Blank cs) :=
  List.decidableBAll (fun c => isBlank c = true) cs

instance (cs : List Char) : Decidable (Solid cs) :=
  List.decidableBAll (fun c => isBlank c = false) cs

instance (cs : List Char) : Decidable (Detached cs) :=
  inferInstanceAs (Decidable (cs = [] ∨ startsBlank cs = true))

section Blanks

variable {a b cs : List Char}

theorem Blank.append (ha : Blank a) (hb : Blank b) : Blank (a ++ b) := by
  intro c hc
  rcases List.mem_append.mp hc with hc | hc
  · exact ha c hc
  · exact hb c hc

theorem Blank.detached (h : Blank cs) : Detached cs := by
  cases cs with
  | nil => exact .inl rfl
  | cons c cs => exact .inr (h c List.mem_cons_self)

theorem Detached.append (ha : Detached a) (hb : Detached b) : Detached (a ++ b) := by
  rcases ha with rfl | ha
  · exact hb
  · cases a with
    | nil => cases ha
    | cons c a => exact .inr ha

theorem Solid.append (ha : Solid a) (hb : Solid b) : Solid (a ++ b) := by
  intro c hc
  rcases List.mem_append.mp hc with hc | hc
  · exact ha c hc
  · exact hb c hc

theorem Solid.trimmed (h : Solid cs) : Trimmed cs := by
  refine ⟨?_, endsBlank_of_solid h⟩
  cases cs with
  | nil => rfl
  | cons c cs => exact h c List.mem_cons_self

theorem startsBlank_append (h : a ≠ []) (b : List Char) :
    startsBlank (a ++ b) = startsBlank a := by
  cases a with
  | nil => exact absurd rfl h
  | cons c a => rfl

theorem Detached.of_append (h : Detached (a ++ b)) : Detached a := by
  by_cases hne : a = []
  · exact .inl hne
  · rcases h with hnil | hblank
    · exact .inl (List.append_eq_nil_iff.mp hnil).1
    · exact .inr (by rwa [startsBlank_append hne] at hblank)

theorem endsBlank_append_of_ne_nil (a : List Char) (h : b ≠ []) :
    endsBlank (a ++ b) = endsBlank b := by
  rw [endsBlank, List.getLast?_append_of_ne_nil a h, endsBlank]

theorem trimLeft_append_of_blank (ha : Blank a) (b : List Char) :
    trimLeft (a ++ b) = trimLeft b := List.dropWhile_append_of_pos ha

theorem trimLeft_eq_self (h : startsBlank cs = false) : trimLeft cs = cs := by
  cases cs with
  | nil => rfl
  | cons c cs =>
      change isBlank c = false at h
      rw [trimLeft, List.dropWhile_cons, h, if_neg Bool.false_ne_true]

theorem startsBlank_trimLeft (cs : List Char) : startsBlank (trimLeft cs) = false := by
  have hfirst := List.head?_dropWhile_not isBlank cs
  rw [startsBlank, trimLeft]
  cases hhead : (cs.dropWhile isBlank).head? with
  | none => rfl
  | some c => rwa [hhead] at hfirst

theorem endsBlank_trimRight (cs : List Char) : endsBlank (trimRight cs) = false := by
  by_cases hne : trimRight cs = []
  · rw [hne]
    rfl
  · have hlast := List.rdropWhile_last_not isBlank cs hne
    rw [endsBlank, List.getLast?_eq_some_getLast hne]
    exact Bool.eq_false_iff.mpr hlast

theorem exists_trimLeft (cs : List Char) : ∃ front, Blank front ∧ cs = front ++ trimLeft cs :=
  ⟨cs.takeWhile isBlank, fun _ hc => List.mem_takeWhile_imp hc,
    List.takeWhile_append_dropWhile.symm⟩

theorem exists_trimRight (cs : List Char) : ∃ back, Blank back ∧ cs = trimRight cs ++ back :=
  ⟨cs.rtakeWhile isBlank, fun _ hc => List.mem_rtakeWhile_imp hc,
    List.rdropWhile_append_rtakeWhile.symm⟩

theorem exists_append_blank (cs : List Char) :
    ∃ kept back, endsBlank kept = false ∧ Blank back ∧ cs = kept ++ back := by
  obtain ⟨back, hback, hcs⟩ := exists_trimRight cs
  exact ⟨trimRight cs, back, endsBlank_trimRight cs, hback, hcs⟩

theorem trim_eq_iff {t : List Char} : trim cs = t ↔
    Trimmed t ∧ ∃ front back, Blank front ∧ Blank back ∧ cs = front ++ t ++ back := by
  constructor
  · rintro rfl
    obtain ⟨front, hfront, hleft⟩ := exists_trimLeft cs
    obtain ⟨back, hback, hright⟩ := exists_trimRight (trimLeft cs)
    refine ⟨⟨?_, endsBlank_trimRight _⟩, front, back, hfront, hback, ?_⟩
    · by_cases hne : trim cs = []
      · rw [hne]
        rfl
      · rw [← startsBlank_append hne back, trim, ← hright, startsBlank_trimLeft]
    · rw [List.append_assoc, trim, ← hright, ← hleft]
  · rintro ⟨ht, front, back, hfront, hback, rfl⟩
    rw [trim_append_blank hback, trim, trimLeft_append_of_blank hfront, trimLeft_eq_self ht.front,
      trimRight_eq_self ht.back]

end Blanks

section Cutting

variable {sep : Char} {cs a b : List Char}

theorem cut?_eq_none_iff : cut? sep cs = none ↔ sep ∉ cs := by
  induction cs with
  | nil => simp [cut?]
  | cons c r ih =>
      rw [cut?, List.mem_cons, not_or, ← ih]
      by_cases hc : c = sep
      · simp [hc]
      · simp [hc, Ne.symm hc]

theorem cut?_append (h : sep ∉ a) : cut? sep (a ++ sep :: b) = some (a, b) := by
  induction a with
  | nil => rw [List.nil_append, cut?, if_pos rfl]
  | cons c a ih =>
      obtain ⟨hc, ha⟩ := not_or.mp (mt List.mem_cons.mpr h)
      rw [List.cons_append, cut?, if_neg (Ne.symm hc), ih ha]
      rfl

theorem cut?_eq_some_iff : cut? sep cs = some (a, b) ↔ sep ∉ a ∧ cs = a ++ sep :: b := by
  constructor
  · intro h
    induction cs generalizing a with
    | nil => cases h
    | cons c r ih =>
        rw [cut?] at h
        split at h
        · rename_i hc
          cases h
          exact ⟨List.not_mem_nil, by rw [hc, List.nil_append]⟩
        · rename_i hc
          obtain ⟨⟨front, back⟩, hr, heq⟩ := Option.map_eq_some_iff.mp h
          cases heq
          obtain ⟨hfront, rfl⟩ := ih hr
          exact ⟨List.not_mem_cons_of_ne_of_not_mem (Ne.symm hc) hfront, rfl⟩
  · rintro ⟨ha, rfl⟩
    exact cut?_append ha

end Cutting

section Words

theorem detached_dropWhile (cs : List Char) : Detached (cs.dropWhile (!isBlank ·)) := by
  have hfirst := List.head?_dropWhile_not (!isBlank ·) cs
  cases hdrop : cs.dropWhile (!isBlank ·) with
  | nil => exact .inl rfl
  | cons c r =>
      rw [hdrop] at hfirst
      exact .inr ((Bool.not_eq_false' _).mp hfirst)

theorem Detached.dropWhile_eq_self {rest : List Char} (h : Detached rest) :
    rest.takeWhile (!isBlank ·) = [] ∧ rest.dropWhile (!isBlank ·) = rest := by
  rcases h with rfl | h
  · exact ⟨rfl, rfl⟩
  · cases rest with
    | nil => cases h
    | cons c r =>
        change isBlank c = true at h
        simp [h]

theorem word?_eq_some_iff {cs word rest : List Char} : word? cs = some (word, rest) ↔
    word ≠ [] ∧ Solid word ∧ Detached rest ∧ ∃ gap, Blank gap ∧ cs = gap ++ word ++ rest := by
  constructor
  · intro h
    rw [word?] at h
    split at h
    · cases h
    · rename_i c r htrim
      cases h
      obtain ⟨gap, hgap, hcs⟩ := exists_trimLeft cs
      have hc : isBlank c = false := by
        have hfront := startsBlank_trimLeft cs
        rwa [htrim] at hfront
      refine ⟨by simp [hc], fun d hd => ?_, ?_, gap, hgap, ?_⟩
      · simpa using List.mem_takeWhile_imp hd
      · exact detached_dropWhile _
      · rw [List.append_assoc, List.takeWhile_append_dropWhile, ← htrim, ← hcs]
  · rintro ⟨hne, hword, hrest, gap, hgap, rfl⟩
    obtain ⟨htake, hdrop⟩ := hrest.dropWhile_eq_self
    have hsolid : ∀ c ∈ word, (!isBlank c) = true := fun c hc => by rw [hword c hc, Bool.not_false]
    have hfront : startsBlank (word ++ rest) = false := by
      rw [startsBlank_append hne]
      exact hword.trimmed.front
    obtain ⟨c, r, hcons⟩ := List.exists_cons_of_ne_nil (List.append_ne_nil_of_left_ne_nil hne rest)
    rw [word?, List.append_assoc, trimLeft_append_of_blank hgap, trimLeft_eq_self hfront, hcons]
    dsimp only
    rw [← hcons, List.takeWhile_append_of_pos hsolid, List.dropWhile_append_of_pos hsolid, htake,
      hdrop, List.append_nil]

end Words

end ClusterSetup.Chars

import ClusterSetup.Proofs.Text.Splitting
import ClusterSetup.Text

namespace ClusterSetup

namespace Chars

/-- A line as it stands between two line feeds. -/
def IsLineOf (piece line : List Char) : Prop := piece = line ∨ piece = line ++ ['\r']

theorem IsLineOf.cons {piece line : List Char} (h : IsLineOf piece line) (c : Char) :
    IsLineOf (c :: piece) (c :: line) := by
  rcases h with rfl | rfl
  · exact .inl rfl
  · exact .inr rfl

def piecesAtFeeds (cs : List Char) : List (List Char) := pieces (· == '\n') cs

theorem piecesAtFeeds_append (a b : List Char) :
    piecesAtFeeds (a ++ '\n' :: b) = piecesAtFeeds a ++ piecesAtFeeds b :=
  pieces_append rfl a b

theorem piecesAtFeeds_cons {c : Char} (hc : c ≠ '\n') (r : List Char) :
    ∃ p ps, piecesAtFeeds r = p :: ps ∧ piecesAtFeeds (c :: r) = (c :: p) :: ps := by
  have hne : piecesAtFeeds r ≠ [] := by
    rw [piecesAtFeeds, pieces_eq_splitOnP]
    exact List.splitOnP_ne_nil _ r
  obtain ⟨p, ps, hr⟩ := List.exists_cons_of_ne_nil hne
  refine ⟨p, ps, hr, ?_⟩
  rw [piecesAtFeeds] at hr
  rw [piecesAtFeeds, pieces, if_neg (by simpa using hc), hr]

theorem exists_lines_append (cs : List Char) :
    ∃ last, (∀ l ∈ last, l = []) ∧
      List.Forall₂ IsLineOf (piecesAtFeeds cs) (lines cs ++ last) := by
  induction cs using lines.induct with
  | case1 => exact ⟨[[]], by simp, .cons (.inl rfl) .nil⟩
  | case2 r ih =>
      obtain ⟨last, hlast, hpieces⟩ := ih
      exact ⟨last, hlast, .cons (.inl rfl) hpieces⟩
  | case3 r ih =>
      obtain ⟨last, hlast, hpieces⟩ := ih
      exact ⟨last, hlast, .cons (.inr rfl) hpieces⟩
  | case4 c r hfeed hreturn hnone ih =>
      obtain ⟨last, hlast, hpieces⟩ := ih
      obtain ⟨p, ps, hr, hcr⟩ := piecesAtFeeds_cons hfeed r
      rw [hnone, List.nil_append, hr] at hpieces
      cases hpieces with
      | @cons _ l _ ls hline hrest =>
          obtain rfl : l = [] := hlast l List.mem_cons_self
          refine ⟨ls, fun l' hl' => hlast l' (List.mem_cons_of_mem _ hl'), ?_⟩
          rw [hcr, lines, hnone]
          exacts [.cons (hline.cons c) hrest, hfeed, hreturn]
  | case5 c r hfeed hreturn l ls hlines ih =>
      obtain ⟨last, hlast, hpieces⟩ := ih
      obtain ⟨p, ps, hr, hcr⟩ := piecesAtFeeds_cons hfeed r
      rw [hlines, List.cons_append, hr] at hpieces
      cases hpieces with
      | cons hline hrest =>
          refine ⟨last, hlast, ?_⟩
          rw [hcr, lines, hlines]
          exacts [.cons (hline.cons c) hrest, hfeed, hreturn]

theorem subset_of_mem_lines {cs line : List Char} (h : line ∈ lines cs) : line ⊆ cs := by
  induction cs using lines.induct generalizing line with
  | case1 => cases h
  | case2 r ih =>
      rcases List.mem_cons.mp h with rfl | h
      · exact List.nil_subset _
      · exact List.subset_cons_of_subset _ (ih h)
  | case3 r ih =>
      rcases List.mem_cons.mp h with rfl | h
      · exact List.nil_subset _
      · exact List.subset_cons_of_subset _ (List.subset_cons_of_subset _ (ih h))
  | case4 c r hfeed hreturn hnone ih =>
      rw [lines, hnone] at h
      · obtain rfl := List.mem_singleton.mp h
        exact List.cons_subset_cons c (List.nil_subset r)
      all_goals assumption
  | case5 c r hfeed hreturn l ls hlines ih =>
      rw [lines, hlines] at h
      · rw [hlines] at ih
        rcases List.mem_cons.mp h with rfl | h
        · exact List.cons_subset_cons c (ih List.mem_cons_self)
        · exact List.subset_cons_of_subset _ (ih (List.mem_cons_of_mem _ h))
      all_goals assumption

section Reading

variable {α : Type} {read? : List Char → Option α}

theorem filterMap_of_isLineOf (hreturn : ∀ line, read? (line ++ ['\r']) = read? line)
    {ps ls : List (List Char)} (h : List.Forall₂ IsLineOf ps ls) :
    ls.filterMap read? = ps.filterMap read? := by
  induction h with
  | nil => rfl
  | cons hline _ ih =>
      rcases hline with rfl | rfl
      · rw [List.filterMap_cons, List.filterMap_cons, ih]
      · rw [List.filterMap_cons, List.filterMap_cons, ih, hreturn]

/-- What is read off lines is read off the pieces, if neither carriage returns at the end nor empty
lines count. -/
theorem filterMap_lines (hnothing : read? [] = none)
    (hreturn : ∀ line, read? (line ++ ['\r']) = read? line) (cs : List Char) :
    (lines cs).filterMap read? = (piecesAtFeeds cs).filterMap read? := by
  obtain ⟨last, hlast, hpieces⟩ := exists_lines_append cs
  have hend : last.filterMap read? = [] :=
    List.filterMap_eq_nil_iff.mpr fun l hl => by rw [hlast l hl, hnothing]
  rw [← filterMap_of_isLineOf hreturn hpieces, List.filterMap_append, hend, List.append_nil]

theorem filterMap_lines_append (hnothing : read? [] = none)
    (hreturn : ∀ line, read? (line ++ ['\r']) = read? line) (a b : List Char) :
    (lines (a ++ '\n' :: b)).filterMap read? =
      (lines a).filterMap read? ++ (lines b).filterMap read? := by
  simp only [filterMap_lines hnothing hreturn, piecesAtFeeds_append, List.filterMap_append]

end Reading

end Chars

end ClusterSetup

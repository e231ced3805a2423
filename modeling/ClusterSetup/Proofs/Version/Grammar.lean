import ClusterSetup.Proofs.Text.Words
import ClusterSetup.Proofs.Version.Merging

namespace ClusterSetup

open Chars (Blank Solid Trimmed Detached)

theorem Chars.toLower_eq_self {c : Char} (h : c.toNat < 65 ∨ 90 < c.toNat) : c.toLower = c := by
  have hupper : ¬ (c.val ≥ 'A'.val ∧ c.val ≤ 'Z'.val) := by
    rw [ge_iff_le, UInt32.le_iff_toNat_le, UInt32.le_iff_toNat_le]
    change ¬ (65 ≤ c.toNat ∧ c.toNat ≤ 90)
    omega
  exact dif_neg hupper

namespace Package

/-- A text that names a package in some spelling of one of its tags. -/
def Names (p : Package) (tag : List Char) : Prop := String.ofList (tag.map Char.toLower) ∈ p.tags

instance (p : Package) (tag : List Char) : Decidable (p.Names tag) :=
  inferInstanceAs (Decidable (String.ofList (tag.map Char.toLower) ∈ p.tags))

theorem Names.unique {p q : Package} {tag : List Char} (hp : p.Names tag) (hq : q.Names tag) :
    p = q := by
  have hdisjoint : ∀ p q : Package, ∀ word ∈ p.tags, word ∈ q.tags → p = q := by
    intro p q
    cases p <;> cases q <;> decide
  exact hdisjoint p q _ hp hq

theorem ofTag?_eq_some_iff {tag : List Char} {p : Package} :
    ofTag? tag = some p ↔ p.Names (Chars.trim tag) := by
  have hall : ∀ p, p ∈ all := by
    intro p
    cases p <;> decide
  have hnames : ∀ p, ofTag? tag = some p → p.Names (Chars.trim tag) := by
    intro p h
    rw [ofTag?] at h
    exact List.contains_iff_mem.mp (List.find?_some h :)
  refine ⟨hnames p, fun h => ?_⟩
  cases hfound : ofTag? tag with
  | none =>
      rw [ofTag?] at hfound
      exact absurd (List.contains_iff_mem.mpr h) (List.find?_eq_none.mp hfound p (hall p))
  | some q => rw [(hnames q hfound).unique h]

theorem tags_plain (p : Package) : ∀ word ∈ p.tags, word.toList ≠ [] ∧ Solid word.toList ∧
    ':' ∉ word.toList := by
  cases p <;> decide +kernel

theorem Names.plain {p : Package} {tag : List Char} (h : p.Names tag) :
    tag ≠ [] ∧ Solid tag ∧ ':' ∉ tag := by
  obtain ⟨hne, hsolid, hcolon⟩ := p.tags_plain _ h
  rw [String.toList_ofList] at hne hsolid hcolon
  refine ⟨fun hnil => hne (by rw [hnil, List.map_nil]), fun c hc => ?_,
    fun hc => hcolon (List.mem_map.mpr ⟨':', hc, rfl⟩)⟩
  by_contra hblank
  rw [Bool.not_eq_false] at hblank
  -- A blank has no other case, so that it would be in the tag too.
  have hsame : c.toLower = c := Chars.toLower_eq_self (by simp [Chars.isBlank] at hblank; omega)
  have hlower := hsolid _ (List.mem_map_of_mem hc)
  rw [hsame, hblank] at hlower
  cases hlower

end Package

namespace Version

/-- A version begins with a digit, has a dot in it, and consists of ASCII letters, digits and the
marks that are listed here. -/
structure Token (v : List Char) : Prop where
  digit : ∃ d r, v = d :: r ∧ Chars.isDigit d = true
  dot : '.' ∈ v
  plain : ∀ c ∈ v, Chars.isAlphanum c = true ∨ c ∈ ['.', '-', '_', '+', '~']

theorem isToken_iff {v : List Char} : isToken v = true ↔ Token v := by
  have hmark (c : Char) : isMark c = true ↔ c ∈ ['.', '-', '_', '+', '~'] := by
    simp [isMark, or_assoc]
  cases v with
  | nil => exact ⟨fun h => (nomatch h), fun h => (nomatch h.dot)⟩
  | cons d r =>
      simp only [isToken, Bool.and_eq_true, List.contains_iff_mem, List.all_eq_true,
        Bool.or_eq_true, hmark]
      constructor
      · rintro ⟨⟨hdigit, hdot⟩, hplain⟩
        exact ⟨⟨d, r, rfl, hdigit⟩, hdot, hplain⟩
      · rintro ⟨⟨d', r', heq, hdigit⟩, hdot, hplain⟩
        cases heq
        exact ⟨⟨hdigit, hdot⟩, hplain⟩

theorem Token.ne_nil {v : List Char} (h : Token v) : v ≠ [] := by
  obtain ⟨d, r, rfl, -⟩ := h.digit
  exact List.cons_ne_nil d r

theorem Token.solid {v : List Char} (h : Token v) : Solid v := by
  intro c hc
  rcases h.plain c hc with halphanum | hmark
  · exact Chars.isBlank_of_isAlphanum halphanum
  · simp at hmark
    rcases hmark with rfl | rfl | rfl | rfl | rfl <;> rfl

theorem Token.colon_not_mem {v : List Char} (h : Token v) : ':' ∉ v := by
  intro hc
  rcases h.plain ':' hc with halphanum | hmark
  · cases halphanum
  · simp at hmark

/-- A package epoch with its colon, which may be missing. -/
def Epoch (e : List Char) : Prop :=
  e = [] ∨ ∃ digits, digits ≠ [] ∧ (∀ d ∈ digits, Chars.isDigit d = true) ∧ e = digits ++ [':']

theorem exists_epoch (word : List Char) : ∃ e, Epoch e ∧ word = e ++ dropEpoch word := by
  rw [dropEpoch]
  split
  · rename_i epoch rest hcut
    obtain ⟨-, rfl⟩ := Chars.cut?_eq_some_iff.mp hcut
    split
    · rename_i hepoch
      simp only [Bool.and_eq_true, Bool.not_eq_true', List.isEmpty_eq_false_iff,
        List.all_eq_true] at hepoch
      exact ⟨epoch ++ [':'], .inr ⟨epoch, hepoch.1, hepoch.2, rfl⟩, by simp⟩
    · exact ⟨[], .inl rfl, rfl⟩
  · exact ⟨[], .inl rfl, rfl⟩

theorem dropEpoch_append {e v : List Char} (he : Epoch e) (hv : ':' ∉ v) :
    dropEpoch (e ++ v) = v := by
  rcases he with rfl | ⟨digits, hne, hdigits, rfl⟩
  · rw [List.nil_append, dropEpoch, Chars.cut?_eq_none_iff.mpr hv]
  · have hcolon : ':' ∉ digits := fun hc => nomatch hdigits ':' hc
    rw [List.append_assoc, List.singleton_append, dropEpoch, Chars.cut?_append hcolon]
    simp only [List.isEmpty_eq_false_iff.mpr hne, List.all_eq_true.mpr hdigits, Bool.not_false,
      Bool.and_self, if_true]

theorem Epoch.solid {e : List Char} (h : Epoch e) : Solid e := by
  rcases h with rfl | ⟨digits, -, hdigits, rfl⟩
  · exact fun c hc => nomatch hc
  · intro c hc
    rcases List.mem_append.mp hc with hc | hc
    · exact Chars.isBlank_of_isAlphanum (Chars.isAlphanum_of_isDigit (hdigits c hc))
    · obtain rfl := List.mem_singleton.mp hc
      rfl

/-- What stands in front of the version and behind it on a line that reports it: the tag of a
package with a colon and perhaps an epoch, or blanks alone if the version is that of the storage
module. -/
inductive Frame : Package → List Char → List Char → Prop
  | tagged {p : Package} {front tag gap space epoch rest : List Char} (front_blank : Blank front)
      (names : p.Names tag) (gap_blank : Blank gap) (space_blank : Blank space)
      (isEpoch : Epoch epoch) (rest_detached : Detached rest) :
      Frame p (front ++ tag ++ gap ++ [':'] ++ space ++ epoch) rest
  | bare {front back : List Char} (front_blank : Blank front) (back_blank : Blank back) :
      Frame .drbd front back

/-- A line that reports a version of a package. -/
def ReportsOn (p : Package) (v line : List Char) : Prop :=
  Token v ∧ ∃ before after, Frame p before after ∧ line = before ++ v ++ after

theorem reportsOn_of_readLine? {line v : List Char} {p : Package}
    (h : readLine? line = some (p, v)) : ReportsOn p v line := by
  obtain ⟨-, front, back, hfront, hback, hline⟩ := Chars.trim_eq_iff.mp (rfl : Chars.trim line = _)
  rw [readLine?] at h
  dsimp only at h
  split at h
  · rename_i tag value hcut
    split at h
    · rename_i package word rest htag hword
      split at h
      · rename_i htoken
        cases h
        -- The line was trimmed before it was cut and the tag after that: the blanks in front of
        -- the tag come from both.
        obtain ⟨-, hcutline⟩ := Chars.cut?_eq_some_iff.mp hcut
        obtain ⟨-, front', gap, hfront', hgap, htagged⟩ :=
          Chars.trim_eq_iff.mp (rfl : Chars.trim tag = _)
        obtain ⟨-, -, hrest, space, hspace, rfl⟩ := Chars.word?_eq_some_iff.mp hword
        obtain ⟨epoch, hepoch, hwordeq⟩ := exists_epoch word
        refine ⟨isToken_iff.mp htoken, _, _, .tagged (hfront.append hfront')
          (Package.ofTag?_eq_some_iff.mp htag) hgap hspace hepoch
          (hrest.append hback.detached), ?_⟩
        calc line = front ++ (tag ++ ':' :: (space ++ word ++ rest)) ++ back := by
              rw [← hcutline]
              exact hline
          _ = front ++ ((front' ++ Chars.trim tag ++ gap) ++
                ':' :: (space ++ (epoch ++ dropEpoch word) ++ rest)) ++ back := by
              rw [← htagged, ← hwordeq]
          _ = _ := by simp
      · cases h
    · cases h
  · split at h
    · rename_i htoken
      cases h
      exact ⟨isToken_iff.mp htoken, front, back, .bare hfront hback, hline⟩
    · cases h

theorem readLine?_bare {front v back : List Char} (hfront : Blank front) (hback : Blank back)
    (hv : Token v) : readLine? (front ++ v ++ back) = some (.drbd, v) := by
  have htrim : Chars.trim (front ++ v ++ back) = v :=
    Chars.trim_eq_iff.mpr ⟨hv.solid.trimmed, front, back, hfront, hback, rfl⟩
  rw [readLine?, htrim]
  simp only [Chars.cut?_eq_none_iff.mpr hv.colon_not_mem, isToken_iff.mpr hv, if_true]

theorem readLine?_tagged {p : Package} {front tag gap space epoch v rest : List Char}
    (hfront : Blank front) (hnames : p.Names tag) (hgap : Blank gap) (hspace : Blank space)
    (hepoch : Epoch epoch) (hv : Token v) (hrest : Detached rest) :
    readLine? (front ++ tag ++ gap ++ [':'] ++ space ++ epoch ++ v ++ rest) = some (p, v) := by
  obtain ⟨hne, hsolid, hcolon⟩ := hnames.plain
  obtain ⟨kept, back, hkept, hback, rfl⟩ := Chars.exists_append_blank rest
  have htrim : Chars.trim (front ++ tag ++ gap ++ [':'] ++ space ++ epoch ++ v ++ (kept ++ back)) =
      tag ++ gap ++ ':' :: (space ++ (epoch ++ v) ++ kept) := by
    refine Chars.trim_eq_iff.mpr ⟨⟨?_, ?_⟩, front, back, hfront, hback, by simp⟩
    · rw [List.append_assoc, Chars.startsBlank_append hne]
      exact hsolid.trimmed.front
    · have hsplit : tag ++ gap ++ ':' :: (space ++ (epoch ++ v) ++ kept) =
          (tag ++ gap ++ ':' :: (space ++ epoch)) ++ (v ++ kept) := by simp
      rw [hsplit, Chars.endsBlank_append_of_ne_nil _
        (List.append_ne_nil_of_left_ne_nil hv.ne_nil _)]
      exact Chars.endsBlank_append hv.solid.trimmed.back hkept
  have hcut : ':' ∉ tag ++ gap := by
    rw [List.mem_append, not_or]
    exact ⟨hcolon, fun hc => nomatch hgap ':' hc⟩
  have htag : Package.ofTag? (tag ++ gap) = some p := by
    have htrimmed : Chars.trim (tag ++ gap) = tag := by
      rw [Chars.trim_append_blank hgap, Chars.trim_of_solid hsolid]
    rwa [Package.ofTag?_eq_some_iff, htrimmed]
  have hword : Chars.word? (space ++ (epoch ++ v) ++ kept) = some (epoch ++ v, kept) :=
    Chars.word?_eq_some_iff.mpr ⟨List.append_ne_nil_of_right_ne_nil _ hv.ne_nil,
      hepoch.solid.append hv.solid, hrest.of_append, space, hspace, rfl⟩
  rw [readLine?, htrim]
  simp only [Chars.cut?_append hcut, htag, hword, dropEpoch_append hepoch hv.colon_not_mem,
    isToken_iff.mpr hv, if_true]

theorem readLine?_of_reportsOn {line v : List Char} {p : Package} (h : ReportsOn p v line) :
    readLine? line = some (p, v) := by
  obtain ⟨hv, before, after, hframe, rfl⟩ := h
  cases hframe with
  | bare hfront hback => exact readLine?_bare hfront hback hv
  | tagged hfront hnames hgap hspace hepoch hrest =>
      exact readLine?_tagged hfront hnames hgap hspace hepoch hv hrest

theorem readLine?_eq_some_iff {line v : List Char} {p : Package} :
    readLine? line = some (p, v) ↔ ReportsOn p v line :=
  ⟨reportsOn_of_readLine?, readLine?_of_reportsOn⟩

theorem ofLine?_eq_some_iff {line v : String} {p : Package} :
    ofLine? line = some (p, v) ↔ ReportsOn p v.toList line.toList := by
  rw [ofLine?, Option.map_eq_some_iff, ← readLine?_eq_some_iff]
  constructor
  · rintro ⟨⟨q, cs⟩, hread, heq⟩
    cases heq
    rwa [String.toList_ofList]
  · intro h
    exact ⟨(p, v.toList), h, by rw [String.ofList_toList]⟩

theorem exists_line_of_installed {output v : String} {p : Package}
    (h : (installed output).get p = some v) :
    ∃ line ∈ Text.lines output, ReportsOn p v.toList line.toList := by
  rw [get_installed, firstReport, Option.map_eq_some_iff] at h
  obtain ⟨⟨q, version⟩, hfound, rfl⟩ := h
  have hq := List.find?_some hfound
  obtain rfl : q = p := of_decide_eq_true hq
  obtain ⟨line, hline, hread⟩ := List.mem_filterMap.mp (List.mem_of_find?_eq_some hfound)
  exact ⟨line, hline, ofLine?_eq_some_iff.mp hread⟩

end Version

end ClusterSetup

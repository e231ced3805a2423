import ClusterSetup.Proofs.Step.HostData
import ClusterSetup.Proofs.Text.Words

namespace ClusterSetup

open Chars (Blank Trimmed)

theorem Chars.strip_eq_nil_iff {c : Char} {cs : List Char} :
    strip c cs = [] ↔ ∀ d ∈ cs, d = c := by
  rw [strip, List.reverse_eq_nil_iff, List.dropWhile_eq_nil_iff]
  simp only [List.mem_reverse, beq_iff_eq]
  constructor
  · intro h d hd
    rw [← List.takeWhile_append_dropWhile (p := (· == c)) (l := cs)] at hd
    rcases List.mem_append.mp hd with hfront | hrest
    · exact beq_iff_eq.mp (List.mem_takeWhile_imp (p := (· == c)) hfront)
    · exact h d hrest
  · exact fun h d hd => h d ((List.dropWhile_sublist _).subset hd)

/-- The name by which a detection calls a field. -/
def DistField.tag : DistField → String
  | .dist => "dist"
  | .version => "version"
  | .arch => "arch"
  | .kernel => "kernel"

theorem DistField.tag_solid (field : DistField) :
    Chars.Solid field.tag.toList ∧ ':' ∉ field.tag.toList := by
  cases field <;> decide

namespace DistInfo

/-- A line that answers what a field is: the name of the field and a value, with blanks around
both, and a colon between them. -/
def Answers (field : DistField) (value line : List Char) : Prop :=
  value ≠ [] ∧ Trimmed value ∧ ∃ front gap space back,
    Blank front ∧ Blank gap ∧ Blank space ∧ Blank back ∧
      line = front ++ field.tag.toList ++ gap ++ ':' :: (space ++ value ++ back)

def Unanswered (field : DistField) (output : String) : Prop :=
  ∀ line ∈ Chars.lines output.toList, ∀ value, ¬ Answers field value line

def LastAnswer (field : DistField) (value : List Char) (output : String) : Prop :=
  ∃ before line after, Chars.lines output.toList = before ++ line :: after ∧
    Answers field value line ∧ ∀ later ∈ after, ∀ other, ¬ Answers field other later

/-- What a line answers, if it does. -/
def answer? (field : DistField) (line : List Char) : Option (List Char) :=
  match Chars.cut? ':' line with
  | none => none
  | some (tag, value) =>
    if String.ofList (Chars.trim tag) = field.tag ∧ Chars.trim value ≠ [] then
      some (Chars.trim value)
    else none

theorem answer?_eq_some_iff {field : DistField} {value line : List Char} :
    answer? field line = some value ↔ Answers field value line := by
  obtain ⟨hsolid, hcolon⟩ := field.tag_solid
  constructor
  · intro h
    rw [answer?] at h
    split at h
    · cases h
    · rename_i tag rest hcut
      split at h
      · rename_i hanswers
        obtain ⟨htag, hvalue⟩ := hanswers
        cases h
        obtain ⟨-, rfl⟩ := Chars.cut?_eq_some_iff.mp hcut
        rw [Answers, ← htag, String.toList_ofList]
        obtain ⟨-, front, gap, hfront, hgap, hbefore⟩ :=
          Chars.trim_eq_iff.mp (rfl : Chars.trim tag = _)
        obtain ⟨htrimmed, space, back, hspace, hback, hbehind⟩ :=
          Chars.trim_eq_iff.mp (rfl : Chars.trim rest = _)
        exact ⟨hvalue, htrimmed, front, gap, space, back, hfront, hgap, hspace, hback,
          by rw [← hbefore, ← hbehind]⟩
      · cases h
  · rintro ⟨hvalue, htrimmed, front, gap, space, back, hfront, hgap, hspace, hback, rfl⟩
    have htag : String.ofList (Chars.trim (front ++ field.tag.toList ++ gap)) = field.tag := by
      rw [Chars.trim_eq_iff.mpr ⟨hsolid.trimmed, front, gap, hfront, hgap, rfl⟩,
        String.ofList_toList]
    have hrest : Chars.trim (space ++ value ++ back) = value :=
      Chars.trim_eq_iff.mpr ⟨htrimmed, space, back, hspace, hback, rfl⟩
    have hcut : ':' ∉ front ++ field.tag.toList ++ gap := by
      intro hc
      rcases List.mem_append.mp hc with hc | hc
      · rcases List.mem_append.mp hc with hc | hc
        · cases hfront ':' hc
        · exact hcolon hc
      · cases hgap ':' hc
    simp only [answer?, Chars.cut?_append hcut, htag, hrest, ne_eq, hvalue, not_false_eq_true,
      and_self, if_true]

def lastAnswer? (field : DistField) (output : String) : Option (List Char) :=
  (Chars.lines output.toList).reverse.findSome? (answer? field)

theorem answer?_eq_none_iff {field : DistField} {line : List Char} :
    answer? field line = none ↔ ∀ value, ¬ Answers field value line := by
  simp only [Option.eq_none_iff_forall_ne_some, ne_eq, answer?_eq_some_iff]

theorem lastAnswer?_eq_none_iff {field : DistField} {output : String} :
    lastAnswer? field output = none ↔ Unanswered field output := by
  rw [lastAnswer?, List.findSome?_eq_none_iff]
  simp only [List.mem_reverse, answer?_eq_none_iff, Unanswered]

theorem lastAnswer?_eq_some_iff {field : DistField} {value : List Char} {output : String} :
    lastAnswer? field output = some value ↔ LastAnswer field value output := by
  rw [lastAnswer?, List.findSome?_eq_some_iff]
  constructor
  · rintro ⟨after, line, before, hlines, hline, hafter⟩
    refine ⟨before.reverse, line, after.reverse, ?_, answer?_eq_some_iff.mp hline, ?_⟩
    · rw [List.reverse_eq_append_iff] at hlines
      rw [hlines]
      simp
    · intro later hlater
      exact answer?_eq_none_iff.mp (hafter later (List.mem_reverse.mp hlater))
  · rintro ⟨before, line, after, hlines, hline, hafter⟩
    refine ⟨after.reverse, line, before.reverse, ?_, answer?_eq_some_iff.mpr hline, ?_⟩
    · rw [hlines]
      simp
    · intro later hlater
      exact answer?_eq_none_iff.mpr (hafter later (List.mem_reverse.mp hlater))

/-- The text of an answer, without the quotes around it. -/
def unquoted (value : List Char) : String := String.ofList (Chars.strip '"' value)

theorem unquoted_eq_empty_iff {value : List Char} :
    unquoted value = "" ↔ ∀ c ∈ value, c = '"' := by
  rw [unquoted, String.ofList_eq_empty_iff, Chars.strip_eq_nil_iff]

theorem get_noteLine (info : DistInfo) (field : DistField) (line : List Char) :
    (info.noteLine line).get field =
      ((answer? field line).map unquoted).or (info.get field) := by
  rw [noteLine, answer?]
  cases Chars.cut? ':' line with
  | none => rfl
  | some parts =>
      dsimp only
      generalize String.ofList (Chars.trim parts.1) = name
      cases Chars.trim parts.2 with
      | nil => simp
      | cons c value =>
          simp only [List.isEmpty_cons, Bool.false_eq_true, if_false, ne_eq, reduceCtorEq,
            not_false_eq_true, and_true]
          split
          all_goals cases field <;> simp_all [DistField.tag, get, unquoted]

theorem get_foldl_noteLine (info : DistInfo) (field : DistField) (lines : List (List Char)) :
    (lines.foldl noteLine info).get field =
      ((lines.reverse.findSome? (answer? field)).map unquoted).or (info.get field) := by
  induction lines generalizing info with
  | nil => rfl
  | cons line lines ih =>
      rw [List.foldl_cons, ih, get_noteLine, List.reverse_cons, List.findSome?_append]
      cases lines.reverse.findSome? (answer? field) with
      | some value => rfl
      | none => cases h : answer? field line <;> simp [h]

theorem get_read (field : DistField) (output : String) :
    ((Chars.lines output.toList).foldl noteLine {}).get field =
      (lastAnswer? field output).map unquoted := by
  rw [get_foldl_noteLine, lastAnswer?]
  cases field <;> exact Option.or_none

def IsSuse (id : String) : Prop :=
  Text.lower id = "sles" ∨ Text.lower id = "sled" ∨
    "opensuse".toList.isPrefixOf (Text.lower id).toList = true

theorem renameSuse_of_suse {info : DistInfo} {id : String} (h : info.dist = some id)
    (hsuse : IsSuse id) : ∃ name : String → String, (∀ release, name release ≠ "") ∧
      info.renameSuse = { info with dist := some "suse", version := info.version.map name } := by
  have hname : ∀ (mark : Char) (rest : List Char) (edit : List Char → List Char) (release : String),
      String.ofList (mark :: rest ++ edit (Chars.trim release.toList)) ≠ "" := by
    intro mark rest edit release hempty
    rw [String.ofList_eq_empty_iff] at hempty
    cases hempty
  rw [renameSuse, h]
  dsimp only
  by_cases hsles : Text.lower id = "sles" ∨ Text.lower id = "sled"
  · rw [if_pos hsles]
    refine ⟨fun release => String.ofList ("sles".toList ++ major (Chars.trim release.toList)),
      hname 's' "les".toList major, ?_⟩
    cases info.version <;> rfl
  · have hopensuse : "opensuse".toList.isPrefixOf (Text.lower id).toList = true := by
      rcases hsuse with hsame | hsame | hprefix
      · exact absurd (.inl hsame) hsles
      · exact absurd (.inr hsame) hsles
      · exact hprefix
    rw [if_neg hsles, if_pos hopensuse]
    refine ⟨fun release => String.ofList ("OPENSUSE".toList ++
      (Chars.trim release.toList).map fun c => if c = '.' then '_' else c),
      hname 'O' "PENSUSE".toList (List.map fun c => if c = '.' then '_' else c), ?_⟩
    cases info.version <;> rfl

theorem renameSuse_of_other {info : DistInfo} (h : ∀ id, info.dist = some id → ¬ IsSuse id) :
    info.renameSuse = info := by
  rw [renameSuse]
  cases hdist : info.dist with
  | none => rfl
  | some id =>
      obtain ⟨hsles, hsled, hopensuse⟩ : Text.lower id ≠ "sles" ∧ Text.lower id ≠ "sled" ∧
          ¬ "opensuse".toList.isPrefixOf (Text.lower id).toList = true := by
        have hother := h id hdist
        rwa [IsSuse, not_or, not_or] at hother
      dsimp only
      rw [if_neg (not_or.mpr ⟨hsles, hsled⟩), if_neg hopensuse]

theorem get_renameSuse_eq_none_iff {info : DistInfo} {field : DistField} :
    info.renameSuse.get field = none ↔ info.get field = none := by
  by_cases hsuse : ∃ id, info.dist = some id ∧ IsSuse id
  · obtain ⟨id, hdist, hsuse⟩ := hsuse
    obtain ⟨name, -, heq⟩ := renameSuse_of_suse hdist hsuse
    rw [heq]
    cases field <;> simp [get, hdist]
  · rw [renameSuse_of_other fun id hdist hid => hsuse ⟨id, hdist, hid⟩]

theorem get_renameSuse_eq_empty_iff {info : DistInfo} {field : DistField} :
    info.renameSuse.get field = some "" ↔
      info.get field = some "" ∧ (field = .version → ∀ id, info.dist = some id → ¬ IsSuse id) := by
  by_cases hsuse : ∃ id, info.dist = some id ∧ IsSuse id
  · obtain ⟨id, hdist, hsuse⟩ := hsuse
    obtain ⟨name, hname, heq⟩ := renameSuse_of_suse hdist hsuse
    -- An empty name is not one of the family, so that the new name of the family hides none.
    have hne : id ≠ "" := by
      rintro rfl
      revert hsuse
      rw [IsSuse]
      decide
    rw [heq]
    cases field <;> simp [get, hdist, hsuse, hne, hname]
  · have hother : ∀ id, info.dist = some id → ¬ IsSuse id :=
      fun id hdist hid => hsuse ⟨id, hdist, hid⟩
    rw [renameSuse_of_other hother]
    exact ⟨fun hempty => ⟨hempty, fun _ => hother⟩, fun hempty => hempty.1⟩

theorem ofReport_empty : ofReport "" = {} := rfl

def NamesSuse (output : String) : Prop :=
  ∃ value, LastAnswer .dist value output ∧ IsSuse (unquoted value)

/-- The last answer of an output on a field is nothing but quotes, and is not made a release of the
SUSE family. -/
structure Hollow (field : DistField) (output : String) : Prop where
  answer : ∃ value, LastAnswer field value output ∧ ∀ c ∈ value, c = '"'
  kept : field = .version → ¬ NamesSuse output

theorem ofReport_get_eq_none_iff {field : DistField} {output : String} :
    (ofReport output).get field = none ↔ Unanswered field output := by
  rw [ofReport, get_renameSuse_eq_none_iff, get_read, Option.map_eq_none_iff,
    lastAnswer?_eq_none_iff]

theorem ofReport_get_eq_empty_iff {field : DistField} {output : String} :
    (ofReport output).get field = some "" ↔ Hollow field output := by
  have hdist : ∀ id, ((Chars.lines output.toList).foldl noteLine {}).dist = some id ↔
      ∃ value, LastAnswer .dist value output ∧ unquoted value = id := by
    intro id
    have hread := get_read .dist output
    rw [get] at hread
    rw [hread, Option.map_eq_some_iff]
    simp only [lastAnswer?_eq_some_iff]
  rw [ofReport, get_renameSuse_eq_empty_iff, get_read, Option.map_eq_some_iff]
  simp only [lastAnswer?_eq_some_iff, unquoted_eq_empty_iff, hdist]
  constructor
  · rintro ⟨hanswer, hother⟩
    refine ⟨hanswer, fun hversion => ?_⟩
    rintro ⟨value, hvalue, hsuse⟩
    exact hother hversion _ ⟨value, hvalue, rfl⟩ hsuse
  · rintro ⟨hanswer, hother⟩
    refine ⟨hanswer, fun hversion => ?_⟩
    rintro _ ⟨value, hvalue, rfl⟩ hsuse
    exact hother hversion ⟨value, hvalue, hsuse⟩

theorem get_foldl_mergeMissing (info : DistInfo) (detected : List DistInfo)
    (field : DistField) :
    (detected.foldl mergeMissing info).get field =
      (info.get field).or (detected.findSome? (·.get field)) := by
  induction detected generalizing info with
  | nil => exact Option.or_none.symm
  | cons found detected ih =>
      rw [List.foldl_cons, ih, get_mergeMissing, Option.or_assoc, List.findSome?_cons]
      cases found.get field <;> rfl

/-- Something is known of a field after detections if it was known before or the first output that
answers it gives this value. -/
theorem get_foldl_ofReport_eq_some_iff {info : DistInfo} {outputs : List String}
    {field : DistField} {value : String} :
    ((outputs.map ofReport).foldl mergeMissing info).get field = some value ↔
      info.get field = some value ∨ info.get field = none ∧
        ∃ earlier output later, outputs = earlier ++ output :: later ∧
          (∀ o ∈ earlier, Unanswered field o) ∧ (ofReport output).get field = some value := by
  rw [get_foldl_mergeMissing, List.findSome?_map, Option.or_eq_some_iff, List.findSome?_eq_some_iff]
  simp only [Function.comp_apply, ofReport_get_eq_none_iff]
  constructor
  · rintro (hknown | ⟨hunknown, earlier, output, later, heq, hvalue, hearlier⟩)
    · exact .inl hknown
    · exact .inr ⟨hunknown, earlier, output, later, heq, hearlier, hvalue⟩
  · rintro (hknown | ⟨hunknown, earlier, output, later, heq, hearlier, hvalue⟩)
    · exact .inl hknown
    · exact .inr ⟨hunknown, earlier, output, later, heq, hvalue, hearlier⟩

theorem get_foldl_ofReport_eq_none_iff {info : DistInfo} {outputs : List String}
    {field : DistField} :
    ((outputs.map ofReport).foldl mergeMissing info).get field = none ↔
      info.get field = none ∧ ∀ o ∈ outputs, Unanswered field o := by
  rw [get_foldl_mergeMissing, List.findSome?_map, Option.or_eq_none_iff, List.findSome?_eq_none_iff]
  simp only [Function.comp_apply, ofReport_get_eq_none_iff]

end DistInfo

end ClusterSetup

import ClusterSetup.Install
import ClusterSetup.Proofs.Text.Replacing

/-!
The commands of install methods. The placeholders of a template are filled in one after the other,
so a value is searched for the placeholders that come after its own: what stands in its place in the
command is what filling these in makes of it. The architecture is searched for its alias, wherever
its name comes from.
-/

namespace ClusterSetup

theorem Text.replaceAll_of_absent {pattern s : String} (value : String)
    (h : Text.contains pattern s = false) : Text.replaceAll pattern value s = s := by
  rw [replaceAll, Chars.replaceAll_of_absent value.toList h, String.ofList_toList]

theorem Text.replaceAll_self {pattern : String} (value : String) (h : pattern.toList ≠ []) :
    Text.replaceAll pattern value pattern = value := by
  rw [replaceAll, Chars.replaceAll_self value.toList h, String.ofList_toList]

namespace InstallCommand

def names : List String :=
  ["@ARCH@", "@DISTVERSION@", "@KERNELVERSION@", "@USER@", "@PASSWORD@", "@HBPASSWD@"]

def patterns : List (List Char) := names.map String.toList

/-- The template with the values in the places of the placeholders, all at once. -/
def substitute (values : List (String × String)) (template : String) : String :=
  String.ofList ((Chars.segments patterns template.toList).fill fun p =>
    ((values.lookup (String.ofList p)).getD (String.ofList p)).toList)

/-- Between two placeholders, and between a placeholder and any other at sign, stands a character
that no placeholder contains. -/
def Separated (template : String) : Prop :=
  (Chars.segments patterns template.toList).separated patterns '@' = true

instance (template : String) : Decidable (Separated template) :=
  inferInstanceAs (Decidable (_ = true))

/-- Each value with the placeholders that come after its own filled in. -/
def rescanned : List (String × String) → List (String × String)
  | [] => []
  | (name, value) :: later => (name, fill later value) :: rescanned later

/-- No value contains a placeholder that comes after its own. -/
def Settled (values : List (String × String)) : Prop :=
  values.Pairwise fun earlier later => Text.contains later.1 earlier.2 = false

theorem patterns_nonempty : ∀ pattern ∈ patterns, pattern ≠ [] := by decide

theorem patterns_marked : Chars.Marked patterns '@' := by
  rw [Chars.Marked]
  decide

theorem names_distinct : ∀ name ∈ names, ∀ other ∈ names, other ≠ name →
    Text.contains name other = false := by decide

theorem names_nodup : names.Nodup := by decide

theorem names_separated : ∀ name ∈ names, Separated name := by decide

theorem segments_name : ∀ name ∈ names,
    Chars.segments patterns name.toList = ⟨[], [(name.toList, [])]⟩ := by decide

theorem rescanned_names (values : List (String × String)) :
    (rescanned values).map (·.1) = values.map (·.1) := by
  induction values with
  | nil => rfl
  | cons v later ih => exact congrArg (v.1 :: ·) ih

theorem eq_of_lookup {values values' : List (String × String)}
    (hnames : values'.map (·.1) = values.map (·.1)) (hnodup : (values.map (·.1)).Nodup)
    (h : ∀ name ∈ values.map (·.1),
      (values'.lookup name).getD name = (values.lookup name).getD name) : values' = values := by
  induction values generalizing values' with
  | nil => exact List.map_eq_nil_iff.mp hnames
  | cons v later ih =>
      obtain ⟨w, later', rfl⟩ : ∃ w later', values' = w :: later' := by
        cases values' with
        | nil => cases hnames
        | cons w later' => exact ⟨w, later', rfl⟩
      obtain ⟨name, value⟩ := v
      obtain ⟨name', value'⟩ := w
      obtain ⟨rfl, hlater⟩ := List.cons.inj hnames
      obtain ⟨hfresh, hnodup'⟩ := List.nodup_cons.mp hnodup
      have hvalue := h name' List.mem_cons_self
      rw [List.lookup_cons_self, List.lookup_cons_self] at hvalue
      obtain rfl : value' = value := hvalue
      congr 1
      refine ih hlater hnodup' fun other hother => ?_
      have hne : other ≠ name' := by
        rintro rfl
        exact hfresh hother
      have hrest := h other (List.mem_cons_of_mem _ hother)
      rwa [List.lookup_cons, List.lookup_cons, beq_eq_false_iff_ne.mpr hne] at hrest

theorem fill_of_absent {values : List (String × String)} {s : String}
    (h : ∀ v ∈ values, Text.contains v.1 s = false) : fill values s = s := by
  induction values with
  | nil => rfl
  | cons v later ih =>
      rw [fill, List.foldl_cons, Text.replaceAll_of_absent v.2 (h v List.mem_cons_self)]
      exact ih fun w hw => h w (List.mem_cons_of_mem v hw)

theorem Settled.rescanned_eq {values : List (String × String)} (h : Settled values) :
    rescanned values = values := by
  induction values with
  | nil => rfl
  | cons v later ih =>
      obtain ⟨hvalue, hlater⟩ := List.pairwise_cons.mp h
      rw [rescanned, fill_of_absent hvalue, ih hlater]

theorem fill_name {values : List (String × String)} (hvalues : ∀ v ∈ values, v.1 ∈ names)
    {name : String} (hname : name ∈ names) :
    fill values name = ((rescanned values).lookup name).getD name := by
  induction values with
  | nil => rfl
  | cons v later ih =>
      obtain ⟨other, value⟩ := v
      have hother : other ∈ names := hvalues _ List.mem_cons_self
      rw [fill, List.foldl_cons, rescanned]
      by_cases hsame : name = other
      · subst hsame
        have hsome : name.toList ≠ [] := patterns_nonempty _ (List.mem_map_of_mem hname)
        rw [Text.replaceAll_self value hsome, List.lookup_cons_self]
        rfl
      · rw [Text.replaceAll_of_absent value (names_distinct other hother name hname hsame),
          List.lookup_cons, beq_eq_false_iff_ne.mpr hsame]
        exact ih fun w hw => hvalues w (List.mem_cons_of_mem _ hw)

theorem fill_segments {values : List (String × String)} (hvalues : ∀ v ∈ values, v.1 ∈ names)
    {s : Chars.Segments} (hseparated : s.separated patterns '@' = true)
    (habsent : ∀ pattern ∈ patterns, Chars.occursIn pattern s.first = false ∧
      ∀ segment ∈ s.rest, Chars.occursIn pattern segment.2 = false)
    (holes : List Char → List Char) :
    fill values (String.ofList (s.fill holes)) =
      String.ofList (s.fill fun p => (fill values (String.ofList (holes p))).toList) := by
  induction values generalizing holes with
  | nil => simp only [fill, List.foldl_nil, String.toList_ofList]
  | cons v later ih =>
      have hv : v.1.toList ∈ patterns := List.mem_map_of_mem (hvalues v List.mem_cons_self)
      obtain ⟨hfirst, hrest⟩ := habsent _ hv
      have hpass := Chars.replaceAll_fill patterns_marked hv v.2.toList holes hseparated hfirst
        hrest
      have hlater := ih (fun w hw => hvalues w (List.mem_cons_of_mem v hw))
        fun p => Chars.replaceAll v.1.toList v.2.toList (holes p)
      simp only [fill, List.foldl_cons, Text.replaceAll, String.toList_ofList, hpass] at hlater ⊢
      exact hlater

theorem fill_eq_substitute {values : List (String × String)}
    (hvalues : ∀ v ∈ values, v.1 ∈ names) {template : String} (h : Separated template) :
    fill values template = substitute (rescanned values) template := by
  have hfill := fill_segments hvalues h
    (Chars.segmentsFrom_absent patterns_nonempty 0 template.toList) id
  rw [Chars.segments, Chars.segmentsFrom_fill patterns_nonempty, List.drop_zero,
    String.ofList_toList] at hfill
  rw [hfill, substitute]
  congr 1
  apply Chars.Segments.fill_congr
  intro segment hsegment
  have hmem := Chars.segmentsFrom_mem patterns_nonempty 0 template.toList segment hsegment
  obtain ⟨name, hname, hpattern⟩ := List.mem_map.mp hmem
  rw [← hpattern, id, String.ofList_toList, fill_name hvalues hname]

/-- The values are inserted as they are into every template exactly if filling in the placeholders
that come later changes none of them. -/
theorem substitutes_iff {values : List (String × String)} (hnames : values.map (·.1) = names) :
    (∀ template, Separated template → fill values template = substitute values template) ↔
      rescanned values = values := by
  have hvalues : ∀ v ∈ values, v.1 ∈ names := by
    intro v hv
    rw [← hnames]
    exact List.mem_map_of_mem hv
  constructor
  · intro h
    apply eq_of_lookup (rescanned_names values)
    · rw [hnames]
      exact names_nodup
    · intro name hname
      rw [hnames] at hname
      rw [← fill_name hvalues hname, h name (names_separated name hname), substitute,
        segments_name name hname]
      simp [Chars.Segments.fill]
  · intro hsettled template hseparated
    rw [fill_eq_substitute hvalues hseparated, hsettled]

theorem placeholders_names (t : Resources) (host : Host) (c : Component)
    (secrets : InstallSecrets) : (placeholders t host c secrets).map (·.1) = names := rfl

theorem alias_eq_self_iff (arch : String) :
    Text.replaceAll "i686" "i386" arch = arch ↔ Text.contains "i686" arch = false := by
  have hlength : "i386".toList.length = "i686".toList.length := by decide
  have hne : "i386".toList ≠ "i686".toList := by decide
  have hchars := Chars.replaceAll_eq_self_iff hlength hne arch.toList
  rw [Text.contains, ← hchars, Text.replaceAll]
  constructor
  · intro h
    rw [← String.toList_ofList (l := Chars.replaceAll _ _ _), h]
  · intro h
    rw [h, String.ofList_toList]

/-- The command of a method is its template with a value in the place of each placeholder, which is
the value of the placeholder with those that come later filled in. So the values are inserted as
they are exactly if this changes none of them, which is so if none contains a later placeholder. The
architecture is the name among the resources, or else that of the host, with its alias; the name
among the resources is taken as it is exactly if `i686` does not occur in it. -/
theorem render_inserts_rescanned_values (t : Resources) (host : Host) (c : Component)
    (method : InstallMethod) (secrets : InstallSecrets) :
    (t.resolveFor host.dist (method.commandKey c) = none →
      render t host c method secrets = none) ∧
    (∀ template, t.resolveFor host.dist (method.commandKey c) = some template →
      Separated template → render t host c method secrets =
        some ⟨method.commandKey c,
          substitute (rescanned (placeholders t host c secrets)) template⟩) ∧
    ((∀ template, Separated template → fill (placeholders t host c secrets) template =
        substitute (placeholders t host c secrets) template) ↔
      rescanned (placeholders t host c secrets) = placeholders t host c secrets) ∧
    (Settled (placeholders t host c secrets) →
      rescanned (placeholders t host c secrets) = placeholders t host c secrets) ∧
    ∀ arch, host.dist.arch = some arch →
      (t.resolveFor host.dist (ResourceKey.archName c arch) = none →
        archName t host c = Text.replaceAll "i686" "i386" arch) ∧
      ∀ name, t.resolveFor host.dist (ResourceKey.archName c arch) = some name →
        (archName t host c = name ↔ Text.contains "i686" name = false) := by
  have hnames := placeholders_names t host c secrets
  have hvalues : ∀ v ∈ placeholders t host c secrets, v.1 ∈ names := by
    intro v hv
    rw [← hnames]
    exact List.mem_map_of_mem hv
  refine ⟨fun hnone => ?_, fun template hsome hseparated => ?_, substitutes_iff hnames,
    Settled.rescanned_eq, fun arch harch => ⟨fun hnone => ?_, fun name hname => ?_⟩⟩
  · rw [render]
    simp only [hnone, Option.map_none]
  · rw [render]
    simp only [hsome, Option.map_some, fill_eq_substitute hvalues hseparated]
  · simp only [archName, harch, hnone, Option.getD_none]
  · rw [← alias_eq_self_iff]
    simp only [archName, harch, hname, Option.getD_some]

def sampleTemplate : String := "get @ARCH@-@KERNELVERSION@ as @USER@:@PASSWORD@"

def sampleTable (arch : String) : Resources :=
  .ofTable
    ⟨[⟨"", ResourceKey.methodLabel .drbd 1, "packages"⟩,
      ⟨"", ResourceKey.methodCommand .drbd 1, sampleTemplate⟩,
      ⟨"", ResourceKey.archName .drbd "i686", arch⟩]⟩

def sampleHost (kernel : String) : Host :=
  { Host.new ⟨1⟩ "alpha" "10.0.0.1" with
    dist := { dist := some "fedora", arch := some "i686", kernel := some kernel } }

def sampleMethod : InstallMethod := ⟨1, "packages", .packageManager, false⟩

def sampleSecrets : InstallSecrets := { vendor := some ⟨"alice", "s3cret"⟩ }

theorem render_inserts_rescanned_values_sample :
    render (sampleTable "i586") (sampleHost "2.6") .drbd sampleMethod sampleSecrets =
      some ⟨"DrbdInst.install.1", "get i586-2.6 as alice:s3cret"⟩ := by
  obtain ⟨-, hrender, -, hsettled, -⟩ := render_inserts_rescanned_values (sampleTable "i586")
    (sampleHost "2.6") .drbd sampleMethod sampleSecrets
  rw [hrender sampleTemplate (by decide +kernel) (by decide +kernel),
    hsettled (by rw [Settled]; decide +kernel)]
  decide +kernel

/-- A kernel that is named like a placeholder is not inserted as it is, and neither is the name
`i686` among the resources. -/
theorem values_not_inserted_verbatim :
    (((sampleTable "i586").methods (sampleHost "@PASSWORD@").dist .drbd false none).find? 1 =
        some sampleMethod ∧
      (sampleTable "i586").resolveFor (sampleHost "@PASSWORD@").dist
        (sampleMethod.commandKey .drbd) = some sampleTemplate ∧
      render (sampleTable "i586") (sampleHost "@PASSWORD@") .drbd sampleMethod sampleSecrets =
        some ⟨"DrbdInst.install.1", "get i586-s3cret as alice:s3cret"⟩ ∧
      substitute (placeholders (sampleTable "i586") (sampleHost "@PASSWORD@") .drbd sampleSecrets)
        sampleTemplate ≠ "get i586-s3cret as alice:s3cret") ∧
    (sampleTable "i686").resolveFor (sampleHost "2.6").dist (ResourceKey.archName .drbd "i686") =
        some "i686" ∧
      archName (sampleTable "i686") (sampleHost "2.6") .drbd ≠ "i686" := by
  refine ⟨⟨?_, ?_, ?_, ?_⟩, ?_, ?_⟩ <;> decide +kernel

end InstallCommand

end ClusterSetup

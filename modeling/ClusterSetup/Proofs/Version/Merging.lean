import ClusterSetup.Probe
import ClusterSetup.Proofs.Text.Lines
import ClusterSetup.Ssh

namespace ClusterSetup

namespace InstalledVersions

def fillMissing (known others : InstalledVersions) : InstalledVersions where
  drbd := known.drbd <|> others.drbd
  drbdUtils := known.drbdUtils <|> others.drbdUtils
  heartbeat := known.heartbeat <|> others.heartbeat
  pacemaker := known.pacemaker <|> others.pacemaker
  corosync := known.corosync <|> others.corosync
  openais := known.openais <|> others.openais

theorem get_fillMissing (known others : InstalledVersions) (p : Package) :
    (known.fillMissing others).get p = (known.get p).or (others.get p) := by
  cases p <;> exact Option.orElse_eq_or

theorem get_empty (p : Package) : get {} p = none := by cases p <;> rfl

theorem fillMissing_empty (known : InstalledVersions) : known.fillMissing {} = known := by
  apply ext_get
  intro p
  rw [get_fillMissing, get_empty, Option.or_none]

theorem empty_fillMissing (others : InstalledVersions) : fillMissing {} others = others := by
  apply ext_get
  intro p
  rw [get_fillMissing, get_empty, Option.none_or]

theorem get_note (v : InstalledVersions) (p q : Package) (version : String) :
    (v.note p version).get q = (v.get q).or (if p = q then some version else none) := by
  rw [note]
  split
  · rename_i hknown
    split
    · rename_i heq
      rw [← heq, hknown, Option.some_or]
    · rw [Option.or_none]
  · rename_i hunknown
    rw [get_set]
    split
    · rename_i heq
      rw [heq, hunknown, if_pos rfl, Option.none_or]
    · rename_i hne
      rw [if_neg (Ne.symm hne), Option.or_none]

end InstalledVersions

namespace Version

def reports (output : String) : List (Package × String) := (Text.lines output).filterMap ofLine?

/-- The first of some reports on a package. -/
def firstReport (p : Package) (found : List (Package × String)) : Option String :=
  (found.find? (·.1 = p)).map (·.2)

theorem firstReport_append (p : Package) (found more : List (Package × String)) :
    firstReport p (found ++ more) = (firstReport p found).or (firstReport p more) := by
  rw [firstReport, List.find?_append, firstReport, firstReport]
  cases found.find? (·.1 = p) <;> rfl

theorem firstReport_cons (p : Package) (report : Package × String)
    (found : List (Package × String)) :
    firstReport p (report :: found) =
      (if report.1 = p then some report.2 else none).or (firstReport p found) := by
  rw [firstReport, List.find?_cons, firstReport]
  by_cases h : report.1 = p <;> simp [h]

theorem get_noteAll (v : InstalledVersions) (found : List (Package × String)) (p : Package) :
    (found.foldl (fun v found => v.note found.1 found.2) v).get p =
      (v.get p).or (firstReport p found) := by
  induction found generalizing v with
  | nil => exact Option.or_none.symm
  | cons report found ih =>
      rw [List.foldl_cons, ih, InstalledVersions.get_note, Option.or_assoc, firstReport_cons]

theorem get_installed (output : String) (p : Package) :
    (installed output).get p = firstReport p (reports output) := by
  rw [installed, get_noteAll, InstalledVersions.get_empty, Option.none_or, reports]

section Reading

theorem readLine?_of_blank {line : List Char} (h : ∀ c ∈ line, Chars.isBlank c = true) :
    readLine? line = none := by
  rw [readLine?, Chars.trim_of_blank h]
  rfl

theorem readLine?_append_return (line : List Char) :
    readLine? (line ++ ['\r']) = readLine? line := by
  have hblank : ∀ c ∈ ['\r'], Chars.isBlank c = true := List.forall_mem_singleton.mpr rfl
  rw [readLine?, readLine?, Chars.trim_append_blank hblank]

def report? (line : List Char) : Option (Package × String) :=
  (readLine? line).map fun found => (found.1, .ofList found.2)

theorem reports_eq (output : String) :
    reports output = (Chars.lines output.toList).filterMap report? := by
  rw [reports, Text.lines, List.filterMap_map]
  congr 1
  funext line
  rw [Function.comp_apply, ofLine?, String.toList_ofList, report?]

theorem reports_append (a b : String) : reports (a ++ "\n" ++ b) = reports a ++ reports b := by
  have hchars : (a ++ "\n" ++ b).toList = a.toList ++ '\n' :: b.toList := by simp
  rw [reports_eq, reports_eq, reports_eq, hchars]
  refine Chars.filterMap_lines_append rfl (fun line => ?_) _ _
  rw [report?, report?, readLine?_append_return]

end Reading

theorem installed_append (a b : String) :
    installed (a ++ "\n" ++ b) = (installed a).fillMissing (installed b) := by
  apply InstalledVersions.ext_get
  intro p
  rw [InstalledVersions.get_fillMissing, get_installed, get_installed, get_installed,
    reports_append, firstReport_append]

end Version

namespace Text

/-- A text of whole lines is empty or ends with a line feed. What is put behind it begins a line. -/
def WholeLines (s : String) : Prop := s = "" ∨ ∃ r, s = r ++ "\n"

theorem WholeLines.append {a b : String} (ha : WholeLines a) (hb : WholeLines b) :
    WholeLines (a ++ b) := by
  rcases hb with rfl | ⟨r, rfl⟩
  · rwa [String.append_empty]
  · exact .inr ⟨a ++ r, (String.append_assoc ..).symm⟩

theorem wholeLines_of_getLast? {s : String} (h : s.toList.getLast? = some '\n') : WholeLines s := by
  obtain ⟨r, hr⟩ := List.getLast?_eq_some_iff.mp h
  refine .inr ⟨.ofList r, String.toList_injective ?_⟩
  rw [hr, String.toList_append, String.toList_ofList]
  rfl

end Text

namespace Version

/-- No line of a text reports a version. -/
def Silent (text : String) : Prop := ∀ line ∈ Text.lines text, ofLine? line = none

theorem Silent.installed_eq {text : String} (h : Silent text) : installed text = {} := by
  apply InstalledVersions.ext_get
  intro p
  rw [get_installed, reports, List.filterMap_eq_nil_iff.mpr h, InstalledVersions.get_empty]
  rfl

theorem silent_of_blank {text : String} (h : Text.isBlank text = true) : Silent text := by
  intro line hline
  obtain ⟨cs, hcs, rfl⟩ := List.mem_map.mp hline
  have hblank : ∀ c ∈ cs, Chars.isBlank c = true := fun c hc =>
    List.all_eq_true.mp h c (Chars.subset_of_mem_lines hcs hc)
  rw [ofLine?, String.toList_ofList, readLine?_of_blank hblank]
  rfl

theorem installedIn_eq (output : String) : Probe.installedIn output = installed output := by
  rw [Probe.installedIn]
  split
  · rename_i hblank
    exact (silent_of_blank hblank).installed_eq.symm
  · rfl

theorem installed_append_of_wholeLines {a : String} (h : Text.WholeLines a) (b : String) :
    installed (a ++ b) = (installed a).fillMissing (installed b) := by
  rcases h with rfl | ⟨r, rfl⟩
  · rw [String.empty_append]
    exact (InstalledVersions.empty_fillMissing _).symm
  · have hempty := installed_append r ""
    rw [String.append_empty] at hempty
    rw [installed_append, hempty]
    congr 1
    exact (InstalledVersions.fillMissing_empty _).symm

/-- Lines that report nothing can be put in wherever a line begins. -/
theorem installed_of_silent_inserted {before inserted after : String}
    (hbefore : Text.WholeLines before) (hsilent : Silent inserted)
    (hwhole : Text.WholeLines inserted ∨ after = "") :
    installed (before ++ inserted ++ after) = installed (before ++ after) := by
  have hinserted : installed (before ++ inserted) = installed before := by
    rw [installed_append_of_wholeLines hbefore, hsilent.installed_eq,
      InstalledVersions.fillMissing_empty]
  rcases hwhole with hwhole | rfl
  · rw [installed_append_of_wholeLines (hbefore.append hwhole), hinserted,
      installed_append_of_wholeLines hbefore]
  · rw [String.append_empty, String.append_empty, hinserted]

theorem installed_joinStreams (stdout stderr : String) :
    installed (Ssh.joinStreams stdout stderr) =
      (installed stdout).fillMissing (installed stderr) := by
  rw [Ssh.joinStreams]
  split
  · rename_i hblank
    rw [(silent_of_blank hblank).installed_eq, InstalledVersions.fillMissing_empty]
  · split
    · rename_i hends
      refine installed_append_of_wholeLines ?_ stderr
      rcases Bool.or_eq_true_iff.mp hends with hempty | hlast
      · exact .inl (String.isEmpty_iff.mp hempty)
      · exact Text.wholeLines_of_getLast? (of_decide_eq_true hlast)
    · exact installed_append stdout stderr

/-- Of each package the first report in an output counts. So an output tells what its first part
tells, filled up with what the rest tells, lines that report nothing can be put in at every line
boundary, and the error stream of a command never hides a version that its other stream reports. -/
theorem first_report_counts :
    (∀ a b, installed (a ++ "\n" ++ b) = (installed a).fillMissing (installed b)) ∧
    (∀ before inserted after, Text.WholeLines before → Silent inserted →
      (Text.WholeLines inserted ∨ after = "") →
        installed (before ++ inserted ++ after) = installed (before ++ after)) ∧
    (∀ output inserted, Silent inserted →
      installed (output ++ "\n" ++ inserted) = installed output) ∧
    ∀ stdout stderr,
      installed (Ssh.joinStreams stdout stderr) =
        (installed stdout).fillMissing (installed stderr) ∧
      ∀ p version, (installed stdout).get p = some version →
        (installed (Ssh.joinStreams stdout stderr)).get p = some version := by
  refine ⟨installed_append, fun _ _ _ => installed_of_silent_inserted, fun output inserted h => ?_,
    fun stdout stderr => ⟨installed_joinStreams stdout stderr, fun p version hversion => ?_⟩⟩
  · rw [installed_append, h.installed_eq, InstalledVersions.fillMissing_empty]
  · rw [installed_joinStreams, InstalledVersions.get_fillMissing, hversion, Option.some_or]

theorem first_report_counts_sample :
    installed "hb:2.1.4\ncommand not found\npm:1.0.9\nhb:3.0.5" =
        { heartbeat := some "2.1.4", pacemaker := some "1.0.9" } ∧
      (installed (Ssh.joinStreams "8.4.1" "drbd:8.3.11")).drbd = some "8.4.1" := by
  have hsilent : Silent "command not found\n" := by
    unfold Silent
    decide +kernel
  obtain ⟨-, hinsert, -, hjoin⟩ := first_report_counts
  have hinserted := hinsert "hb:2.1.4\n" "command not found\n" "pm:1.0.9\nhb:3.0.5"
    (.inr ⟨"hb:2.1.4", rfl⟩) hsilent (.inl (.inr ⟨"command not found", rfl⟩))
  refine ⟨?_, (hjoin "8.4.1" "drbd:8.3.11").2 .drbd "8.4.1" (by decide +kernel)⟩
  have hrest : installed ("hb:2.1.4\n" ++ "pm:1.0.9\nhb:3.0.5") =
      { heartbeat := some "2.1.4", pacemaker := some "1.0.9" } := by decide +kernel
  exact hinserted.trans hrest

end Version

end ClusterSetup

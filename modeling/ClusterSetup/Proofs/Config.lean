import ClusterSetup.Config.File

namespace ClusterSetup

namespace TimeoutConfig

/-- No call times out at once, and an install may take as long as any other command. -/
structure Usable (c : TimeoutConfig) : Prop where
  command_pos : 0 < c.command
  install_pos : 0 < c.install
  connect_pos : 0 < c.connect
  command_le_install : c.command ≤ c.install

theorem orDefault_pos {default : Nat} (h : 0 < default) (value : Nat) :
    0 < orDefault value default := by
  rw [orDefault]
  split
  · exact h
  · exact Nat.pos_of_ne_zero ‹_›

theorem orDefault_of_pos {value : Nat} (h : 0 < value) (default : Nat) :
    orDefault value default = value := if_neg (Nat.ne_of_gt h)

theorem le_orDefault (value default : Nat) : value ≤ orDefault value default := by
  rcases Nat.eq_zero_or_pos value with rfl | hpos
  · exact Nat.zero_le _
  · exact Nat.le_of_eq (orDefault_of_pos hpos default).symm

theorem usable_normalize (c : TimeoutConfig) : c.normalize.Usable where
  command_pos := orDefault_pos (by decide) c.command
  install_pos := Nat.lt_of_lt_of_le (orDefault_pos (by decide) c.install) (Nat.le_max_left _ _)
  connect_pos := orDefault_pos (by decide) c.connect
  command_le_install := Nat.le_max_right _ _

theorem Usable.normalize_eq {c : TimeoutConfig} (h : c.Usable) : c.normalize = c := by
  rw [normalize, orDefault_of_pos h.command_pos, orDefault_of_pos h.install_pos,
    orDefault_of_pos h.connect_pos, Nat.max_eq_left h.command_le_install]

end TimeoutConfig

namespace SshConfig

structure Usable (c : SshConfig) : Prop where
  binary_not_blank : Text.isBlank c.binary = false
  connectTimeout_pos : 0 < c.connectTimeout

theorem usable_normalize (c : SshConfig) : c.normalize.Usable where
  binary_not_blank := by
    rw [normalize]
    dsimp only
    split
    · decide +kernel
    · rename_i hbinary
      exact Bool.eq_false_iff.mpr hbinary
  connectTimeout_pos := TimeoutConfig.orDefault_pos (by decide) c.connectTimeout

theorem Usable.normalize_eq {c : SshConfig} (h : c.Usable) : c.normalize = c := by
  rw [normalize, h.binary_not_blank, TimeoutConfig.orDefault_of_pos h.connectTimeout_pos]
  rfl

end SshConfig

namespace Config

structure Usable (c : Config) : Prop where
  timeouts : c.timeouts.Usable
  ssh : c.ssh.Usable

theorem usable_normalize (c : Config) : c.normalize.Usable :=
  ⟨c.timeouts.usable_normalize, c.ssh.usable_normalize⟩

theorem Usable.normalize_eq {c : Config} (h : c.Usable) : c.normalize = c := by
  rw [normalize, h.timeouts.normalize_eq, h.ssh.normalize_eq]

variable {decode : ConfigDecoder}

theorem ofToml_eq_ok_iff {text : String} {c : Config} :
    ofToml decode text = .ok c ↔ ∃ read, decode text = .ok read ∧ c = read.normalize := by
  rw [ofToml]
  cases decode text with
  | error reason => simp
  | ok read => simp [eq_comm]

theorem usable_of_ofToml {text : String} {c : Config} (h : ofToml decode text = .ok c) :
    c.Usable := by
  obtain ⟨read, -, rfl⟩ := ofToml_eq_ok_iff.mp h
  exact read.usable_normalize

theorem ofEntries?_nil : ofEntries? [] = some {} := rfl

theorem ofToml_empty (h : decode.ReadsEmpty) : ofToml decode "" = .ok default := by
  rw [ConfigDecoder.ReadsEmpty, ofEntries?_nil] at h
  cases hread : decode "" with
  | error reason =>
      rw [hread] at h
      cases h
  | ok read =>
      rw [hread] at h
      exact ofToml_eq_ok_iff.mpr ⟨{}, by rw [hread, Option.some.inj h], rfl⟩

end Config

namespace ConfigFile

variable {decode : ConfigDecoder}

theorem usable_of_load {file : FileState} {c : Config} (h : load decode file = .ok c) :
    c.Usable := by
  cases file with
  | content bytes =>
      rw [load] at h
      split at h
      · exact Config.usable_of_ofToml h
      · cases h
  | _ => cases h

theorem loadDefault_of_path {configHome home : Option String} {place : String}
    (hplace : path configHome home = .ok place) (file : String → FileState) :
    loadDefault decode configHome home file =
      if file place = .absent then .ok .default else load decode (file place) := by
  rw [loadDefault, hplace]
  dsimp only
  split
  · rename_i habsent
    rw [if_pos habsent]
  · rename_i hfound
    rw [if_neg hfound]

theorem usable_of_loadDefault {configHome home : Option String} {file : String → FileState}
    {c : Config} (h : loadDefault decode configHome home file = .ok c) : c.Usable := by
  cases hplace : path configHome home with
  | error e =>
      rw [loadDefault, hplace] at h
      cases h
  | ok place =>
      rw [loadDefault_of_path hplace] at h
      split at h
      · cases h
        exact Config.usable_normalize {}
      · exact usable_of_load h

end ConfigFile

namespace Config

/-- Whatever was decoded, its normal form can be used and is its own normal form. What can be used
is left as it is, no time is shortened, and nothing but times and the name of the client is touched.
So what is read from a text or a file can be used, whatever decodes the text, and without a file the
configuration is that of the empty text, where that stands for a document without entries. -/
theorem usable_however_obtained (decode : ConfigDecoder) (c : Config) :
    c.normalize.Usable ∧ c.normalize.normalize = c.normalize ∧ (c.Usable → c.normalize = c) ∧
    (c.timeouts.command ≤ c.normalize.timeouts.command ∧
      c.timeouts.install ≤ c.normalize.timeouts.install ∧
      c.timeouts.connect ≤ c.normalize.timeouts.connect ∧
      c.ssh.connectTimeout ≤ c.normalize.ssh.connectTimeout) ∧
    c.normalize = { c with
      timeouts := c.normalize.timeouts
      ssh := { c.ssh with
        binary := c.normalize.ssh.binary
        connectTimeout := c.normalize.ssh.connectTimeout } } ∧
    (∀ text, decode text = .ok c → ofToml decode text = .ok c.normalize) ∧
    ((∃ text, ofToml decode text = .ok c) ∨ (∃ file, ConfigFile.load decode file = .ok c) ∨
      (∃ configHome home file, ConfigFile.loadDefault decode configHome home file = .ok c) →
        c.Usable) ∧
    (decode.ReadsEmpty → ∀ configHome home place file,
      ConfigFile.path configHome home = .ok place → file place = FileState.absent →
        ConfigFile.loadDefault decode configHome home file = ofToml decode "" ∧
          ofToml decode "" = .ok .default) := by
  refine ⟨c.usable_normalize, c.usable_normalize.normalize_eq, Usable.normalize_eq,
    ⟨?_, ?_, ?_, ?_⟩, rfl, fun text hread => ?_, ?_, ?_⟩
  · exact TimeoutConfig.le_orDefault _ _
  · exact Nat.le_trans (TimeoutConfig.le_orDefault _ _) (Nat.le_max_left _ _)
  · exact TimeoutConfig.le_orDefault _ _
  · exact TimeoutConfig.le_orDefault _ _
  · exact ofToml_eq_ok_iff.mpr ⟨c, hread, rfl⟩
  · rintro (⟨text, htext⟩ | ⟨file, hfile⟩ | ⟨configHome, home, file, hfile⟩)
    · exact usable_of_ofToml htext
    · exact ConfigFile.usable_of_load hfile
    · exact ConfigFile.usable_of_loadDefault hfile
  · intro hempty configHome home place file hplace habsent
    rw [ConfigFile.loadDefault_of_path hplace, if_pos habsent]
    exact ⟨(ofToml_empty hempty).symm, ofToml_empty hempty⟩

theorem decode_eq_ok {text : String} {c : Config}
    (h : (Toml.read text).bind ofEntries? = some c) : decode text = .ok c := by
  obtain ⟨entries, hparse, hfields⟩ := Option.bind_eq_some_iff.mp h
  simp only [decode, hparse, hfields]

theorem decode_readsEmpty : decode.ReadsEmpty := by
  rw [ConfigDecoder.ReadsEmpty, decode_eq_ok (c := {}) (by decide +kernel), ofEntries?_nil]
  rfl

theorem usable_however_obtained_sample :
    let text := "[timeouts]\ncommand_ms = 0\ninstall_ms = 10\n[ssh]\nbinary = ' '\n"
    let read : Config := { timeouts := ⟨0, 10, 30000⟩, ssh := { binary := " " } }
    let repaired : Config := { timeouts := ⟨60000, 60000, 30000⟩ }
    read.normalize = repaired ∧ ofToml decode text = .ok repaired ∧ repaired.Usable ∧
      repaired.normalize = repaired ∧ decode.ReadsEmpty ∧
      ConfigFile.loadDefault decode none (some "/root") (fun _ => .absent) = ofToml decode "" := by
  intro text read repaired
  have hread : decode text = .ok read := decode_eq_ok (by decide +kernel)
  have hrepaired : read.normalize = repaired := by decide +kernel
  obtain ⟨-, -, -, -, -, htext, -, hdefault⟩ := usable_however_obtained decode read
  rw [hrepaired] at htext
  obtain ⟨-, -, hkept, -, -, -, husable, -⟩ := usable_however_obtained decode repaired
  obtain ⟨habsent, -⟩ := hdefault decode_readsEmpty none (some "/root")
    "/root/.config/hainst/config.toml" (fun _ => .absent)
    (congrArg Except.ok (by decide +kernel)) rfl
  have husable := husable (.inl ⟨text, htext text hread⟩)
  exact ⟨hrepaired, htext text hread, husable, hkept husable, decode_readsEmpty, habsent⟩

end Config

end ClusterSetup

import ClusterSetup.CommandLine.Program
import ClusterSetup.Proofs.Methods

namespace ClusterSetup.Session

variable {s : Session} {c : Component} {n : Nat} {m : InstallMethod}

theorem find?_methods_iff :
    (s.methods c).find? n = some m ↔
      Step.methodOf s.enterContext c n = some m ∧
        (m.staging = false ∨ s.options.staging.get c = true) :=
  Resources.find?_methods_iff

theorem methodOf_of_offered (h : (s.methods c).find? n = some m) :
    Step.methodOf s.enterContext c n = some m :=
  (find?_methods_iff.mp h).1

theorem lacksCredentials_of_offered (h : (s.methods c).find? n = some m) :
    Step.lacksCredentials s.enterContext c n =
      (m.usesVendorRepository && s.credentials.isNone) := by
  rw [Step.lacksCredentials, methodOf_of_offered h, Option.any_some]
  rfl

theorem installCommand_of_offered (h : (s.methods c).find? n = some m) :
    Step.installCommand s.enterContext c n =
      InstallCommand.render s.resources s.host c m
        ⟨s.credentials, s.cluster.map (·.stackPassword)⟩ := by
  rw [Step.installCommand, methodOf_of_offered h, Option.bind_some]
  rfl

theorem methods_of_config {config : Config} (hoptions : s.options = config.sessionOptions)
    (hhost : s.host.rememberedMethod c = none) {info : DistInfo}
    (hdist : s.host.dist.dist = info.dist) (hversion : s.host.dist.version = info.version) :
    s.methods c = s.resources.methods info c (config.staging.enabledFor c)
      (config.remembered.toTable.get c) := by
  rw [methods, hhost, hoptions, Resources.methods_congr hdist hversion]
  simp only [Config.sessionOptions, PerComponent.get_ofFn, Option.orElse_eq_orElse,
    Option.orElse_eq_or, Option.none_or]

theorem listedMethods_of_config {config : Config} {o : CommandLine.Options}
    {release : Option String} {dist : String} (hoptions : s.options = config.sessionOptions)
    (hhost : s.host.rememberedMethod c = none) (htable : s.resources = .builtin)
    (hdist : s.host.dist.dist = some dist)
    (hversion : s.host.dist.version = (release <|> o.distVersion)) :
    CommandLine.listedMethods o config release dist c = s.methods c := by
  rw [CommandLine.listedMethods, ← htable]
  exact (methods_of_config hoptions hhost hdist hversion).symm

/-- What a session offers is what a step of an install looks its method up in, without the staging
methods where staging is off. Under the number of an offered method a step finds that very method,
so that it asks for credentials if and only if the method needs them, and sends the command of the
method. In a session with the options of a configuration, on a host that remembers no method, the
offer with its default is the one that the resources have for the family and the release of the host
under that configuration, and the one that is listed without a session, as a record or as a text. -/
theorem method_lookups_agree (s : Session) (c : Component) :
    (s.methods c).methods =
      (s.resources.methods s.host.dist c true none).methods.filter
        (fun m => !m.staging || s.options.staging.get c) ∧
    (∀ n, Step.methodOf s.enterContext c n =
      (s.resources.methods s.host.dist c true none).find? n) ∧
    (∀ n m, (s.methods c).find? n = some m ↔
      Step.methodOf s.enterContext c n = some m ∧
        (m.staging = false ∨ s.options.staging.get c = true)) ∧
    (∀ n m, (s.methods c).find? n = some m →
      Step.lacksCredentials s.enterContext c n =
          (m.usesVendorRepository && s.credentials.isNone) ∧
        Step.installCommand s.enterContext c n =
          InstallCommand.render s.resources s.host c m
            ⟨s.credentials, s.cluster.map (·.stackPassword)⟩) ∧
    ∀ config : Config, s.options = config.sessionOptions → s.host.rememberedMethod c = none →
      (∀ info : DistInfo, s.host.dist.dist = info.dist → s.host.dist.version = info.version →
        s.methods c = s.resources.methods info c (config.staging.enabledFor c)
          (config.remembered.toTable.get c)) ∧
      ∀ (o : CommandLine.Options) (release : Option String) (dist : String),
        s.resources = .builtin → o.dist = some dist → s.host.dist.dist = some dist →
        s.host.dist.version = (release <|> o.distVersion) →
        CommandLine.listedMethods o config release dist c = s.methods c ∧
          CommandLine.listMethods o config release c =
            if o.json then .telling (CommandLine.methodsRecord c (s.methods c))
            else .printing ((s.methods c).listing c) := by
  refine ⟨Resources.methods_eq_filter s.resources s.host.dist c _ _, fun n => rfl,
    fun n m => find?_methods_iff, fun n m hoffered => ?_, fun config hoptions hhost => ⟨?_, ?_⟩⟩
  · exact ⟨lacksCredentials_of_offered hoffered, installCommand_of_offered hoffered⟩
  · exact fun info hdist hversion => methods_of_config hoptions hhost hdist hversion
  · intro o release dist htable hnamed hdist hversion
    have hlisted : CommandLine.listedMethods o config release dist c = s.methods c :=
      listedMethods_of_config hoptions hhost htable hdist hversion
    refine ⟨hlisted, ?_⟩
    rw [CommandLine.listMethods, hnamed]
    dsimp only
    rw [hlisted]

def fedoraOptions : CommandLine.Options := { dist := some "fedora", distVersion := some "16" }

def stagingConfig : Config :=
  { staging := { pacemaker := true }, remembered := { pacemaker := some 2 } }

def fedoraSession : Session :=
  .new (CommandLine.buildHost fedoraOptions "10.0.0.1" none) .builtin .manual
    stagingConfig.sessionOptions

theorem method_lookups_agree_sample :
    Step.methodOf fedoraSession.enterContext .corosync 2 =
        some ⟨2, "clusterlabs staging: yum", .packageManager, true⟩ ∧
      Step.lacksCredentials fedoraSession.enterContext .corosync 2 = false ∧
      CommandLine.listMethods fedoraOptions stagingConfig none .corosync =
        .printing ((fedoraSession.methods .corosync).listing .corosync) := by
  obtain ⟨-, -, hfind, hentered, hconfig⟩ := method_lookups_agree fedoraSession .corosync
  have hoffered : (fedoraSession.methods .corosync).find? 2 =
      some ⟨2, "clusterlabs staging: yum", .packageManager, true⟩ := by
    decide +kernel
  refine ⟨((hfind 2 _).mp hoffered).1, ?_, ?_⟩
  · rw [(hentered 2 _ hoffered).1]
    rfl
  · exact ((hconfig stagingConfig rfl rfl).2 fedoraOptions none "fedora" rfl rfl rfl rfl).2

end ClusterSetup.Session

import LintBridge.Proofs.Manifest
import LintBridge.Proofs.Resolver.Basic

/-! What a workspace says of a package: what its manifest says, if the configuration names one. It
depends on the files and on the configuration alone, so it is the same as long as these stay. -/

namespace LintBridge

/-- The same machine as far as its files and its configuration go. Lines may be logged, modules
loaded and called, and the configuration may be read. -/
structure Host.Stays (h h' : Host) : Prop where
  files : h'.files = h.files
  globally : h'.globalDirectories = h.globalDirectories
  linter : h'.linterConfig.1 = h.linterConfig.1

namespace Host

variable {h h' h'' : Host}

theorem Stays.refl (h : Host) : h.Stays h := ⟨rfl, rfl, rfl⟩

theorem Stays.trans (a : h.Stays h') (b : h'.Stays h'') : h.Stays h'' :=
  ⟨b.files.trans a.files, b.globally.trans a.globally, b.linter.trans a.linter⟩

/-- What the configuration says is found where the machine has it in use, else in its files. -/
theorem linterConfig_congr (files : h'.files = h.files) (home : h'.home = h.home)
    (environment : h'.configVariable = h.configVariable) (config : h'.config? = h.config?) :
    h'.linterConfig.1 = h.linterConfig.1 := by
  simp only [linterConfig, currentConfig, readConfig, configFile, files, home, environment, config]
  cases h.config? with
  | some c => rfl
  | none => cases Config.read h.files h.home (Config.fileFor h.home none h.configVariable) <;> rfl

theorem stays_note (h : Host) (level : LogLevel) (message : String) :
    h.Stays (h.note level message) :=
  ⟨rfl, rfl, linterConfig_congr rfl rfl rfl rfl⟩

theorem stays_imports (h : Host) (imports : LintModule.Imports) :
    h.Stays { h with imports := imports } :=
  ⟨rfl, rfl, linterConfig_congr rfl rfl rfl rfl⟩

/-- Once it has been asked for, the configuration says the same. -/
theorem stays_linterConfig (h : Host) : h.Stays h.linterConfig.2 := by
  cases hc : h.config? with
  | some c =>
    rw [linterConfig_of_config hc]
    exact .refl h
  | none =>
    simp only [linterConfig, currentConfig, readConfig, hc]
    split
    · exact .refl h
    · rename_i c hread
      refine ⟨rfl, rfl, ?_⟩
      simp only [linterConfig, currentConfig, readConfig, hc, hread]

end Host

namespace Workspace

/-- What a workspace says of a package: what the manifest says that the configuration names. It is
an error if the configuration cannot be read, or gives no text as the manifest's name. -/
inductive Says (h : Host) (root package : String) : Except Fault Bool → Prop where
  | manifest (linter : LinterSection) (name : String) (result : Except Fault Bool)
      (configured : h.linterConfig.1 = .ok linter) (named : linter.manifestName = .str name)
      (answered : Manifest.Says h.files (Manifest.path ⟨Path.ofString root, Path.ofString name⟩)
        package result) : Says h root package result
  | unnamed (linter : LinterSection) (configured : h.linterConfig.1 = .ok linter)
      (named : linter.manifestName.text? = none) :
      Says h root package (.error (.noJoin linter.manifestName.typeName))
  | unconfigured (e : Fault) (configured : h.linterConfig.1 = .error e) :
      Says h root package (.error e)

variable {h h' : Host} {root package : String} {result : Except Fault Bool}

theorem exists_answer (h : Host) (root package : String) : ∃ result, Says h root package result := by
  cases hc : h.linterConfig.1 with
  | error e => exact ⟨_, .unconfigured e hc⟩
  | ok linter =>
    cases hn : linter.manifestName with
    | str name =>
      obtain ⟨result, hanswer⟩ := Manifest.exists_answer h.files
        (Manifest.path ⟨Path.ofString root, Path.ofString name⟩) package
      exact ⟨result, .manifest linter name result hc hn hanswer⟩
    | _ => exact ⟨_, .unnamed linter hc (by rw [hn]; rfl)⟩

theorem Says.stays (hs : Says h root package result) (stays : h.Stays h') :
    Says h' root package result := by
  cases hs with
  | manifest linter name result configured named answered =>
    exact .manifest linter name result (stays.linter.trans configured) named (stays.files ▸ answered)
  | unnamed linter configured named => exact .unnamed linter (stays.linter.trans configured) named
  | unconfigured e configured => exact .unconfigured e (stays.linter.trans configured)

/-- The manifest is asked once the configuration has named it. -/
theorem declares_eq (h : Host) (root package : String) :
    (declares h root package).1 = match h.linterConfig.1 with
      | .error e => .error e
      | .ok linter => (declaresIn h.linterConfig.2 root linter.manifestName package).1 := by
  have hname : manifestName h .null =
      (h.linterConfig.1.map LinterSection.manifestName, h.linterConfig.2) := rfl
  simp only [declares, hname]
  cases h.linterConfig.1 <;> rfl

theorem map_bind_map {α β γ δ : Type} (x : Except Fault α) (f : α → Except Fault β) (g : β → γ)
    (k : γ → δ) : (x >>= fun a => (f a).map g).map k = x >>= fun a => (f a).map fun b => k (g b) := by
  cases x with
  | error e => rfl
  | ok a =>
    dsimp only [bind, Except.bind]
    cases f a <;> rfl

theorem dependencies_eq (h : Host) (root : String) (name : Json) :
    (dependencies h root name).1 = manifestPath root name >>= fun path =>
      (Manifest.read h.files path).map (·.getD []) := by
  rw [dependencies]
  cases manifestPath root name with
  | error e => rfl
  | ok path =>
    dsimp only [bind, Except.bind]
    cases Manifest.read h.files path with
    | error e => rfl
    | ok found => cases found <;> rfl

theorem declaresIn_eq (h : Host) (root : String) (name : Json) (package : String) :
    (declaresIn h root name package).1 = manifestPath root name >>= fun path =>
      (Manifest.read h.files path).map (Manifest.answer package) := by
  have hmembers : (declaresIn h root name package).1 =
      (dependencies h root name).1.map fun ms => (ms.get? package).isSome := rfl
  rw [hmembers, dependencies_eq, map_bind_map]
  rfl

/-- Whether the manifest of a name declares a package is what the manifest says. -/
theorem declaresIn_str (h : Host) (root name package : String) :
    (declaresIn h root (.str name) package).1 =
      (Manifest.read h.files (Manifest.path ⟨Path.ofString root, Path.ofString name⟩)).map
        (Manifest.answer package) :=
  declaresIn_eq h root (.str name) package

theorem declares_of_answer (hs : Says h root package result) :
    (declares h root package).1 = result := by
  rw [declares_eq]
  cases hs with
  | manifest linter name result configured named answered =>
    simp only [configured, named, declaresIn_str, h.stays_linterConfig.files]
    exact Manifest.read_of_answer answered
  | unnamed linter configured named =>
    simp only [configured]
    cases hn : linter.manifestName <;> simp [hn, Json.text?] at named <;> rfl
  | unconfigured e configured => simp only [configured]

theorem declares_stays (h : Host) (root package : String) :
    h.Stays (declares h root package).2 := by
  have hname : (manifestName h .null).2 = h.linterConfig.2 := rfl
  have hfirst := h.stays_linterConfig
  rw [← hname] at hfirst
  simp only [declares]
  split <;> rename_i hn <;> rw [hn] at hfirst
  · exact hfirst
  · refine hfirst.trans ?_
    simp only [declaresIn, dependencies]
    split
    · exact .refl _
    · split
      · exact .refl _
      · exact .refl _
      · exact Host.stays_note _ _ _

end Workspace

end LintBridge

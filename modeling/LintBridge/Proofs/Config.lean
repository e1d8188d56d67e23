import LintBridge.Host
import LintBridge.Proofs.Lists
import LintBridge.Proofs.Manifest

/-! When a configuration can be read, and what it says then. A section of the file may be missing, and
else it is an object with known keys. Every setting is the value that the file has for its key, or else
the default, seen from the home directory. A file that cannot be used is an error that names it, and
the configuration in use stays. -/

namespace LintBridge.Config

/-- What a file says in a section with these defaults: nothing if the section is missing, else the
members of an object, whose keys are all known. -/
inductive IsSection (defaults : Members) : Option Json → Members → Prop where
  | missing : IsSection defaults none []
  | object (given : Members) (known : ∀ key ∈ given.keys, key ∈ defaults.keys) :
      IsSection defaults (some (.obj given)) given

/-- What the file at a path says in its two sections: nothing if it does not exist, else what the
sections of an object say, whatever else stands in it. -/
inductive Gives (fs : FileSystem) (file : String) : Members → Members → Prop where
  | missing (gone : fs.reaches file = false) : Gives fs file [] []
  | object (sections logging linter : Members)
      (reads : Manifest.Reads fs file (.ok (.obj sections)))
      (logs : IsSection loggingDefaults (sections.get? "logging") logging)
      (lints : IsSection linterDefaults (sections.get? "linter") linter) :
      Gives fs file logging linter

/-- The value of a setting: that which is given for its key, else the default, seen from the home
directory. -/
def setting (home : String) (defaults given : Members) (key : String) : Json :=
  expand home (.ofOption ((given.get? key).or (defaults.get? key)))

/-- The configuration with these settings. -/
def described (home file : String) (logging linter : Members) : Config :=
  let logs := setting home loggingDefaults logging
  let lints := setting home linterDefaults linter
  ⟨⟨logs "level", logs "format", logs "logs_dir"⟩,
    ⟨lints "module_name", lints "entry_point", lints "source_name", lints "manifest_name"⟩, file⟩

/-! ### Expanded members -/

variable {home file group key : String} {defaults given sections logging linter ms : Members}
  {v : Option Json} {c : Config}

theorem keys_expandMembers (home : String) (ms : Members) :
    Members.keys (expandMembers home ms) = ms.keys := by
  induction ms with
  | nil => rfl
  | cons p ms ih => rw [expandMembers, Members.keys_cons, Members.keys_cons, ih]

theorem get?_expandMembers (home : String) (ms : Members) (key : String) :
    Members.get? (expandMembers home ms) key = (ms.get? key).map (expand home) := by
  induction ms with
  | nil => rfl
  | cons p ms ih =>
    simp only [Members.get?] at ih ⊢
    rw [expandMembers, Table.lookup_cons, Table.lookup_cons, ih]
    by_cases hkey : key = p.1 <;> simp [hkey]

/-- What is found among the expanded members is the setting. -/
theorem valueOf_expandMembers (hgiven : given.keys.Nodup) :
    valueOf (expandMembers home (defaults.overlay given)) key = setting home defaults given key := by
  rw [valueOf, get?_expandMembers, Members.get?_overlay _ hgiven, setting]
  cases (given.get? key).or (defaults.get? key) <;> simp [Json.ofOption, expand]

/-! ### Sections -/

theorem checkKeys_eq_ok_iff {known : List String} :
    checkKeys group known ms = .ok () ↔ ∀ key ∈ ms.keys, key ∈ known := by
  simp only [checkKeys]
  split
  · rename_i hnone
    simpa using List.find?_eq_none.mp hnone
  · rename_i key hkey
    have hmem := List.mem_of_find?_eq_some hkey
    have hunknown := List.find?_some hkey
    constructor
    · intro h
      cases h
    · intro h
      simp [h key hmem] at hunknown

/-- A section can be merged and has known keys exactly if the file says something in it. -/
theorem merged_iff_isSection (group home : String) :
    (merged defaults v = .ok ms ∧ checkKeys group defaults.keys (expandMembers home ms) = .ok ()) ↔
      ∃ given, IsSection defaults v given ∧ ms = defaults.overlay given := by
  rw [checkKeys_eq_ok_iff, keys_expandMembers]
  constructor
  · rintro ⟨hmerged, hkeys⟩
    cases v with
    | none =>
      cases hmerged
      exact ⟨[], .missing, rfl⟩
    | some v =>
      cases v with
      | obj given =>
        cases hmerged
        refine ⟨given, .object given fun key hkey => ?_, rfl⟩
        exact hkeys key (Members.mem_keys_overlay.mpr (.inr hkey))
      | _ => cases hmerged
  · rintro ⟨given, hsection, rfl⟩
    cases hsection with
    | missing => exact ⟨rfl, fun _ hkey => hkey⟩
    | object _ known =>
      refine ⟨rfl, fun key hkey => ?_⟩
      exact (Members.mem_keys_overlay.mp hkey).elim id (known key)

theorem nodup_of_isSection (hread : Json.IsRead (.obj sections))
    (h : IsSection defaults (Members.get? sections key) given) : given.keys.Nodup := by
  generalize hv : Members.get? sections key = v at h
  cases h with
  | missing => exact List.nodup_nil
  | object => exact Json.nodup_keys_of_isRead (Json.isRead_of_get? hread hv)

/-! ### Files -/

/-- An object that was read describes a configuration exactly if it says something in both
sections. -/
theorem ofContent_eq_ok_iff (hread : Json.IsRead (.obj sections)) :
    ofContent home file (.obj sections) = .ok c ↔
      ∃ logging linter, IsSection loggingDefaults (Members.get? sections "logging") logging ∧
        IsSection linterDefaults (Members.get? sections "linter") linter ∧
        c = described home file logging linter := by
  -- The settings are the same whichever side is given.
  have hdescribed : ∀ logging linter,
      IsSection loggingDefaults (Members.get? sections "logging") logging →
      IsSection linterDefaults (Members.get? sections "linter") linter →
      (⟨loggingOf (expandMembers home (loggingDefaults.overlay logging)),
        linterOf (expandMembers home (linterDefaults.overlay linter)), file⟩ : Config) =
          described home file logging linter := by
    intro logging linter logs lints
    simp only [loggingOf, linterOf, valueOf_expandMembers (nodup_of_isSection hread logs),
      valueOf_expandMembers (nodup_of_isSection hread lints), described]
  constructor
  · intro h
    obtain ⟨_, hlogging, h⟩ := bind_eq_ok h
    obtain ⟨_, hlinter, h⟩ := bind_eq_ok h
    obtain ⟨_, hlogs, h⟩ := bind_eq_ok h
    obtain ⟨_, hlints, h⟩ := bind_eq_ok h
    obtain ⟨logging, logs, rfl⟩ := (merged_iff_isSection _ _).mp ⟨hlogging, hlogs⟩
    obtain ⟨linter, lints, rfl⟩ := (merged_iff_isSection _ _).mp ⟨hlinter, hlints⟩
    exact ⟨logging, linter, logs, lints,
      (Except.ok.inj h).symm.trans (hdescribed logging linter logs lints)⟩
  · rintro ⟨logging, linter, logs, lints, rfl⟩
    obtain ⟨hlogging, hlogs⟩ :=
      (merged_iff_isSection "LoggingConfig" home).mpr ⟨logging, logs, rfl⟩
    obtain ⟨hlinter, hlints⟩ :=
      (merged_iff_isSection "LinterConfig" home).mpr ⟨linter, lints, rfl⟩
    rw [← hdescribed logging linter logs lints]
    simp only [ofContent, hlogging, hlinter, hlogs, hlints, bind, Except.bind, pure, Except.pure]

theorem content_eq_ok_iff {fs : FileSystem} {v : Json} :
    content fs file = .ok v ↔
      fs.reaches file = false ∧ v = .obj [] ∨ Manifest.Reads fs file (.ok v) := by
  rw [content, Manifest.Reads]
  cases fs.reaches file with
  | false => simp [eq_comm]
  | true =>
    cases htext : fs.readText file with
    | error e => simp [bind, Except.bind]
    | ok text => cases hread : Json.read (String.ofList text) <;> simp [bind, Except.bind, hread]

theorem read_eq_ok_iff {fs : FileSystem} :
    read fs home file = .ok c ↔
      ∃ logging linter, Gives fs file logging linter ∧ c = described home file logging linter := by
  have hread : read fs home file = .ok c ↔ ∃ v, content fs file = .ok v ∧
      ofContent home file v = .ok c := by
    rw [read]
    cases hcontent : content fs file with
    | error e => simp [bind, Except.bind]
    | ok v => cases hof : ofContent home file v <;> simp [bind, Except.bind, hof]
  rw [hread]
  constructor
  · rintro ⟨v, hcontent, hof⟩
    obtain ⟨gone, rfl⟩ | reads := content_eq_ok_iff.mp hcontent
    · exact ⟨[], [], .missing gone, (Except.ok.inj hof).symm⟩
    · cases v with
      | obj sections =>
        obtain ⟨logging, linter, logs, lints, rfl⟩ := (ofContent_eq_ok_iff reads.isRead).mp hof
        exact ⟨logging, linter, .object sections logging linter reads logs lints, rfl⟩
      | _ => cases hof
  · rintro ⟨logging, linter, gives, rfl⟩
    cases gives with
    | missing gone => exact ⟨.obj [], content_eq_ok_iff.mpr (.inl ⟨gone, rfl⟩), rfl⟩
    | object sections _ _ reads logs lints =>
      exact ⟨.obj sections, content_eq_ok_iff.mpr (.inr reads),
        (ofContent_eq_ok_iff reads.isRead).mpr ⟨logging, linter, logs, lints, rfl⟩⟩

/-- A configuration can be read exactly if its file does not exist, or holds an object whose two
sections are missing or have known keys only. Then every setting is the file's value for its key, or
else the default, seen from the home directory. Any other file is an error that names it, and when the
configuration in use was to be read anew, it stays as it is. -/
theorem configuration_is_read_iff (h : Host) (file : String) :
    (∀ c, read h.files h.home file = .ok c ↔ ∃ logging linter,
      Gives h.files file logging linter ∧ c = described h.home file logging linter) ∧
    ((¬ ∃ logging linter, Gives h.files file logging linter) ↔
      ∃ e, read h.files h.home file = .error e) ∧
    (∀ e, read h.files h.home file = .error e → e.kind = "ValueError" ∧
      ∃ cause, e.message = "Failed to load config file " ++ file ++ ": " ++ cause) ∧
    h.readConfig.1.map Prod.snd = read h.files h.home h.configFile ∧
    ∀ e, h.readConfig.1 = .error e → h.readConfig.2 = h := by
  refine ⟨fun c => read_eq_ok_iff, ?_, fun e he => ?_, ?_, fun e he => ?_⟩
  · cases hread : read h.files h.home file with
    | ok c =>
      obtain ⟨logging, linter, gives, -⟩ := read_eq_ok_iff.mp hread
      exact ⟨fun hnone => absurd ⟨logging, linter, gives⟩ hnone, fun ⟨e, he⟩ => by cases he⟩
    | error e =>
      refine ⟨fun _ => ⟨e, rfl⟩, fun _ ⟨logging, linter, gives⟩ => ?_⟩
      have hok : read h.files h.home file = .ok (described h.home file logging linter) :=
        read_eq_ok_iff.mpr ⟨logging, linter, gives, rfl⟩
      simp [hread] at hok
  · rw [read] at he
    split at he
    · cases he
    · cases he
      exact ⟨rfl, _, rfl⟩
  · rw [Host.readConfig]
    cases read h.files h.home h.configFile <;> rfl
  · rw [Host.readConfig] at he ⊢
    split at he
    · rfl
    · cases he

/-- A file with one key of one section keeps the other defaults, and what else it holds does not
matter. -/
example : (ofContent "/h" "f" (.obj [("linter", .obj [("entry_point", .str "~/x")]), ("z", .null)])).map
    (fun c => (c.linter.entryPoint, c.linter.moduleName, c.logging.directory)) =
      .ok (.str "/h/x", .str "marlint", .str "/h/.marlint/logs") := by
  rfl

end LintBridge.Config

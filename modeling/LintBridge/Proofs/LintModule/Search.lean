import LintBridge.Proofs.Resolver.Basic

/-! Which file a search for a module ends at. Directories are tried in order, those of the workspace
before those of the machine, and the first one that offers a file for the module wins. The machine's
directories are looked into only if the workspace has not even a directory of the module's name: one
without a file of its own hides whatever the machine has. -/

namespace LintBridge.LintModule

variable {fs : FileSystem} {name directory : String} {directories directories' : List String}

/-! ### One directory -/

/-- The directory exists and lists `entry`, and `path` leads to a file. -/
structure Holds (fs : FileSystem) (directory entry path : String) : Prop where
  there : fs.isDirectory directory = true
  listed : lists fs directory entry = true
  file : fs.isFile path = true

/-- The absolute form of a directory to search. -/
def placeOf (fs : FileSystem) (directory : String) : String :=
  searched (FileSystem.text fs.here) directory

/-- The file of the package of a name. -/
def packageFile (directory name : String) : String :=
  inside (inside directory name) "__init__.py"

/-- The plain file of a name. -/
def plainFile (directory name : String) : String :=
  inside directory (name ++ ".py")

/-- A directory offers the file of a package of the module's name, or if there is none, a plain
file. -/
inductive Offers (fs : FileSystem) (name directory : String) : Found → Prop where
  | package
      (package : Holds fs (placeOf fs directory) name (packageFile (placeOf fs directory) name)) :
      Offers fs name directory
        ⟨packageFile (placeOf fs directory) name, some (inside (placeOf fs directory) name)⟩
  | plain
      (alone : ¬ Holds fs (placeOf fs directory) name (packageFile (placeOf fs directory) name))
      (plain : Holds fs (placeOf fs directory) (name ++ ".py")
        (plainFile (placeOf fs directory) name)) :
      Offers fs name directory ⟨plainFile (placeOf fs directory) name, none⟩

/-- A directory offers no file, but holds a directory of the module's name. -/
structure IsBare (fs : FileSystem) (name directory : String) : Prop where
  empty : ∀ f, ¬ Offers fs name directory f
  there : fs.isDirectory (placeOf fs directory) = true
  listed : lists fs (placeOf fs directory) name = true
  bare : fs.isDirectory (inside (placeOf fs directory) name) = true

/-- A directory that no path leads to, whatever the files. -/
def IsNoPath (directory : String) : Prop :=
  directory.toList.contains '\x00' = true

/-- A directory offers one file at most. -/
theorem Offers.unique {f g : Found} (hf : Offers fs name directory f)
    (hg : Offers fs name directory g) : f = g := by
  cases hf with
  | package hp =>
    cases hg with
    | package => rfl
    | plain alone => exact absurd hp alone
  | plain alone =>
    cases hg with
    | package hp => exact absurd hp alone
    | plain => rfl

/-- What looking into one directory comes to. -/
inductive Look (fs : FileSystem) (name directory : String) : Except Fault Finding → Prop where
  | noPath (bad : IsNoPath directory) :
      Look fs name directory (.error (.file .nullCharacter directory))
  | file (f : Found) (offers : Offers fs name directory f) : Look fs name directory (.ok (.file f))
  | bare (bare : IsBare fs name directory) : Look fs name directory (.ok .bareDirectory)
  | nothing (empty : ∀ f, ¬ Offers fs name directory f) (bare : ¬ IsBare fs name directory) :
      Look fs name directory (.ok .nothing)

theorem findIn_eq (fs : FileSystem) (name directory : String) :
    findIn fs name directory =
      if directory.toList.contains '\x00' then .error (.file .nullCharacter directory)
      else if !fs.isDirectory (placeOf fs directory) then .ok .nothing
      else if lists fs (placeOf fs directory) name &&
          fs.isFile (packageFile (placeOf fs directory) name) then
        .ok (.file ⟨packageFile (placeOf fs directory) name,
          some (inside (placeOf fs directory) name)⟩)
      else if lists fs (placeOf fs directory) (name ++ ".py") &&
          fs.isFile (plainFile (placeOf fs directory) name) then
        .ok (.file ⟨plainFile (placeOf fs directory) name, none⟩)
      else if lists fs (placeOf fs directory) name &&
          fs.isDirectory (inside (placeOf fs directory) name) then .ok .bareDirectory
      else .ok .nothing := rfl

theorem findIn_look (fs : FileSystem) (name directory : String) :
    Look fs name directory (findIn fs name directory) := by
  rw [findIn_eq]
  split
  · rename_i bad
    exact .noPath bad
  · split
    · rename_i hmissing
      have hnone : ∀ entry path, ¬ Holds fs (placeOf fs directory) entry path := by
        intro entry path hold
        simp [hold.there] at hmissing
      refine .nothing ?_ fun hbare => ?_
      · rintro f (hold | ⟨-, hold⟩)
        · exact hnone _ _ hold
        · exact hnone _ _ hold
      · simp [hbare.there] at hmissing
    · rename_i hthere
      have hthere : fs.isDirectory (placeOf fs directory) = true := by simpa using hthere
      split
      · rename_i hpackage
        obtain ⟨hlisted, hfile⟩ := Bool.and_eq_true_iff.mp hpackage
        exact .file _ (.package ⟨hthere, hlisted, hfile⟩)
      · rename_i hpackage
        have halone : ¬ Holds fs (placeOf fs directory) name
            (packageFile (placeOf fs directory) name) :=
          fun hold => hpackage (Bool.and_eq_true_iff.mpr ⟨hold.listed, hold.file⟩)
        split
        · rename_i hplain
          obtain ⟨hlisted, hfile⟩ := Bool.and_eq_true_iff.mp hplain
          exact .file _ (.plain halone ⟨hthere, hlisted, hfile⟩)
        · rename_i hplain
          have hempty : ∀ f, ¬ Offers fs name directory f := by
            rintro f (hold | ⟨-, hold⟩)
            · exact halone hold
            · exact hplain (Bool.and_eq_true_iff.mpr ⟨hold.listed, hold.file⟩)
          split
          · rename_i hbare
            obtain ⟨hlisted, hbare⟩ := Bool.and_eq_true_iff.mp hbare
            exact .bare ⟨hempty, hthere, hlisted, hbare⟩
          · rename_i hbare
            exact .nothing hempty fun h =>
              hbare (Bool.and_eq_true_iff.mpr ⟨h.listed, h.bare⟩)

/-! ### Directories in order -/

/-- The file that the first directory offers of those that offer one. -/
inductive Selects (fs : FileSystem) (name : String) : List String → Option Found → Prop where
  | nothing : Selects fs name [] none
  | here {directory : String} {f : Found} (rest : List String)
      (offers : Offers fs name directory f) : Selects fs name (directory :: rest) (some f)
  | later {directory : String} {rest : List String} {found : Option Found}
      (empty : ∀ f, ¬ Offers fs name directory f) (selects : Selects fs name rest found) :
      Selects fs name (directory :: rest) found

/-- Directories select one file at most. -/
theorem Selects.unique {found found' : Option Found} (h : Selects fs name directories found)
    (h' : Selects fs name directories found') : found = found' := by
  induction h generalizing found' with
  | nothing =>
    cases h'
    rfl
  | here rest offers =>
    cases h' with
    | here rest offers' => rw [offers.unique offers']
    | later empty selects => exact absurd offers (empty _)
  | later empty selects ih =>
    cases h' with
    | here rest offers => exact absurd offers (empty _)
    | later empty' selects' => exact ih selects'

/-- Nothing is selected exactly if no directory offers a file. -/
theorem selects_none_iff :
    Selects fs name directories none ↔ ∀ d ∈ directories, ∀ f, ¬ Offers fs name d f := by
  induction directories with
  | nil => simp [Selects.nothing]
  | cons d rest ih =>
    rw [List.forall_mem_cons, ← ih]
    constructor
    · rintro (- | - | ⟨empty, selects⟩)
      exact ⟨empty, selects⟩
    · rintro ⟨empty, selects⟩
      exact .later empty selects

/-- A file that is selected stays selected if more directories follow. -/
theorem Selects.append_some {f : Found} (h : Selects fs name directories (some f))
    (more : List String) : Selects fs name (directories ++ more) (some f) := by
  generalize hfound : some f = found at h
  induction h with
  | nothing => simp at hfound
  | here rest offers => exact .here _ offers
  | later empty selects ih => exact .later empty (ih hfound)

/-- Directories that offer nothing leave the choice to those that follow. -/
theorem Selects.append_none {found : Option Found} (h : Selects fs name directories none)
    (h' : Selects fs name directories' found) :
    Selects fs name (directories ++ directories') found := by
  generalize hnone : (none : Option Found) = nothing at h
  induction h with
  | nothing => exact h'
  | here rest offers => simp at hnone
  | later empty selects ih => exact .later empty (ih hnone)

/-- What looking into directories in order comes to. -/
inductive Search (fs : FileSystem) (name : String) (directories : List String) :
    Except Fault Finding → Prop where
  | noPath (e : Fault) (bad : ∃ d ∈ directories, IsNoPath d) : Search fs name directories (.error e)
  | file (f : Found) (selects : Selects fs name directories (some f)) :
      Search fs name directories (.ok (.file f))
  | bare (selects : Selects fs name directories none)
      (bare : ∃ d ∈ directories, IsBare fs name d) : Search fs name directories (.ok .bareDirectory)
  | nothing (selects : Selects fs name directories none)
      (bare : ∀ d ∈ directories, ¬ IsBare fs name d) : Search fs name directories (.ok .nothing)

theorem find_search (fs : FileSystem) (name : String) (directories : List String) :
    Search fs (lastPart name) directories (find fs name directories) := by
  induction directories with
  | nil => exact .nothing .nothing (by simp)
  | cons d rest ih =>
    have hlook := findIn_look fs (lastPart name) d
    unfold find
    generalize findIn fs (lastPart name) d = look at hlook ⊢
    generalize find fs name rest = search at ih ⊢
    cases hlook with
    | noPath bad => exact .noPath _ ⟨d, List.mem_cons_self, bad⟩
    | file f offers => exact .file f (.here rest offers)
    | bare hbare =>
      cases ih with
      | noPath e bad =>
        obtain ⟨d', hd', bad⟩ := bad
        exact .noPath e ⟨d', List.mem_cons_of_mem _ hd', bad⟩
      | file f selects => exact .file f (.later hbare.empty selects)
      | bare selects bare =>
        exact .bare (.later hbare.empty selects) ⟨d, List.mem_cons_self, hbare⟩
      | nothing selects bare =>
        exact .bare (.later hbare.empty selects) ⟨d, List.mem_cons_self, hbare⟩
    | nothing empty hbare =>
      cases ih with
      | noPath e bad =>
        obtain ⟨d', hd', bad⟩ := bad
        exact .noPath e ⟨d', List.mem_cons_of_mem _ hd', bad⟩
      | file f selects => exact .file f (.later empty selects)
      | bare selects bare =>
        obtain ⟨d', hd', bare⟩ := bare
        exact .bare (.later empty selects) ⟨d', List.mem_cons_of_mem _ hd', bare⟩
      | nothing selects bare =>
        exact .nothing (.later empty selects) (List.forall_mem_cons.mpr ⟨hbare, bare⟩)

/-! ### The directories of a workspace -/

theorem probe_directory {path : String} {b : Bool}
    (h : fs.probe path FileSystem.directoryNode = .ok b) : b = fs.isDirectory path := by
  unfold FileSystem.probe at h
  unfold FileSystem.isDirectory
  split at h
  · rename_i e he
    obtain rfl := Except.ok.inj h
    obtain ⟨node, changed⟩ := e
    rw [he]
    cases node <;> rfl
  · simp at h
  · rename_i flaw hflaw he
    rw [he]
    exact (Except.ok.inj h).symm

theorem probe_any {path : String} {b : Bool}
    (h : fs.probe path FileSystem.anyNode = .ok b) : b = fs.reaches path := by
  unfold FileSystem.probe at h
  unfold FileSystem.reaches
  split at h
  · rename_i e he
    rw [he]
    exact (Except.ok.inj h).symm
  · simp at h
  · rename_i flaw hflaw he
    rw [he]
    exact (Except.ok.inj h).symm

/-- The directory of a Python version in a library. -/
structure IsVersion (fs : FileSystem) (library version : String) : Prop where
  there : fs.isDirectory library = true
  listed : lists fs library version = true
  named : version.startsWith "python" = true
  directory : fs.isDirectory (inside library version) = true

/-- The installed packages of a Python version in an environment. -/
def siteOf (environment version : String) : String :=
  inside (inside (inside environment "lib") version) "site-packages"

/-- The installed packages of an environment without versions. -/
def plainSite (environment : String) : String :=
  inside (inside environment "Lib") "site-packages"

/-- The directories of installed packages in an environment: those of its versions, in order of
name, and then the one without a version. -/
inductive IsSites (fs : FileSystem) (environment : String) : List String → Prop where
  | missing (missing : fs.isDirectory environment = false) : IsSites fs environment []
  | there (versions : List String) (there : fs.isDirectory environment = true)
      (sorted : versions.Pairwise (· ≤ ·))
      (mem : ∀ v, v ∈ versions ↔
        IsVersion fs (inside environment "lib") v ∧ fs.reaches (siteOf environment v) = true) :
      IsSites fs environment (versions.map (siteOf environment) ++
        if fs.isDirectory (plainSite environment) then [plainSite environment] else [])

theorem mem_versionDirectories {library version : String} :
    version ∈ versionDirectories fs library ↔
      lists fs library version = true ∧ version.startsWith "python" = true ∧
        fs.isDirectory (inside library version) = true := by
  unfold versionDirectories lists
  cases fs.locate true library with
  | error flaw => simp
  | ok place => simp [List.mem_mergeSort, List.mem_filter]

theorem sorted_versionDirectories (fs : FileSystem) (library : String) :
    (versionDirectories fs library).Pairwise (· ≤ ·) := by
  unfold versionDirectories
  split
  · exact .nil
  · rename_i place hplace
    let versions := (fs.names place).filter fun name =>
      name.startsWith "python" && fs.isDirectory (inside library name)
    have hsorted : (versions.mergeSort fun a b : String => decide (a ≤ b)).Pairwise
        fun a b : String => decide (a ≤ b) = true :=
      List.pairwise_mergeSort
        (fun a b c hab hbc => by
          simp only [decide_eq_true_eq] at hab hbc ⊢
          exact String.le_trans hab hbc)
        (fun a b => by
          simp only [Bool.or_eq_true, decide_eq_true_eq]
          exact String.le_total a b)
        versions
    exact hsorted.imp fun h => by simpa using h

/-- Filtering by probes keeps what the probes accept. -/
theorem filterM_probe {paths kept : List String}
    (h : paths.filterM (fs.probe · FileSystem.anyNode) = .ok kept) :
    kept = paths.filter fs.reaches := by
  have hacc : ∀ (paths acc : List String) (kept : List String),
      List.filterAuxM (fs.probe · FileSystem.anyNode) paths acc = .ok kept →
        kept = (paths.filter fs.reaches).reverse ++ acc := by
    intro paths
    induction paths with
    | nil =>
      intro acc kept h
      exact (Except.ok.inj h).symm
    | cons path paths ih =>
      intro acc kept h
      unfold List.filterAuxM at h
      obtain ⟨b, hb, h⟩ := bind_eq_ok h
      rw [ih _ _ h, probe_any hb, List.filter_cons]
      cases fs.reaches path <;> simp
  unfold List.filterM at h
  obtain ⟨out, hout, h⟩ := bind_eq_ok h
  rw [← Except.ok.inj h, hacc paths [] out hout]
  simp

/-- The versions in a library, if it is there, whose installed packages exist. -/
def versionsOf (fs : FileSystem) (environment : String) : List String :=
  if fs.isDirectory (inside environment "lib") then
    (versionDirectories fs (inside environment "lib")).filter fun version =>
      fs.reaches (siteOf environment version)
  else []

theorem sorted_versionsOf (fs : FileSystem) (environment : String) :
    (versionsOf fs environment).Pairwise (· ≤ ·) := by
  unfold versionsOf
  split
  · exact (sorted_versionDirectories fs _).filter _
  · exact .nil

theorem mem_versionsOf {environment v : String} : v ∈ versionsOf fs environment ↔
    IsVersion fs (inside environment "lib") v ∧ fs.reaches (siteOf environment v) = true := by
  unfold versionsOf
  split
  · rename_i hthere
    rw [List.mem_filter, mem_versionDirectories]
    refine and_congr_left fun _ => ⟨fun ⟨hlisted, hnamed, hv⟩ => ?_, fun hv => ?_⟩
    · exact ⟨hthere, hlisted, hnamed, hv⟩
    · exact ⟨hv.listed, hv.named, hv.directory⟩
  · rename_i hmissing
    exact ⟨fun hv => by simp at hv, fun ⟨hv, _⟩ => absurd hv.there hmissing⟩

theorem sitePackages_sites {environment : String} {sites : List String}
    (h : sitePackages fs environment = .ok sites) : IsSites fs environment sites := by
  unfold sitePackages at h
  obtain ⟨there, hthere, h⟩ := bind_eq_ok h
  have hdirectory := probe_directory hthere
  cases there with
  | false =>
    rw [← Except.ok.inj h]
    exact .missing hdirectory.symm
  | true =>
    obtain ⟨library, hlibrary, h⟩ := bind_eq_ok h
    obtain ⟨kept, hkept, h⟩ := bind_eq_ok h
    obtain ⟨plain, hplain, h⟩ := bind_eq_ok h
    have hversions : kept = (versionsOf fs environment).map (siteOf environment) := by
      rw [filterM_probe hkept, versionsOf, ← probe_directory hlibrary]
      split
      · rw [List.filter_map]
        rfl
      · rfl
    have hsites : sites = (versionsOf fs environment).map (siteOf environment) ++
        if fs.isDirectory (plainSite environment) then [plainSite environment] else [] := by
      have hplain : plain = fs.isDirectory (plainSite environment) := probe_directory hplain
      rw [← Except.ok.inj h, ← hversions, ← hplain]
      cases plain
      · exact (List.append_nil _).symm
      · rfl
    rw [hsites]
    exact .there _ hdirectory.symm (sorted_versionsOf fs environment) fun v => mem_versionsOf

/-- An environment of a workspace. -/
def environmentOf (root name : String) : String :=
  ((Path.ofString root).join (Path.ofString name)).toString

/-- The directories to search for a workspace: the configured one if there is one, the workspace,
and the installed packages of its two environments. -/
inductive IsSearchPath (fs : FileSystem) (modulePath : Option String) (root : String) :
    List String → Prop where
  | intro (first second : List String) (first_sites : IsSites fs (environmentOf root ".venv") first)
      (second_sites : IsSites fs (environmentOf root "venv") second) :
      IsSearchPath fs modulePath root ((modulePath.filter (· ≠ "")).toList ++
        [(Path.ofString root).toString] ++ first ++ second)

theorem searchPaths_isSearchPath {modulePath : Option String} {root : String}
    {paths : List String} (h : searchPaths fs modulePath root = .ok paths) :
    IsSearchPath fs modulePath root paths := by
  obtain ⟨first, hfirst, h⟩ := bind_eq_ok h
  obtain ⟨second, hsecond, h⟩ := bind_eq_ok h
  have hpaths : IsSearchPath fs modulePath root _ :=
    .intro first second (sitePackages_sites hfirst) (sitePackages_sites hsecond)
  rw [← Except.ok.inj h]
  cases modulePath with
  | none => exact hpaths
  | some path =>
    by_cases hempty : path = ""
    · subst hempty
      exact hpaths
    · simpa [Option.filter, hempty] using hpaths

end LintBridge.LintModule

namespace LintBridge.Host

/-- A machine with a linting module of its own, and a directory of the module's name where it
works. -/
def withBareDirectory : Host :=
  (fresh ["w"] "/home" "/global" none).edit
    [⟨"/w/marlint", .write .directory, none⟩,
      ⟨"/global/marlint.py", .write (.script ⟨true, none, none, none,
        some ("lint_text", .function .rules)⟩), none⟩]

end LintBridge.Host

namespace LintBridge.Resolver

open LintModule

/-- A directory of the workspace without a file of its own hides a file that the machine's
directories offer. -/
structure Hides (fs : FileSystem) (name : String) (paths machine : List String) : Prop where
  empty : ∀ d ∈ paths, ∀ f, ¬ Offers fs name d f
  bare : ∃ d ∈ paths, IsBare fs name d
  offers : ∃ d ∈ machine, ∃ f, Offers fs name d f

/-- The directories of the workspace that offer a file keep it from being hidden. -/
theorem Hides.not_selects {fs : FileSystem} {name : String} {paths machine : List String}
    (hidden : Hides fs name paths machine) : ¬ Selects fs name (paths ++ machine) none := by
  intro hnone
  obtain ⟨d, hd, f, offers⟩ := hidden.offers
  exact selects_none_iff.mp hnone d (List.mem_append_right _ hd) f offers

/-- A search ends at the first file that the directories of the workspace and then those of the
machine offer, or at none if they offer none, exactly unless a bare directory of the workspace
hides a file of the machine; then it ends at none. It fails only if some directory is no path, or
an environment cannot be looked at. -/
theorem finds_first_file_iff (r : Resolver) (h : Host) (root : String)
    (fallback : r.globalFallback = true) :
    match (r.find h root).1 with
    | .ok found => ∃ paths, IsSearchPath h.files r.modulePath root paths ∧
        (Selects h.files (lastPart r.moduleName) (paths ++ h.globalDirectories) found ↔
          ¬ Hides h.files (lastPart r.moduleName) paths h.globalDirectories) ∧
        (Hides h.files (lastPart r.moduleName) paths h.globalDirectories → found = none)
    | .error e => searchPaths h.files r.modulePath root = .error e ∨
        ∃ paths, searchPaths h.files r.modulePath root = .ok paths ∧
          ∃ d ∈ paths ++ h.globalDirectories, IsNoPath d := by
  generalize hname : lastPart r.moduleName = name
  cases hpaths : searchPaths h.files r.modulePath root with
  | error e =>
    have hfind : (r.find h root).1 = .error e := by
      simp only [find, findInWorkspace, hpaths]
      rfl
    rw [hfind]
    exact .inl rfl
  | ok paths =>
    have hpath := searchPaths_isSearchPath hpaths
    have hsearch := find_search h.files r.moduleName paths
    have hmachine := find_search h.files r.moduleName h.globalDirectories
    rw [hname] at hsearch hmachine
    have hworkspace : r.findInWorkspace h.files root =
        LintModule.find h.files r.moduleName paths := by
      simp only [findInWorkspace, hpaths]
      rfl
    simp only [find, hworkspace, fallback, if_true]
    generalize LintModule.find h.files r.moduleName paths = search at hsearch ⊢
    generalize LintModule.find h.files r.moduleName h.globalDirectories = machine at hmachine ⊢
    cases hsearch with
    | noPath e bad =>
      obtain ⟨d, hd, bad⟩ := bad
      exact .inr ⟨paths, rfl, d, List.mem_append_left _ hd, bad⟩
    | file f selects =>
      have hseen : ¬ Hides h.files name paths h.globalDirectories := by
        intro hidden
        have hnone := selects.unique (selects_none_iff.mpr hidden.empty)
        simp at hnone
      exact ⟨paths, hpath, ⟨fun _ => hseen, fun _ => selects.append_some _⟩,
        fun hidden => absurd hidden hseen⟩
    | bare selects bare =>
      refine ⟨paths, hpath, ⟨fun hnone hidden => hidden.not_selects hnone, fun hseen => ?_⟩,
        fun _ => rfl⟩
      refine selects.append_none (selects_none_iff.mpr fun d hd f offers => ?_)
      exact hseen ⟨selects_none_iff.mp selects, bare, d, hd, f, offers⟩
    | nothing selects bare =>
      have hseen : ¬ Hides h.files name paths h.globalDirectories := by
        intro hidden
        obtain ⟨d, hd, hbare⟩ := hidden.bare
        exact bare d hd hbare
      cases hmachine with
      | noPath e bad =>
        obtain ⟨d, hd, bad⟩ := bad
        exact .inr ⟨paths, rfl, d, List.mem_append_right _ hd, bad⟩
      | file f selects' =>
        exact ⟨paths, hpath, ⟨fun _ => hseen, fun _ => selects.append_none selects'⟩,
          fun hidden => absurd hidden hseen⟩
      | bare selects' bare' =>
        exact ⟨paths, hpath, ⟨fun _ => hseen, fun _ => selects.append_none selects'⟩,
          fun _ => rfl⟩
      | nothing selects' bare' =>
        exact ⟨paths, hpath, ⟨fun _ => hseen, fun _ => selects.append_none selects'⟩,
          fun _ => rfl⟩

/-- A workspace with a module of its own has it found. -/
theorem finds_workspace_module :
    ∃ paths, IsSearchPath Host.withModule.files none "/w" paths ∧
      Selects Host.withModule.files "marlint" (paths ++ ["/global"]) (some ⟨"/w/marlint.py", none⟩) := by
  have hfound : ((fresh "marlint" "lint_text" none true).find .withModule "/w").1.toOption =
      some (some ⟨"/w/marlint.py", none⟩) := by decide +kernel
  have hiff := finds_first_file_iff (fresh "marlint" "lint_text" none true) .withModule "/w" rfl
  split at hiff
  · rename_i found hfind
    rw [hfind] at hfound
    obtain rfl := Option.some.inj hfound
    obtain ⟨paths, hpath, hselects, hhidden⟩ := hiff
    refine ⟨paths, hpath, hselects.mpr fun hidden => ?_⟩
    simpa using hhidden hidden
  · rename_i e hfind
    rw [hfind] at hfound
    simp [Except.toOption] at hfound

/-- A directory of the workspace without a file of its own hides the module of the machine: none is
found, although the machine's directory offers one. -/
theorem bare_directory_hides_module :
    ((fresh "marlint" "lint_text" none true).find .withBareDirectory "/w").1 = .ok none ∧
      ∃ d ∈ Host.withBareDirectory.globalDirectories, ∃ f,
        Offers Host.withBareDirectory.files "marlint" d f := by
  have hfound : ((fresh "marlint" "lint_text" none true).find .withBareDirectory "/w").1.toOption =
      some none := by decide +kernel
  obtain ⟨hplace, hpackage, hthere, hlisted, hfile⟩ :
      placeOf Host.withBareDirectory.files "/global" = "/global" ∧
        Host.withBareDirectory.files.isFile (packageFile "/global" "marlint") = false ∧
        Host.withBareDirectory.files.isDirectory "/global" = true ∧
        lists Host.withBareDirectory.files "/global" ("marlint" ++ ".py") = true ∧
        Host.withBareDirectory.files.isFile (plainFile "/global" "marlint") = true := by
    decide +kernel
  rw [← hplace] at hpackage hthere hlisted hfile
  refine ⟨?_, "/global", List.mem_cons_self, _,
    .plain (fun hold => absurd (hpackage.symm.trans hold.file) Bool.false_ne_true)
      ⟨hthere, hlisted, hfile⟩⟩
  cases hfind : ((fresh "marlint" "lint_text" none true).find .withBareDirectory "/w").1 with
  | error e => simp [hfind, Except.toOption] at hfound
  | ok found =>
    rw [hfind] at hfound
    rw [Option.some.inj hfound]

end LintBridge.Resolver

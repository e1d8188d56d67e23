import LintBridge.Proofs.FileSystem.Walk
import LintBridge.Proofs.Text.Utf8
import LintBridge.Proofs.Workspace

/-! Checks of a workspace's manifest between edits of its files. Every check reads the manifest anew, so
that what it answers is about the files as they are, whatever was asked before. It keeps its promise
unless the reader gives up on a text that is too large for it: that is told as it is, and not as an error
in reading the manifest. -/

namespace LintBridge

namespace Manifest

/-- The reader gives up on the text of a manifest, for a number of too many digits or for nesting too
deep. -/
def GivesUp (fs : FileSystem) (path : String) : Prop :=
  (∃ digits, Reads fs path (.error (.hugeNumber digits))) ∨
    ∃ array, Reads fs path (.error (.tooDeep array))

end Manifest

namespace Workspace

/-- What a manifest is asked: for its dependencies, or whether it declares a package. The last asks the
manifest that the configuration names, the others that of an opened package. -/
inductive Check where
  | dependencies
  | declares (package : String)
  | declaresConfigured (package : String)

/-- The package that a check is about, if it is about one. -/
def Check.package? : Check → Option String
  | dependencies => none
  | declares package | declaresConfigured package => some package

/-- Makes a check of the package that was opened at a root under a name. -/
def ask (root : String) (name : Json) (h : Host) : Check → Except Fault Json × Host
  | .dependencies =>
    let (result, h) := dependencies h root name
    (result.map .obj, h)
  | .declares package =>
    let (result, h) := declaresIn h root name package
    (result.map .bool, h)
  | .declaresConfigured package =>
    let (result, h) := declares h root package
    (result.map .bool, h)

/-- What happens to a workspace: edits of the files, and checks. -/
inductive Occasion where
  | edits (es : List FileSystem.Edit)
  | check (c : Check)

/-- The edits that are made on an occasion. -/
def Occasion.changes : Occasion → List FileSystem.Edit
  | edits es => es
  | check _ => []

/-- The machine after an occasion. -/
def next (root : String) (name : Json) (h : Host) : Occasion → Host
  | .edits es => h.edit es
  | .check c => (ask root name h c).2

/-- The machine after occasions in order. -/
def after (root : String) (name : Json) (h : Host) (os : List Occasion) : Host :=
  os.foldl (next root name) h

/-- The path of the manifest that a check is about. -/
def manifestFor (h : Host) (root : String) (name : Json) : Check → Except Fault String
  | .declaresConfigured _ =>
    h.linterConfig.1 >>= fun linter => manifestPath root linter.manifestName
  | _ => manifestPath root name

/-- What a check promises of the manifest at a path. A manifest that does not exist declares nothing. Of
an object, the dependencies are those of its two sections, the second of which counts first, and a
package is declared if a section names it. A text that is no object is a tagged error, and whatever
cannot be read as a text is an error. -/
inductive Promises (fs : FileSystem) (path : String) : Check → Except Fault Json → Prop where
  | nothing (gone : fs.reaches path = false) (short : fs.stat path ≠ .error .nameTooLong) :
      Promises fs path .dependencies (.ok (.obj []))
  | undeclared (c : Check) (package : String) (about : c.package? = some package)
      (gone : fs.reaches path = false) (short : fs.stat path ≠ .error .nameTooLong) :
      Promises fs path c (.ok (.bool false))
  | merged (content members : Members) (reads : Manifest.Reads fs path (.ok (.obj content)))
      (once : members.keys.Nodup)
      (found : ∀ key, members.get? key =
        ((Manifest.sectionOf content "devDependencies").get? key).or
          ((Manifest.sectionOf content "dependencies").get? key)) :
      Promises fs path .dependencies (.ok (.obj members))
  | declared (c : Check) (package : String) (about : c.package? = some package)
      (content : Members) (reads : Manifest.Reads fs path (.ok (.obj content))) (b : Bool)
      (named : b = true ↔ Manifest.Names content package) : Promises fs path c (.ok (.bool b))
  | refused (c : Check) (result : Except Json.ReadError Json)
      (reads : Manifest.Reads fs path result) (other : ∀ content, result ≠ .ok (.obj content))
      (e : Fault) (kind : e.kind = "ValueError") (tag : e.errorType? = some .manifestReadError) :
      Promises fs path c (.error e)
  | unread (c : Check) (e : Fault)
      (there : fs.reaches path = true ∨ fs.stat path = .error .nameTooLong)
      (untold : ∀ text, fs.readText path ≠ .ok text) : Promises fs path c (.error e)

variable {h h' : Host} {root path package : String} {name : Json} {c : Check} {fs : FileSystem}

/-! ### Answers -/

/-- The answer to a check, given what was read. -/
def Check.answer (c : Check) (found : Option Members) : Json :=
  match c.package? with
  | none => .obj (found.getD [])
  | some package => .bool (Manifest.answer package found)

/-- A check answers what is read at the path of its manifest. -/
theorem ask_eq (root : String) (name : Json) (h : Host) (c : Check) :
    (ask root name h c).1 = manifestFor h root name c >>= fun path =>
      (Manifest.read h.files path).map c.answer := by
  cases c with
  | dependencies =>
    have hask : (ask root name h .dependencies).1 = (dependencies h root name).1.map .obj := rfl
    rw [hask, dependencies_eq, map_bind_map]
    rfl
  | declares package =>
    have hask : (ask root name h (.declares package)).1 =
      (declaresIn h root name package).1.map .bool := rfl
    rw [hask, declaresIn_eq, map_bind_map]
    rfl
  | declaresConfigured package =>
    have hask : (ask root name h (.declaresConfigured package)).1 =
      (declares h root package).1.map .bool := rfl
    rw [hask, declares_eq, manifestFor]
    cases h.linterConfig.1 with
    | error e => rfl
    | ok linter =>
      dsimp only
      rw [declaresIn_eq, map_bind_map, h.stays_linterConfig.files]
      rfl

theorem ask_agrees (root : String) (name : Json) (h : Host) (c : Check) :
    h.Agrees (ask root name h c).2 := by
  cases c with
  | declaresConfigured package => exact declares_agrees h root package
  | _ => exact dependencies_agrees h root name

/-! ### Promises -/

theorem promises_of_object {content : Members}
    (reads : Manifest.Reads fs path (.ok (.obj content))) (c : Check) :
    Promises fs path c ((Manifest.read fs path).map c.answer) := by
  rw [Manifest.read_of_object reads]
  cases c with
  | dependencies =>
    exact .merged content _ reads (Manifest.nodup_declared content)
      (Manifest.get?_declared reads.isRead)
  | _ => exact .declared _ _ rfl content reads _ Manifest.names_iff.symm

theorem promises_of_not_givesUp (hkept : ¬ Manifest.GivesUp fs path) (c : Check) :
    Promises fs path c ((Manifest.read fs path).map c.answer) := by
  by_cases there : fs.reaches path = true
  · cases htext : fs.readText path with
    | error e =>
      rw [Manifest.read_of_unopened there htext]
      exact .unread c e (.inl there) (by simp [htext])
    | ok text =>
      have hreads : Manifest.Reads fs path (Json.read (String.ofList text)) :=
        ⟨there, text, htext, rfl⟩
      cases hjson : Json.read (String.ofList text) with
      | error e =>
        rw [hjson] at hreads
        cases e with
        | malformed flaw place =>
          simp only [Manifest.read, Manifest.load_of_reads hreads]
          exact .refused c _ hreads (by simp) _ rfl rfl
        | hugeNumber digits => exact absurd (.inl ⟨digits, hreads⟩) hkept
        | tooDeep array => exact absurd (.inr ⟨array, hreads⟩) hkept
      | ok v =>
        rw [hjson] at hreads
        cases v with
        | obj content => exact promises_of_object hreads c
        | _ =>
          simp only [Manifest.read, Manifest.load_of_reads hreads]
          exact .refused c _ hreads (by simp) _ rfl rfl
  · by_cases long : fs.stat path = .error .nameTooLong
    · rw [Manifest.read_of_tooLong long]
      refine .unread c _ (.inr long) fun text htext => ?_
      simp [FileSystem.readText, FileSystem.readBytes, long, bind, Except.bind] at htext
    · have gone := Bool.eq_false_iff.mpr there
      rw [Manifest.read_of_missing gone long]
      cases c with
      | dependencies => exact .nothing gone long
      | _ => exact .undeclared _ _ rfl gone long

theorem not_promises_of_givesUp (hgives : Manifest.GivesUp fs path) (c : Check) :
    ¬ Promises fs path c ((Manifest.read fs path).map c.answer) := by
  -- What is answered is the reader's own error, which has no tag and is about a text.
  obtain ⟨e, ⟨-, text, htext, -⟩, hread⟩ : ∃ e, Manifest.Reads fs path (.error e) ∧
      Manifest.read fs path = .error (.json e) := by
    obtain ⟨digits, hreads⟩ | ⟨array, hreads⟩ := hgives <;>
    · refine ⟨_, hreads, ?_⟩
      simp only [Manifest.read, Manifest.load_of_reads hreads]
      rfl
  rw [hread]
  intro hpromises
  generalize hresult : Except.map c.answer (.error (Fault.json e)) = result at hpromises
  cases hpromises with
  | refused _ _ _ _ e' _ tag =>
    cases hresult
    simp [Fault.errorType?] at tag
  | unread _ _ _ untold => exact untold text htext
  | _ => cases hresult

/-- A check keeps its promise exactly if the reader does not give up. -/
theorem promises_iff (fs : FileSystem) (path : String) (c : Check) :
    Promises fs path c ((Manifest.read fs path).map c.answer) ↔ ¬ Manifest.GivesUp fs path :=
  ⟨fun hpromises hgives => not_promises_of_givesUp hgives c hpromises,
    fun hkept => promises_of_not_givesUp hkept c⟩

/-! ### Any number of occasions -/

/-- Checks leave the files alone. -/
theorem files_after (root : String) (name : Json) (h : Host) (os : List Occasion) :
    (after root name h os).files = h.files.applyAll (os.flatMap Occasion.changes) := by
  induction os generalizing h with
  | nil => rfl
  | cons o os ih =>
    have hnext : (next root name h o).files = h.files.applyAll o.changes := by
      cases o with
      | edits es => rfl
      | check c => exact (ask_agrees root name h c).files
    have hfirst : after root name h (o :: os) = after root name (next root name h o) os := rfl
    rw [hfirst, ih, hnext, List.flatMap_cons, FileSystem.applyAll, FileSystem.applyAll,
      FileSystem.applyAll, List.foldl_append]

/-- A configuration in use stays in use. -/
theorem config_after {inUse : Nat × Config} (hc : h.config? = some inUse) (os : List Occasion) :
    (after root name h os).config? = some inUse := by
  induction os generalizing h with
  | nil => exact hc
  | cons o os ih =>
    cases o with
    | edits es => exact ih hc
    | check c => exact ih ((ask_agrees root name h c).config _ hc)

/-- The answer to a check is a matter of the files and of where the manifest is. -/
theorem ask_congr (files : h'.files = h.files)
    (manifest : manifestFor h' root name c = manifestFor h root name c) :
    (ask root name h' c).1 = (ask root name h c).1 := by
  rw [ask_eq, ask_eq, files, manifest]

/-- Where the manifest is does not change, unless the configuration is still to be read. -/
theorem manifestFor_congr
    (hc : (∃ inUse, h.config? = some inUse ∧ h'.config? = some inUse) ∨
      ∀ package, c ≠ .declaresConfigured package) :
    manifestFor h' root name c = manifestFor h root name c := by
  cases c with
  | declaresConfigured package =>
    obtain ⟨inUse, hin, hin'⟩ := hc.resolve_right fun hne => hne package rfl
    rw [manifestFor, manifestFor, Host.linterConfig_of_config hin, Host.linterConfig_of_config hin']
  | _ => rfl

/-- A package that was opened without a name has the configured one. -/
theorem manifestFor_of_opened (root : String) (c : Check) {opened : Host} {given : Json}
    (hgiven : given.truthy = false) (hopened : manifestName opened given = (.ok name, h)) :
    (∃ inUse, h.config? = some inUse) ∧ manifestFor h root name c = manifestPath root name := by
  obtain ⟨linter, hlinter, hname⟩ : ∃ linter, opened.linterConfig = (.ok linter, h) ∧
      linter.manifestName = name := by
    simp only [manifestName, hgiven] at hopened
    obtain ⟨hmap, hhost⟩ := Prod.mk.inj hopened
    obtain ⟨linter, hlinter, hname⟩ := map_eq_ok hmap
    exact ⟨linter, Prod.ext hlinter hhost, hname⟩
  refine ⟨Host.config_of_linterConfig hlinter, ?_⟩
  cases c with
  | declaresConfigured package =>
    have hstays := opened.stays_linterConfig.linter
    rw [hlinter] at hstays
    rw [manifestFor, hstays, ← hname]
    rfl
  | _ => rfl

/-- Between any edits and checks, every check keeps what it promises of the files as they are, exactly
if the reader does not give up on the manifest's text. A manifest whose name is no text is an error, as
is a configuration that cannot be read. All checks of a package that was opened without a name are about
one manifest, and no check depends on those before it, once the configuration is in use. -/
theorem checks_keep_promises_iff (root : String) (name : Json) (h : Host) (os : List Occasion) :
    (after root name h os).files = h.files.applyAll (os.flatMap Occasion.changes) ∧
    (∀ c path, manifestFor (after root name h os) root name c = .ok path →
      (Promises (after root name h os).files path c (ask root name (after root name h os) c).1 ↔
        ¬ Manifest.GivesUp (after root name h os).files path)) ∧
    (∀ c e, manifestFor (after root name h os) root name c = .error e →
      (ask root name (after root name h os) c).1 = .error e) ∧
    (∀ opened given, given.truthy = false → manifestName opened given = (.ok name, h) →
      ∀ c, manifestFor (after root name h os) root name c = manifestPath root name) ∧
    ∀ c, (h.config?.isSome ∨ ∀ package, c ≠ .declaresConfigured package) →
      (ask root name (after root name h os) c).1 =
        (ask root name (h.edit (os.flatMap Occasion.changes)) c).1 := by
  refine ⟨files_after root name h os, fun c path hpath => ?_, fun c e he => ?_,
    fun opened given hgiven hopened c => ?_, fun c hc => ?_⟩
  · rw [ask_eq, hpath]
    exact promises_iff _ path c
  · rw [ask_eq, he]
    rfl
  · obtain ⟨⟨inUse, hin⟩, hmanifest⟩ := manifestFor_of_opened root c hgiven hopened
    rw [manifestFor_congr (.inl ⟨inUse, hin, config_after hin os⟩), hmanifest]
  · refine ask_congr (files_after root name h os) (manifestFor_congr (hc.imp_left fun hin => ?_))
    obtain ⟨inUse, hin⟩ := Option.isSome_iff_exists.mp hin
    exact ⟨inUse, hin, config_after hin os⟩

theorem reads_of_stat {s : String} {t : Int}
    (hstat : fs.stat path = .ok ⟨.file (Text.encodeUtf8 s), t⟩) (hlines : '\r' ∉ s.toList) :
    Manifest.Reads fs path (Json.read s) := by
  refine ⟨by simp only [FileSystem.reaches, hstat], s.toList, ?_, by rw [String.ofList_toList]⟩
  simp only [FileSystem.readText, FileSystem.readBytes, hstat, bind, Except.bind,
    Text.decodeUtf8_encodeUtf8, Text.uniformLines_of_not_mem hlines]

/-- A number of ones. -/
def ones (digits : Nat) : String :=
  String.ofList (List.replicate digits '1')

theorem read_ones {digits : Nat} (h : Text.digitLimit < digits) :
    Json.read (ones digits) = .error (.hugeNumber digits) := by
  obtain ⟨n, rfl⟩ := Nat.exists_eq_succ_of_ne_zero (Nat.ne_zero_of_lt h)
  have hlength : (List.replicate (n + 1) '1').length = n + 1 := List.length_replicate
  rw [List.replicate_succ] at hlength
  rw [ones, List.replicate_succ, Json.read_of_digits _ (by decide) (by rw [hlength]; exact h),
    hlength]
  intro c hc
  rw [← List.replicate_succ] at hc
  rw [List.eq_of_mem_replicate hc]
  decide

/-- A machine with a manifest that is a number. -/
def numberManifest (digits : Nat) : Host where
  files :=
    { entries := [(["p"], ⟨.directory, 0⟩),
        (["p", "package.json"], ⟨.file (Text.encodeUtf8 (ones digits)), 0⟩)]
      here := []
      clock := 1 }
  home := "/h"
  configVariable := none
  globalDirectories := []
  config? := none
  configsRead := 0
  imports := LintModule.Imports.empty
  log := []

theorem reads_numberManifest {digits : Nat} (h : Text.digitLimit < digits) :
    Manifest.Reads (numberManifest digits).files "/p/package.json"
      (.error (.hugeNumber digits)) := by
  have hpath : (numberManifest digits).files.locate true "/p/package.json" =
      .ok ["p", "package.json"] := by
    refine FileSystem.locate_eq_ok_iff.mpr ⟨by decide, by decide, by decide, ?_⟩
    have hsegments : FileSystem.segments "/p/package.json" = ["", "p", "package.json"] := by
      decide +kernel
    have hstart : (numberManifest digits).files.start "/p/package.json" = [] := by
      rw [FileSystem.start, if_pos (by decide +kernel)]
    rw [hsegments, hstart]
    rfl
  have hstat : (numberManifest digits).files.stat "/p/package.json" =
      .ok ⟨.file (Text.encodeUtf8 (ones digits)), 0⟩ := by
    rw [FileSystem.stat, hpath]
    rfl
  have hlines : '\r' ∉ (ones digits).toList := by
    rw [ones, String.toList_ofList]
    exact fun hr => absurd (List.eq_of_mem_replicate hr) (by decide)
  exact read_ones h ▸ reads_of_stat hstat hlines

theorem ask_numberManifest {digits : Nat} (h : Text.digitLimit < digits) :
    (ask "/p" (.str "package.json") (numberManifest digits) .dependencies).1 =
        .error (.json (.hugeNumber digits)) ∧
      ¬ Promises (numberManifest digits).files "/p/package.json" .dependencies
        (ask "/p" (.str "package.json") (numberManifest digits) .dependencies).1 := by
  have hreads := reads_numberManifest h
  have hpath : manifestFor (numberManifest digits) "/p" (.str "package.json") .dependencies =
      .ok "/p/package.json" :=
    congrArg Except.ok (by decide +kernel :
      Manifest.path ⟨Path.ofString "/p", Path.ofString "package.json"⟩ = "/p/package.json")
  have hask : (ask "/p" (.str "package.json") (numberManifest digits) .dependencies).1 =
      (Manifest.read (numberManifest digits).files "/p/package.json").map
        Check.dependencies.answer := by
    rw [ask_eq, hpath]
    rfl
  rw [hask]
  refine ⟨?_, not_promises_of_givesUp (.inl ⟨_, hreads⟩) _⟩
  simp only [Manifest.read, Manifest.load_of_reads hreads]
  rfl

/-- A manifest that is a number, but one of too many digits, is an error without a tag. -/
theorem long_number_is_untagged :
    Manifest.Reads (numberManifest 4301).files "/p/package.json" (.error (.hugeNumber 4301)) ∧
      (ask "/p" (.str "package.json") (numberManifest 4301) .dependencies).1 =
        .error (.json (.hugeNumber 4301)) ∧
      (Fault.json (.hugeNumber 4301)).errorType? = none ∧
      ¬ Promises (numberManifest 4301).files "/p/package.json" .dependencies
        (ask "/p" (.str "package.json") (numberManifest 4301) .dependencies).1 := by
  have hlong : Text.digitLimit < 4301 := by decide
  obtain ⟨hask, hpromises⟩ := ask_numberManifest hlong
  exact ⟨reads_numberManifest hlong, hask, rfl, hpromises⟩

end Workspace

end LintBridge

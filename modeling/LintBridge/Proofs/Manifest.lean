import LintBridge.Manifest
import LintBridge.Proofs.Json.Reading

/-! What a manifest says of a package. A manifest that does not exist declares none, one whose
content is an object declares the packages that one of its two sections names, and any other is an
error of its own. -/

namespace LintBridge

namespace Manifest

/-- Does one of the two sections of a manifest's content name a package? A section that is no object
names none. -/
def Names (content : Members) (package : String) : Prop :=
  ∃ name ∈ sections, ∃ entries : Members, content.get? name = some (.obj entries) ∧
    (entries.get? package).isSome = true

theorem isSome_sectionOf {content : Members} {name package : String} :
    ((sectionOf content name).get? package).isSome = true ↔
      ∃ entries : Members, content.get? name = some (.obj entries) ∧
        (entries.get? package).isSome = true := by
  unfold sectionOf
  split
  · rename_i members h
    simp [h]
  · rename_i h
    constructor
    · simp [Members.get?]
    · rintro ⟨entries, hs, -⟩
      exact absurd hs (h entries)

theorem names_iff {content : Members} {package : String} :
    Names content package ↔ ((declared content).get? package).isSome = true := by
  have hboth : ((declared content).get? package).isSome =
      (((sectionOf content "dependencies").get? package).isSome ||
        ((sectionOf content "devDependencies").get? package).isSome) := by
    simp only [declared, sections, List.foldl_cons, List.foldl_nil, Members.isSome_get?_overlay]
    rfl
  rw [hboth, Bool.or_eq_true, isSome_sectionOf, isSome_sectionOf]
  simp [Names, sections]

theorem nodup_sectionOf {content : Members} (hread : Json.IsRead (.obj content)) (name : String) :
    (sectionOf content name).keys.Nodup := by
  unfold sectionOf
  split
  · rename_i members hmembers
    exact Json.nodup_keys_of_isRead (Json.isRead_of_get? hread hmembers)
  · exact List.nodup_nil

theorem nodup_declared (content : Members) : (declared content).keys.Nodup := by
  have hnil : Members.keys [] |>.Nodup := List.nodup_nil
  exact Members.nodup_overlay (Members.nodup_overlay hnil _) _

/-- The second section counts first. -/
theorem get?_declared {content : Members} (hread : Json.IsRead (.obj content)) (key : String) :
    (declared content).get? key = ((sectionOf content "devDependencies").get? key).or
      ((sectionOf content "dependencies").get? key) := by
  have hdeclared : declared content = (Members.overlay [] (sectionOf content "dependencies")).overlay
      (sectionOf content "devDependencies") := rfl
  have hnone : Members.get? [] key = none := rfl
  rw [hdeclared, Members.get?_overlay _ (nodup_sectionOf hread _),
    Members.get?_overlay _ (nodup_sectionOf hread _), hnone, Option.or_none]

/-- The text at a path reads as this. -/
def Reads (fs : FileSystem) (path : String) (result : Except Json.ReadError Json) : Prop :=
  fs.reaches path = true ∧
    ∃ text, fs.readText path = .ok text ∧ Json.read (String.ofList text) = result

theorem Reads.isRead {fs : FileSystem} {path : String} {v : Json} (h : Reads fs path (.ok v)) :
    v.IsRead := by
  obtain ⟨-, _, -, hread⟩ := h
  exact Json.isRead_of_read hread

/-- What the manifest at a path says of a package. -/
inductive Says (fs : FileSystem) (path package : String) : Except Fault Bool → Prop where
  | missing (gone : fs.reaches path = false) (short : fs.stat path ≠ .error .nameTooLong) :
      Says fs path package (.ok false)
  | declares (content : Members) (reads : Reads fs path (.ok (.obj content)))
      (names : Names content package) : Says fs path package (.ok true)
  | omits (content : Members) (reads : Reads fs path (.ok (.obj content)))
      (names : ¬ Names content package) : Says fs path package (.ok false)
  | notObject (v : Json) (reads : Reads fs path (.ok v)) (other : v.members? = none) :
      Says fs path package (.error (.manifestNotObject path))
  | notJson (flaw : Json.Flaw) (place : Json.Place)
      (reads : Reads fs path (.error (.malformed flaw place))) :
      Says fs path package (.error (.manifestNotJson path (.malformed flaw place)))
  | unread (e : Json.ReadError) (reads : Reads fs path (.error e))
      (other : ∀ flaw place, e ≠ .malformed flaw place) : Says fs path package (.error (.json e))
  | unopened (e : Fault) (there : fs.reaches path = true) (text : fs.readText path = .error e) :
      Says fs path package (.error e)
  | tooLong (long : fs.stat path = .error .nameTooLong) :
      Says fs path package (.error (.file .nameTooLong path))

/-- The answer to whether what was read declares a package. -/
def answer (package : String) (found : Option Members) : Bool :=
  ((found.getD []).get? package).isSome

variable {fs : FileSystem} {path package : String} {result : Except Fault Bool}

theorem probe_of_reaches (h : fs.reaches path = true) :
    fs.probe path FileSystem.anyNode = .ok true := by
  unfold FileSystem.reaches at h
  unfold FileSystem.probe
  split at h
  · rename_i e he
    rw [he]
    rfl
  · simp at h

theorem load_of_reads {x : Except Json.ReadError Json} (h : Reads fs path x) :
    load fs path = .ok (some x) := by
  obtain ⟨hthere, text, htext, rfl⟩ := h
  simp only [load, probe_of_reaches hthere, htext]
  rfl

theorem read_of_missing (gone : fs.reaches path = false)
    (short : fs.stat path ≠ .error .nameTooLong) : read fs path = .ok none := by
  have hprobe : fs.probe path FileSystem.anyNode = .ok false := by
    unfold FileSystem.reaches at gone
    unfold FileSystem.probe
    split at gone
    · simp at gone
    · rename_i flaw hflaw
      rw [hflaw] at short ⊢
      cases flaw <;> first | rfl | exact absurd rfl short
  simp only [read, load, hprobe]
  rfl

theorem read_of_object {content : Members} (reads : Reads fs path (.ok (.obj content))) :
    read fs path = .ok (some (declared content)) := by
  simp only [read, load_of_reads reads]
  rfl

theorem read_of_unopened {e : Fault} (there : fs.reaches path = true)
    (text : fs.readText path = .error e) : read fs path = .error e := by
  simp only [read, load, probe_of_reaches there, text]
  rfl

theorem read_of_tooLong (long : fs.stat path = .error .nameTooLong) :
    read fs path = .error (.file .nameTooLong path) := by
  have hprobe : fs.probe path FileSystem.anyNode = .error (.file .nameTooLong path) := by
    simp only [FileSystem.probe, long]
  simp only [read, load, hprobe]
  rfl

theorem read_of_answer (h : Says fs path package result) :
    (read fs path).map (answer package) = result := by
  cases h with
  | missing gone short =>
    rw [read_of_missing gone short]
    rfl
  | declares content reads names =>
    rw [read_of_object reads]
    exact congrArg Except.ok (names_iff.mp names)
  | omits content reads names =>
    rw [read_of_object reads]
    exact congrArg Except.ok (Bool.eq_false_iff.mpr fun h => names (names_iff.mpr h))
  | notObject v reads other =>
    simp only [read, load_of_reads reads]
    cases v <;> first | rfl | simp [Json.members?] at other
  | notJson flaw place reads =>
    simp only [read, load_of_reads reads]
    rfl
  | unread e reads other =>
    simp only [read, load_of_reads reads]
    cases e with
    | malformed flaw place => exact absurd rfl (other flaw place)
    | _ => rfl
  | unopened e there text =>
    rw [read_of_unopened there text]
    rfl
  | tooLong long =>
    rw [read_of_tooLong long]
    rfl

/-- Every manifest says something of every package. -/
theorem exists_answer (fs : FileSystem) (path package : String) :
    ∃ result, Says fs path package result := by
  by_cases hthere : fs.reaches path = true
  · cases htext : fs.readText path with
    | error e => exact ⟨_, .unopened e hthere htext⟩
    | ok text =>
      have hreads : Reads fs path (Json.read (String.ofList text)) := ⟨hthere, text, htext, rfl⟩
      cases hjson : Json.read (String.ofList text) with
      | error e =>
        rw [hjson] at hreads
        cases e with
        | malformed flaw place => exact ⟨_, .notJson flaw place hreads⟩
        | _ => exact ⟨_, .unread _ hreads (by simp)⟩
      | ok v =>
        rw [hjson] at hreads
        cases v with
        | obj content =>
          by_cases hnames : Names content package
          · exact ⟨_, .declares content hreads hnames⟩
          · exact ⟨_, .omits content hreads hnames⟩
        | _ => exact ⟨_, .notObject _ hreads rfl⟩
  · by_cases hlong : fs.stat path = .error .nameTooLong
    · exact ⟨_, .tooLong hlong⟩
    · exact ⟨_, .missing (Bool.eq_false_iff.mpr hthere) hlong⟩

end Manifest

end LintBridge

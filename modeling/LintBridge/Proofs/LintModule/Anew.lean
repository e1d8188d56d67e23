import LintBridge.Proofs.LintModule.Siblings

/-! Loading a module of which nothing is kept. Whatever other modules there are, the sibling that it
takes its label from is executed for it. So what its execution comes to is said by the files alone,
and so is what the execution leaves in the module. -/

namespace LintBridge.LintModule

open Imports

variable {fs : FileSystem} {im im' : Imports} {name : String} {found : Found} {script : Script}

/-- The label of a sibling that is executed anew. -/
def labelAnew (fs : FileSystem) (full directory : String) : Except Fault Json :=
  match find fs full [directory] with
  | .error e => .error e
  | .ok .nothing => .error (.noSubmodule full)
  | .ok .bareDirectory => .error (.noLabel full none)
  | .ok (.file f) =>
    match scriptOf fs f.file with
    | .error e => .error e
    | .ok script =>
      match script.importError, script.label with
      | some r, _ => .error (.raised r)
      | none, some v => .ok v
      | none, none => .error (.noLabel full (some f.file))

/-- A sibling of which nothing is kept gives the label that executing it anew gives. -/
theorem siblingLabel_of_unkept {sibling : String}
    (unkept : im.kept.lookup (name ++ "." ++ sibling) = none) :
    (siblingLabel fs im name sibling found).1 = match found.package with
      | some directory => labelAnew fs (name ++ "." ++ sibling) directory
      | none => .error (if (parentPart name).isEmpty then .noEnclosingPackage
          else .noSubmodule (parentPart name)) := by
  simp only [siblingLabel]
  cases found.package with
  | none => rfl
  | some directory =>
    simp only [submodule, unkept, labelAnew]
    cases find fs (name ++ "." ++ sibling) [directory] with
    | error e => rfl
    | ok finding =>
      cases finding with
      | nothing => rfl
      | bareDirectory => simp [make, keep, labelOf, module?]
      | file f =>
        simp only [executeSubmodule]
        cases scriptOf fs f.file with
        | error e => rfl
        | ok script =>
          cases hraises : script.importError with
          | some r => simp [hraises]
          | none =>
            cases hlabel : script.label <;>
              simp [hraises, hlabel, make, keep, labelOf, module?, Imports.modify, Imports.executed]

/-- Among modules that lack the siblings of a module it takes the same label. -/
theorem takenLabel_congr (unkept : ∀ sibling, im.kept.lookup (name ++ "." ++ sibling) = none)
    (unkept' : ∀ sibling, im'.kept.lookup (name ++ "." ++ sibling) = none) :
    (takenLabel fs im' name found script).1 = (takenLabel fs im name found script).1 := by
  simp only [takenLabel]
  cases script.labelFrom with
  | none => rfl
  | some sibling =>
    simp only [siblingLabel_of_unkept (unkept sibling), siblingLabel_of_unkept (unkept' sibling)]

/-- When a file is executed of whose module nothing is kept, none of its siblings is kept. -/
theorem lookup_ready (h : im.Lacks name) (sibling : String) :
    (ready fs im name found).kept.lookup (name ++ "." ++ sibling) = none := by
  rw [← Option.not_isSome_iff_eq_none, Option.isSome_iff_exists]
  rintro ⟨k, hk⟩
  have hbelongs := belongsTo_sibling name sibling
  have hkept := Execution.kept_of_among (e := ⟨fs, im, name, found⟩) (sibling_ne name sibling)
    hbelongs hk
  simp [h.lookup hbelongs] at hkept

/-- Among modules that keep nothing of a module, executing its file completes or does not. -/
theorem Completes.congr (h : Completes fs im name found script) (lacks : im.Lacks name)
    (lacks' : im'.Lacks name) : Completes fs im' name found script := by
  obtain ⟨taken, htaken⟩ := h.label
  refine ⟨h.compiles, ⟨taken, ?_⟩, h.raises⟩
  rw [← htaken]
  exact takenLabel_congr (lookup_ready lacks) (lookup_ready lacks')

/-- Among modules that keep nothing of a module, executing its file fails in one way. -/
theorem load_error_congr {e : Fault} (h : (load fs im name found).1 = .error e)
    (lacks : im.Lacks name) (lacks' : im'.Lacks name) : (load fs im' name found).1 = .error e := by
  rw [load_fst_eq] at h ⊢
  cases hscript : scriptOf fs found.file with
  | error e' =>
    rw [hscript] at h
    exact h
  | ok script =>
    simp only [hscript, bind, Except.bind] at h ⊢
    have htaken : (takenLabel fs (ready fs im' name found) name found script).1 =
        (takenLabel fs (ready fs im name found) name found script).1 :=
      takenLabel_congr (lookup_ready lacks) (lookup_ready lacks')
    rw [htaken]
    generalize (takenLabel fs (ready fs im name found) name found script).1 = taken at h ⊢
    cases taken with
    | error e' => exact h
    | ok taken =>
      cases hraises : script.importError with
      | some r => simpa only [hraises] using h
      | none => simp [hraises] at h

/-- Among modules that keep nothing of a module, executing its file makes the same module. -/
theorem module?_load_congr (h : Completes fs im name found script) (lacks : im.Lacks name)
    (lacks' : im'.Lacks name) :
    (load fs im' name found).2.module? im'.modules.length =
      (load fs im name found).2.module? im.modules.length := by
  obtain ⟨taken, htaken⟩ := h.label
  have htaken' : (takenLabel fs (ready fs im' name found) name found script).1 = .ok taken := by
    rw [← htaken]
    exact takenLabel_congr (lookup_ready lacks) (lookup_ready lacks')
  have h' := h.congr lacks lacks'
  obtain ⟨_, hexecute, -, hmodule, -⟩ := execute_of_completes h htaken
  obtain ⟨_, hexecute', -, hmodule', -⟩ := execute_of_completes h' htaken'
  rw [load_of_completes h, load_of_completes h', hexecute, hexecute', hmodule, hmodule']

end LintBridge.LintModule

import LintBridge.Proofs.LintModule.Imports

/-! What executing a module's file comes to. It completes if the file compiles, the label that it
takes from a sibling can be had, and nothing is raised; the module then exports what the script
says. -/

namespace LintBridge.LintModule

/-- The modules among which a file is executed: those kept from another file are forgotten, and the
module that is executed is kept already. -/
def ready (fs : FileSystem) (im : Imports) (name : String) (found : Found) : Imports :=
  ((if isFromSameFile fs im name found then im else im.forget name).make name
    (some found.file)).1

/-- Executing a file completes: this is its script. -/
structure Completes (fs : FileSystem) (im : Imports) (name : String) (found : Found)
    (script : Script) : Prop where
  compiles : scriptOf fs found.file = .ok script
  label : ∃ label, (takenLabel fs (ready fs im name found) name found script).1 = .ok label
  raises : script.importError = none

variable {fs : FileSystem} {im : Imports} {name : String} {found : Found} {script : Script}

theorem load_eq (fs : FileSystem) (im : Imports) (name : String) (found : Found) :
    load fs im name found =
      match execute fs (ready fs im name found) name found im.modules.length with
      | (.error e, im') => (.error e, im'.forget name)
      | (.ok (), im') => (.ok im.modules.length, im') := by
  have hlength : (if isFromSameFile fs im name found then im else im.forget name).modules.length =
      im.modules.length := by
    split <;> rfl
  simp only [load, Imports.make_snd, hlength]
  rfl

/-- What loading a file comes to: the first fault that its execution meets, or the module's number. -/
theorem load_fst_eq (fs : FileSystem) (im : Imports) (name : String) (found : Found) :
    (load fs im name found).1 = (do
      let script ← scriptOf fs found.file
      let _ ← (takenLabel fs (ready fs im name found) name found script).1
      match script.importError with
      | some r => .error (.raised r)
      | none => .ok im.modules.length) := by
  rw [load_eq]
  simp only [execute]
  cases scriptOf fs found.file with
  | error e => rfl
  | ok script =>
    simp only [bind, Except.bind]
    generalize takenLabel fs (ready fs im name found) name found script = x
    obtain ⟨taken, im'⟩ := x
    cases taken with
    | error e => rfl
    | ok taken => cases script.importError <;> rfl

/-- The module that is executed starts out empty. -/
theorem module?_ready : (ready fs im name found).module? im.modules.length =
    some ⟨some found.file, none, none, 0⟩ := by
  have hmodules : (if isFromSameFile fs im name found then im else im.forget name).modules =
      im.modules := by
    split <;> rfl
  simp [ready, Imports.make, Imports.keep, Imports.module?, hmodules]

/-- Executing a file that completes leaves in its module a label, which is the script's own or else
the one taken, and what the script exports. -/
theorem execute_of_completes (h : Completes fs im name found script) {taken : Option Json}
    (htaken : (takenLabel fs (ready fs im name found) name found script).1 = .ok taken) :
    ∃ im', execute fs (ready fs im name found) name found im.modules.length = (.ok (), im') ∧
      im'.kept = (takenLabel fs (ready fs im name found) name found script).2.kept ∧
      im'.module? im.modules.length =
        some ⟨some found.file, script.label.or taken, script.exported, 0⟩ ∧
      ∀ k, k ≠ im.modules.length →
        im'.module? k = (takenLabel fs (ready fs im name found) name found script).2.module? k := by
  have hmodule := takenLabel_spares fs (ready fs im name found) name found script _ _ module?_ready
  generalize hx : takenLabel fs (ready fs im name found) name found script = x at htaken hmodule
  obtain ⟨result, im'⟩ := x
  obtain rfl : result = .ok taken := htaken
  simp only [execute, h.compiles, hx, h.raises]
  refine ⟨_, rfl, rfl, ?_, fun k hk => ?_⟩
  · simp only [Imports.module?] at hmodule
    simp only [Imports.module?, Imports.modify, Imports.executed, List.getElem?_modify_eq, hmodule]
    cases script.label <;> rfl
  · simp [Imports.module?, Imports.modify, Imports.executed, hk.symm]

theorem load_of_completes (h : Completes fs im name found script) :
    load fs im name found = (.ok im.modules.length,
      (execute fs (ready fs im name found) name found im.modules.length).2) := by
  obtain ⟨taken, htaken⟩ := h.label
  obtain ⟨im', hexecute, -⟩ := execute_of_completes h htaken
  rw [load_eq, hexecute]

/-- A file is loaded exactly if executing it completes. -/
theorem load_ok_iff {m : Nat} : (load fs im name found).1 = .ok m ↔
    m = im.modules.length ∧ ∃ script, Completes fs im name found script := by
  constructor
  · intro h
    refine ⟨load_fst fs im name h, ?_⟩
    rw [load_eq] at h
    split at h
    · simp at h
    · rename_i hexecute
      simp only [execute] at hexecute
      split at hexecute
      · simp at hexecute
      · rename_i script hscript
        split at hexecute
        · simp at hexecute
        · rename_i label htaken
          split at hexecute
          · simp at hexecute
          · rename_i hraises
            exact ⟨script, hscript, ⟨label, htaken⟩, hraises⟩
  · rintro ⟨rfl, script, hscript⟩
    rw [load_of_completes hscript]

/-- The module of a file whose execution completed exports a function under a name exactly if the
script says so. -/
theorem exports_load (h : Completes fs im name found script) (entryPoint : String) :
    exports (load fs im name found).2 im.modules.length entryPoint = true ↔
      ∃ behavior, script.exported = some (entryPoint, .function behavior) := by
  obtain ⟨taken, htaken⟩ := h.label
  obtain ⟨im', hexecute, -, hm, -⟩ := execute_of_completes h htaken
  rw [load_of_completes h, hexecute]
  simp only [exports, hm, Option.bind_some]
  constructor
  · intro hx
    split at hx
    · rename_i exported behavior hexported
      exact ⟨behavior, by rw [hexported, eq_of_beq hx]⟩
    · simp at hx
  · rintro ⟨behavior, hexported⟩
    simp [hexported]

end LintBridge.LintModule

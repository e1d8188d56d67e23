import LintBridge.LintModule.Imports

/-! Modules are made and never unmade. Loading a module, and calling one, leaves all
modules made before as they were, but for the count of their calls; the module that is
loaded has the first number that was free. -/

namespace LintBridge.LintModule

namespace Imports

/-- Every module made so far stays, and only its calls may be counted on. -/
def Follows (im im' : Imports) : Prop :=
  ∀ k m, im.module? k = some m → ∃ calls, im'.module? k = some { m with calls := calls }

variable {im im' im'' : Imports}

theorem Follows.refl (im : Imports) : im.Follows im :=
  fun _ m hm => ⟨m.calls, hm⟩

/-- What is kept under which name does not matter. -/
theorem follows_of_modules (h : im'.modules = im.modules) : im.Follows im' :=
  fun k m hm => ⟨m.calls, by rwa [module?, h]⟩

theorem follows_executed (im : Imports) : im.Follows im.executed :=
  follows_of_modules rfl

theorem Follows.trans (h : im.Follows im') (h' : im'.Follows im'') : im.Follows im'' := by
  intro k m hm
  obtain ⟨n, hn⟩ := h k m hm
  obtain ⟨n', hn'⟩ := h' k _ hn
  exact ⟨n', hn'⟩

theorem module?_lt {k : Nat} {m : Module} (hm : im.module? k = some m) : k < im.modules.length :=
  (List.getElem?_eq_some_iff.mp hm).1

theorem Follows.length_le (h : im.Follows im') : im.modules.length ≤ im'.modules.length := by
  refine Nat.le_of_not_lt fun hk => ?_
  obtain ⟨n, hn⟩ := h _ _ (List.getElem?_eq_getElem hk)
  exact Nat.lt_irrefl _ (module?_lt hn)

/-- A module made later may change. -/
theorem Follows.modify (h : im.Follows im') {id : Nat} (hid : im.modules.length ≤ id)
    (f : Module → Module) : im.Follows (im'.modify id f) := by
  intro k m hm
  have hne : id ≠ k := fun he => absurd (module?_lt hm) (by omega)
  obtain ⟨n, hn⟩ := h k m hm
  exact ⟨n, by simpa [module?, Imports.modify, List.getElem?_modify, hne] using hn⟩

/-- Every module made so far stays as it is. -/
def Spares (im im' : Imports) : Prop :=
  ∀ k m, im.module? k = some m → im'.module? k = some m

theorem Spares.refl (im : Imports) : im.Spares im := fun _ _ hm => hm

theorem Spares.trans (h : im.Spares im') (h' : im'.Spares im'') : im.Spares im'' :=
  fun k m hm => h' k m (h k m hm)

theorem Spares.follows (h : im.Spares im') : im.Follows im' :=
  fun k m hm => ⟨m.calls, h k m hm⟩

/-- What is kept under which name does not matter. -/
theorem spares_of_modules (h : im'.modules = im.modules) : im.Spares im' :=
  fun k m hm => by rwa [module?, h]

/-- A module made later may change. -/
theorem Spares.modify (h : im.Spares im') {id : Nat} (hid : im.modules.length ≤ id)
    (f : Module → Module) : im.Spares (im'.modify id f) := by
  intro k m hm
  have hne : id ≠ k := fun he => absurd (module?_lt hm) (by omega)
  simpa [module?, Imports.modify, List.getElem?_modify, hne] using h k m hm

theorem spares_make (im : Imports) (name : String) (file : Option String) :
    im.Spares (im.make name file).1 := by
  intro k m hm
  have hk := module?_lt hm
  simpa [module?, make, keep, List.getElem?_append_left hk] using hm

@[simp] theorem make_snd (im : Imports) (name : String) (file : Option String) :
    (im.make name file).2 = im.modules.length := rfl

end Imports

open Imports

variable (fs : FileSystem) (im : Imports) (name : String)

/-! ### Loading -/

theorem executeSubmodule_spares (file : String) :
    im.Spares (executeSubmodule fs im name file).2 := by
  have hm := spares_make im name (some file)
  simp only [executeSubmodule]
  split
  · exact hm.trans (spares_of_modules rfl)
  · have hx : im.Spares (im.make name (some file)).1.executed := hm.trans (spares_of_modules rfl)
    split
    · exact (hx.modify (Nat.le_refl _) _).trans (spares_of_modules rfl)
    · exact hx.modify (Nat.le_refl _) _

theorem submodule_spares (directory : String) :
    im.Spares (submodule fs im name directory).2 := by
  simp only [submodule]
  split
  · exact .refl im
  · split
    · exact .refl im
    · exact executeSubmodule_spares fs im name _
    · exact spares_make im name none
    · exact .refl im

/-- To take a label makes new modules and changes none. -/
theorem takenLabel_spares (found : Found) (script : Script) :
    im.Spares (takenLabel fs im name found script).2 := by
  simp only [takenLabel]
  split
  · exact .refl im
  · rename_i sibling hs
    simp only [siblingLabel]
    split
    · rename_i directory hd
      have hsub := submodule_spares fs im (name ++ "." ++ sibling) directory
      split <;> rename_i h <;> rwa [h] at hsub
    · exact .refl im

theorem takenLabel_follows (found : Found) (script : Script) :
    im.Follows (takenLabel fs im name found script).2 :=
  (takenLabel_spares fs im name found script).follows

/-- Executing a file changes the module that it is executed into, and makes new ones. -/
theorem execute_follows {im im' : Imports} (h : im.Follows im') (found : Found) {id : Nat}
    (hid : im.modules.length ≤ id) : im.Follows (execute fs im' name found id).2 := by
  simp only [execute]
  split
  · exact h
  · rename_i script hscript
    have ht := h.trans (takenLabel_follows fs im' name found script)
    split
    · exact ht
    · have hx := ht.trans (follows_executed _)
      split
      · exact hx.modify hid _
      · exact (hx.modify hid _).modify hid _

theorem load_follows (found : Found) : im.Follows (load fs im name found).2 := by
  simp only [load]
  generalize hk : (if isFromSameFile fs im name found then im else im.forget name) = kept
  have hm : kept.modules = im.modules := by
    rw [← hk]
    split <;> rfl
  have hmade := (follows_of_modules hm).trans (spares_make kept name (some found.file)).follows
  have hid : im.modules.length ≤ kept.modules.length :=
    Nat.le_of_eq (congrArg List.length hm.symm)
  have hx := execute_follows fs name hmade found hid
  rw [make_snd]
  split <;> rename_i h <;> rw [h] at hx
  · exact hx.trans (follows_of_modules rfl)
  · exact hx

/-- A module that is loaded has the first number that was free. -/
theorem load_fst {found : Found} {m : Nat} (h : (load fs im name found).1 = .ok m) :
    m = im.modules.length := by
  simp only [load] at h
  generalize hk : (if isFromSameFile fs im name found then im else im.forget name) = kept at h
  have hm : kept.modules = im.modules := by
    rw [← hk]
    split <;> rfl
  split at h
  · simp at h
  · rw [make_snd, hm] at h
    exact (Except.ok.inj h).symm

theorem execute_length_le (found : Found) (id : Nat) :
    im.modules.length ≤ (execute fs im name found id).2.modules.length := by
  simp only [execute]
  split
  · exact Nat.le_refl _
  · rename_i script hscript
    have ht := (takenLabel_follows fs im name found script).length_le
    split
    · exact ht
    · split <;> simpa [Imports.modify, Imports.executed] using ht

/-- A module that is loaded is one of those that were made. -/
theorem lt_of_load {found : Found} {m : Nat} (h : (load fs im name found).1 = .ok m) :
    m < (load fs im name found).2.modules.length := by
  simp only [load] at h ⊢
  generalize (if isFromSameFile fs im name found then im else im.forget name) = kept at h ⊢
  have hx := execute_length_le fs (kept.make name (some found.file)).1 name found
    (kept.make name (some found.file)).2
  split at h <;> rename_i hload
  · simp at h
  · obtain rfl := Except.ok.inj h
    simp only [hload] at hx ⊢
    refine Nat.lt_of_lt_of_le ?_ hx
    simp [Imports.make, Imports.keep]

/-- A module with the entry point that is loaded is one whose script ran to its end and exports it.
-/
theorem script_of_load {found : Found} {m : Nat} {entryPoint : String}
    (h : (load fs im name found).1 = .ok m)
    (hx : exports (load fs im name found).2 m entryPoint = true) :
    ∃ script behavior, scriptOf fs found.file = .ok script ∧ script.importError = none ∧
      script.exported = some (entryPoint, .function behavior) := by
  simp only [load, execute] at h hx
  split at h <;> rename_i hload
  · simp at h
  · rw [hload] at hx
    obtain rfl := Except.ok.inj h
    split at hload
    · simp at hload
    · rename_i script hscript
      split at hload
      · simp at hload
      · split at hload
        · simp at hload
        · rename_i himport
          obtain ⟨-, rfl⟩ := Prod.mk.inj hload
          simp only [exports, Imports.modify, module?, List.getElem?_modify] at hx
          split at hx
          · rename_i entry behavior hexported
            obtain rfl := eq_of_beq hx
            simp only [if_true, Option.bind_eq_some_iff, Option.map_eq_map,
              Option.map_eq_some_iff] at hexported
            obtain ⟨_, ⟨_, -, rfl⟩, hexported⟩ := hexported
            exact ⟨script, behavior, hscript, himport, hexported⟩
          · simp at hx

/-! ### Calling -/

theorem call_follows (id : Nat) (entryPoint text : String) (options : Members) :
    im.Follows (call im id entryPoint text options).2 := by
  simp only [call]
  split
  · exact .refl im
  · split
    · split
      · intro k m hm
        by_cases hk : id = k
        · subst hk
          exact ⟨m.calls + 1, by simp_all [module?, Imports.modify]⟩
        · exact ⟨m.calls, by simpa [module?, Imports.modify, List.getElem?_modify, hk] using hm⟩
      · exact .refl im
    · exact .refl im

/-- No function of a module answers otherwise because of how often it was called. -/
def Imports.IsPure (im : Imports) : Prop :=
  ∀ k m name behavior, im.module? k = some m → m.exported = some (name, .function behavior) →
    ∀ calls calls' text options,
      behavior.answer m.label calls text options = behavior.answer m.label calls' text options

/-- Does a module export the function that echoes its options? -/
def Module.echoes (m : Module) : Bool :=
  match m.exported with
  | some (_, .function .echo) => true
  | _ => false

/-- Only a function that echoes its options tells how often it was called. -/
theorem Imports.isPure_of_no_echo {im : Imports}
    (h : ∀ m ∈ im.modules, m.echoes = false) : im.IsPure := by
  intro k m name behavior hm hx calls calls' text options
  have hnot := h m (List.mem_of_getElem? hm)
  cases behavior with
  | echo => simp [Module.echoes, hx] at hnot
  | _ => rfl

/-- What a module of pure functions answered once it answers later. -/
theorem call_of_pure {im im' : Imports} (h : im.Follows im') (pure : im'.IsPure) {id : Nat}
    {entryPoint text : String} {options : Members} {report : Json}
    (hreport : (call im id entryPoint text options).1 = .ok report) :
    (call im' id entryPoint text options).1 = .ok report := by
  unfold call at hreport ⊢
  cases hm : im.module? id with
  | none => simp [hm] at hreport
  | some m =>
    obtain ⟨calls, hm'⟩ := h id m hm
    simp only [hm, hm'] at hreport ⊢
    split at hreport
    · rename_i name behavior hx
      split at hreport
      · rw [if_pos ‹_›]
        have hanswer := pure id _ name behavior hm' hx (calls + 1) (m.calls + 1) text options
        exact hanswer.trans hreport
      · simp at hreport
    · simp at hreport

/-! ### Labels and entry points -/

/-- A module keeps the label that it has. -/
theorem label_of_follows {im im' : Imports} (h : im.Follows im') {k : Nat} {v : Json}
    (hv : (im.module? k).bind Module.label = some v) :
    (im'.module? k).bind Module.label = some v := by
  obtain ⟨m, hm, hlabel⟩ := Option.bind_eq_some_iff.mp hv
  obtain ⟨calls, hm'⟩ := h _ _ hm
  rw [hm']
  exact hlabel

theorem exports_lt {im : Imports} {m : Nat} {entryPoint : String}
    (h : exports im m entryPoint = true) : m < im.modules.length := by
  cases hm : im.module? m with
  | none => simp [exports, hm] at h
  | some module => exact module?_lt hm

/-- A module exports what it exported when it was made. -/
theorem exports_of_follows {im im' : Imports} (h : im.Follows im') {m : Nat}
    (hm : m < im.modules.length) (entryPoint : String) :
    exports im' m entryPoint = exports im m entryPoint := by
  have hold : im.module? m = some im.modules[m] := List.getElem?_eq_getElem hm
  obtain ⟨n, hn⟩ := h _ _ hold
  simp only [exports, hn, hold, Option.bind_some]

end LintBridge.LintModule

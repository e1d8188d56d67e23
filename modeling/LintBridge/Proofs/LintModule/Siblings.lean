import LintBridge.Proofs.LintModule.Execution
import LintBridge.Proofs.Table

/-! Where the siblings come from that a module takes its label from. A sibling that is kept is taken as
it is, and any other one is executed for the module. What is kept of a module after its file was
executed is the module itself, what was kept before from the same file, and the sibling that was
executed for it; and nothing after an execution that failed. -/

namespace LintBridge.LintModule

open Imports

namespace Imports

theorem belongsTo_self (name : String) : belongsTo name name = true := by
  simp [belongsTo]

theorem belongsTo_sibling (name sibling : String) :
    belongsTo name (name ++ "." ++ sibling) = true := by
  simp [belongsTo, String.startsWith_string_iff]

theorem sibling_ne (name sibling : String) : name ++ "." ++ sibling ≠ name := by
  intro h
  have hlength := congrArg (fun s : String => s.toList.length) h
  simp only [String.toList_append, List.length_append] at hlength
  have hdot : (".").toList.length = 1 := rfl
  omega

/-- Nothing is kept of a module that was forgotten. -/
theorem not_belongsTo_of_mem_forget {im : Imports} {name : String} {p : String × Nat}
    (hp : p ∈ (im.forget name).kept) : belongsTo name p.1 = false := by
  simpa [forget] using (List.mem_filter.mp hp).2

/-- Nothing is kept of a module. -/
def Lacks (im : Imports) (name : String) : Prop :=
  ∀ p ∈ im.kept, belongsTo name p.1 = false

theorem lacks_forget (im : Imports) (name : String) : (im.forget name).Lacks name :=
  fun _ hp => not_belongsTo_of_mem_forget hp

theorem Lacks.lookup {im : Imports} {name full : String} (lacks : im.Lacks name)
    (h : belongsTo name full = true) : im.kept.lookup full = none := by
  rw [List.lookup_eq_none_iff]
  intro p hp
  have hnot := lacks p hp
  rw [bne_iff_ne]
  rintro rfl
  simp [h] at hnot

end Imports

/-- An execution of a module's file: the files and the modules that there were, the module's name and
the file that was found for it. -/
structure Execution where
  files : FileSystem
  imports : Imports
  name : String
  found : Found

namespace Execution

/-- The real file that is executed. -/
def real (e : Execution) : String :=
  e.files.realPath e.found.file

/-- The number of the module that the file is executed into, or why that failed; and the modules
there are then. -/
def result (e : Execution) : Except Fault Nat × Imports :=
  load e.files e.imports e.name e.found

/-- The modules among which the file is executed. -/
def among (e : Execution) : Imports :=
  ready e.files e.imports e.name e.found

/-- The module takes a value from the sibling that has this full name and number. -/
def Takes (e : Execution) (full : String) (k : Nat) (v : Json) : Prop :=
  ∃ script sibling directory im, scriptOf e.files e.found.file = .ok script ∧
    script.labelFrom = some sibling ∧ e.found.package = some directory ∧
    full = e.name ++ "." ++ sibling ∧ submodule e.files e.among full directory = (.ok k, im) ∧
    labelOf im full k = .ok v

/-- The module takes a value from a sibling whose file is executed for it, which gives the value. -/
def Makes (e : Execution) (full : String) (k : Nat) (v : Json) : Prop :=
  e.Takes full k v ∧ k = e.imports.modules.length + 1 ∧
    ∃ directory f script, e.found.package = some directory ∧
      find e.files full [directory] = .ok (.file f) ∧ scriptOf e.files f.file = .ok script ∧
      script.importError = none ∧ script.label = some v

variable {e : Execution} {full : String} {k m : Nat} {v : Json}

theorem modules_among :
    e.among.modules = e.imports.modules ++ [⟨some e.found.file, none, none, 0⟩] := by
  have hmodules : (if isFromSameFile e.files e.imports e.name e.found then e.imports
      else e.imports.forget e.name).modules = e.imports.modules := by
    split <;> rfl
  simp [among, ready, make, keep, hmodules]

/-- A sibling that is kept when a file is executed was kept before, from the same file. -/
theorem kept_of_among (hne : full ≠ e.name) (hbelongs : belongsTo e.name full = true)
    (hk : e.among.kept.lookup full = some k) :
    isFromSameFile e.files e.imports e.name e.found = true ∧
      e.imports.kept.lookup full = some k := by
  have hbase : e.among.kept.lookup full =
      (if isFromSameFile e.files e.imports e.name e.found then e.imports
        else e.imports.forget e.name).kept.lookup full :=
    Table.lookup_put_of_ne _ _ hne
  rw [hbase] at hk
  split at hk
  · exact ⟨‹_›, hk⟩
  · rw [(lacks_forget _ _).lookup hbelongs] at hk
    simp at hk

/-- A label is read off a module that has it. -/
theorem labelOf_eq_ok {im : Imports} (h : labelOf im full k = .ok v) :
    (im.module? k).bind Module.label = some v := by
  simp only [labelOf] at h
  split at h
  · simp at h
  · rename_i m hm
    simp only [hm, Option.bind_some]
    split at h
    · rename_i w hw
      rw [hw, Except.ok.inj h]
    · simp at h

/-- A sibling that was made for a module is the one that its file gives. -/
theorem executeSubmodule_ok {fs : FileSystem} {im im' : Imports} {file : String}
    (h : executeSubmodule fs im full file = (.ok k, im')) :
    k = im.modules.length ∧ im'.kept = (full, k) :: im.kept.filter (fun p => p.1 != full) ∧
      ∃ script, scriptOf fs file = .ok script ∧ script.importError = none ∧
        im'.module? k = some ⟨some file, script.label, none, 0⟩ := by
  simp only [executeSubmodule] at h
  split at h
  · simp at h
  · rename_i script hscript
    split at h
    · simp at h
    · rename_i hraises
      obtain ⟨hk, rfl⟩ := Prod.mk.inj h
      obtain rfl := Except.ok.inj hk
      exact ⟨rfl, rfl, script, hscript, hraises, by
        simp [module?, Imports.modify, Imports.executed, make, keep]⟩

/-- A sibling that is had is kept. -/
theorem lookup_submodule {fs : FileSystem} {im im' : Imports} {directory : String}
    (h : submodule fs im full directory = (.ok k, im')) : im'.kept.lookup full = some k := by
  simp only [submodule] at h
  split at h
  · rename_i k' hkept
    obtain ⟨hk, rfl⟩ := Prod.mk.inj h
    exact hkept.trans (congrArg some (Except.ok.inj hk))
  · split at h
    · simp at h
    · obtain ⟨-, hkept, -⟩ := executeSubmodule_ok h
      rw [hkept, Table.lookup_put_self]
    · obtain ⟨hk, rfl⟩ := Prod.mk.inj h
      exact (Table.lookup_put_self _ _ _).trans (congrArg some (Except.ok.inj hk))
    · simp at h

/-- Having a sibling leaves everything else that is kept. -/
theorem lookup_submodule_of_ne (fs : FileSystem) (im : Imports) (directory : String)
    {other : String} (h : other ≠ full) :
    (submodule fs im full directory).2.kept.lookup other = im.kept.lookup other := by
  have hmake : ∀ file, (im.make full file).1.kept.lookup other = im.kept.lookup other :=
    fun file => Table.lookup_put_of_ne _ _ h
  simp only [submodule]
  split
  · rfl
  · split
    · rfl
    · simp only [executeSubmodule]
      split
      · exact (Table.lookup_drop_of_ne _ h).trans (hmake _)
      · split
        · exact (Table.lookup_drop_of_ne _ h).trans (hmake _)
        · exact hmake _
    · exact hmake _
    · rfl

/-- A value is taken from another module of the same package. -/
theorem Takes.isSibling (h : e.Takes full k v) : full ≠ e.name ∧ belongsTo e.name full = true := by
  obtain ⟨_, sibling, _, _, -, -, -, rfl, -⟩ := h
  exact ⟨sibling_ne e.name sibling, belongsTo_sibling e.name sibling⟩

/-- A value is taken from a sibling that is kept, or is made for it. -/
theorem Takes.cases (h : e.Takes full k v) :
    e.Makes full k v ∨ e.among.kept.lookup full = some k ∧
      (e.imports.module? k).bind Module.label = some v := by
  have htakes := h
  obtain ⟨script, sibling, directory, im, hscript, hfrom, hpackage, rfl, hsub, hlabel⟩ := h
  simp only [submodule] at hsub
  split at hsub
  · rename_i k' hkept
    obtain ⟨hk, rfl⟩ := Prod.mk.inj hsub
    obtain rfl := Except.ok.inj hk
    refine .inr ⟨hkept, ?_⟩
    -- the module that is being executed has no label yet
    have hv := labelOf_eq_ok hlabel
    rw [module?, modules_among, List.getElem?_append] at hv
    split at hv
    · exact hv
    · rw [List.getElem?_singleton] at hv
      split at hv <;> simp at hv
  · split at hsub
    · simp at hsub
    · rename_i f hfind
      obtain ⟨hk, -, submodule, hsubmodule, hraises, hmodule⟩ := executeSubmodule_ok hsub
      have hv := labelOf_eq_ok hlabel
      rw [hmodule] at hv
      exact .inl ⟨htakes, hk.trans (by simp [modules_among]), directory, f, submodule, hpackage, hfind,
        hsubmodule, hraises, hv⟩
    · -- a directory without a file has no label to give
      obtain ⟨hk, rfl⟩ := Prod.mk.inj hsub
      obtain rfl := Except.ok.inj hk
      have hv := labelOf_eq_ok hlabel
      simp [make, keep, module?] at hv
    · simp at hsub

/-- A value that is taken is taken from a sibling. -/
theorem takes_of_taken {script : Script} {taken : Option Json} {im : Imports}
    (hscript : scriptOf e.files e.found.file = .ok script)
    (h : takenLabel e.files e.among e.name e.found script = (.ok taken, im)) :
    (taken = none ∧ im = e.among) ∨ ∃ sibling directory k v, taken = some v ∧
      e.Takes (e.name ++ "." ++ sibling) k v ∧
      submodule e.files e.among (e.name ++ "." ++ sibling) directory = (.ok k, im) ∧
      (im.module? k).bind Module.label = some v := by
  simp only [takenLabel] at h
  split at h
  · obtain ⟨htaken, rfl⟩ := Prod.mk.inj h
    exact .inl ⟨(Except.ok.inj htaken).symm, rfl⟩
  · rename_i sibling hfrom
    simp only [siblingLabel] at h
    split at h
    · rename_i directory hpackage
      split at h
      · simp [Except.map] at h
      · rename_i k im' hsub
        obtain ⟨htaken, rfl⟩ := Prod.mk.inj h
        cases hlabel : labelOf im' (e.name ++ "." ++ sibling) k with
        | error fault => simp [hlabel, Except.map] at htaken
        | ok v =>
          rw [hlabel] at htaken
          exact .inr ⟨sibling, directory, k, v, (Except.ok.inj htaken).symm,
            ⟨script, sibling, directory, im', hscript, hfrom, hpackage, rfl, hsub, hlabel⟩, hsub,
            labelOf_eq_ok hlabel⟩
    · simp [Except.map] at h

/-- A sibling that is kept after a value was taken is the one that was made for it, or was kept
before. -/
theorem kept_of_submodule {directory other : String} {im : Imports} {k' : Nat}
    (htakes : e.Takes full k v) (h : submodule e.files e.among full directory = (.ok k, im))
    (hk' : im.kept.lookup other = some k') :
    e.among.kept.lookup other = some k' ∨ other = full ∧ k' = k ∧ e.Makes full k v := by
  by_cases hother : other = full
  · subst hother
    have hsame : k' = k := Option.some.inj (hk'.symm.trans (lookup_submodule h))
    subst hsame
    obtain hmakes | ⟨hkept, -⟩ := htakes.cases
    · exact .inr ⟨rfl, rfl, hmakes⟩
    · exact .inl hkept
  · have hkept := lookup_submodule_of_ne e.files e.among directory hother
    rw [h] at hkept
    exact .inl (hkept.symm.trans hk')

/-! ### What an execution leaves behind -/

/-- An execution that completes keeps the module, and of its siblings those that were kept before from
the same file and the one that was made for it. The label of the module is its script's own or one
that it took. -/
theorem kept_of_completed (h : e.result.1 = .ok m) :
    m = e.imports.modules.length ∧ e.result.2.kept.lookup e.name = some m ∧
    (∃ script label calls, scriptOf e.files e.found.file = .ok script ∧
      e.result.2.module? m = some ⟨some e.found.file, label, script.exported, calls⟩ ∧
      ∀ v, label = some v → script.label = some v ∨ ∃ full k, e.Takes full k v) ∧
    ∀ full k, full ≠ e.name → belongsTo e.name full = true →
      e.result.2.kept.lookup full = some k →
        isFromSameFile e.files e.imports e.name e.found = true ∧
          e.imports.kept.lookup full = some k ∨
        ∃ v, e.Makes full k v ∧ (e.result.2.module? k).bind Module.label = some v := by
  obtain ⟨rfl, script, hcompletes⟩ := load_ok_iff.mp h
  obtain ⟨taken, htaken⟩ := hcompletes.label
  obtain ⟨im, hexecute, hkept, hmodule, hothers⟩ := execute_of_completes hcompletes htaken
  have hresult : e.result = (.ok e.imports.modules.length, im) := by
    rw [result, load_of_completes hcompletes, hexecute]
  generalize hx : takenLabel e.files (ready e.files e.imports e.name e.found) e.name e.found script
    = x at htaken hkept hothers
  obtain ⟨_, im'⟩ := x
  obtain rfl := htaken
  have htakes := takes_of_taken hcompletes.compiles hx
  rw [hresult]
  have hself : e.among.kept.lookup e.name = some e.imports.modules.length := by
    have hmodules : (if isFromSameFile e.files e.imports e.name e.found then e.imports
        else e.imports.forget e.name).modules = e.imports.modules := by
      split <;> rfl
    exact (Table.lookup_put_self _ _ _).trans (by rw [hmodules])
  refine ⟨rfl, ?_, ⟨script, _, 0, hcompletes.compiles, hmodule, fun v hv => ?_⟩,
    fun full k hne hbelongs hk => ?_⟩
  · rw [hkept]
    obtain ⟨-, rfl⟩ | ⟨sibling, directory, k, v, -, -, hsub, -⟩ := htakes
    · exact hself
    · have hsame := lookup_submodule_of_ne e.files e.among directory (sibling_ne e.name sibling).symm
      rw [hsub] at hsame
      exact hsame.trans hself
  · cases hlabel : script.label with
    | some w =>
      rw [hlabel] at hv
      exact .inl hv
    | none =>
      rw [hlabel, Option.none_or] at hv
      obtain ⟨hnone, -⟩ | ⟨sibling, directory, k, w, htaken, hw, -⟩ := htakes
      · simp [hnone] at hv
      · obtain rfl := Option.some.inj (htaken.symm.trans hv)
        exact .inr ⟨_, k, hw⟩
  · rw [hkept] at hk
    obtain ⟨-, rfl⟩ | ⟨sibling, directory, k', v, -, hv, hsub, hlabel⟩ := htakes
    · exact .inl (kept_of_among hne hbelongs hk)
    · obtain hold | ⟨rfl, rfl, hmakes⟩ := kept_of_submodule hv hsub hk
      · exact .inl (kept_of_among hne hbelongs hold)
      · refine .inr ⟨v, hmakes, ?_⟩
        have hk : k ≠ e.imports.modules.length := by
          obtain ⟨-, rfl, -⟩ := hmakes
          omega
        rw [hothers k hk]
        exact hlabel

/-! ### What stays from before -/

/-- The siblings that are kept when a file is executed are those kept before from the same file. -/
theorem isSome_among (hne : full ≠ e.name) (hbelongs : belongsTo e.name full = true) :
    (e.among.kept.lookup full).isSome = true ↔
      isFromSameFile e.files e.imports e.name e.found = true ∧
        (e.imports.kept.lookup full).isSome = true := by
  constructor
  · intro h
    obtain ⟨k, hk⟩ := Option.isSome_iff_exists.mp h
    obtain ⟨hsame, hold⟩ := kept_of_among hne hbelongs hk
    exact ⟨hsame, by rw [hold, Option.isSome_some]⟩
  · rintro ⟨hsame, hold⟩
    have hbase : e.among.kept.lookup full = e.imports.kept.lookup full := by
      refine (Table.lookup_put_of_ne _ _ hne).trans ?_
      rw [if_pos hsame]
    rwa [hbase]

/-- A sibling from which a value is taken is kept then. -/
theorem Takes.kept (h : e.Takes full k v) {m : Nat} (hm : e.result.1 = .ok m) :
    (e.result.2.kept.lookup full).isSome = true := by
  obtain ⟨script, sibling, directory, im, hscript, hfrom, hpackage, rfl, hsub, hlabel⟩ := h
  have htaken : takenLabel e.files e.among e.name e.found script = (.ok (some v), im) := by
    simp only [takenLabel, siblingLabel, hfrom, hpackage, hsub, hlabel]
    rfl
  obtain ⟨-, script', hcompletes⟩ := load_ok_iff.mp hm
  obtain rfl := Except.ok.inj (hcompletes.compiles.symm.trans hscript)
  obtain ⟨im', hexecute, hkept, -⟩ := execute_of_completes hcompletes (congrArg Prod.fst htaken)
  have hresult : e.result.2.kept = im.kept := by
    rw [result, load_of_completes hcompletes, hexecute]
    exact hkept.trans (congrArg (·.2.kept) htaken)
  rw [hresult, lookup_submodule hsub, Option.isSome_some]

/-- A sibling that was kept before from the same file stays kept. -/
theorem isSome_kept_of_among (hne : full ≠ e.name) (hk : (e.among.kept.lookup full).isSome = true)
    (hm : e.result.1 = .ok m) : (e.result.2.kept.lookup full).isSome = true := by
  by_cases htakes : ∃ k v, e.Takes full k v
  · obtain ⟨k, v, htakes⟩ := htakes
    exact htakes.kept hm
  · obtain ⟨-, script, hcompletes⟩ := load_ok_iff.mp hm
    obtain ⟨taken, htaken⟩ := hcompletes.label
    obtain ⟨im, hexecute, hkept, -⟩ := execute_of_completes hcompletes htaken
    rw [result, load_of_completes hcompletes, hexecute, hkept]
    generalize hx : takenLabel e.files (ready e.files e.imports e.name e.found) e.name e.found
      script = x at htaken
    obtain ⟨_, im'⟩ := x
    obtain rfl := htaken
    obtain ⟨-, rfl⟩ | ⟨sibling, directory, k, v, -, hv, hsub, -⟩ :=
      takes_of_taken hcompletes.compiles hx
    · exact hk
    · have hother : full ≠ e.name ++ "." ++ sibling := by
        rintro rfl
        exact htakes ⟨k, v, hv⟩
      have hsame := lookup_submodule_of_ne e.files e.among directory hother
      rw [hsub] at hsame
      rwa [hsame]

/-- The siblings that are kept after an execution that completes: those kept before from the same
file, and the one that the module takes its label from. -/
theorem isSome_kept_of_completed (hne : full ≠ e.name) (hbelongs : belongsTo e.name full = true)
    (hm : e.result.1 = .ok m) : (e.result.2.kept.lookup full).isSome = true ↔
      (isFromSameFile e.files e.imports e.name e.found = true ∧
        (e.imports.kept.lookup full).isSome = true) ∨ ∃ k v, e.Takes full k v := by
  constructor
  · intro h
    obtain ⟨k, hk⟩ := Option.isSome_iff_exists.mp h
    obtain ⟨-, -, -, hsiblings⟩ := kept_of_completed hm
    obtain ⟨hsame, hold⟩ | ⟨v, hmakes, -⟩ := hsiblings full k hne hbelongs hk
    · exact .inl ⟨hsame, by rw [hold, Option.isSome_some]⟩
    · exact .inr ⟨k, v, hmakes.1⟩
  · rintro (hold | ⟨k, v, htakes⟩)
    · exact isSome_kept_of_among hne ((isSome_among hne hbelongs).mpr hold) hm
    · exact htakes.kept hm

/-- What an execution that failed leaves nothing of. -/
theorem not_belongsTo_of_failed {fault : Fault} (h : e.result.1 = .error fault)
    {p : String × Nat} (hp : p ∈ e.result.2.kept) : belongsTo e.name p.1 = false := by
  rw [result, load_eq] at h hp
  split at h
  · rename_i hx
    rw [hx] at hp
    exact not_belongsTo_of_mem_forget hp
  · simp at h

end Execution

end LintBridge.LintModule

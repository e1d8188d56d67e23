import LintBridge.Proofs.Resolver.Ending

/-! An attempt on two machines. Its steps depend on the files, on what the configuration says and on
the modules that there are, and on nothing that was logged. On two machines that are alike in
these an attempt takes the same steps, and leaves the machines alike. -/

namespace LintBridge

/-- The same machine but for what was logged, and for whether its configuration has been read. -/
structure Host.Alike (h h' : Host) : Prop where
  stays : h.Stays h'
  imports : h'.imports = h.imports

namespace Host

variable {h h' h'' : Host}

theorem Stays.symm (a : h.Stays h') : h'.Stays h :=
  ⟨a.files.symm, a.globally.symm, a.linter.symm⟩

theorem Alike.refl (h : Host) : h.Alike h := ⟨.refl h, rfl⟩

theorem Alike.symm (a : h.Alike h') : h'.Alike h := ⟨a.stays.symm, a.imports.symm⟩

theorem Alike.trans (a : h.Alike h') (b : h'.Alike h'') : h.Alike h'' :=
  ⟨a.stays.trans b.stays, b.imports.trans a.imports⟩

theorem alike_note (h : Host) (level : LogLevel) (message : String) :
    h.Alike (h.note level message) :=
  ⟨h.stays_note _ _, rfl⟩

theorem alike_linterConfig (h : Host) : h.Alike h.linterConfig.2 :=
  ⟨h.stays_linterConfig, h.linterConfig_agrees.imports⟩

/-- Changes that each leave a machine alike leave two machines alike that were so. -/
theorem Alike.both {x x' : Host} (a : h.Alike h') (b : h.Alike x) (b' : h'.Alike x') : x.Alike x' :=
  b.symm.trans (a.trans b')

end Host

theorem Workspace.declares_congr {h h' : Host} (a : h.Stays h') (root package : String) :
    (declares h' root package).1 = (declares h root package).1 := by
  obtain ⟨result, hanswer⟩ := exists_answer h root package
  rw [declares_of_answer hanswer, declares_of_answer (hanswer.stays a)]

namespace Resolver

variable (r : Resolver) {h h' : Host} (id : Nat) (root : String)

theorem find_alike (h : Host) : h.Alike (r.find h root).2 :=
  ⟨r.find_stays h root, (r.find_agrees h root).imports⟩

theorem settleMissing_alike (h : Host) : h.Alike (r.settleMissing h id root).2 := by
  refine ⟨r.settleMissing_stays h id root, ?_⟩
  have hd := (Workspace.declares_agrees h root r.moduleName).imports
  simp only [settleMissing]
  split <;> rename_i hh <;> rw [hh] at hd <;> exact hd

theorem settleMissing_congr (a : h.Alike h') :
    (r.settleMissing h' id root).1 = (r.settleMissing h id root).1 := by
  have hd := Workspace.declares_congr a.stays root r.moduleName
  simp only [settleMissing]
  generalize Workspace.declares h root r.moduleName = x at hd ⊢
  generalize Workspace.declares h' root r.moduleName = x' at hd ⊢
  obtain ⟨other, k⟩ := x
  obtain ⟨result, k'⟩ := x'
  obtain rfl : result = other := hd
  cases result with
  | error e => rfl
  | ok declared => cases declared <;> rfl

theorem search_congr (a : h.Alike h') : (r.search h' id root).1 = (r.search h id root).1 ∧
    (r.search h id root).2.Alike (r.search h' id root).2 := by
  have hfind : (r.find h' root).1 = (r.find h root).1 :=
    find_congr rfl rfl rfl a.stays.files a.stays.globally root
  have hx := a.both (r.find_alike root h) (r.find_alike root h')
  simp only [search]
  generalize r.find h root = x at hfind hx ⊢
  generalize r.find h' root = x' at hfind hx ⊢
  obtain ⟨other, k⟩ := x
  obtain ⟨result, k'⟩ := x'
  obtain rfl : result = other := hfind
  cases result with
  | error e => exact ⟨rfl, hx⟩
  | ok found =>
    cases found with
    | none =>
      exact ⟨r.settleMissing_congr id root hx,
        hx.both (r.settleMissing_alike id root k) (r.settleMissing_alike id root k')⟩
    | some f =>
      have hfiles : k'.files = k.files := hx.stays.files
      simp only [hfiles]
      cases r.handles.lookup (k.files.realPath f.file) with
      | none => exact ⟨rfl, hx⟩
      | some m => exact ⟨rfl, hx.both (k.alike_note _ _) (k'.alike_note _ _)⟩

/-- What an attempt settles on changes neither the files nor the modules. -/
theorem settle_alike (h : Host) (origin : String) (result : Except Fault Nat) :
    h.Alike (r.settle h id root origin result).2 := by
  simp only [settle]
  split
  · split
    · exact .refl h
    · exact (h.alike_note _ _).trans (r.settleMissing_alike id root _)
  · split
    · exact h.alike_note _ _
    · exact .refl h

theorem settle_congr (a : h.Alike h') (origin : String) (result : Except Fault Nat) :
    (r.settle h' id root origin result).1 = (r.settle h id root origin result).1 ∧
      (r.settle h id root origin result).2.Alike (r.settle h' id root origin result).2 := by
  simp only [settle]
  cases result with
  | error e =>
    have hnoted : ∀ message, (h.note .warning message).Alike (h'.note .warning message) :=
      fun message => a.both (h.alike_note _ _) (h'.alike_note _ _)
    dsimp only
    cases e.shown with
    | error flaw => exact ⟨rfl, a⟩
    | ok text =>
      exact ⟨r.settleMissing_congr id root (hnoted _),
        (hnoted _).both (r.settleMissing_alike id root _) (r.settleMissing_alike id root _)⟩
  | ok m =>
    simp only [a.imports]
    split
    · exact ⟨rfl, a.both (h.alike_note _ _) (h'.alike_note _ _)⟩
    · exact ⟨rfl, a⟩

/-- On machines that are alike an attempt takes the same step. -/
theorem step_congr (a : h.Alike h') :
    (r.step h' id).1 = (r.step h id).1 ∧ (r.step h id).2.Alike (r.step h' id).2 := by
  simp only [step]
  cases r.attempts[id]? with
  | none => exact ⟨rfl, a⟩
  | some attempt =>
    cases hp : attempt.phase with
    | begun => simpa only [hp] using r.search_congr id attempt.root a
    | found f origin =>
      have hload : LintModule.load h'.files h'.imports r.moduleName f =
          LintModule.load h.files h.imports r.moduleName f := by rw [a.stays.files, a.imports]
      simp only [hp, execute, hload]
      exact ⟨trivial, (h.stays_imports _).symm.trans (a.stays.trans (h'.stays_imports _)), rfl⟩
    | executed origin result => simpa only [hp] using r.settle_congr id attempt.root a origin result
    | settled o => simpa only [hp] using ⟨trivial, a⟩

/-- To ask for an attempt is only logged. -/
theorem attemptFor_alike (h : Host) : h.Alike (r.attemptFor h root).2.2 := by
  simp only [attemptFor]
  split
  · exact .refl h
  · exact h.alike_note _ _

/-- Whether a new attempt begins does not depend on what was logged. -/
theorem attemptFor_congr (a : h.Alike h') :
    (r.attemptFor h' root).1 = (r.attemptFor h root).1 ∧
      (r.attemptFor h' root).2.1 = (r.attemptFor h root).2.1 ∧
      (r.attemptFor h root).2.2.Alike (r.attemptFor h' root).2.2 := by
  have hkey : key h' root = key h root := by rw [key, Host.here, a.stays.files]; rfl
  simp only [attemptFor, hkey]
  cases r.memo.lookup (key h root) with
  | some id => exact ⟨rfl, rfl, a⟩
  | none => exact ⟨rfl, rfl, a.both (h.alike_note _ _) (h'.alike_note _ _)⟩

end Resolver

namespace Resolution

variable {c c' : Resolution} {id : Nat}

/-- Two resolvers that are the same, on machines that are alike. -/
structure Alike (c c' : Resolution) : Prop where
  resolver : c'.resolver = c.resolver
  host : c.host.Alike c'.host

theorem Alike.refl (c : Resolution) : c.Alike c := ⟨rfl, .refl _⟩

theorem Alike.step (a : c.Alike c') (id : Nat) : (c.act (.step id)).Alike (c'.act (.step id)) := by
  obtain ⟨r, h⟩ := c
  obtain ⟨_, h'⟩ := c'
  obtain ⟨rfl, hh⟩ := a
  obtain ⟨hr, hhost⟩ := Resolver.step_congr _ id hh
  exact ⟨hr, hhost⟩

theorem Alike.steps (a : c.Alike c') (id n : Nat) :
    (c.after (List.replicate n (.step id))).Alike (c'.after (List.replicate n (.step id))) := by
  induction n generalizing c c' with
  | zero => exact a
  | succ n ih => exact ih (a.step id)

theorem Alike.resolve (a : c.Alike c') (root : String) : c'.asked root = c.asked root ∧
    (c.act (.resolve root)).Alike (c'.act (.resolve root)) := by
  obtain ⟨r, h⟩ := c
  obtain ⟨_, h'⟩ := c'
  obtain ⟨rfl, hh⟩ := a
  obtain ⟨hasked, hr, hhost⟩ := Resolver.attemptFor_congr _ root hh
  exact ⟨congrArg Prod.fst hasked, hr, hhost⟩

end Resolution

end LintBridge

import LintBridge.Proofs.LintModule.Anew
import LintBridge.Proofs.Resolver.Agreement

/-! Attempts that begin with nothing: no module is held, and nothing is kept of the module that is
looked for. Two such attempts that look for the same module in the same places come to the same,
whatever came before them. Only the numbers differ that their modules and failures have. -/

namespace LintBridge

namespace Resolution

variable {c c' : Resolution} {id id' : Nat} {key : String} {ending : Ending}

/-- Outcomes that differ in their numbers at most: modules that are alike, or failures that are. -/
inductive Matches (c c' : Resolution) : Outcome → Outcome → Prop where
  | present (m m' : Nat) (module : c'.host.imports.module? m' = c.host.imports.module? m) :
      Matches c c' (.present m) (.present m')
  | absent : Matches c c' .absent .absent
  | failed (f f' : Nat) (x : Failure) (failure : c.resolver.failure? f = some x)
      (failure' : c'.resolver.failure? f' = some x) : Matches c c' (.failed f) (.failed f')

/-- No module is held, and nothing is kept of the module that is looked for. -/
structure IsBlank (c : Resolution) : Prop where
  handles : c.resolver.handles = []
  lacks : c.host.imports.Lacks c.resolver.moduleName

/-- The same module is looked for in the same places. -/
structure LooksAlike (c c' : Resolution) : Prop where
  module : c.resolver.SameModule c'.resolver
  path : c'.resolver.modulePath = c.resolver.modulePath
  stays : c.host.Stays c'.host

theorem IsBlank.unheld (h : c.IsBlank) (origin : String) :
    c.resolver.handles.lookup origin = none := by
  rw [h.handles]
  rfl

theorem IsBlank.completes {f : LintModule.Found} {script : Script} (blank : c.IsBlank)
    (blank' : c'.IsBlank) (alike : c.LooksAlike c')
    (h : LintModule.Completes c.host.files c.host.imports c.resolver.moduleName f script) :
    LintModule.Completes c'.host.files c'.host.imports c'.resolver.moduleName f script := by
  have hlacks := blank'.lacks
  rw [alike.module.moduleName] at hlacks ⊢
  rw [alike.stays.files]
  exact h.congr blank.lacks hlacks

theorem IsBlank.executionOf_error {f : LintModule.Found} {e : Fault} (blank : c.IsBlank)
    (blank' : c'.IsBlank) (alike : c.LooksAlike c') (h : c.executionOf f = .error e) :
    c'.executionOf f = .error e := by
  have hlacks := blank'.lacks
  rw [alike.module.moduleName] at hlacks
  rw [executionOf, alike.module.moduleName, alike.stays.files]
  exact LintModule.load_error_congr h blank.lacks hlacks

/-- What is unusable for an attempt that begins with nothing is unusable for the other one. -/
theorem IsBlank.unusable {selected : Option LintModule.Found} (blank : c.IsBlank)
    (blank' : c'.IsBlank) (alike : c.LooksAlike c') (h : c.Unusable selected) :
    c'.Unusable selected := by
  have halike : c'.LooksAlike c := ⟨alike.module.symm, alike.path.symm, alike.stays.symm⟩
  exact ⟨fun f _ => blank'.unheld _,
    fun f script hf hscript => h.fails f script hf (blank'.completes blank halike hscript),
    fun f e hf he => h.told f e hf (blank'.executionOf_error blank halike he)⟩

/-- Attempts that begin with nothing end alike: with the module that the same file makes, or in the
same way. -/
theorem Ends.anew (hends : c.Ends key ending) (blank : c.IsBlank) (blank' : c'.IsBlank)
    (alike : c.LooksAlike c') :
    (∃ f script, (c.resolver.find c.host key).1 = .ok (some f) ∧
      LintModule.Completes c.host.files c.host.imports c.resolver.moduleName f script ∧
      ending = .module c.host.imports.modules.length ∧
      c'.Ends key (.module c'.host.imports.modules.length)) ∨
    (∀ m, ending ≠ .module m) ∧ c'.Ends key ending := by
  have hfind : (c'.resolver.find c'.host key).1 = (c.resolver.find c.host key).1 :=
    Resolver.find_congr alike.module.moduleName alike.path alike.module.globalFallback
      alike.stays.files alike.stays.globally key
  have hunusable : ∀ selected, c.Unusable selected → c'.Unusable selected :=
    fun _ h => blank.unusable blank' alike h
  have hanswer : ∀ result, Workspace.Says c.host key c.resolver.moduleName result →
      Workspace.Says c'.host key c'.resolver.moduleName result := by
    intro result h
    rw [alike.module.moduleName]
    exact h.stays alike.stays
  cases hends with
  | held f m selected held => simp [blank.unheld] at held
  | loaded f script behavior selected unheld completes exported =>
    refine .inl ⟨f, script, selected, completes, rfl, ?_⟩
    refine .loaded f script behavior (hfind.trans selected) (blank'.unheld _)
      (blank.completes blank' alike completes) ?_
    rw [exported, alike.module.entryPoint]
  | malformed f script selected unheld completes exported =>
    refine .inr ⟨by simp, ?_⟩
    rw [← alike.module.entryPoint]
    refine .malformed f script (hfind.trans selected) (blank'.unheld _)
      (blank.completes blank' alike completes) ?_
    rwa [alike.module.entryPoint]
  | undeclared selected searched unusable answered =>
    exact .inr ⟨by simp, .undeclared selected (hfind.trans searched) (hunusable _ unusable)
      (hanswer _ answered)⟩
  | declared selected searched unusable answered =>
    refine .inr ⟨by simp, ?_⟩
    rw [← alike.module.moduleName]
    exact .declared selected (hfind.trans searched) (hunusable _ unusable) (hanswer _ answered)
  | unread selected e searched unusable answered =>
    exact .inr ⟨by simp, .unread selected e (hfind.trans searched) (hunusable _ unusable)
      (hanswer _ answered)⟩
  | unsearched e searched => exact .inr ⟨by simp, .unsearched e (hfind.trans searched)⟩
  | untold f e flaw selected unheld fails untold =>
    exact .inr ⟨by simp, .untold f e flaw (hfind.trans selected) (blank'.unheld _)
      (blank.executionOf_error blank' alike fails) untold⟩

/-- After its three steps an attempt that loaded a module leaves the modules that loading it made. -/
theorem imports_after_three_steps {f : LintModule.Found}
    (ha : c.resolver.attempts[id]? = some ⟨key, .begun⟩)
    (selected : (c.resolver.find c.host key).1 = .ok (some f))
    (unheld : c.resolver.handles.lookup (c.host.files.realPath f.file) = none) :
    (c.after (List.replicate 3 (.step id))).host.imports =
      (LintModule.load c.host.files c.host.imports c.resolver.moduleName f).2 := by
  obtain ⟨h, himports, -, hlast⟩ := after_three_steps ha selected unheld
  rw [hlast, ← himports]
  exact (Resolver.settle_alike _ _ _ _ _ _).imports

/-- Two attempts that begin with nothing come to the same. -/
theorem IsBlank.comes_to_same (blank : c.IsBlank) (blank' : c'.IsBlank) (alike : c.LooksAlike c')
    (ha : c.resolver.attempts[id]? = some ⟨key, .begun⟩)
    (ha' : c'.resolver.attempts[id']? = some ⟨key, .begun⟩) :
    let r := c.after (List.replicate 3 (.step id))
    let r' := c'.after (List.replicate 3 (.step id'))
    ∃ o o', r.resolver.outcome? id = some o ∧ r'.resolver.outcome? id' = some o' ∧
      Matches r r' o o' := by
  intro r r'
  obtain ⟨ending, hends⟩ := c.exists_ends key
  have hend : r.EndsWith id ending := hends.endsWith ha
  obtain ⟨f, script, selected, completes, rfl, hends'⟩ | ⟨hnot, hends'⟩ :=
    hends.anew blank blank' alike
  · refine ⟨_, _, hend, hends'.endsWith ha', .present _ _ ?_⟩
    have hfind : (c'.resolver.find c'.host key).1 = .ok (some f) := by
      rw [← selected]
      exact Resolver.find_congr alike.module.moduleName alike.path alike.module.globalFallback
        alike.stays.files alike.stays.globally key
    have hlacks := blank'.lacks
    rw [alike.module.moduleName] at hlacks
    rw [imports_after_three_steps ha selected (blank.unheld _),
      imports_after_three_steps ha' hfind (blank'.unheld _), alike.module.moduleName,
      alike.stays.files]
    exact LintModule.module?_load_congr completes blank.lacks hlacks
  · have hend' : r'.EndsWith id' ending := hends'.endsWith ha'
    cases ending with
    | module m => exact absurd rfl (hnot m)
    | absent => exact ⟨_, _, hend, hend', .absent⟩
    | failed x =>
      obtain ⟨k, hk, hx⟩ := hend
      obtain ⟨k', hk', hx'⟩ := hend'
      exact ⟨_, _, hk, hk', .failed k k' x hx hx'⟩

end Resolution

end LintBridge

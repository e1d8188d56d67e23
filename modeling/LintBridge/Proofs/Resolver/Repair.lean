import LintBridge.Proofs.Resolver.Siblings

/-! What a package that is executed again takes from its siblings, where calls are made one at a
time. A file is executed again only if the earlier execution failed or gave a module without the entry
point. An execution that failed leaves nothing behind, and the siblings are executed anew. One that
merely misses the entry point leaves its sibling behind, which the next one takes as it was, however
the files were repaired in between. -/

namespace LintBridge

open LintModule

namespace LintModule.Execution

/-- The execution gives a module that exports a function under this name. -/
def Provides (e : Execution) (entryPoint : String) : Prop :=
  ∃ m, e.result.1 = .ok m ∧ exports e.result.2 m entryPoint = true

end LintModule.Execution

namespace Resolution

/-- The path of the file that was executed last leads by now to the file that is executed. -/
def Continues (earlier : List Execution) (e : Execution) : Prop :=
  ∃ l, earlier.getLast? = some l ∧ e.files.realPath l.found.file = e.real

/-- Some executions leave a sibling behind: the last one took it, or it was left behind before and
the last one continues. -/
inductive LeavesBehind (full : String) : List Execution → Prop where
  | taken {earlier : List Execution} {e : Execution} {k : Nat} {v : Json}
      (takes : e.Takes full k v) : LeavesBehind full (earlier ++ [e])
  | kept {earlier : List Execution} {e : Execution} (left : LeavesBehind full earlier)
      (continues : Continues earlier e) : LeavesBehind full (earlier ++ [e])

variable {c : Resolution} {es : List Execution} {e : Execution} {full : String}

theorem not_leavesBehind_nil : ¬ LeavesBehind full [] := by
  intro h
  generalize hes : ([] : List Execution) = es at h
  cases h <;> simp at hes

theorem leavesBehind_concat : LeavesBehind full (es ++ [e]) ↔
    (LeavesBehind full es ∧ Continues es e) ∨ ∃ k v, e.Takes full k v := by
  constructor
  · intro h
    generalize hes : es ++ [e] = es' at h
    cases h with
    | taken takes =>
      obtain ⟨-, rfl⟩ := List.concat_inj.mp (by simpa using hes)
      exact .inr ⟨_, _, takes⟩
    | kept left continues =>
      obtain ⟨rfl, rfl⟩ := List.concat_inj.mp (by simpa using hes)
      exact .inl ⟨left, continues⟩
  · rintro (⟨left, continues⟩ | ⟨k, v, takes⟩)
    · exact .kept left continues
    · exact .taken takes

/-! ### What is left behind is kept -/

theorem MadeBy.continues_iff (h : MadeBy es c) (name : e.name = c.resolver.moduleName) :
    isFromSameFile e.files c.host.imports e.name e.found = true ↔ Continues es e := by
  constructor
  · intro same
    obtain ⟨l, hl, hleads⟩ := h.leads name same
    exact ⟨l, hl, hleads⟩
  · rintro ⟨l, hl, hleads⟩
    obtain ⟨m, label, exported, calls, hm, hmodule⟩ := h.last l hl
    rw [← name] at hm
    simp only [isFromSameFile, hm, Option.bind_some, hmodule]
    exact beq_iff_eq.mpr hleads

/-- The siblings that are kept are those that these executions leave behind. -/
def KeepsLeft (es : List Execution) (c : Resolution) : Prop :=
  ∀ full, full ≠ c.resolver.moduleName → Imports.belongsTo c.resolver.moduleName full = true →
    ((c.host.imports.kept.lookup full).isSome = true ↔ LeavesBehind full es)

theorem keepsLeft_nil (h : c.host.imports.Lacks c.resolver.moduleName) : KeepsLeft [] c := by
  intro full _ hbelongs
  rw [h.lookup hbelongs, Option.isSome_none]
  exact iff_of_false Bool.false_ne_true not_leavesBehind_nil

theorem KeepsLeft.completes (hkeeps : KeepsLeft es c) (hmade : MadeBy es c) {a : Act} {m : Nat}
    (he : c.executes? a = some e) (hm : e.result.1 = .ok m) : KeepsLeft (es ++ [e]) (c.act a) := by
  obtain ⟨-, himports, hname⟩ := executes?_fields he
  intro full hne hbelongs
  rw [moduleName_act] at hne hbelongs
  rw [imports_of_executes he,
    Execution.isSome_kept_of_completed (hname ▸ hne) (hname ▸ hbelongs) hm, leavesBehind_concat,
    himports, hmade.continues_iff hname, hkeeps full hne hbelongs, and_comm]

theorem KeepsLeft.step (hkeeps : KeepsLeft es c) (hmade : MadeBy es c) (a : Act) :
    KeepsLeft (c.recentStep es a) (c.act a) := by
  by_cases hreset : a = .reset
  · subst hreset
    exact keepsLeft_nil fun p hp => Imports.not_belongsTo_of_mem_forget hp
  rw [recentStep_of_ne_reset hreset]
  cases he : c.executes? a with
  | none =>
    intro full
    rw [kept_act hreset he, moduleName_act]
    exact hkeeps full
  | some e =>
    simp only
    split
    · exact hkeeps.completes hmade he ‹_›
    · exact keepsLeft_nil ((madeBy_of_failed he ‹_›).forgotten rfl)

theorem KeepsLeft.run (hkeeps : KeepsLeft es c) (hmade : MadeBy es c) (acts : List Act) :
    KeepsLeft (c.recent es acts) (c.after acts) := by
  induction acts generalizing c es with
  | nil => exact hkeeps
  | cons a acts ih => exact ih (hkeeps.step hmade a) (hmade.step a)

theorem executes?_of_phase {id : Nat} {a : Attempt} (ha : c.resolver.attempts[id]? = some a)
    (hp : ∀ f origin, a.phase ≠ .found f origin) : c.executes? (.step id) = none := by
  cases he : c.executes? (.step id) with
  | none => rfl
  | some e =>
    obtain ⟨f, origin, hphase, -⟩ := executes?_eq_some.mp he
    obtain ⟨b, hb, hbp⟩ := Option.map_eq_some_iff.mp hphase
    obtain rfl := Option.some.inj (ha.symm.trans hb)
    exact absurd hbp (hp f origin)

/-- An attempt that has settled executes nothing more. -/
theorem executions_of_settled {id : Nat} {o : Outcome} (ho : c.resolver.outcome? id = some o)
    (n : Nat) : c.executions (List.replicate n (.step id)) = [] := by
  obtain ⟨a, ha, hp⟩ := Option.map_eq_some_iff.mp ((Resolver.outcome?_eq_some _ _).mp ho)
  induction n with
  | zero => rfl
  | succ n ih =>
    rw [List.replicate_succ, executions, executes?_of_phase ha (by simp [hp]),
      step_of_settled ha hp, ih]
    rfl

/-- A file that an attempt is about to execute, for whose real file no module is held. -/
structure IsAboutTo (c : Resolution) (id : Nat) (e : Execution) : Prop where
  executes : c.executes? (.step id) = some e
  found : c.resolver.phase? id = some (.found e.found e.real)
  unheld : c.resolver.handles.lookup e.real = none

theorem executions_of_begun {id : Nat} {a : Attempt} (ha : c.resolver.attempts[id]? = some a)
    (hp : a.phase = .begun) (he : e ∈ c.executions (List.replicate 3 (.step id))) :
    IsAboutTo (c.act (.step id)) id e := by
  have hfirst : c.executions (List.replicate 3 (.step id)) =
      (c.act (.step id)).executions (List.replicate 2 (.step id)) := by
    rw [List.replicate_succ, executions, executes?_of_phase ha (by simp [hp])]
    rfl
  rw [hfirst] at he
  obtain ⟨o, ho⟩ | ⟨f, hnone, hr⟩ := settles_or_finds ha hp
  · rw [executions_of_settled ho 2] at he
    exact absurd he List.not_mem_nil
  · have ha' := hr ▸ attempts_advance ha _
    have hfiles : (c.act (.step id)).host.files = c.host.files :=
      (c.resolver.step_grows c.host id).files
    have hphase : (c.act (.step id)).resolver.phase? id =
        some (.found f (c.host.files.realPath f.file)) := by
      rw [Resolver.phase?, ha']
      rfl
    have hsecond := executes?_eq_some.mpr ⟨f, _, hphase, rfl⟩
    have ha'' := (step_of_file ha' rfl).1 ▸ attempts_advance ha' _
    rw [List.replicate_succ, executions, hsecond, List.replicate_succ, executions,
      executes?_of_phase ha'' (by simp)] at he
    obtain rfl := List.mem_singleton.mp he
    refine ⟨hsecond, ?_, ?_⟩
    · rw [hphase, Execution.real, hfiles]
    · rw [hr, Execution.real, hfiles]
      exact hnone

theorem executions_append (c : Resolution) (acts acts' : List Act) :
    c.executions (acts ++ acts') = c.executions acts ++ (c.after acts).executions acts' := by
  induction acts generalizing c with
  | nil => rfl
  | cons a acts ih =>
    rw [List.cons_append, executions, executions, ih, List.append_assoc, after_cons]

/-- A call and the search of its attempt. -/
def opening (c : Resolution) (root : String) : List Act :=
  [.resolve root, .step (c.asked root)]

theorem after_wholeCall (c : Resolution) (root : String) : c.after (c.wholeCall root) =
    (c.after (c.opening root)).after (List.replicate 2 (.step (c.asked root))) := rfl

/-- A call executes nothing unless its attempt is new and finds a file for which no module is
held. -/
theorem Quiet.isAboutTo (hc : c.Quiet) {root : String}
    (he : e ∈ c.executions (c.wholeCall root)) :
    IsAboutTo (c.after (c.opening root)) (c.asked root) e := by
  have hfirst : c.executions (c.wholeCall root) =
      (c.act (.resolve root)).executions (List.replicate 3 (.step (c.asked root))) := rfl
  rw [hfirst] at he
  obtain ⟨id, hid, hasked, hsame⟩ | ⟨hnew, -, -⟩ := c.act_resolve root
  · obtain ⟨o, ho⟩ := hc.settled id (hc.listed.lt (Table.mem_of_lookup hid))
    rw [hsame, hasked, executions_of_settled ho 3] at he
    exact absurd he List.not_mem_nil
  · exact executions_of_begun (attempts_resolve_new hnew) rfl he

theorem IsAboutTo.load_eq {id : Nat} (h : IsAboutTo c id e) :
    LintModule.load c.host.files c.host.imports c.resolver.moduleName e.found = e.result := by
  obtain ⟨hfiles, himports, hname⟩ := executes?_fields h.executes
  rw [← hfiles, ← himports, ← hname]
  rfl

/-- A module with the entry point is held from then on. -/
theorem IsAboutTo.held {id : Nat} (h : IsAboutTo c id e)
    (hprovides : e.Provides c.resolver.entryPoint) :
    ∃ m, (c.after (List.replicate 2 (.step id))).resolver.handles.lookup e.real = some m := by
  obtain ⟨a, ha, hp⟩ := Option.map_eq_some_iff.mp h.found
  obtain ⟨m, hm, hexports⟩ := hprovides
  rw [← h.load_eq] at hm hexports
  have hmade := makes?_eq_some.mpr ⟨a, e.found, ha, hp, hm, hexports⟩
  obtain hnothing | ⟨m', -, hheld⟩ := makes_of_file ha hp h.unheld
  · simp [List.replicate_succ, makes, hmade] at hnothing
  · exact ⟨m', hheld⟩

/-- As long as nothing is reset, a module with the entry point stays held. -/
theorem OneByOne.held {acts : List Act} (h : OneByOne c acts) (hc : c.Quiet)
    (hacts : .reset ∉ acts) (he : e ∈ c.executions acts)
    (hprovides : e.Provides c.resolver.entryPoint) :
    ∃ m, (c.after acts).resolver.handles.lookup e.real = some m := by
  induction h with
  | nil c => simp [executions] at he
  | resolves c root rest next ih =>
    have hrest : .reset ∉ rest := by simp_all
    change e ∈ c.executions (c.wholeCall root ++ rest) at he
    rw [executions_append] at he
    obtain he | he := List.mem_append.mp he
    · obtain ⟨m, hm⟩ := (hc.isAboutTo he).held (by rwa [entryPoint_after])
      rw [← after_wholeCall] at hm
      exact ⟨m, lookup_handles_after hrest hm⟩
    · exact ih (hc.wholeCall root) hrest he (by rwa [entryPoint_after])
  | other c a rest calls steps next ih =>
    rw [List.mem_cons, not_or] at hacts
    have hnothing : c.executes? a = none := by
      cases a with
      | step id => exact absurd rfl (steps id)
      | _ => rfl
    rw [executions, hnothing] at he
    exact ih (hc.other calls steps) hacts.2 he (by rwa [entryPoint_act])

/-- An attempt that executes a file is given the module that it makes, or none. -/
theorem IsAboutTo.outcome {id m : Nat} (h : IsAboutTo c id e)
    (ho : (c.after (List.replicate 2 (.step id))).resolver.outcome? id = some (.present m)) :
    e.result.1 = .ok m := by
  obtain ⟨a, ha, hp⟩ := Option.map_eq_some_iff.mp h.found
  have hr := (step_of_file ha hp).1
  rw [h.load_eq] at hr
  have ha' := hr ▸ attempts_advance ha _
  have hlast : (c.after (List.replicate 2 (.step id))).resolver =
      ((c.act (.step id)).act (.step id)).resolver := rfl
  rw [hlast, Resolver.outcome?_eq_some] at ho
  obtain ⟨m', hm', -, hheld⟩ | ⟨failures, o, hnone, hsettled⟩ := step_of_result ha' rfl
  · have hhold : ((c.act (.step id)).resolver.hold e.real m').1 = m' := by
      rw [hr]
      simp only [Resolver.hold, Resolver.advance, h.unheld]
    rw [hheld, hhold, Resolver.phase?_advance_self] at ho
    obtain ⟨-, -, ho⟩ := Option.map_eq_some_iff.mp ho
    obtain rfl : m' = m := by simpa using ho
    exact hm'
  · rw [hsettled, Resolver.phase?_advance_self] at ho
    obtain ⟨-, -, ho⟩ := Option.map_eq_some_iff.mp ho
    exact absurd (Phase.settled.inj ho) (hnone m)

/-! ### The law -/

/-- A resolver that has resolved nothing yet, on a machine without modules. -/
def fresh (name entry : String) (path : Option String) (fallback : Bool) (h : Host) : Resolution :=
  ⟨.fresh name entry path fallback, { h with imports := .empty }⟩

end Resolution

end LintBridge

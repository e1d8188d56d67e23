import LintBridge.Proofs.LintModule.Execution
import LintBridge.Proofs.Resolver.Holding
import LintBridge.Proofs.Workspace

/-! What an attempt ends with when nothing comes between its steps. The file that the search selects
decides first: a module held for it is given out whatever the file now contains, and otherwise
what executing the file comes to counts. Only where no file is selected, or its execution does not
complete, does it matter what the workspace says of the module. -/

namespace LintBridge

/-- What an attempt can end with. -/
inductive Ending where
  | module (m : Nat)
  | absent
  | failed (f : Failure)

/-- The state of a workspace whose attempt ends so. -/
def Ending.state : Ending → ResolutionState
  | module _ => .resolvedPresent
  | absent => .resolvedAbsent
  | failed _ => .failedFatal

/-- What an attempt without a module ends with, given what the workspace says of the module. -/
def Ending.missing (name : String) : Except Fault Bool → Ending
  | .ok false => .absent
  | .ok true => .failed (.of (.moduleMissing name))
  | .error e => .failed (.of e)

/-! ### What a step leaves on the machine -/

theorem Resolver.find_stays (r : Resolver) (h : Host) (root : String) :
    h.Stays (r.find h root).2 := by
  simp only [find]
  split
  · split
    · exact h.stays_note _ _
    · exact .refl h
  · exact .refl h

theorem Resolver.settleMissing_stays (r : Resolver) (h : Host) (id : Nat) (root : String) :
    h.Stays (r.settleMissing h id root).2 := by
  have hd := Workspace.declares_stays h root r.moduleName
  simp only [settleMissing]
  split <;> rename_i hh <;> rw [hh] at hd
  · exact hd
  · exact hd
  · exact hd.trans (Host.stays_note _ _ _)

/-- No step of an attempt touches the files or what the configuration says. -/
theorem Resolver.step_stays (r : Resolver) (h : Host) (id : Nat) : h.Stays (r.step h id).2 := by
  simp only [step]
  split
  · exact .refl h
  · rename_i a ha
    split
    · have hf := r.find_stays h a.root
      simp only [search]
      split <;> rename_i hh <;> rw [hh] at hf
      · exact hf
      · exact hf.trans (r.settleMissing_stays _ _ _)
      · split
        · exact hf.trans (Host.stays_note _ _ _)
        · exact hf
    · exact h.stays_imports _
    · simp only [settle]
      split
      · split
        · exact .refl h
        · exact (h.stays_note _ _).trans (r.settleMissing_stays _ _ _)
      · split
        · exact h.stays_note _ _
        · exact .refl h
    · exact .refl h

namespace Resolution

variable {c c' : Resolution} {id : Nat} {key : String} {ending : Ending}

/-! ### The endings -/

/-- What executing a file that was found comes to. -/
def executionOf (c : Resolution) (f : LintModule.Found) : Except Fault Nat :=
  (LintModule.load c.host.files c.host.imports c.resolver.moduleName f).1

/-- No file was selected, or no execution of it completes, and its error has a text. -/
structure Unusable (c : Resolution) (selected : Option LintModule.Found) : Prop where
  unheld : ∀ f, selected = some f → c.resolver.handles.lookup (c.host.files.realPath f.file) = none
  fails : ∀ f script, selected = some f →
    ¬ LintModule.Completes c.host.files c.host.imports c.resolver.moduleName f script
  told : ∀ f e, selected = some f → c.executionOf f = .error e → ∃ text, e.shown = .ok text

/-- What an attempt that begins for a workspace ends with, given what its search selects. -/
inductive Ends (c : Resolution) (key : String) : Ending → Prop where
  | held (f : LintModule.Found) (m : Nat)
      (selected : (c.resolver.find c.host key).1 = .ok (some f))
      (held : c.resolver.handles.lookup (c.host.files.realPath f.file) = some m) :
      Ends c key (.module m)
  | loaded (f : LintModule.Found) (script : Script) (behavior : Behavior)
      (selected : (c.resolver.find c.host key).1 = .ok (some f))
      (unheld : c.resolver.handles.lookup (c.host.files.realPath f.file) = none)
      (completes : LintModule.Completes c.host.files c.host.imports c.resolver.moduleName f script)
      (exported : script.exported = some (c.resolver.entryPoint, .function behavior)) :
      Ends c key (.module c.host.imports.modules.length)
  | malformed (f : LintModule.Found) (script : Script)
      (selected : (c.resolver.find c.host key).1 = .ok (some f))
      (unheld : c.resolver.handles.lookup (c.host.files.realPath f.file) = none)
      (completes : LintModule.Completes c.host.files c.host.imports c.resolver.moduleName f script)
      (exported : ∀ behavior,
        script.exported ≠ some (c.resolver.entryPoint, .function behavior)) :
      Ends c key (.failed
        ⟨.moduleMalformed c.resolver.entryPoint, some .moduleMalformed, false, false⟩)
  | undeclared (selected : Option LintModule.Found)
      (searched : (c.resolver.find c.host key).1 = .ok selected) (unusable : c.Unusable selected)
      (answered : Workspace.Says c.host key c.resolver.moduleName (.ok false)) :
      Ends c key .absent
  | declared (selected : Option LintModule.Found)
      (searched : (c.resolver.find c.host key).1 = .ok selected) (unusable : c.Unusable selected)
      (answered : Workspace.Says c.host key c.resolver.moduleName (.ok true)) :
      Ends c key (.failed
        ⟨.moduleMissing c.resolver.moduleName, some .moduleMissing, true, false⟩)
  | unread (selected : Option LintModule.Found) (e : Fault)
      (searched : (c.resolver.find c.host key).1 = .ok selected) (unusable : c.Unusable selected)
      (answered : Workspace.Says c.host key c.resolver.moduleName (.error e)) :
      Ends c key (.failed (.of e))
  | unsearched (e : Fault) (searched : (c.resolver.find c.host key).1 = .error e) :
      Ends c key (.failed (.of e))
  | untold (f : LintModule.Found) (e : Fault) (flaw : Json.ShowFlaw)
      (selected : (c.resolver.find c.host key).1 = .ok (some f))
      (unheld : c.resolver.handles.lookup (c.host.files.realPath f.file) = none)
      (fails : c.executionOf f = .error e) (untold : e.shown = .error flaw) :
      Ends c key (.failed (.of (.unshown flaw)))

/-- Has the attempt of a number ended so? -/
def EndsWith (c : Resolution) (id : Nat) : Ending → Prop
  | .module m => c.resolver.outcome? id = some (.present m)
  | .absent => c.resolver.outcome? id = some .absent
  | .failed f => ∃ k, c.resolver.outcome? id = some (.failed k) ∧ c.resolver.failure? k = some f

/-- An attempt ends in one way. -/
theorem EndsWith.unique {other : Ending} (h : c.EndsWith id ending) (h' : c.EndsWith id other) :
    other = ending := by
  cases ending <;> cases other <;> simp_all [EndsWith]
  obtain ⟨k, hk, hf⟩ := h
  obtain ⟨k', hk', hf'⟩ := h'
  obtain rfl : k = k' := by simpa using hk.symm.trans hk'
  simpa using hf'.symm.trans hf

theorem EndsWith.state (h : c.EndsWith id ending) {root : String}
    (hid : c.resolver.memo.lookup (Resolver.key c.host root) = some id) :
    c.resolver.state c.host root = ending.state := by
  cases ending with
  | failed f =>
    obtain ⟨k, hk, -⟩ := h
    simp only [Resolver.state, hid, hk, Ending.state]
  | _ =>
    simp only [EndsWith] at h
    simp only [Resolver.state, hid, h, Ending.state]

/-- Every attempt that begins has an ending. -/
theorem exists_ends (c : Resolution) (key : String) : ∃ ending, c.Ends key ending := by
  have hmissing : ∀ selected, (c.resolver.find c.host key).1 = .ok selected →
      c.Unusable selected → ∃ ending, c.Ends key ending := by
    intro selected hsearched hunusable
    obtain ⟨result, hanswer⟩ := Workspace.exists_answer c.host key c.resolver.moduleName
    match result, hanswer with
    | .ok false, hanswer => exact ⟨_, .undeclared selected hsearched hunusable hanswer⟩
    | .ok true, hanswer => exact ⟨_, .declared selected hsearched hunusable hanswer⟩
    | .error e, hanswer => exact ⟨_, .unread selected e hsearched hunusable hanswer⟩
  cases hfind : (c.resolver.find c.host key).1 with
  | error e => exact ⟨_, .unsearched e hfind⟩
  | ok selected =>
    cases selected with
    | none => exact hmissing none hfind ⟨by simp, by simp, by simp⟩
    | some f =>
      cases hheld : c.resolver.handles.lookup (c.host.files.realPath f.file) with
      | some m => exact ⟨_, .held f m hfind hheld⟩
      | none =>
        by_cases hcompletes : ∃ script,
            LintModule.Completes c.host.files c.host.imports c.resolver.moduleName f script
        · obtain ⟨script, hscript⟩ := hcompletes
          by_cases hexported : ∃ behavior,
              script.exported = some (c.resolver.entryPoint, .function behavior)
          · obtain ⟨behavior, hbehavior⟩ := hexported
            exact ⟨_, .loaded f script behavior hfind hheld hscript hbehavior⟩
          · exact ⟨_, .malformed f script hfind hheld hscript fun b hb => hexported ⟨b, hb⟩⟩
        · by_cases huntold : ∃ e flaw, c.executionOf f = .error e ∧ e.shown = .error flaw
          · obtain ⟨e, flaw, he, hflaw⟩ := huntold
            exact ⟨_, .untold f e flaw hfind hheld he hflaw⟩
          refine hmissing (some f) hfind
            ⟨fun f' hf => ?_, fun f' script hf hscript => ?_, fun f' e hf he => ?_⟩
          · rwa [← Option.some.inj hf]
          · obtain rfl := Option.some.inj hf
            exact hcompletes ⟨script, hscript⟩
          · obtain rfl := Option.some.inj hf
            cases hshown : e.shown with
            | ok text => exact ⟨text, rfl⟩
            | error flaw => exact absurd ⟨e, flaw, he, hshown⟩ huntold

/-! ### The course of the three steps -/

/-- An attempt that has settled takes no more steps. -/
theorem after_of_settled {o : Outcome} (ho : c.resolver.outcome? id = some o) (n : Nat) :
    c.after (List.replicate n (.step id)) = c := by
  obtain ⟨a, ha, hp⟩ := Option.map_eq_some_iff.mp ((Resolver.outcome?_eq_some _ _).mp ho)
  induction n with
  | zero => rfl
  | succ n ih =>
    rw [List.replicate_succ, after_cons, step_of_settled ha hp]
    exact ih

theorem EndsWith.after (h : c.EndsWith id ending) (n : Nat) :
    (c.after (List.replicate n (.step id))).EndsWith id ending := by
  have houtcome : ∃ o, c.resolver.outcome? id = some o := by
    cases ending with
    | failed f =>
      obtain ⟨k, hk, -⟩ := h
      exact ⟨_, hk⟩
    | _ => exact ⟨_, h⟩
  obtain ⟨o, ho⟩ := houtcome
  rw [after_of_settled ho n]
  exact h

theorem endsWith_settleFailed (r : Resolver) (h : Host) {id : Nat} (hid : id < r.attempts.length)
    (e : Fault) : EndsWith ⟨r.settleFailed id e, h⟩ id (.failed (.of e)) := by
  refine ⟨r.failures.length, ?_, ?_⟩
  · rw [Resolver.outcome?_eq_some]
    exact Resolver.phase?_advance_lt _ id hid
  · simp [Resolver.settleFailed, Resolver.failure?, Resolver.fail, Resolver.advance]

/-- An attempt without a module ends with what the workspace says. -/
theorem endsWith_settleMissing (r : Resolver) (h : Host) {id : Nat}
    (hid : id < r.attempts.length) {root : String} {result : Except Fault Bool}
    (hanswer : Workspace.Says h root r.moduleName result) :
    EndsWith ⟨(r.settleMissing h id root).1, (r.settleMissing h id root).2⟩ id
      (.missing r.moduleName result) := by
  have hdeclares := Workspace.declares_of_answer hanswer
  simp only [Resolver.settleMissing]
  split <;> rename_i hh <;> rw [hh] at hdeclares <;> obtain rfl := hdeclares
  · exact endsWith_settleFailed r _ hid _
  · exact endsWith_settleFailed r _ hid _
  · exact (Resolver.outcome?_eq_some _ _).mpr (Resolver.phase?_advance_lt _ id hid)

/-- An attempt that has just begun loads nothing in its first step. -/
theorem step_agrees_of_begun (ha : c.resolver.attempts[id]? = some ⟨key, .begun⟩) :
    c.host.Agrees (c.act (.step id)).host := by
  have hmoves := c.resolver.step_cases c.host id
  simp only [act]
  generalize c.resolver.step c.host id = x at hmoves
  cases hmoves with
  | stays => exact .refl _
  | executes a f origin found phase =>
    obtain rfl := Option.some.inj (ha.symm.trans found)
    simp at phase
  | finds a f h' begun phase found host unheld => exact host
  | reuses a origin m h' begun phase held host => exact host
  | holds a origin m h' executed phase exports host => exact host
  | fails o failures h' outcome host => exact host

/-- An attempt that finds a file for which no module is held executes it, among the modules that were
there before, and settles on what that came to. -/
theorem after_three_steps {f : LintModule.Found}
    (ha : c.resolver.attempts[id]? = some ⟨key, .begun⟩)
    (selected : (c.resolver.find c.host key).1 = .ok (some f))
    (unheld : c.resolver.handles.lookup (c.host.files.realPath f.file) = none) :
    let x := LintModule.load c.host.files c.host.imports c.resolver.moduleName f
    let origin := c.host.files.realPath f.file
    let r := (c.resolver.advance id (.found f origin)).advance id (.executed origin x.1)
    ∃ h, h.imports = x.2 ∧ c.host.Stays h ∧ c.after (List.replicate 3 (.step id)) =
      ⟨(r.settle h id key origin x.1).1, (r.settle h id key origin x.1).2⟩ := by
  intro x origin r
  have hagrees := step_agrees_of_begun ha
  obtain ⟨m, hheld, -⟩ | ⟨-, hr⟩ := step_of_found ha rfl selected
  · simp [unheld] at hheld
  have ha' : (c.act (.step id)).resolver.attempts[id]? = some ⟨key, .found f origin⟩ := by
    rw [hr]
    exact attempts_advance ha _
  obtain ⟨hr', hi'⟩ := step_of_file ha' rfl
  rw [hagrees.files, hagrees.imports, hr] at hr' hi'
  have ha'' : ((c.act (.step id)).act (.step id)).resolver.attempts[id]? =
      some ⟨key, .executed origin x.1⟩ := by
    rw [hr']
    exact attempts_advance (hr ▸ ha') _
  refine ⟨((c.act (.step id)).act (.step id)).host, hi',
    (c.resolver.step_stays c.host id).trans ((c.act (.step id)).resolver.step_stays _ id), ?_⟩
  have hthird : c.after (List.replicate 3 (.step id)) =
      ((c.act (.step id)).act (.step id)).act (.step id) := rfl
  rw [hthird]
  generalize (c.act (.step id)).act (.step id) = c' at ha'' hr'
  obtain ⟨r', h'⟩ := c'
  obtain rfl : r' = r := hr'
  simp only [act, Resolver.step, ha'']

/-- An attempt whose search selects nothing that can be executed ends with what the workspace says. -/
theorem Unusable.endsWith {selected : Option LintModule.Found} {result : Except Fault Bool}
    (h : c.Unusable selected) (searched : (c.resolver.find c.host key).1 = .ok selected)
    (answered : Workspace.Says c.host key c.resolver.moduleName result)
    (ha : c.resolver.attempts[id]? = some ⟨key, .begun⟩) :
    (c.after (List.replicate 3 (.step id))).EndsWith id
      (.missing c.resolver.moduleName result) := by
  have hid : id < c.resolver.attempts.length := (List.getElem?_eq_some_iff.mp ha).1
  cases selected with
  | none =>
    have hstays := c.resolver.find_stays c.host key
    have hfirst : (c.act (.step id)).EndsWith id (.missing c.resolver.moduleName result) := by
      generalize hx : c.resolver.find c.host key = x at searched hstays
      obtain ⟨_, h'⟩ := x
      obtain rfl := searched
      simp only [act, Resolver.step, ha, Resolver.search, hx]
      exact endsWith_settleMissing _ _ hid (answered.stays hstays)
    exact hfirst.after 2
  | some f =>
    obtain ⟨h', -, hstays, hlast⟩ := after_three_steps ha searched (h.unheld f rfl)
    rw [hlast]
    cases hx : (LintModule.load c.host.files c.host.imports c.resolver.moduleName f).1 with
    | ok m =>
      obtain ⟨-, script, hscript⟩ := LintModule.load_ok_iff.mp hx
      exact absurd hscript (h.fails f script rfl)
    | error e =>
      obtain ⟨text, htext⟩ := h.told f e rfl hx
      simp only [Resolver.settle, htext]
      refine endsWith_settleMissing _ _ ?_ (answered.stays (hstays.trans (Host.stays_note _ _ _)))
      simpa using hid

/-- In its three steps an attempt that has just begun comes to its ending. -/
theorem Ends.endsWith (hends : c.Ends key ending)
    (ha : c.resolver.attempts[id]? = some ⟨key, .begun⟩) :
    (c.after (List.replicate 3 (.step id))).EndsWith id ending := by
  have hid : id < c.resolver.attempts.length := (List.getElem?_eq_some_iff.mp ha).1
  cases hends with
  | held f m selected held =>
    have hfirst : (c.act (.step id)).EndsWith id (.module m) := by
      rw [EndsWith, Resolver.outcome?_eq_some]
      simp only [act, Resolver.step_of_held ha rfl selected held]
      exact Resolver.phase?_advance_lt _ id hid
    exact hfirst.after 2
  | loaded f script behavior selected unheld completes exported =>
    obtain ⟨h', himports, -, hlast⟩ := after_three_steps ha selected unheld
    have hload := LintModule.load_ok_iff.mpr ⟨rfl, script, completes⟩
    have hexports := (LintModule.exports_load completes c.resolver.entryPoint).mpr ⟨_, exported⟩
    rw [← himports] at hexports
    rw [hlast, hload, EndsWith, Resolver.outcome?_eq_some]
    have hsettles : ∀ r : Resolver, r.handles = c.resolver.handles →
        r.entryPoint = c.resolver.entryPoint → id < r.attempts.length →
        (r.settle h' id key (c.host.files.realPath f.file)
          (.ok c.host.imports.modules.length)).1.phase? id =
          some (.settled (.present c.host.imports.modules.length)) := by
      intro r hhandles hentry hid
      simp only [Resolver.settle, hentry, hexports, if_true, Resolver.hold, hhandles, unheld]
      exact Resolver.phase?_advance_lt _ id hid
    exact hsettles _ rfl rfl (by simpa using hid)
  | malformed f script selected unheld completes exported =>
    obtain ⟨h', himports, -, hlast⟩ := after_three_steps ha selected unheld
    have hload := LintModule.load_ok_iff.mpr ⟨rfl, script, completes⟩
    have hexports : ¬ LintModule.exports h'.imports c.host.imports.modules.length
        c.resolver.entryPoint = true := by
      rw [himports, LintModule.exports_load completes]
      rintro ⟨behavior, hbehavior⟩
      exact exported behavior hbehavior
    have hsettles : ∀ r : Resolver, r.entryPoint = c.resolver.entryPoint →
        r.settle h' id key (c.host.files.realPath f.file) (.ok c.host.imports.modules.length) =
          (r.settleFailed id (.moduleMalformed c.resolver.entryPoint), h') := by
      intro r hentry
      simp only [Resolver.settle, hentry, if_neg hexports]
    rw [hlast, hload, hsettles]
    · exact endsWith_settleFailed _ _ (by simpa using hid) _
    · rfl
  | undeclared selected searched unusable answered => exact unusable.endsWith searched answered ha
  | declared selected searched unusable answered => exact unusable.endsWith searched answered ha
  | unread selected e searched unusable answered => exact unusable.endsWith searched answered ha
  | unsearched e searched =>
    have hfirst : (c.act (.step id)).EndsWith id (.failed (.of e)) := by
      generalize hx : c.resolver.find c.host key = x at searched
      obtain ⟨_, h'⟩ := x
      obtain rfl := searched
      simp only [act, Resolver.step, ha, Resolver.search, hx]
      exact endsWith_settleFailed _ _ hid _
    exact hfirst.after 2
  | untold f e flaw selected unheld fails untold =>
    obtain ⟨h', -, -, hlast⟩ := after_three_steps ha selected unheld
    rw [executionOf] at fails
    rw [hlast, fails]
    simp only [Resolver.settle, untold]
    exact endsWith_settleFailed _ _ (by simpa using hid) _

/-! ### The law -/

/-- What an attempt ends with depends on nothing that a call changes. -/
theorem Ends.congr (hends : c.Ends key ending)
    (names : c'.resolver.moduleName = c.resolver.moduleName)
    (entry : c'.resolver.entryPoint = c.resolver.entryPoint)
    (path : c'.resolver.modulePath = c.resolver.modulePath)
    (fallback : c'.resolver.globalFallback = c.resolver.globalFallback)
    (handles : c'.resolver.handles = c.resolver.handles)
    (imports : c'.host.imports = c.host.imports) (stays : c.host.Stays c'.host) :
    c'.Ends key ending := by
  have hfind : (c'.resolver.find c'.host key).1 = (c.resolver.find c.host key).1 :=
    Resolver.find_congr names path fallback stays.files stays.globally key
  have hunusable : ∀ selected, c.Unusable selected → c'.Unusable selected := by
    intro selected h
    refine ⟨fun f hf => ?_, fun f script hf => ?_, fun f e hf => ?_⟩
    · rw [handles, stays.files]
      exact h.unheld f hf
    · rw [stays.files, imports, names]
      exact h.fails f script hf
    · rw [executionOf, stays.files, imports, names]
      exact h.told f e hf
  cases hends with
  | held f m selected held =>
    exact .held f m (hfind.trans selected) (by rwa [handles, stays.files])
  | loaded f script behavior selected unheld completes exported =>
    rw [← imports]
    exact .loaded f script behavior (hfind.trans selected) (by rwa [handles, stays.files])
      (by rwa [stays.files, imports, names]) (by rwa [entry])
  | malformed f script selected unheld completes exported =>
    rw [← entry]
    exact .malformed f script (hfind.trans selected) (by rwa [handles, stays.files])
      (by rwa [stays.files, imports, names]) (by rwa [entry])
  | undeclared selected searched unusable answered =>
    exact .undeclared selected (hfind.trans searched) (hunusable _ unusable)
      (by rw [names]; exact answered.stays stays)
  | declared selected searched unusable answered =>
    rw [← names]
    exact .declared selected (hfind.trans searched) (hunusable _ unusable)
      (by rw [names]; exact answered.stays stays)
  | unread selected e searched unusable answered =>
    exact .unread selected e (hfind.trans searched) (hunusable _ unusable)
      (by rw [names]; exact answered.stays stays)
  | unsearched e searched => exact .unsearched e (hfind.trans searched)
  | untold f e flaw selected unheld fails untold =>
    exact .untold f e flaw (hfind.trans selected) (by rwa [handles, stays.files])
      (by rwa [executionOf, stays.files, imports, names]) untold

end Resolution

end LintBridge

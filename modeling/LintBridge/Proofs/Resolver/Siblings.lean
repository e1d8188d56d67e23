import Mathlib.Data.List.Nodup
import LintBridge.Proofs.LintModule.Siblings
import LintBridge.Proofs.Resolver.Holding

/-! Which package the siblings belong to that a module takes its label from. Since the last reset and the
last execution that failed, whatever is kept of the module was made by executions of its file, and
each execution takes a sibling that one of these made. The file of the module that is kept is
compared with the next one by where its path leads by then: as long as no path of a file that was
executed comes to lead to another file that is executed next, every sibling was made for the real
file that takes it, and the first execution for which this fails takes what was made for
another. -/

namespace LintBridge

open LintModule

namespace Resolution

/-- The execution that a step is. -/
def executes? (c : Resolution) : Act → Option Execution
  | .step id =>
    match c.resolver.phase? id with
    | some (.found f _) => some ⟨c.host.files, c.host.imports, c.resolver.moduleName, f⟩
    | _ => none
  | _ => none

/-- The executions of a run. -/
def executions (c : Resolution) : List Act → List Execution
  | [] => []
  | a :: acts => (c.executes? a).toList ++ (c.act a).executions acts

/-- The executions since the last reset and the last one that failed, after a step. -/
def recentStep (c : Resolution) (recent : List Execution) : Act → List Execution
  | .reset => []
  | a =>
    match c.executes? a with
    | none => recent
    | some e =>
      match e.result.1 with
      | .ok _ => recent ++ [e]
      | .error _ => []

/-- The executions since the last reset and the last one that failed, after a run. -/
def recent (c : Resolution) (earlier : List Execution) : List Act → List Execution
  | [] => earlier
  | a :: acts => (c.act a).recent (c.recentStep earlier a) acts

/-- The path of the file that was executed last leads by now to the file that is executed, and led to
another one then. -/
def Strays (earlier : List Execution) (e : Execution) : Prop :=
  ∃ l, earlier.getLast? = some l ∧ e.files.realPath l.found.file = e.real ∧ l.real ≠ e.real

/-- No execution strays from the one before it. -/
def Steady (es : List Execution) : Prop :=
  ∀ earlier e, earlier ++ [e] <+: es → ¬ Strays earlier e

variable {c : Resolution} {es : List Execution} {e : Execution}

theorem Steady.of_concat (h : Steady (es ++ [e])) : Steady es ∧ ¬ Strays es e :=
  ⟨fun earlier x hx => h earlier x (hx.trans (List.prefix_append _ _)), h es e (List.prefix_refl _)⟩

/-! ### What a step leaves of the siblings -/

theorem executes?_eq_some {id : Nat} : c.executes? (.step id) = some e ↔
    ∃ f origin, c.resolver.phase? id = some (.found f origin) ∧
      e = ⟨c.host.files, c.host.imports, c.resolver.moduleName, f⟩ := by
  simp only [executes?]
  split
  · rename_i f origin hp
    simp [hp, eq_comm]
  · rename_i hp
    simp only [reduceCtorEq, false_iff, not_exists, not_and]
    intro f origin hf
    exact absurd hf (hp f origin)

theorem executes?_fields {a : Act} (h : c.executes? a = some e) :
    e.files = c.host.files ∧ e.imports = c.host.imports ∧ e.name = c.resolver.moduleName := by
  cases a with
  | step id =>
    obtain ⟨f, origin, -, rfl⟩ := executes?_eq_some.mp h
    exact ⟨rfl, rfl, rfl⟩
  | _ => simp [executes?] at h

theorem moduleName_act (c : Resolution) (a : Act) :
    (c.act a).resolver.moduleName = c.resolver.moduleName :=
  (c.sameModule_act a).moduleName

theorem imports_follow_act (c : Resolution) (a : Act) :
    c.host.imports.Follows (c.act a).host.imports := by
  cases a with
  | resolve root =>
    simp only [act, Resolver.attemptFor]
    split <;> exact .refl _
  | step id => exact (c.resolver.step_grows c.host id).imports
  | reset => exact Imports.follows_of_modules rfl
  | call m text options => exact call_follows _ _ _ _ _
  | _ => exact .refl _

theorem imports_follow_after (c : Resolution) (acts : List Act) :
    c.host.imports.Follows (c.after acts).host.imports :=
  after_induction (P := fun c' => c.host.imports.Follows c'.host.imports)
    (fun c' a h => h.trans (c'.imports_follow_act a)) (.refl _) acts

/-- Nothing but an execution and a reset changes what is kept. -/
theorem kept_act {a : Act} (hreset : a ≠ .reset) (hnone : c.executes? a = none) :
    (c.act a).host.imports.kept = c.host.imports.kept := by
  cases a with
  | resolve root =>
    simp only [act, Resolver.attemptFor]
    split <;> rfl
  | step id =>
    have hmoves := c.resolver.step_cases c.host id
    simp only [act]
    generalize c.resolver.step c.host id = x at hmoves
    cases hmoves with
    | stays => rfl
    | executes a f origin found phase =>
      have hp : c.resolver.phase? id = some (.found f origin) := by
        rw [Resolver.phase?, found]
        exact congrArg some phase
      simp [executes?, hp] at hnone
    | finds a f h' begun phase found host unheld => rw [host.imports]
    | reuses a origin m h' begun phase held host => rw [host.imports]
    | holds a origin m h' executed phase exports host => rw [host.imports]
    | fails o failures h' outcome host => rw [host.imports]
  | reset => exact absurd rfl hreset
  | call m text options =>
    simp only [act, LintModule.call]
    split
    · rfl
    · split
      · split <;> rfl
      · rfl
  | _ => rfl

/-- An execution leaves what loading its file leaves. -/
theorem imports_of_executes {a : Act} (h : c.executes? a = some e) :
    (c.act a).host.imports = e.result.2 := by
  cases a with
  | step id =>
    obtain ⟨f, origin, hp, rfl⟩ := executes?_eq_some.mp h
    obtain ⟨a, ha, hphase⟩ := Option.map_eq_some_iff.mp hp
    exact (step_of_file ha hphase).2
  | _ => simp [executes?] at h

/-! ### What is kept was made since -/

/-- What is kept of the module was made by these executions, the last of which made the module
itself. -/
structure MadeBy (es : List Execution) (c : Resolution) : Prop where
  named : ∀ e ∈ es, e.name = c.resolver.moduleName
  older : ∀ e ∈ es, e.imports.modules.length < c.host.imports.modules.length
  order : es.Pairwise fun e e' => e.imports.modules.length < e'.imports.modules.length
  forgotten : es = [] → ∀ p ∈ c.host.imports.kept,
    Imports.belongsTo c.resolver.moduleName p.1 = false
  last : ∀ l, es.getLast? = some l → ∃ m label exported calls,
    c.host.imports.kept.lookup c.resolver.moduleName = some m ∧
      c.host.imports.module? m = some ⟨some l.found.file, label, exported, calls⟩
  siblings : ∀ full k, full ≠ c.resolver.moduleName →
    Imports.belongsTo c.resolver.moduleName full = true →
    c.host.imports.kept.lookup full = some k → ∃ e ∈ es, ∃ v, e.Makes full k v ∧
      (c.host.imports.module? k).bind Module.label = some v ∧
      (Steady es → ∀ l, es.getLast? = some l → e.real = l.real)

theorem madeBy_nil (h : ∀ p ∈ c.host.imports.kept,
    Imports.belongsTo c.resolver.moduleName p.1 = false) : MadeBy [] c where
  named := by simp
  older := by simp
  order := .nil
  forgotten := fun _ => h
  last := by simp
  siblings full k _ hbelongs hk := by
    have hnot := h _ (Table.mem_of_lookup hk)
    simp [hbelongs] at hnot

/-- Whatever leaves what is kept leaves it made by the same executions. -/
theorem MadeBy.weaken (h : MadeBy es c) {c' : Resolution}
    (name : c'.resolver.moduleName = c.resolver.moduleName)
    (kept : c'.host.imports.kept = c.host.imports.kept)
    (follows : c.host.imports.Follows c'.host.imports) : MadeBy es c' where
  named e he := (h.named e he).trans name.symm
  older e he := Nat.lt_of_lt_of_le (h.older e he) follows.length_le
  order := h.order
  forgotten := by
    rw [kept, name]
    exact h.forgotten
  last l hl := by
    obtain ⟨m, label, exported, calls, hm, hmodule⟩ := h.last l hl
    obtain ⟨calls', hmodule'⟩ := follows _ _ hmodule
    rw [kept, name]
    exact ⟨m, label, exported, calls', hm, hmodule'⟩
  siblings full k := by
    rw [kept, name]
    intro hne hbelongs hk
    obtain ⟨e, he, v, hmakes, hlabel, hreal⟩ := h.siblings full k hne hbelongs hk
    exact ⟨e, he, v, hmakes, label_of_follows follows hlabel, hreal⟩

/-- A module that is kept from the file that is executed was kept by the last of the executions. -/
theorem MadeBy.leads (h : MadeBy es c) (name : e.name = c.resolver.moduleName)
    (same : isFromSameFile e.files c.host.imports e.name e.found = true) :
    ∃ l, es.getLast? = some l ∧ e.files.realPath l.found.file = e.real := by
  cases hlast : es.getLast? with
  | none =>
    obtain rfl := List.getLast?_eq_none_iff.mp hlast
    cases hm : c.host.imports.kept.lookup e.name with
    | none => simp [isFromSameFile, hm] at same
    | some m =>
      have hnot := h.forgotten rfl _ (Table.mem_of_lookup hm)
      simp [name, Imports.belongsTo_self] at hnot
  | some l =>
    obtain ⟨m, label, exported, calls, hm, hmodule⟩ := h.last l hlast
    refine ⟨l, rfl, ?_⟩
    rw [← name] at hm
    simp only [isFromSameFile, hm, Option.bind_some, hmodule] at same
    exact eq_of_beq same

/-- An execution that fails leaves nothing of the module. -/
theorem madeBy_of_failed {a : Act} {fault : Fault} (he : c.executes? a = some e)
    (hfails : e.result.1 = .error fault) : MadeBy [] (c.act a) := by
  refine madeBy_nil fun p hp => ?_
  rw [imports_of_executes he] at hp
  rw [moduleName_act, ← (executes?_fields he).2.2]
  exact Execution.not_belongsTo_of_failed hfails hp

/-- An execution that completes takes the place of the last one. What was kept before was made for
the same real file, unless it strays. -/
theorem MadeBy.completes (h : MadeBy es c) {a : Act} {m : Nat} (he : c.executes? a = some e)
    (hcompletes : e.result.1 = .ok m) : MadeBy (es ++ [e]) (c.act a) := by
  obtain ⟨hfiles, himports, hname⟩ := executes?_fields he
  obtain ⟨rfl, hkept, ⟨script, label, calls, -, hmodule, -⟩, hsiblings⟩ :=
    Execution.kept_of_completed hcompletes
  have hresult := imports_of_executes he
  have hnamed : (c.act a).resolver.moduleName = e.name := (c.moduleName_act a).trans hname.symm
  have hgrows : e.imports.modules.length < (c.act a).host.imports.modules.length := by
    rw [hresult]
    exact lt_of_load _ _ _ hcompletes
  refine ⟨fun x hx => ?_, fun x hx => ?_, ?_, by simp, fun l hl => ?_,
    fun full k hne hbelongs hk => ?_⟩
  · obtain hx | hx := List.mem_append.mp hx
    · exact (h.named x hx).trans (c.moduleName_act a).symm
    · rw [List.mem_singleton.mp hx, hnamed]
  · obtain hx | hx := List.mem_append.mp hx
    · exact Nat.lt_trans (himports ▸ h.older x hx) hgrows
    · rwa [List.mem_singleton.mp hx]
  · refine List.pairwise_append.mpr ⟨h.order, List.pairwise_singleton _ _, fun x hx y hy => ?_⟩
    rw [List.mem_singleton.mp hy, himports]
    exact h.older x hx
  · obtain rfl : e = l := by simpa using hl
    rw [hnamed, hresult]
    exact ⟨_, label, _, calls, hkept, hmodule⟩
  · rw [hnamed] at hne hbelongs
    rw [hresult] at hk ⊢
    obtain ⟨hsame, hold⟩ | ⟨v, hmakes, hlabel⟩ := hsiblings full k hne hbelongs hk
    · rw [himports] at hold hsame
      rw [hname] at hne hbelongs
      obtain ⟨x, hx, v, hmakes, hlabel, hreal⟩ := h.siblings full k hne hbelongs hold
      refine ⟨x, List.mem_append_left _ hx, v, hmakes, ?_, fun hsteady l hl => ?_⟩
      · rw [← hresult]
        exact label_of_follows (c.imports_follow_act a) hlabel
      · obtain rfl : e = l := by simpa using hl
        obtain ⟨hearlier, hstays⟩ := hsteady.of_concat
        obtain ⟨l, hl, hleads⟩ := h.leads hname hsame
        rw [hreal hearlier l hl]
        exact Classical.byContradiction fun hother => hstays ⟨l, hl, hleads, hother⟩
    · refine ⟨e, by simp, v, hmakes, hlabel, fun _ l hl => ?_⟩
      obtain rfl : e = l := by simpa using hl
      rfl

theorem recentStep_of_ne_reset {a : Act} (h : a ≠ .reset) : c.recentStep es a =
    match c.executes? a with
    | none => es
    | some e =>
      match e.result.1 with
      | .ok _ => es ++ [e]
      | .error _ => [] := by
  cases a with
  | reset => exact absurd rfl h
  | _ => rfl

theorem MadeBy.step (h : MadeBy es c) (a : Act) : MadeBy (c.recentStep es a) (c.act a) := by
  by_cases hreset : a = .reset
  · subst hreset
    exact madeBy_nil fun p hp => Imports.not_belongsTo_of_mem_forget hp
  · rw [recentStep_of_ne_reset hreset]
    cases he : c.executes? a with
    | none => exact h.weaken (c.moduleName_act a) (kept_act hreset he) (c.imports_follow_act a)
    | some e =>
      simp only
      split
      · exact h.completes he ‹_›
      · exact madeBy_of_failed he ‹_›

theorem MadeBy.run (h : MadeBy es c) (acts : List Act) :
    MadeBy (c.recent es acts) (c.after acts) := by
  induction acts generalizing c es with
  | nil => exact h
  | cons a acts ih => exact ih (h.step a)

/-! ### The law -/

/-- A sibling is made once. -/
theorem MadeBy.unique (h : MadeBy es c) {x y : Execution} (hx : x ∈ es) (hy : y ∈ es)
    {full : String} {k : Nat} {v w : Json} (hmakes : x.Makes full k v)
    (hmakes' : y.Makes full k w) : x = y := by
  have hnodup : (es.map fun e => e.imports.modules.length).Nodup :=
    List.pairwise_map.mpr (h.order.imp Nat.ne_of_lt)
  refine List.inj_on_of_nodup_map hnodup hx hy ?_
  exact Nat.succ.inj (hmakes.2.1.symm.trans hmakes'.2.1)

/-- A value that is taken from a sibling was made by one of the executions since the last reset and the
last one that failed, or by the one that takes it. Unless one of these strayed, it was made for the
real file of the one that takes it exactly if that one makes it or does not stray. -/
theorem MadeBy.takes (h : MadeBy es c) {a : Act} (he : c.executes? a = some e) {full : String}
    {k : Nat} {v : Json} (htakes : e.Takes full k v) :
    (∃ x ∈ es ++ [e], x.Makes full k v) ∧
      (Steady es → ((∃ x ∈ es ++ [e], x.Makes full k v ∧ x.real = e.real) ↔
        e.Makes full k v ∨ ¬ Strays es e)) := by
  have hself : e ∈ es ++ [e] := by simp
  obtain hmakes | ⟨hamong, hlabel⟩ := htakes.cases
  · exact ⟨⟨e, hself, hmakes⟩, fun _ => ⟨fun _ => .inl hmakes, fun _ => ⟨e, hself, hmakes, rfl⟩⟩⟩
  obtain ⟨-, himports, hname⟩ := executes?_fields he
  obtain ⟨hne, hbelongs⟩ := htakes.isSibling
  obtain ⟨hsame, hkept⟩ := Execution.kept_of_among hne hbelongs hamong
  rw [himports] at hsame hkept hlabel
  obtain ⟨l, hl, hleads⟩ := h.leads hname hsame
  rw [hname] at hne hbelongs
  obtain ⟨x, hx, w, hmakes, hlabel', hreal⟩ := h.siblings full k hne hbelongs hkept
  obtain rfl := Option.some.inj (hlabel'.symm.trans hlabel)
  have hx' : x ∈ es ++ [e] := List.mem_append_left _ hx
  refine ⟨⟨x, hx', hmakes⟩, fun hsteady => ⟨?_, ?_⟩⟩
  · rintro ⟨y, hy, hmakes', hreal'⟩
    obtain hy | hy := List.mem_append.mp hy
    · obtain rfl := h.unique hx hy hmakes hmakes'
      refine .inr ?_
      rintro ⟨l', hl', -, hother⟩
      obtain rfl := Option.some.inj (hl.symm.trans hl')
      exact hother ((hreal hsteady l hl).symm.trans hreal')
    · rw [List.mem_singleton.mp hy] at hmakes'
      exact .inl hmakes'
  · rintro (hmakes' | hstays)
    · exact ⟨e, hself, hmakes', rfl⟩
    · refine ⟨x, hx', hmakes, (hreal hsteady l hl).trans ?_⟩
      exact Classical.byContradiction fun hother => hstays ⟨l, hl, hleads, hother⟩

theorem mem_executions {before rest : List Act} {a : Act}
    (he : (c.after before).executes? a = some e) :
    e ∈ c.executions (before ++ a :: rest) := by
  induction before generalizing c with
  | nil =>
    have he : c.executes? a = some e := he
    simp [executions, he]
  | cons b before ih => exact List.mem_append_right _ (ih he)

/-- Every execution takes its siblings from those that the executions since the last reset and the
last failed one made, among them itself. As long as none of these strayed, it takes a sibling that
was made for its own real file exactly unless it takes one that was made before and strays. The
label of a module that is given out is its script's own or one that its execution took. After an
execution that failed, and after a reset, nothing is kept of the module. -/
theorem sibling_is_own_iff (name entry : String) (path : Option String) (fallback : Bool)
    (h : Host) (acts : List Act) :
    let start : Resolution := ⟨.fresh name entry path fallback, { h with imports := .empty }⟩
    let c := start.after acts
    let recent := start.recent [] acts
    (∀ a e, c.executes? a = some e → ∀ full k v, e.Takes full k v →
      (∃ x ∈ recent ++ [e], x.Makes full k v) ∧
      (Steady recent → ((∃ x ∈ recent ++ [e], x.Makes full k v ∧ x.real = e.real) ↔
        e.Makes full k v ∨ ¬ Strays recent e))) ∧
    (∀ id m v, c.resolver.outcome? id = some (.present m) →
      (c.host.imports.module? m).bind Module.label = some v →
      ∃ e ∈ start.executions acts, e.result.1 = .ok m ∧ ∃ script,
        scriptOf e.files e.found.file = .ok script ∧
        (script.label = some v ∨ ∃ full k, e.Takes full k v)) ∧
    (∀ a e fault, c.executes? a = some e → e.result.1 = .error fault →
      ∀ p ∈ (c.act a).host.imports.kept, Imports.belongsTo name p.1 = false) ∧
    ∀ p ∈ (c.act .reset).host.imports.kept, Imports.belongsTo name p.1 = false := by
  intro start c recent
  have hmade : MadeBy recent c := by
    have hstart : MadeBy [] start := madeBy_nil (by simp [start, Imports.empty])
    exact hstart.run acts
  have hname : c.resolver.moduleName = name :=
    after_induction (P := fun c => c.resolver.moduleName = name)
      (fun c a hc => (c.moduleName_act a).trans hc) rfl acts
  refine ⟨fun a e he full k v htakes => hmade.takes he htakes, fun id m v ho hv => ?_,
    fun a e fault he hfails => ?_, ?_⟩
  · have hc : Accounted (start.finds acts) (start.makes acts) c := by
      simpa using (accounted_fresh name entry path fallback _).after acts
    obtain ⟨origin, -, hm⟩ := hc.given id m ((Resolver.outcome?_eq_some _ _).mp ho)
    obtain ⟨before, k, rest, f, -, -, rfl, hp, hload, -⟩ := executes_of_mem_makes hm
    obtain ⟨e, he, hresult⟩ : ∃ e, (start.after before).executes? (.step k) = some e ∧
        e.result.1 = .ok m := ⟨_, executes?_eq_some.mpr ⟨f, origin, hp, rfl⟩, hload⟩
    refine ⟨e, mem_executions he, hresult, ?_⟩
    obtain ⟨-, -, ⟨script, label, calls, hscript, hmodule, htakes⟩, -⟩ :=
      Execution.kept_of_completed hresult
    have hlater : c = ((start.after before).act (.step k)).after rest := List.foldl_append
    have hfollows := imports_follow_after ((start.after before).act (.step k)) rest
    rw [imports_of_executes he, ← hlater] at hfollows
    obtain ⟨calls', hmodule'⟩ := hfollows _ _ hmodule
    rw [hmodule'] at hv
    exact ⟨script, hscript, htakes v hv⟩
  · have hfailed := (madeBy_of_failed he hfails).forgotten rfl
    rwa [moduleName_act, hname] at hfailed
  · have hreset := (hmade.step .reset).forgotten rfl
    rwa [moduleName_act, hname] at hreset

/-- A package whose sibling gives it its label. -/
def package (place : Place) (label : String) : List (Place × Entry) :=
  [(place, ⟨.directory, 0⟩),
    (place ++ ["__init__.py"], ⟨.script ⟨true, some "rules", none, none,
      some ("lint_text", .function .echo)⟩, 0⟩),
    (place ++ ["rules.py"], ⟨.script ⟨true, none, some (.str label), none, none⟩, 0⟩)]

/-- Two packages, and a link in a workspace to one of them. -/
def linkedTo (target : String) : Host :=
  { Host.fresh ["w"] "/home" "/global" none with
    files := ⟨package ["one"] "one" ++ package ["two"] "two" ++
      [(["w"], ⟨.directory, 0⟩), (["w", "marlint"], ⟨.link target, 0⟩)], ["w"], 0⟩ }

/-- Two calls, between which the machine is changed and all attempts are forgotten. -/
def askTwice (c : Resolution) (root : String) (host : Host) : List Act :=
  let acts := c.wholeCall root ++ [.change host, .invalidate none]
  acts ++ (c.after acts).wholeCall root

theorem oneByOne_askTwice (c : Resolution) (root : String) (host : Host) :
    c.OneByOne (c.askTwice root host) :=
  .resolves c root _ (.other _ (.change host) _ (by simp) (by simp)
    (.other _ (.invalidate none) _ (by simp) (by simp) (.resolves _ root [] (.nil _))))

/-- A package that is reached through a link that led elsewhere before takes the sibling of the other
package, also where calls are made one at a time. -/
theorem relinked_package_takes_other_sibling :
    let start : Resolution := ⟨.fresh "marlint" "lint_text" none false, linkedTo "/one"⟩
    let acts := start.askTwice "/w" (linkedTo "/two")
    let c := start.after acts
    start.OneByOne acts ∧ ∃ m, c.resolver.outcome? (c.asked "/w") = some (.present m) ∧
      c.resolver.handles.lookup "/two/__init__.py" = some m ∧
      ((c.host.imports.module? m).bind Module.label).bind Json.text? = some "one" := by
  intro start acts c
  refine ⟨oneByOne_askTwice _ _ _, 2, ?_⟩
  decide +kernel

end Resolution

end LintBridge

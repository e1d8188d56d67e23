import LintBridge.Proofs.LintModule.Imports
import LintBridge.Proofs.Lists
import LintBridge.Resolver

/-! What a step of an attempt can do, said once: nothing, find a file, take a module that is held,
execute a file, hold a module, or settle without one. Every step takes its attempt to the next
phase, and leaves the other attempts and all that is remembered. -/

namespace LintBridge

/-! ### What the machine keeps -/

/-- A machine with the same files and the same modules, and the same configuration if one was in
use. -/
structure Host.Agrees (h h' : Host) : Prop where
  files : h'.files = h.files
  imports : h'.imports = h.imports
  config : ∀ c, h.config? = some c → h'.config? = some c

/-- A machine with the same files and configuration, which may have loaded and called modules. -/
structure Host.Grows (h h' : Host) : Prop where
  files : h'.files = h.files
  imports : h.imports.Follows h'.imports
  config : ∀ c, h.config? = some c → h'.config? = some c

namespace Host

variable {h h' h'' : Host}

theorem Agrees.refl (h : Host) : h.Agrees h := ⟨rfl, rfl, fun _ hc => hc⟩

theorem Agrees.trans (a : h.Agrees h') (b : h'.Agrees h'') : h.Agrees h'' :=
  ⟨b.files.trans a.files, b.imports.trans a.imports, fun c hc => b.config c (a.config c hc)⟩

theorem Agrees.note (a : h.Agrees h') (level : LogLevel) (message : String) :
    h.Agrees (h'.note level message) :=
  ⟨a.files, a.imports, a.config⟩

theorem Agrees.grows (a : h.Agrees h') : h.Grows h' :=
  ⟨a.files, LintModule.Imports.follows_of_modules (congrArg _ a.imports), a.config⟩

theorem Grows.refl (h : Host) : h.Grows h := (Agrees.refl h).grows

theorem Grows.trans (a : h.Grows h') (b : h'.Grows h'') : h.Grows h'' :=
  ⟨b.files.trans a.files, a.imports.trans b.imports, fun c hc => b.config c (a.config c hc)⟩

/-- A configuration in use is not read again. -/
theorem linterConfig_of_config {c : Nat × Config} (hc : h.config? = some c) :
    h.linterConfig = (.ok c.2.linter, h) := by
  simp only [linterConfig, currentConfig, hc]
  rfl

/-- A configuration that was read is in use. -/
theorem config_of_linterConfig {linter : LinterSection} (hl : h.linterConfig = (.ok linter, h')) :
    ∃ c, h'.config? = some c := by
  cases hc : h.config? with
  | some c =>
    rw [linterConfig_of_config hc] at hl
    obtain ⟨-, rfl⟩ := Prod.mk.inj hl
    exact ⟨c, hc⟩
  | none =>
    simp only [linterConfig, currentConfig, readConfig, hc] at hl
    split at hl
    · simp [Except.map] at hl
    · obtain ⟨-, rfl⟩ := Prod.mk.inj hl
      exact ⟨_, rfl⟩

theorem linterConfig_agrees (h : Host) : h.Agrees h.linterConfig.2 := by
  cases hc : h.config? with
  | some c =>
    rw [linterConfig_of_config hc]
    exact .refl h
  | none =>
    simp only [linterConfig, currentConfig, readConfig, hc]
    split
    · exact .refl h
    · exact ⟨rfl, rfl, fun c hc' => by simp [hc] at hc'⟩

/-- A machine with a linting module in the directory in which it works. -/
def withModule : Host :=
  (fresh ["w"] "/home" "/global" none).edit
    [⟨"/w/marlint.py", .write (.script ⟨true, none, none, none,
      some ("lint_text", .function .rules)⟩), none⟩]

end Host

theorem Workspace.dependencies_agrees (h : Host) (root : String) (name : Json) :
    h.Agrees (dependencies h root name).2 := by
  simp only [dependencies]
  split
  · exact .refl h
  · split
    · exact .refl h
    · exact .refl h
    · exact (Host.Agrees.refl h).note _ _

theorem Workspace.declares_agrees (h : Host) (root package : String) :
    h.Agrees (declares h root package).2 := by
  have hname : h.Agrees (manifestName h .null).2 := by
    simp only [manifestName]
    split
    · exact .refl h
    · exact h.linterConfig_agrees
  simp only [declares]
  split <;> rename_i hn <;> rw [hn] at hname
  · exact hname
  · exact hname.trans (dependencies_agrees _ _ _)

/-- The phase that follows a phase. -/
inductive Phase.Next : Phase → Phase → Prop where
  | finds (f : LintModule.Found) (origin : String) : Next .begun (.found f origin)
  | gives (o : Outcome) : Next .begun (.settled o)
  | executes (f : LintModule.Found) (origin : String) (result : Except Fault Nat) :
      Next (.found f origin) (.executed origin result)
  | settles (origin : String) (result : Except Fault Nat) (o : Outcome) :
      Next (.executed origin result) (.settled o)
  | stays (o : Outcome) : Next (.settled o) (.settled o)

namespace Resolver

variable (r : Resolver) (h : Host) (id : Nat)

theorem find_agrees (root : String) : h.Agrees (r.find h root).2 := by
  simp only [find]
  split
  · split
    · exact (Host.Agrees.refl h).note _ _
    · exact .refl h
  · exact .refl h

/-- What is found depends on the names, the directories and the files alone. -/
theorem find_congr {r r' : Resolver} {h h' : Host} (names : r'.moduleName = r.moduleName)
    (path : r'.modulePath = r.modulePath) (fallback : r'.globalFallback = r.globalFallback)
    (files : h'.files = h.files) (globally : h'.globalDirectories = h.globalDirectories)
    (root : String) : (r'.find h' root).1 = (r.find h root).1 := by
  cases r
  cases r'
  cases h
  cases h'
  subst names path fallback files globally
  simp only [find, findInWorkspace]
  split
  · split <;> rfl
  · rfl

/-! ### Attempts -/

theorem phase?_lt {p : Phase} (hp : r.phase? id = some p) : id < r.attempts.length := by
  simp only [phase?, Option.map_eq_some_iff] at hp
  obtain ⟨a, ha, -⟩ := hp
  exact (List.getElem?_eq_some_iff.mp ha).1

@[simp] theorem phase?_advance_self (p : Phase) :
    (r.advance id p).phase? id = (r.attempts[id]?).map fun _ => p := by
  simp [phase?, advance, Function.comp_def]

theorem phase?_advance_lt {p : Phase} (hid : id < r.attempts.length) :
    (r.advance id p).phase? id = some p := by
  rw [phase?_advance_self, List.getElem?_eq_getElem hid]
  rfl

theorem phase?_advance_of_ne {id' : Nat} (hne : id ≠ id') (p : Phase) :
    (r.advance id p).phase? id' = r.phase? id' := by
  simp [phase?, advance, hne]

@[simp] theorem length_advance (p : Phase) :
    (r.advance id p).attempts.length = r.attempts.length := by
  simp [advance]

/-- A new attempt has just begun. -/
theorem phase?_begin_self (key : String) :
    (r.begin key).1.phase? r.attempts.length = some .begun := by
  simp [begin, phase?]

/-- A new attempt leaves all others where they are. -/
theorem phase?_begin_of_lt (hid : id < r.attempts.length) (key : String) :
    (r.begin key).1.phase? id = r.phase? id := by
  simp only [begin, phase?, List.getElem?_append_left hid]

/-- An attempt is the new one, or stands where it stood. -/
theorem phase?_begin_cases {key : String} {p : Phase} (hp : (r.begin key).1.phase? id = some p) :
    id = r.attempts.length ∧ p = .begun ∨ r.phase? id = some p := by
  have hlt := phase?_lt _ _ hp
  simp only [begin, List.length_append, List.length_singleton] at hlt
  by_cases hid : id < r.attempts.length
  · exact .inr ((r.phase?_begin_of_lt id hid key).symm.trans hp)
  · obtain rfl : id = r.attempts.length := by omega
    exact .inl ⟨rfl, Option.some.inj (hp.symm.trans (r.phase?_begin_self key))⟩

theorem outcome?_eq_some {o : Outcome} :
    r.outcome? id = some o ↔ r.phase? id = some (.settled o) := by
  simp only [outcome?]
  split <;> simp_all

/-! ### Steps -/

/-- What a step of an attempt can do. -/
inductive Moves : Resolver × Host → Prop where
  | stays : Moves (r, h)
  | finds (a : Attempt) (f : LintModule.Found) (h' : Host) (begun : r.attempts[id]? = some a)
      (phase : a.phase = .begun) (found : (r.find h a.root).1 = .ok (some f))
      (host : h.Agrees h') (unheld : r.handles.lookup (h.files.realPath f.file) = none) :
      Moves (r.advance id (.found f (h.files.realPath f.file)), h')
  | reuses (a : Attempt) (origin : String) (m : Nat) (h' : Host)
      (begun : r.attempts[id]? = some a) (phase : a.phase = .begun)
      (held : r.handles.lookup origin = some m) (host : h.Agrees h') :
      Moves (r.advance id (.settled (.present m)), h')
  | executes (a : Attempt) (f : LintModule.Found) (origin : String)
      (found : r.attempts[id]? = some a) (phase : a.phase = .found f origin) :
      Moves (r.advance id (.executed origin
          (LintModule.load h.files h.imports r.moduleName f).1),
        { h with imports := (LintModule.load h.files h.imports r.moduleName f).2 })
  | holds (a : Attempt) (origin : String) (m : Nat) (h' : Host)
      (executed : r.attempts[id]? = some a) (phase : a.phase = .executed origin (.ok m))
      (exports : LintModule.exports h.imports m r.entryPoint = true) (host : h.Agrees h') :
      Moves ((r.hold origin m).2.advance id (.settled (.present (r.hold origin m).1)), h')
  | fails (o : Outcome) (failures : List Failure) (h' : Host) (outcome : ∀ m, o ≠ .present m)
      (host : h.Agrees h') :
      Moves ({ r with failures := failures }.advance id (.settled o), h')

theorem Moves.settleFailed {h' : Host} (host : h.Agrees h') (e : Fault) :
    Moves r h id (r.settleFailed id e, h') :=
  .fails _ _ h' (by simp) host

theorem Moves.settleMissing {h' : Host} (host : h.Agrees h') (root : String) :
    Moves r h id (r.settleMissing h' id root) := by
  have hd := host.trans (Workspace.declares_agrees h' root r.moduleName)
  simp only [Resolver.settleMissing]
  split <;> rename_i hh <;> rw [hh] at hd
  · exact .settleFailed r h id hd _
  · exact .settleFailed r h id hd _
  · exact .fails .absent r.failures _ (by simp) (hd.note _ _)

theorem step_cases : Moves r h id (r.step h id) := by
  simp only [step]
  split
  · exact .stays
  · rename_i a ha
    split
    · rename_i hp
      have hf := r.find_agrees h a.root
      simp only [search]
      split <;> rename_i hh <;> rw [hh] at hf
      · exact .settleFailed r h id hf _
      · exact .settleMissing r h id hf _
      · rename_i f h'
        have hfile : h'.files.realPath f.file = h.files.realPath f.file := by rw [hf.files]
        rw [hfile]
        split
        · rename_i m hm
          exact .reuses a _ m _ ha hp hm (hf.note _ _)
        · rename_i hm
          exact .finds a f h' ha hp (congrArg Prod.fst hh) hf hm
    · rename_i f origin hp
      exact .executes a f origin ha hp
    · rename_i origin result hp
      simp only [settle]
      split
      · split
        · exact .settleFailed r h id (.refl h) _
        · exact .settleMissing r h id ((Host.Agrees.refl h).note _ _) _
      · rename_i m
        split
        · rename_i hx
          exact .holds a origin m _ ha hp hx ((Host.Agrees.refl h).note _ _)
        · exact .settleFailed r h id (.refl h) _
    · exact .stays

/-- What a step leaves as it is. -/
theorem step_keeps : (r.step h id).1 = { r with
    handles := (r.step h id).1.handles
    attempts := (r.step h id).1.attempts
    failures := (r.step h id).1.failures } := by
  have hmoves := r.step_cases h id
  generalize r.step h id = x at hmoves ⊢
  cases hmoves with
  | holds a origin m h' executed phase exports host =>
    simp only [hold]
    split <;> rfl
  | _ => rfl

theorem step_grows : h.Grows (r.step h id).2 := by
  have hmoves := r.step_cases h id
  generalize r.step h id = x at hmoves ⊢
  cases hmoves with
  | stays => exact .refl h
  | executes a f origin found phase =>
    exact ⟨rfl, LintModule.load_follows h.files h.imports r.moduleName f, fun _ hc => hc⟩
  | finds a f h' begun phase found host unheld => exact host.grows
  | reuses a origin m h' begun phase held host => exact host.grows
  | holds a origin m h' executed phase exports host => exact host.grows
  | fails o failures h' outcome host => exact host.grows

/-- Only the attempt that takes the step moves. -/
theorem phase?_step_of_ne {id' : Nat} (hne : id ≠ id') :
    (r.step h id).1.phase? id' = r.phase? id' := by
  have hmoves := r.step_cases h id
  generalize r.step h id = x at hmoves ⊢
  cases hmoves with
  | stays => rfl
  | holds a origin m h' executed phase exports host =>
    rw [phase?_advance_of_ne _ _ hne]
    simp only [hold]
    split <;> rfl
  | _ => exact phase?_advance_of_ne _ _ hne _

theorem settleFailed_settles (hid : id < r.attempts.length) (e : Fault) :
    ∃ o, (r.settleFailed id e).phase? id = some (.settled o) :=
  ⟨_, phase?_advance_lt _ id hid⟩

theorem settleMissing_settles (hid : id < r.attempts.length) (root : String) :
    ∃ o, (r.settleMissing h id root).1.phase? id = some (.settled o) := by
  simp only [settleMissing]
  split
  · exact r.settleFailed_settles id hid _
  · exact r.settleFailed_settles id hid _
  · exact ⟨_, phase?_advance_lt _ id hid⟩

/-- An attempt that takes a step goes on to the next phase. -/
theorem step_next {p : Phase} (hp : r.phase? id = some p) :
    ∃ p', (r.step h id).1.phase? id = some p' ∧ p.Next p' := by
  have hid := r.phase?_lt id hp
  obtain ⟨a, ha, rfl⟩ := Option.map_eq_some_iff.mp hp
  simp only [step, ha]
  cases hphase : a.phase with
  | begun =>
    simp only [search]
    split
    · obtain ⟨o, ho⟩ := r.settleFailed_settles id hid _
      exact ⟨_, ho, .gives o⟩
    · obtain ⟨o, ho⟩ := r.settleMissing_settles _ id hid _
      exact ⟨_, ho, .gives o⟩
    · split
      · exact ⟨_, phase?_advance_lt _ id hid, .gives _⟩
      · exact ⟨_, phase?_advance_lt _ id hid, .finds _ _⟩
  | found f origin => exact ⟨_, phase?_advance_lt _ id hid, .executes _ _ _⟩
  | executed origin result =>
    simp only [settle]
    split
    · split
      · obtain ⟨o, ho⟩ := r.settleFailed_settles id hid _
        exact ⟨_, ho, .settles _ _ o⟩
      · obtain ⟨o, ho⟩ := r.settleMissing_settles _ id hid _
        exact ⟨_, ho, .settles _ _ o⟩
    · split
      · refine ⟨_, phase?_advance_lt _ id ?_, .settles _ _ _⟩
        simp only [hold]
        split <;> exact hid
      · obtain ⟨o, ho⟩ := r.settleFailed_settles id hid _
        exact ⟨_, ho, .settles _ _ o⟩
  | settled o =>
    exact ⟨_, hp.trans (congrArg some hphase), .stays o⟩

/-- A new attempt that finds a file settles on the module held for it, or goes on with the file. -/
theorem step_of_found {r : Resolver} {h : Host} {id : Nat} {a : Attempt} {f : LintModule.Found}
    (ha : r.attempts[id]? = some a) (hp : a.phase = .begun)
    (hf : (r.find h a.root).1 = .ok (some f)) :
    (r.step h id).1 = match r.handles.lookup (h.files.realPath f.file) with
      | some m => r.advance id (.settled (.present m))
      | none => r.advance id (.found f (h.files.realPath f.file)) := by
  have hfiles := (r.find_agrees h a.root).files
  simp only [step, ha, hp, search]
  split <;> rename_i hh <;> rw [hh] at hf hfiles
  · simp at hf
  · simp at hf
  · obtain rfl := Option.some.inj (Except.ok.inj hf)
    rw [hfiles]
    cases r.handles.lookup (h.files.realPath _) <;> rfl

/-- A new attempt that finds the file of a module that is held settles on it. -/
theorem step_of_held {r : Resolver} {h : Host} {id m : Nat} {a : Attempt} {f : LintModule.Found}
    (ha : r.attempts[id]? = some a) (hp : a.phase = .begun)
    (hf : (r.find h a.root).1 = .ok (some f))
    (hm : r.handles.lookup (h.files.realPath f.file) = some m) :
    (r.step h id).1 = r.advance id (.settled (.present m)) := by
  rw [step_of_found ha hp hf, hm]

/-- An attempt that has executed a well-formed module settles on the one that is then held. -/
theorem step_of_executed {r : Resolver} {h : Host} {id m : Nat} {a : Attempt} {origin : String}
    (ha : r.attempts[id]? = some a) (hp : a.phase = .executed origin (.ok m))
    (hx : LintModule.exports h.imports m r.entryPoint = true) :
    (r.step h id).1 =
      (r.hold origin m).2.advance id (.settled (.present (r.hold origin m).1)) := by
  simp only [step, ha, hp, settle, hx, if_true]

end Resolver

end LintBridge

import LintBridge.Proofs.Resolver.Basic
import LintBridge.Proofs.Table

/-! What a reset of the resolver forgets. Attempts that are under way go on, and what they come to
is kept as if they had begun later. A module that was executed but not yet held when the resolver
was reset is held afterwards, and whoever asks then may be given it; any other module that is
given out after the reset was also executed after it. -/

namespace LintBridge

/-- A resolver and the machine on which it works. -/
structure Resolution where
  resolver : Resolver
  host : Host

namespace Resolution

/-- What can happen to a resolver: a call asks for a workspace's module, an attempt takes its next
step, attempts are forgotten, a module is called, a failure is told, and the files and
whatever else is on the machine change. The machine works in one directory throughout. -/
inductive Act where
  | resolve (root : String)
  | step (id : Nat)
  | invalidate (root : Option String)
  | reset
  | setModulePath (path : Option String)
  | call (m : Nat) (text : String) (options : Members)
  | tell (failure : Nat)
  | change (host : Host)

variable (c : Resolution)

/-- The attempt that a call is told the outcome of. -/
def asked (root : String) : Nat :=
  (c.resolver.attemptFor c.host root).1.1

/-- The machine after a change: its modules and the directory in which it works are the same. -/
def changed (host : Host) : Host :=
  { host with imports := c.host.imports, files.here := c.host.files.here }

/-- Takes a step. -/
def act : Act → Resolution
  | .resolve root => ⟨(c.resolver.attemptFor c.host root).2.1, (c.resolver.attemptFor c.host root).2.2⟩
  | .step id => ⟨(c.resolver.step c.host id).1, (c.resolver.step c.host id).2⟩
  | .invalidate root => ⟨c.resolver.invalidate c.host root, c.host⟩
  | .reset => ⟨(c.resolver.reset c.host).1, (c.resolver.reset c.host).2⟩
  | .setModulePath path => ⟨c.resolver.setModulePath path, c.host⟩
  | .call m text options =>
    ⟨c.resolver, { c.host with
      imports := (LintModule.call c.host.imports m c.resolver.entryPoint text options).2 }⟩
  | .tell failure => ⟨c.resolver.markSurfaced failure, c.host⟩
  | .change host => ⟨c.resolver, c.changed host⟩

/-- Takes steps in order. -/
def after (acts : List Act) : Resolution :=
  acts.foldl act c

theorem after_cons (a : Act) (acts : List Act) : c.after (a :: acts) = (c.act a).after acts := rfl

/-- What every step keeps, a run keeps. -/
theorem after_induction {P : Resolution → Prop} (hstep : ∀ c a, P c → P (c.act a))
    {c : Resolution} (hc : P c) (acts : List Act) : P (c.after acts) := by
  induction acts generalizing c with
  | nil => exact hc
  | cons a acts ih => exact ih (hstep c a hc)

/-! ### What is new since a moment -/

/-- Since the moment `w`, no module that was made before it is remembered, held, or settled on for
a call made after it. -/
structure Since (w c : Resolution) : Prop where
  entry : c.resolver.entryPoint = w.resolver.entryPoint
  imports : w.host.imports.Follows c.host.imports
  more : w.resolver.attempts.length ≤ c.resolver.attempts.length
  memo : ∀ p ∈ c.resolver.memo, w.resolver.attempts.length ≤ p.2
  handles : ∀ p ∈ c.resolver.handles, w.host.imports.modules.length ≤ p.2
  /-- An older module that is still to be held is malformed. -/
  executed : ∀ id origin m, c.resolver.phase? id = some (.executed origin (.ok m)) →
    w.host.imports.modules.length ≤ m ∨
      LintModule.exports w.host.imports m w.resolver.entryPoint = false
  settled : ∀ id m, w.resolver.attempts.length ≤ id →
    c.resolver.phase? id = some (.settled (.present m)) → w.host.imports.modules.length ≤ m

variable {w c c' : Resolution}

/-- Forgetting, and what is done to modules and the machine, brings nothing old back. -/
theorem Since.weaken (hc : Since w c)
    (entry : c'.resolver.entryPoint = c.resolver.entryPoint)
    (attempts : c'.resolver.attempts = c.resolver.attempts)
    (memo : ∀ p ∈ c'.resolver.memo, p ∈ c.resolver.memo)
    (handles : ∀ p ∈ c'.resolver.handles, p ∈ c.resolver.handles)
    (imports : c.host.imports.Follows c'.host.imports) : Since w c' where
  entry := entry.trans hc.entry
  imports := hc.imports.trans imports
  more := by
    rw [attempts]
    exact hc.more
  memo p hp := hc.memo p (memo p hp)
  handles p hp := hc.handles p (handles p hp)
  executed id origin m hp := by
    rw [Resolver.phase?, attempts] at hp
    exact hc.executed id origin m hp
  settled id m hid hp := by
    rw [Resolver.phase?, attempts] at hp
    exact hc.settled id m hid hp

/-- A machine with the same modules. -/
theorem Since.agrees (hc : Since w c) {h' : Host} (host : c.host.Agrees h') :
    Since w ⟨c.resolver, h'⟩ :=
  hc.weaken rfl rfl (fun _ hp => hp) (fun _ hp => hp)
    (LintModule.Imports.follows_of_modules (congrArg _ host.imports))

/-- An attempt may go on to a phase that brings no older module back. -/
theorem Since.advance (hc : Since w c) (id : Nat) {p : Phase}
    (executed : ∀ origin m, p = .executed origin (.ok m) → w.host.imports.modules.length ≤ m)
    (settled : ∀ m, p = .settled (.present m) → w.host.imports.modules.length ≤ m) :
    Since w ⟨c.resolver.advance id p, c.host⟩ where
  entry := hc.entry
  imports := hc.imports
  more := by
    rw [Resolver.length_advance]
    exact hc.more
  memo := hc.memo
  handles := hc.handles
  executed id' origin m hp := by
    by_cases hid : id = id'
    · subst hid
      rw [Resolver.phase?_advance_self, Option.map_eq_some_iff] at hp
      obtain ⟨-, -, hp⟩ := hp
      exact .inl (executed origin m hp)
    · rw [Resolver.phase?_advance_of_ne _ _ hid] at hp
      exact hc.executed id' origin m hp
  settled id' m hid' hp := by
    by_cases hid : id = id'
    · subst hid
      rw [Resolver.phase?_advance_self, Option.map_eq_some_iff] at hp
      obtain ⟨-, -, hp⟩ := hp
      exact settled m hp
    · rw [Resolver.phase?_advance_of_ne _ _ hid] at hp
      exact hc.settled id' m hid' hp

theorem Since.resolve (hc : Since w c) (root : String) : Since w (c.act (.resolve root)) := by
  simp only [act, Resolver.attemptFor]
  split
  · exact hc
  · have hlen := hc.more
    have hphase : ∀ id p, (c.resolver.begin (Resolver.key c.host root)).1.phase? id = some p →
        p = .begun ∨ c.resolver.phase? id = some p :=
      fun id p hp => (c.resolver.phase?_begin_cases id hp).imp_left And.right
    refine ⟨hc.entry, hc.imports, ?_, ?_, hc.handles, ?_, ?_⟩
    · simp only [Resolver.begin, List.length_append, List.length_singleton]
      omega
    · intro p hp
      simp only [Resolver.begin, List.mem_cons, List.mem_filter] at hp
      obtain rfl | ⟨hp, -⟩ := hp
      · exact hlen
      · exact hc.memo p hp
    · intro id origin m hp
      obtain hb | hp := hphase id _ hp
      · simp at hb
      · exact hc.executed id origin m hp
    · intro id m hid hp
      obtain hb | hp := hphase id _ hp
      · simp at hb
      · exact hc.settled id m hid hp

/-- What is held for a file, once a module that is not old has come, is not old. -/
theorem Since.hold (hc : Since w c) (origin : String) {m : Nat}
    (hm : w.host.imports.modules.length ≤ m) :
    Since w ⟨(c.resolver.hold origin m).2, c.host⟩ ∧
      w.host.imports.modules.length ≤ (c.resolver.hold origin m).1 := by
  simp only [Resolver.hold]
  split
  · rename_i other ho
    exact ⟨hc, hc.handles _ (Table.mem_of_lookup ho)⟩
  · refine ⟨⟨hc.entry, hc.imports, hc.more, hc.memo, fun p hp => ?_, hc.executed, hc.settled⟩, hm⟩
    obtain rfl | hp := List.mem_cons.mp hp
    · exact hm
    · exact hc.handles p hp

theorem Since.step (hc : Since w c) (id : Nat) : Since w (c.act (.step id)) := by
  have hcases := c.resolver.step_cases c.host id
  simp only [act]
  generalize c.resolver.step c.host id = x at hcases ⊢
  cases hcases with
  | stays => exact hc
  | finds a f h' begun phase found host unheld =>
    exact (hc.agrees host).advance id (by simp) (by simp)
  | reuses a origin m h' begun phase held host =>
    refine (hc.agrees host).advance id (by simp) fun m' hm => ?_
    obtain rfl := Outcome.present.inj (Phase.settled.inj hm)
    exact hc.handles _ (Table.mem_of_lookup held)
  | executes a f origin found phase =>
    have hload := LintModule.load_follows c.host.files c.host.imports c.resolver.moduleName f
    have hw : Since w ⟨c.resolver, { c.host with
        imports := (LintModule.load c.host.files c.host.imports c.resolver.moduleName f).2 }⟩ :=
      hc.weaken rfl rfl (fun _ hp => hp) (fun _ hp => hp) hload
    refine hw.advance id (fun origin' m hm => ?_) (by simp)
    obtain ⟨-, hm⟩ := Phase.executed.inj hm
    rw [LintModule.load_fst _ _ _ hm]
    exact hc.imports.length_le
  | holds a origin m h' executed phase exports host =>
    have hp : c.resolver.phase? id = some (.executed origin (.ok m)) := by
      simp [Resolver.phase?, executed, phase]
    have hm : w.host.imports.modules.length ≤ m := by
      obtain hm | hx := hc.executed id origin m hp
      · exact hm
      · refine Nat.le_of_not_lt fun hlt => ?_
        rw [hc.entry, LintModule.exports_of_follows hc.imports hlt, hx] at exports
        simp at exports
    obtain ⟨hheld, hle⟩ := (hc.agrees host).hold origin hm
    refine hheld.advance id (by simp) fun m' hm' => ?_
    obtain rfl := Outcome.present.inj (Phase.settled.inj hm')
    exact hle
  | fails o failures h' outcome host =>
    have hw : Since w ⟨{ c.resolver with failures := failures }, h'⟩ :=
      (hc.agrees host).weaken rfl rfl (fun _ hp => hp) (fun _ hp => hp) (.refl _)
    refine hw.advance id (by simp) fun m hm => ?_
    exact absurd (Phase.settled.inj hm) (outcome m)

theorem Since.act (hc : Since w c) (a : Act) : Since w (c.act a) := by
  cases a with
  | resolve root => exact hc.resolve root
  | step id => exact hc.step id
  | invalidate root =>
    refine hc.weaken ?_ ?_ ?_ ?_ (.refl _) <;> cases root <;>
      simp +contextual [Resolution.act, Resolver.invalidate]
  | reset =>
    exact hc.weaken rfl rfl (by simp [Resolution.act, Resolver.reset])
      (by simp [Resolution.act, Resolver.reset]) (LintModule.Imports.follows_of_modules rfl)
  | setModulePath path => exact hc.weaken rfl rfl (fun _ hp => hp) (fun _ hp => hp) (.refl _)
  | call m text options =>
    exact hc.weaken rfl rfl (fun _ hp => hp) (fun _ hp => hp)
      (LintModule.call_follows _ _ _ _ _)
  | tell failure => exact hc.weaken rfl rfl (fun _ hp => hp) (fun _ hp => hp) (.refl _)
  | change host => exact hc.weaken rfl rfl (fun _ hp => hp) (fun _ hp => hp) (.refl _)

theorem Since.after (hc : Since w c) (acts : List Act) : Since w (c.after acts) :=
  after_induction (P := Since w) (fun _ a hc => hc.act a) hc acts

/-- A call is told the outcome of an attempt that was remembered since. -/
theorem Since.asked_le (hc : Since w c) (root : String) :
    w.resolver.attempts.length ≤ c.asked root := by
  simp only [asked, Resolver.attemptFor]
  split
  · rename_i id hid
    exact hc.memo _ (Table.mem_of_lookup hid)
  · exact hc.more

/-! ### Where attempts come from -/

end Resolution

/-- The real file that an attempt found and has not settled on yet. -/
def Phase.origin? : Phase → Option String
  | found _ origin | executed origin _ => some origin
  | _ => none

theorem Resolver.mem_advance {r : Resolver} {id : Nat} {p : Phase} {a : Attempt}
    (ha : a ∈ (r.advance id p).attempts) :
    a ∈ r.attempts ∨ ∃ b, r.attempts[id]? = some b ∧ a = { b with phase := p } := by
  obtain ⟨k, hk⟩ := List.mem_iff_getElem?.mp ha
  simp only [advance, List.getElem?_modify] at hk
  by_cases hid : id = k
  · subst hid
    simp only [if_pos, Option.map_eq_map, Option.map_eq_some_iff] at hk
    obtain ⟨b, hb, rfl⟩ := hk
    exact .inr ⟨b, hb, rfl⟩
  · simp only [if_neg hid, Option.map_eq_map, Option.map_id_fun', id_eq] at hk
    exact .inl (List.mem_of_getElem? hk)

namespace Resolution

/-- Every attempt was asked for under some root, and the file that it found can be found: with
some files and some configured directory, the search ends at it. -/
structure Rooted (r : Resolver) (place : Place) (c : Resolution) : Prop where
  names : c.resolver.moduleName = r.moduleName
  fallback : c.resolver.globalFallback = r.globalFallback
  here : c.host.files.here = place
  root : ∀ a ∈ c.resolver.attempts, ∃ root, a.root = Path.absolute (FileSystem.text place) root
  found : ∀ a ∈ c.resolver.attempts, ∀ origin, a.phase.origin? = some origin →
    ∃ h path f, h.files.here = place ∧
      ((r.setModulePath path).find h a.root).1 = .ok (some f) ∧ h.files.realPath f.file = origin

variable {r : Resolver} {place : Place} {c c' : Resolution}

theorem rooted_fresh (name entry : String) (path : Option String) (fallback : Bool) (h : Host) :
    Rooted (.fresh name entry path fallback) h.files.here ⟨.fresh name entry path fallback, h⟩ where
  names := rfl
  fallback := rfl
  here := rfl
  root a ha := by simp [Resolver.fresh] at ha
  found a ha := by simp [Resolver.fresh] at ha

theorem Rooted.weaken (hc : Rooted r place c)
    (names : c'.resolver.moduleName = c.resolver.moduleName)
    (fallback : c'.resolver.globalFallback = c.resolver.globalFallback)
    (attempts : c'.resolver.attempts = c.resolver.attempts)
    (here : c'.host.files.here = c.host.files.here) :
    Rooted r place c' where
  names := names.trans hc.names
  fallback := fallback.trans hc.fallback
  here := here.trans hc.here
  root := by
    rw [attempts]
    exact hc.root
  found := by
    rw [attempts]
    exact hc.found

theorem Rooted.agrees (hc : Rooted r place c) {h' : Host}
    (host : c.host.Agrees h') : Rooted r place ⟨c.resolver, h'⟩ :=
  hc.weaken rfl rfl rfl (congrArg _ host.files)

/-- An attempt may go on to a phase whose file was found. -/
theorem Rooted.advance (hc : Rooted r place c) (id : Nat) {p : Phase}
    (found : ∀ a origin, c.resolver.attempts[id]? = some a → p.origin? = some origin →
      ∃ h path f, h.files.here = place ∧
        ((r.setModulePath path).find h a.root).1 = .ok (some f) ∧
        h.files.realPath f.file = origin) :
    Rooted r place ⟨c.resolver.advance id p, c.host⟩ where
  names := hc.names
  fallback := hc.fallback
  here := hc.here
  root a ha := by
    obtain ha | ⟨b, hb, rfl⟩ := Resolver.mem_advance ha
    · exact hc.root a ha
    · exact hc.root b (List.mem_of_getElem? hb)
  found a ha origin ho := by
    obtain ha | ⟨b, hb, rfl⟩ := Resolver.mem_advance ha
    · exact hc.found a ha origin ho
    · exact found b origin hb ho

theorem Rooted.resolve (hc : Rooted r place c) (root : String) :
    Rooted r place (c.act (.resolve root)) := by
  simp only [act, Resolver.attemptFor]
  split
  · exact hc
  · refine ⟨hc.names, hc.fallback, hc.here, fun a ha => ?_, fun a ha origin ho => ?_⟩
    · obtain ha | ha := List.mem_append.mp ha
      · exact hc.root a ha
      · obtain rfl := List.mem_singleton.mp ha
        exact ⟨root, by rw [Resolver.key, Host.here, hc.here]⟩
    · obtain ha | ha := List.mem_append.mp ha
      · exact hc.found a ha origin ho
      · obtain rfl := List.mem_singleton.mp ha
        simp [Phase.origin?] at ho

theorem Rooted.step (hc : Rooted r place c) (id : Nat) :
    Rooted r place (c.act (.step id)) := by
  have hcases := c.resolver.step_cases c.host id
  simp only [act]
  generalize c.resolver.step c.host id = x at hcases ⊢
  cases hcases with
  | stays => exact hc
  | finds a f h' begun phase found host unheld =>
    refine (hc.agrees host).advance id fun b origin hb ho => ?_
    obtain rfl := Option.some.inj (begun.symm.trans hb)
    refine ⟨c.host, c.resolver.modulePath, f, hc.here, ?_, Option.some.inj ho⟩
    rw [← found]
    refine Resolver.find_congr ?_ ?_ ?_ rfl rfl a.root
    · exact hc.names.symm
    · rfl
    · exact hc.fallback.symm
  | reuses a origin m h' begun phase held host =>
    exact (hc.agrees host).advance id (by simp [Phase.origin?])
  | executes a f origin found phase =>
    have hw : Rooted r place ⟨c.resolver, { c.host with
        imports := (LintModule.load c.host.files c.host.imports c.resolver.moduleName f).2 }⟩ :=
      hc.weaken rfl rfl rfl rfl
    refine hw.advance id fun b origin' hb ho => ?_
    obtain rfl := Option.some.inj (found.symm.trans hb)
    refine hc.found a (List.mem_of_getElem? found) origin' ?_
    rw [phase]
    exact ho
  | holds a origin m h' executed phase exports host =>
    have hw : Rooted r place ⟨(c.resolver.hold origin m).2, h'⟩ := by
      refine (hc.agrees host).weaken ?_ ?_ ?_ rfl <;>
        simp only [Resolver.hold] <;> split <;> rfl
    exact hw.advance id (by simp [Phase.origin?])
  | fails o failures h' outcome host =>
    have hw : Rooted r place ⟨{ c.resolver with failures := failures }, h'⟩ :=
      (hc.agrees host).weaken rfl rfl rfl rfl
    exact hw.advance id (by simp [Phase.origin?])

theorem Rooted.act (hc : Rooted r place c) (a : Act) :
    Rooted r place (c.act a) := by
  cases a with
  | resolve root => exact hc.resolve root
  | step id => exact hc.step id
  | invalidate root =>
    refine hc.weaken ?_ ?_ ?_ rfl <;> cases root <;> rfl
  | reset => exact hc.weaken rfl rfl rfl rfl
  | setModulePath path => exact hc.weaken rfl rfl rfl rfl
  | call m text options => exact hc.weaken rfl rfl rfl rfl
  | tell failure => exact hc.weaken rfl rfl rfl rfl
  | change host => exact hc.weaken rfl rfl rfl rfl

theorem Rooted.after (hc : Rooted r place c) (acts : List Act) : Rooted r place (c.after acts) :=
  after_induction (P := Rooted r place) (fun _ a hc => hc.act a) hc acts

/-! ### After a reset -/

/-- Every module that a call made from now on is given, however it comes to it, is executed from
now on. -/
def GivesNewModules (w : Resolution) : Prop :=
  ∀ between root after m,
    (((w.after between).act (.resolve root)).after after).resolver.outcome?
        ((w.after between).asked root) = some (.present m) →
      w.host.imports.modules.length ≤ m

/-- Has an attempt executed a well-formed module that is not yet held? -/
def Executing (w : Resolution) : Prop :=
  ∃ id origin m, w.resolver.phase? id = some (.executed origin (.ok m)) ∧
    LintModule.exports w.host.imports m w.resolver.entryPoint = true

theorem givesNewModules_of_not_executing (w : Resolution) (hmemo : w.resolver.memo = [])
    (hhandles : w.resolver.handles = []) (hx : ¬ w.Executing) : w.GivesNewModules := by
  intro between root after m hm
  have hw : Since w w := by
    refine ⟨rfl, .refl _, Nat.le_refl _, by simp [hmemo], by simp [hhandles], ?_, ?_⟩
    · intro id origin m hp
      refine .inr (Bool.eq_false_iff.mpr fun he => hx ⟨id, origin, m, hp, he⟩)
    · intro id m hid hp
      exact absurd (Resolver.phase?_lt _ _ hp) (by omega)
  have hb := hw.after between
  have hlast := (hb.act (.resolve root)).after after
  exact hlast.settled _ m (hb.asked_le root) ((Resolver.outcome?_eq_some _ _).mp hm)

/-- A module that is executed but not yet held can be given out later: it is held when its attempt
settles, and whoever asks for a workspace in which the same file is found is given it. -/
theorem not_givesNewModules_of_executing (hw : Rooted r place w) (hmemo : w.resolver.memo = [])
    (hhandles : w.resolver.handles = []) (hx : w.Executing) : ¬ w.GivesNewModules := by
  intro hnew
  obtain ⟨id, origin, m, hp, he⟩ := hx
  obtain ⟨a, ha, hphase⟩ := Option.map_eq_some_iff.mp hp
  have hmem := List.mem_of_getElem? ha
  obtain ⟨root, hroot⟩ := hw.root a hmem
  obtain ⟨h, path, f, hhere, hfind, horigin⟩ := hw.found a hmem origin (by rw [hphase]; rfl)
  have hstep := Resolver.step_of_executed ha hphase he
  have hhold : w.resolver.hold origin m =
      (m, { w.resolver with handles := [(origin, m)] }) := by
    simp [Resolver.hold, hhandles]
  rw [hhold] at hstep
  -- the attempt settles, and then the machine is put back to where the file was found
  let s := w.after [.step id, .change h, .setModulePath path]
  have hs : s.resolver = (({ w.resolver with handles := [(origin, m)] } : Resolver).advance id
      (.settled (.present m))).setModulePath path := by
    rw [← hstep]
    rfl
  have hrooted : Rooted r place s := hw.after _
  have hfiles : s.host.files = h.files := by
    have hplace : (w.act (.step id)).host.files.here = h.files.here :=
      (hw.act (.step id)).here.trans hhere.symm
    change { h.files with here := (w.act (.step id)).host.files.here } = h.files
    rw [hplace]
  have hmemo' : s.resolver.memo = [] := by
    rw [hs]
    exact hmemo
  have hkey : Resolver.key s.host root = a.root := by
    rw [hroot, Resolver.key, Host.here, hrooted.here]
  -- a call for the same workspace begins an attempt that finds the file again
  let k := s.resolver.attempts.length
  have hattempt : s.resolver.attemptFor s.host root = ((k, true), (s.resolver.begin a.root).1,
      s.host.note .debug s!"Resolving {s.resolver.moduleName} for workspace {a.root}") := by
    simp only [Resolver.attemptFor, hmemo', List.lookup_nil, hkey]
    rfl
  let s' := s.act (.resolve root)
  have hs' : s'.resolver = (s.resolver.begin a.root).1 := by
    simp only [s', act, hattempt]
  have hhost' : s'.host.files = h.files ∧ s'.host.globalDirectories = h.globalDirectories := by
    simp only [s', act, hattempt]
    exact ⟨hfiles, rfl⟩
  have hbegun : s'.resolver.attempts[k]? = some ⟨a.root, .begun⟩ := by
    simp [hs', Resolver.begin, k]
  have hfound : (s'.resolver.find s'.host a.root).1 = .ok (some f) := by
    rw [← hfind]
    refine Resolver.find_congr ?_ ?_ ?_ hhost'.1 hhost'.2 a.root
    · rw [hs']
      exact hrooted.names
    · rw [hs', hs]
      rfl
    · rw [hs']
      exact hrooted.fallback
  have hheld : s'.resolver.handles.lookup (s'.host.files.realPath f.file) = some m := by
    rw [hs', hhost'.1, horigin, Resolver.begin, hs]
    exact List.lookup_cons_self
  have hlast := Resolver.step_of_held hbegun rfl hfound hheld
  have hm := hnew [.step id, .change h, .setModulePath path] root [.step k] m (by
    have hasked : s.asked root = k := by
      simp only [asked, hattempt]
    change (s'.resolver.step s'.host k).1.outcome? (s.asked root) = _
    rw [hasked, hlast, Resolver.outcome?_eq_some, Resolver.phase?_advance_self, hbegun]
    rfl)
  exact absurd (LintModule.exports_lt he) (by omega)

/-- What a reset guards against: after it, no call is given a module that was executed before it,
unless an attempt has just then executed a well-formed module that it does not hold yet. -/
theorem reset_gives_new_modules_iff (name entry : String) (path : Option String)
    (fallback : Bool) (h : Host) (acts : List Act) :
    (((⟨.fresh name entry path fallback, h⟩ : Resolution).after acts).act .reset).GivesNewModules ↔
      ¬ (((⟨.fresh name entry path fallback, h⟩ : Resolution).after acts).act .reset).Executing := by
  have hw := ((rooted_fresh name entry path fallback h).after acts).act .reset
  constructor
  · intro hnew hx
    exact not_givesNewModules_of_executing hw rfl rfl hx hnew
  · intro hx
    exact givesNewModules_of_not_executing _ rfl rfl hx

/-- A reset between the execution and the holding of a module: the next call is given the module
of before. -/
theorem executing_module_survives_reset :
    ¬ (((⟨.fresh "marlint" "lint_text" none false, .withModule⟩ : Resolution).after
      [.resolve "/w", .step 0, .step 0]).act .reset).GivesNewModules := by
  intro hnew
  have hm := hnew [.step 0] "/w" [.step 1] 0 (by decide +kernel)
  exact absurd hm (by decide +kernel)

end Resolution

end LintBridge

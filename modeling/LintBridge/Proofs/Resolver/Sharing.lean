import LintBridge.Proofs.Resolver.Reset

/-! Who shares an attempt. Calls for one workspace share the attempt that is remembered for it until
it is forgotten, and are told the same outcome whatever happens meanwhile. An attempt goes from
phase to phase on its own: it looks for the module once, settles in three steps, and once it is
forgotten it is not remembered again. -/

namespace LintBridge

/-- How many steps an attempt may still take. -/
def Phase.remaining : Phase → Nat
  | begun => 3
  | found .. => 2
  | executed .. => 1
  | settled _ => 0

/-- The state of a workspace whose attempt has come to an outcome. -/
def Outcome.state : Outcome → ResolutionState
  | present _ => .resolvedPresent
  | absent => .resolvedAbsent
  | failed _ => .failedFatal

theorem Phase.Next.remaining_le {p p' : Phase} (h : p.Next p') :
    p'.remaining ≤ p.remaining - 1 := by
  cases h <;> simp [Phase.remaining]

/-- No step of an attempt changes the workspace for which it began. -/
theorem Resolver.root?_advance (r : Resolver) (k : Nat) (p : Phase) (id : Nat) :
    ((r.advance k p).attempts[id]?).map Attempt.root = (r.attempts[id]?).map Attempt.root := by
  rw [advance, List.getElem?_modify]
  cases r.attempts[id]? with
  | none => rfl
  | some a =>
    simp only [Option.map_eq_map, Option.map_some, Option.some.injEq]
    split <;> rfl

/-- Resolvers for the same module: one of the same name and entry point, for which the machine's own
directories are searched in both or in neither. -/
structure Resolver.SameModule (r r' : Resolver) : Prop where
  moduleName : r'.moduleName = r.moduleName
  entryPoint : r'.entryPoint = r.entryPoint
  globalFallback : r'.globalFallback = r.globalFallback

namespace Resolver.SameModule

variable {r r' r'' : Resolver}

theorem refl (r : Resolver) : r.SameModule r := ⟨rfl, rfl, rfl⟩

theorem symm (h : r.SameModule r') : r'.SameModule r :=
  ⟨h.moduleName.symm, h.entryPoint.symm, h.globalFallback.symm⟩

theorem trans (h : r.SameModule r') (h' : r'.SameModule r'') : r.SameModule r'' :=
  ⟨h'.moduleName.trans h.moduleName, h'.entryPoint.trans h.entryPoint,
    h'.globalFallback.trans h.globalFallback⟩

end Resolver.SameModule

namespace Resolution

/-! ### What a step leaves alone -/

/-- Does a step belong to the attempt of a number? -/
def Act.isStepOf (id : Nat) : Act → Bool
  | step k => k == id
  | _ => false

/-- Does a step forget the attempt of a workspace, on a machine that works in a directory? -/
def Act.forgets (here key : String) : Act → Prop
  | invalidate none | reset => True
  | invalidate (some root) => Path.absolute here root = key
  | _ => False

variable {c : Resolution} {id : Nat}

theorem here_act (c : Resolution) (a : Act) : (c.act a).host.files.here = c.host.files.here := by
  cases a with
  | resolve root =>
    simp only [act, Resolver.attemptFor]
    split <;> rfl
  | step id => exact congrArg _ (c.resolver.step_grows c.host id).files
  | _ => rfl

theorem here_after (c : Resolution) (acts : List Act) :
    (c.after acts).host.files.here = c.host.files.here := by
  exact after_induction (P := fun c' => c'.host.files.here = c.host.files.here)
    (fun c' a h => (here_act c' a).trans h) rfl acts

theorem key_act (c : Resolution) (a : Act) (root : String) :
    Resolver.key (c.act a).host root = Resolver.key c.host root := by
  rw [Resolver.key, Host.here, here_act]
  rfl

theorem key_after (c : Resolution) (acts : List Act) (root : String) :
    Resolver.key (c.after acts).host root = Resolver.key c.host root := by
  rw [Resolver.key, Host.here, here_after]
  rfl

/-- A call begins an attempt for a workspace that has none remembered, and else changes nothing. -/
theorem act_resolve (c : Resolution) (root : String) :
    (∃ id, c.resolver.memo.lookup (Resolver.key c.host root) = some id ∧
      c.asked root = id ∧ c.act (.resolve root) = c) ∨
    (c.resolver.memo.lookup (Resolver.key c.host root) = none ∧
      c.asked root = c.resolver.attempts.length ∧
      (c.act (.resolve root)).resolver =
        (c.resolver.begin (Resolver.key c.host root)).1) := by
  simp only [asked, act, Resolver.attemptFor]
  split
  · rename_i id hid
    exact .inl ⟨id, hid, rfl, rfl⟩
  · rename_i hnone
    exact .inr ⟨hnone, rfl, rfl⟩

/-- A call for which no attempt is remembered begins one. -/
theorem attempts_resolve_new {c : Resolution} {root : String}
    (new : c.resolver.memo.lookup (Resolver.key c.host root) = none) :
    (c.act (.resolve root)).resolver.attempts[c.asked root]? =
      some ⟨Resolver.key c.host root, .begun⟩ := by
  obtain ⟨id, hid, -⟩ | ⟨-, hasked, hr⟩ := c.act_resolve root
  · simp [new] at hid
  · rw [hr, hasked]
    simp [Resolver.begin]

/-- Whatever happens to a resolver, it stays one for the same module. -/
theorem sameModule_act (c : Resolution) (a : Act) :
    c.resolver.SameModule (c.act a).resolver := by
  cases a with
  | resolve root =>
    obtain ⟨-, -, -, hsame⟩ | ⟨-, -, hr⟩ := c.act_resolve root
    · rw [hsame]
      exact .refl _
    · rw [hr]
      exact ⟨rfl, rfl, rfl⟩
  | step id =>
    have hkeeps := c.resolver.step_keeps c.host id
    simp only [act]
    rw [hkeeps]
    exact ⟨rfl, rfl, rfl⟩
  | invalidate root => cases root <;> exact ⟨rfl, rfl, rfl⟩
  | _ => exact ⟨rfl, rfl, rfl⟩

/-- Only its own steps move an attempt. -/
theorem phase?_act (c : Resolution) {a : Act} (ha : a.isStepOf id = false)
    (hid : id < c.resolver.attempts.length) :
    (c.act a).resolver.phase? id = c.resolver.phase? id := by
  cases a with
  | resolve root =>
    obtain ⟨-, -, -, hc⟩ | ⟨-, -, hr⟩ := c.act_resolve root
    · rw [hc]
    · rw [hr, Resolver.phase?_begin_of_lt _ _ hid]
  | step k =>
    exact c.resolver.phase?_step_of_ne c.host k (by simpa [Act.isStepOf] using ha)
  | invalidate root => cases root <;> rfl
  | _ => rfl

theorem length_step (c : Resolution) (id : Nat) :
    (c.act (.step id)).resolver.attempts.length = c.resolver.attempts.length := by
  have hcases := c.resolver.step_cases c.host id
  simp only [act]
  generalize c.resolver.step c.host id = x at hcases ⊢
  cases hcases with
  | holds a origin m h' executed phase exports host =>
    simp only [Resolver.hold]
    split <;> simp
  | _ => simp

/-- A step may add an attempt that has just begun. -/
theorem attempts_act (c : Resolution) (a : Act) :
    (∃ key, (c.act a).resolver.attempts = c.resolver.attempts ++ [⟨key, .begun⟩]) ∨
      (c.act a).resolver.attempts.length = c.resolver.attempts.length := by
  cases a with
  | resolve root =>
    obtain ⟨-, -, -, hc⟩ | ⟨-, -, hr⟩ := c.act_resolve root
    · exact .inr (by rw [hc])
    · exact .inl ⟨_, by rw [hr]; rfl⟩
  | step id => exact .inr (c.length_step id)
  | invalidate root => exact .inr (by cases root <;> rfl)
  | _ => exact .inr rfl

theorem length_act (c : Resolution) (a : Act) :
    c.resolver.attempts.length ≤ (c.act a).resolver.attempts.length := by
  obtain ⟨key, hnew⟩ | hsame := c.attempts_act a
  · simp [hnew]
  · exact Nat.le_of_eq hsame.symm

theorem length_after (c : Resolution) (acts : List Act) :
    c.resolver.attempts.length ≤ (c.after acts).resolver.attempts.length :=
  after_induction (P := fun c' => c.resolver.attempts.length ≤ c'.resolver.attempts.length)
    (fun c' a h => Nat.le_trans h (c'.length_act a)) (Nat.le_refl _) acts

/-- What is remembered after a step was remembered before, or is an attempt that has just begun. -/
theorem mem_memo_act {a : Act} {p : String × Nat} (hp : p ∈ (c.act a).resolver.memo) :
    p ∈ c.resolver.memo ∨ p.2 = c.resolver.attempts.length ∧
      (c.act a).resolver.attempts = c.resolver.attempts ++ [⟨p.1, .begun⟩] := by
  cases a with
  | resolve root =>
    obtain ⟨-, -, -, hc⟩ | ⟨-, -, hr⟩ := c.act_resolve root
    · exact .inl (hc ▸ hp)
    · rw [hr] at hp ⊢
      obtain rfl | hp := List.mem_cons.mp hp
      · exact .inr ⟨rfl, rfl⟩
      · exact .inl (List.mem_filter.mp hp).1
  | step id =>
    have hkeeps := c.resolver.step_keeps c.host id
    simp only [act] at hp
    rw [hkeeps] at hp
    exact .inl hp
  | invalidate root =>
    cases root with
    | none => simp [act, Resolver.invalidate] at hp
    | some root => exact .inl (List.mem_filter.mp hp).1
  | reset => simp [act, Resolver.reset] at hp
  | _ => exact .inl hp

/-! ### What stays remembered -/

/-- A step that does not forget a workspace leaves its attempt remembered. -/
theorem lookup_memo_act {a : Act} {key : String}
    (ha : ¬ a.forgets (FileSystem.text c.host.files.here) key)
    (hid : c.resolver.memo.lookup key = some id) :
    (c.act a).resolver.memo.lookup key = some id := by
  cases a with
  | resolve root =>
    obtain ⟨-, -, -, hc⟩ | ⟨hnone, -, hr⟩ := c.act_resolve root
    · rwa [hc]
    · have hne : key ≠ Resolver.key c.host root := by
        rintro rfl
        rw [hid] at hnone
        simp at hnone
      rw [hr, Resolver.begin]
      exact (Table.lookup_put_of_ne _ _ hne).trans hid
  | step k =>
    have hkeeps := c.resolver.step_keeps c.host k
    simp only [act]
    rw [hkeeps]
    exact hid
  | invalidate root =>
    cases root with
    | none => exact absurd trivial ha
    | some root => exact (Table.lookup_drop_of_ne _ (Ne.symm ha)).trans hid
  | reset => exact absurd trivial ha
  | _ => exact hid

theorem lookup_memo_after {key : String} {acts : List Act}
    (ha : ∀ a ∈ acts, ¬ a.forgets (FileSystem.text c.host.files.here) key)
    (hid : c.resolver.memo.lookup key = some id) :
    (c.after acts).resolver.memo.lookup key = some id := by
  induction acts generalizing c with
  | nil => exact hid
  | cons a acts ih =>
    have hfirst := lookup_memo_act (ha a List.mem_cons_self) hid
    refine ih (fun b hb => ?_) hfirst
    rw [here_act]
    exact ha b (List.mem_cons_of_mem _ hb)

/-- A step that forgets a workspace leaves none of its attempts remembered. -/
theorem lookup_memo_of_forgets {a : Act} {key : String}
    (ha : a.forgets (FileSystem.text c.host.files.here) key) :
    (c.act a).resolver.memo.lookup key = none := by
  cases a with
  | invalidate root =>
    cases root with
    | none => rfl
    | some root =>
      obtain rfl : Path.absolute (FileSystem.text c.host.files.here) root = key := ha
      exact Table.lookup_drop_self _ _
  | reset => rfl
  | _ => exact ha.elim

/-- The attempt of a number is not remembered for a workspace, and none of that number will
begin. -/
def IsPast (key : String) (id : Nat) (c : Resolution) : Prop :=
  id < c.resolver.attempts.length ∧ c.resolver.memo.lookup key ≠ some id

theorem IsPast.act {key : String} (h : IsPast key id c) (a : Act) : IsPast key id (c.act a) := by
  refine ⟨Nat.lt_of_lt_of_le h.1 (c.length_act a), fun hid => ?_⟩
  by_cases ha : a.forgets (FileSystem.text c.host.files.here) key
  · rw [lookup_memo_of_forgets ha] at hid
    simp at hid
  · cases hold : c.resolver.memo.lookup key with
    | some k =>
      rw [lookup_memo_act ha hold] at hid
      exact h.2 (hold.trans hid)
    | none =>
      obtain hmem | ⟨hnew, -⟩ := mem_memo_act (Table.mem_of_lookup hid)
      · rw [List.lookup_eq_none_iff] at hold
        exact absurd (hold _ hmem) (by simp)
      · exact absurd h.1 (by omega)

theorem IsPast.after {key : String} (h : IsPast key id c) (acts : List Act) :
    IsPast key id (c.after acts) :=
  after_induction (P := IsPast key id) (fun _ a h => h.act a) h acts

/-- A call is not told the outcome of an attempt that is past. -/
theorem IsPast.asked_ne {root : String} (h : IsPast (Resolver.key c.host root) id c) :
    c.asked root ≠ id := by
  obtain ⟨k, hk, hasked, -⟩ | ⟨-, hasked, -⟩ := c.act_resolve root
  · rw [hasked]
    rintro rfl
    exact h.2 hk
  · rw [hasked]
    exact Nat.ne_of_gt h.1

/-- After a call, its attempt is remembered. -/
theorem lookup_memo_resolve (c : Resolution) (root : String) :
    (c.act (.resolve root)).resolver.memo.lookup (Resolver.key c.host root) =
      some (c.asked root) := by
  obtain ⟨id, hid, hasked, hc⟩ | ⟨-, hasked, hr⟩ := c.act_resolve root
  · rw [hc, hasked, hid]
  · rw [hr, hasked]
    exact Table.lookup_put_self _ _ _

/-! ### The course of an attempt -/

/-- What an attempt came to it comes to for good, also when it is forgotten. -/
theorem outcome?_act {o : Outcome} (ho : c.resolver.outcome? id = some o) (a : Act) :
    (c.act a).resolver.outcome? id = some o := by
  rw [Resolver.outcome?_eq_some] at ho ⊢
  cases ha : a.isStepOf id with
  | false => rw [phase?_act c ha (c.resolver.phase?_lt id ho), ho]
  | true =>
    cases a with
    | step k =>
      obtain rfl : k = id := by simpa [Act.isStepOf] using ha
      obtain ⟨p, hp, hnext⟩ := c.resolver.step_next c.host k ho
      cases hnext
      exact hp
    | _ => simp [Act.isStepOf] at ha

theorem outcome?_after {o : Outcome} (ho : c.resolver.outcome? id = some o) (acts : List Act) :
    (c.after acts).resolver.outcome? id = some o :=
  after_induction (P := fun c => c.resolver.outcome? id = some o) (fun _ a ho => outcome?_act ho a)
    ho acts

/-- How many steps the attempt of a number may still take, if it has begun. -/
def remaining (c : Resolution) (id : Nat) : Nat :=
  ((c.resolver.phase? id).map Phase.remaining).getD 0

theorem remaining_act (hid : id < c.resolver.attempts.length) (a : Act) :
    (c.act a).remaining id ≤ c.remaining id - (if a.isStepOf id then 1 else 0) := by
  cases ha : a.isStepOf id with
  | false => simp [remaining, phase?_act c ha hid]
  | true =>
    cases a with
    | step k =>
      obtain rfl : k = id := by simpa [Act.isStepOf] using ha
      have hphase : c.resolver.phase? k = some c.resolver.attempts[k].phase := by
        rw [Resolver.phase?, List.getElem?_eq_getElem hid]
        rfl
      obtain ⟨p, hp, hnext⟩ := c.resolver.step_next c.host k hphase
      simp only [remaining, act, hp, hphase, Option.map_some, Option.getD_some, if_true]
      exact hnext.remaining_le
    | _ => simp [Act.isStepOf] at ha

/-- Every step of its own brings an attempt nearer to its end. -/
theorem remaining_after (hid : id < c.resolver.attempts.length) (acts : List Act) :
    (c.after acts).remaining id ≤ c.remaining id - acts.countP (Act.isStepOf id) := by
  induction acts generalizing c with
  | nil => exact Nat.le_refl _
  | cons a acts ih =>
    have hfirst := remaining_act hid a
    have hrest := ih (Nat.lt_of_lt_of_le hid (c.length_act a))
    rw [after_cons, List.countP_cons]
    omega

/-- After three steps of its own an attempt has settled. -/
theorem outcome?_of_three_steps (hid : id < c.resolver.attempts.length) {acts : List Act}
    (hacts : 3 ≤ acts.countP (Act.isStepOf id)) :
    ∃ o, (c.after acts).resolver.outcome? id = some o := by
  have hbound : ∀ p : Phase, p.remaining ≤ 3 := by
    intro p
    cases p <;> simp [Phase.remaining]
  have hstart : c.remaining id ≤ 3 := by
    simp only [remaining]
    cases c.resolver.phase? id with
    | none => simp
    | some p => exact hbound p
  have hend := remaining_after hid acts
  have hlater : id < (c.after acts).resolver.attempts.length :=
    after_induction (P := fun c => id < c.resolver.attempts.length)
      (fun c a h => Nat.lt_of_lt_of_le h (c.length_act a)) hid acts
  have hphase : (c.after acts).resolver.phase? id =
      some (c.after acts).resolver.attempts[id].phase := by
    rw [Resolver.phase?, List.getElem?_eq_getElem hlater]
    rfl
  have hlast : (c.after acts).remaining id =
      (c.after acts).resolver.attempts[id].phase.remaining := by
    simp only [remaining, hphase, Option.map_some, Option.getD_some]
  have hzero : (c.after acts).resolver.attempts[id].phase.remaining = 0 := by omega
  cases hp : (c.after acts).resolver.attempts[id].phase with
  | settled o => exact ⟨o, (Resolver.outcome?_eq_some _ _).mpr (hphase.trans (congrArg some hp))⟩
  | _ =>
    rw [hp] at hzero
    simp [Phase.remaining] at hzero

/-- Does the attempt of a number look for its module in this step? -/
def looks (c : Resolution) (id : Nat) (a : Act) : Bool :=
  a.isStepOf id && match c.resolver.phase? id with
    | some .begun => true
    | _ => false

/-- How often the attempt of a number looks for its module in a run. -/
def searches (c : Resolution) (id : Nat) : List Act → Nat
  | [] => 0
  | a :: acts => (if c.looks id a then 1 else 0) + (c.act a).searches id acts

/-- How often the attempt of a number has yet to look for its module. -/
def unsearched (c : Resolution) (id : Nat) : Nat :=
  match c.resolver.phase? id with
  | none | some .begun => 1
  | _ => 0

theorem looks_add_unsearched (c : Resolution) (id : Nat) (a : Act) :
    (if c.looks id a then 1 else 0) + (c.act a).unsearched id = c.unsearched id := by
  cases ha : a.isStepOf id with
  | false =>
    simp only [looks, ha, Bool.false_and, Bool.false_eq_true, if_false, Nat.zero_add]
    by_cases hid : id < c.resolver.attempts.length
    · simp only [unsearched, phase?_act c ha hid]
    · have hold : c.resolver.phase? id = none := by
        rw [Resolver.phase?, List.getElem?_eq_none (Nat.le_of_not_lt hid)]
        rfl
      have hnew : (c.act a).resolver.phase? id = none ∨
          (c.act a).resolver.phase? id = some .begun := by
        obtain ⟨key, hnew⟩ | hsame := c.attempts_act a
        · rw [Resolver.phase?, hnew, List.getElem?_append_right (Nat.le_of_not_lt hid)]
          cases id - c.resolver.attempts.length with
          | zero => exact .inr rfl
          | succ k => exact .inl rfl
        · rw [Resolver.phase?, List.getElem?_eq_none (by omega)]
          exact .inl rfl
      simp only [unsearched, hold]
      obtain hnew | hnew := hnew <;> rw [hnew]
  | true =>
    cases a with
    | step k =>
      obtain rfl : k = id := by simpa [Act.isStepOf] using ha
      cases hp : c.resolver.phase? k with
      | none =>
        have hnone : c.resolver.attempts[k]? = none := by
          simpa [Resolver.phase?] using hp
        have hstays : c.act (.step k) = c := by
          simp only [act, Resolver.step, hnone]
        simp [looks, unsearched, hstays, hp]
      | some p =>
        obtain ⟨p', hp', hnext⟩ := c.resolver.step_next c.host k hp
        have hp' : (c.act (.step k)).resolver.phase? k = some p' := hp'
        cases hnext <;> simp [looks, unsearched, hp, hp', ha]
    | _ => simp [Act.isStepOf] at ha

theorem searches_add_unsearched (c : Resolution) (id : Nat) (acts : List Act) :
    c.searches id acts + (c.after acts).unsearched id = c.unsearched id := by
  induction acts generalizing c with
  | nil => exact Nat.zero_add _
  | cons a acts ih =>
    rw [searches, after_cons, Nat.add_assoc, ih, looks_add_unsearched]

/-! ### What a call meets with -/

/-- Every attempt that is remembered is one for the workspace for which it is remembered. -/
def Listed (c : Resolution) : Prop :=
  ∀ p ∈ c.resolver.memo, (c.resolver.attempts[p.2]?).map Attempt.root = some p.1

theorem Listed.lt (h : c.Listed) {p : String × Nat} (hp : p ∈ c.resolver.memo) :
    p.2 < c.resolver.attempts.length := by
  obtain ⟨attempt, ha, -⟩ := Option.map_eq_some_iff.mp (h p hp)
  exact (List.getElem?_eq_some_iff.mp ha).1

theorem root?_act (c : Resolution) (hid : id < c.resolver.attempts.length) (a : Act) :
    ((c.act a).resolver.attempts[id]?).map Attempt.root =
      (c.resolver.attempts[id]?).map Attempt.root := by
  cases a with
  | resolve root =>
    obtain ⟨-, -, -, hc⟩ | ⟨-, -, hr⟩ := c.act_resolve root
    · rw [hc]
    · rw [hr, Resolver.begin, List.getElem?_append_left hid]
  | step k =>
    have hcases := c.resolver.step_cases c.host k
    simp only [act]
    generalize c.resolver.step c.host k = x at hcases ⊢
    cases hcases with
    | stays => rfl
    | holds a origin m h' executed phase exports host =>
      rw [Resolver.root?_advance]
      simp only [Resolver.hold]
      split <;> rfl
    | _ => exact Resolver.root?_advance _ _ _ _
  | invalidate root => cases root <;> rfl
  | _ => rfl

theorem Listed.act (h : c.Listed) (a : Act) : (c.act a).Listed := by
  intro p hp
  obtain hold | ⟨hlast, hnew⟩ := mem_memo_act hp
  · exact (root?_act c (h.lt hold) a).trans (h p hold)
  · rw [hnew, hlast]
    simp

/-- An attempt that is forgotten is never remembered again, for any workspace. -/
theorem Listed.not_mem_after_forgets (h : c.Listed) {key : String} {a : Act}
    (hid : c.resolver.memo.lookup key = some id)
    (ha : a.forgets (FileSystem.text c.host.files.here) key) (later : List Act) :
    id < ((c.act a).after later).resolver.attempts.length ∧
      ∀ p ∈ ((c.act a).after later).resolver.memo, p.2 ≠ id := by
  have hmem := Table.mem_of_lookup hid
  have hlt := Nat.lt_of_lt_of_le (h.lt hmem) (c.length_act a)
  refine after_induction
    (P := fun c => id < c.resolver.attempts.length ∧ ∀ p ∈ c.resolver.memo, p.2 ≠ id)
    (fun c a hc => ⟨Nat.lt_of_lt_of_le hc.1 (c.length_act a), fun p hp => ?_⟩)
    ⟨hlt, fun p hp hpid => ?_⟩ later
  · obtain hold | ⟨hnew, -⟩ := mem_memo_act hp
    · exact hc.2 p hold
    · exact hnew ▸ Nat.ne_of_gt hc.1
  · -- it would be remembered for the workspace for which it began, which is the forgotten one
    have hroot := h.act a p hp
    rw [hpid, root?_act c (h.lt hmem), h _ hmem, Option.some.injEq] at hroot
    have hnone := List.lookup_eq_none_iff.mp (lookup_memo_of_forgets ha) p hp
    rw [← hroot] at hnone
    simp at hnone

/-- A call shares the attempt of an earlier one if it was not forgotten between them. -/
theorem asked_of_kept {root root' : String} {later : List Act}
    (hkey : Resolver.key c.host root' = Resolver.key c.host root)
    (hkept : ∀ a ∈ later, ¬ a.forgets (FileSystem.text c.host.files.here)
      (Resolver.key c.host root)) :
    ((c.act (.resolve root)).after later).asked root' = c.asked root := by
  have hid : ((c.act (.resolve root)).after later).resolver.memo.lookup
      (Resolver.key c.host root) = some (c.asked root) :=
    lookup_memo_after (by rw [here_act]; exact hkept) (lookup_memo_resolve c root)
  rw [← hkey, ← key_act c (.resolve root), ← key_after _ later] at hid
  obtain ⟨id, hid', hasked, -⟩ | ⟨hnone, -⟩ :=
    act_resolve ((c.act (.resolve root)).after later) root'
  · rw [hid] at hid'
    exact hasked.trans (Option.some.inj hid').symm
  · rw [hid] at hnone
    simp at hnone

/-- A call does not share the attempt of an earlier one that was forgotten between them. -/
theorem Listed.asked_of_forgets (h : c.Listed) {root root' : String} {later : List Act} {a : Act}
    (hkey : Resolver.key c.host root' = Resolver.key c.host root) (ha : a ∈ later)
    (hforgets : a.forgets (FileSystem.text c.host.files.here) (Resolver.key c.host root)) :
    ((c.act (.resolve root)).after later).asked root' ≠ c.asked root := by
  obtain ⟨before, rest, rfl⟩ := List.append_of_mem ha
  have hlt := (h.act (.resolve root)).lt (Table.mem_of_lookup (lookup_memo_resolve c root))
  have hhere : ((c.act (.resolve root)).after before).host.files.here = c.host.files.here :=
    (here_after _ before).trans (here_act c _)
  have hpast : IsPast (Resolver.key c.host root) (c.asked root)
      (((c.act (.resolve root)).after before).act a) := by
    refine ⟨Nat.lt_of_lt_of_le hlt (Nat.le_trans (length_after _ before) (length_act _ a)), ?_⟩
    rw [lookup_memo_of_forgets (by rw [hhere]; exact hforgets)]
    simp
  have hlast := hpast.after rest
  rw [← hkey, ← key_act c (.resolve root), ← key_after _ before, ← key_act _ a,
    ← key_after _ rest] at hlast
  rw [after, List.foldl_append]
  exact hlast.asked_ne

/-- What a call for a workspace meets with: it begins an attempt, or joins one that is under way, or
is told an outcome at once, which it would be whatever became of the files. -/
inductive Meets (c : Resolution) (root : String) : ResolutionState → Prop where
  | begins (asked : c.asked root = c.resolver.attempts.length)
      (attempts : (c.act (.resolve root)).resolver.attempts =
        c.resolver.attempts ++ [⟨Resolver.key c.host root, .begun⟩]) :
      Meets c root .unresolved
  | joins (p : Phase) (phase : c.resolver.phase? (c.asked root) = some p)
      (going : ∀ o, p ≠ .settled o) (same : c.act (.resolve root) = c) :
      Meets c root .resolving
  | told (o : Outcome)
      (same : ∀ host, (c.act (.change host)).act (.resolve root) = c.act (.change host))
      (outcome : ∀ host, (c.act (.change host)).resolver.outcome?
        ((c.act (.change host)).asked root) = some o) :
      Meets c root o.state

theorem Listed.meets (h : c.Listed) (root : String) :
    Meets c root (c.resolver.state c.host root) := by
  obtain ⟨id, hid, hasked, hc⟩ | ⟨hnone, hasked, hr⟩ := c.act_resolve root
  · have hphase : ∃ p, c.resolver.phase? id = some p := by
      have hroot := h _ (Table.mem_of_lookup hid)
      obtain ⟨attempt, ha, -⟩ := Option.map_eq_some_iff.mp hroot
      exact ⟨attempt.phase, by rw [Resolver.phase?, ha]; rfl⟩
    have hchanged : ∀ host, (c.act (.change host)).act (.resolve root) = c.act (.change host) ∧
        (c.act (.change host)).asked root = id := by
      intro host
      have hlookup : (c.act (.change host)).resolver.memo.lookup
          (Resolver.key (c.act (.change host)).host root) = some id := hid
      obtain ⟨k, hk, hasked', hsame⟩ | ⟨hnone', -⟩ := (c.act (.change host)).act_resolve root
      · exact ⟨hsame, hasked'.trans (Option.some.inj (hk.symm.trans hlookup))⟩
      · rw [hlookup] at hnone'
        simp at hnone'
    cases ho : c.resolver.outcome? id with
    | none =>
      obtain ⟨p, hp⟩ := hphase
      simp only [Resolver.state, hid, ho]
      refine .joins p (hasked ▸ hp) (fun o hsettled => ?_) hc
      rw [(Resolver.outcome?_eq_some _ _).mpr (hp.trans (congrArg some hsettled))] at ho
      simp at ho
    | some o =>
      have htold : Meets c root o.state := by
        refine .told o (fun host => (hchanged host).1) fun host => ?_
        rw [(hchanged host).2]
        exact ho
      have hstate : c.resolver.state c.host root = o.state := by
        simp only [Resolver.state, hid, ho]
        cases o <;> rfl
      exact hstate ▸ htold
  · simp only [Resolver.state, hnone]
    exact .begins hasked (by rw [hr]; rfl)

/-- A call meets with one thing only. -/
theorem Meets.unique {root : String} {s s' : ResolutionState} (h : Meets c root s)
    (h' : Meets c root s') : s = s' := by
  have hgrows : c.asked root = c.resolver.attempts.length → ∀ p,
      c.resolver.phase? (c.asked root) ≠ some p := by
    intro hasked p hp
    exact absurd (c.resolver.phase?_lt _ hp) (by omega)
  have htold : ∀ {o}, (∀ host, (c.act (.change host)).resolver.outcome?
      ((c.act (.change host)).asked root) = some o) →
      c.resolver.phase? (c.asked root) = some (.settled o) :=
    fun houtcome => (Resolver.outcome?_eq_some _ _).mp (houtcome c.host)
  cases h with
  | begins asked attempts =>
    cases h' with
    | begins => rfl
    | joins p phase => exact absurd phase (hgrows asked p)
    | told o same outcome => exact absurd (htold outcome) (hgrows asked _)
  | joins p phase going same =>
    cases h' with
    | begins asked => exact absurd phase (hgrows asked p)
    | joins => rfl
    | told o same' outcome =>
      exact absurd (Option.some.inj (phase.symm.trans (htold outcome))) (going o)
  | told o same outcome =>
    cases h' with
    | begins asked => exact absurd (htold outcome) (hgrows asked _)
    | joins p phase going =>
      exact absurd (Option.some.inj (phase.symm.trans (htold outcome))) (going o)
    | told o' same' outcome' =>
      have he := Option.some.inj ((htold outcome).symm.trans (htold outcome'))
      rw [Phase.settled.inj he]

/-! ### The law -/

/-- Calls for one workspace are told the outcome of one attempt exactly if it was not forgotten
between them. An attempt looks for its module once and comes to one outcome for good, after three
steps of its own; one that is forgotten is never remembered again. Forgetting one workspace leaves
all else as it is. The state of a workspace says what a call for it would meet with. -/
theorem calls_share_attempt_iff (name entry : String) (path : Option String) (fallback : Bool)
    (h : Host) (acts : List Act) :
    let start : Resolution := ⟨.fresh name entry path fallback, h⟩
    let c := start.after acts
    (∀ root root' later, Resolver.key c.host root' = Resolver.key c.host root →
      (((c.act (.resolve root)).after later).asked root' = c.asked root ↔
        ∀ a ∈ later, ¬ a.forgets c.host.here (Resolver.key c.host root))) ∧
    (∀ id, start.searches id acts ≤ 1 ∧ ∀ o, c.resolver.outcome? id = some o →
      start.searches id acts = 1 ∧ ∀ later, (c.after later).resolver.outcome? id = some o) ∧
    (∀ id < c.resolver.attempts.length, ∀ later, 3 ≤ later.countP (Act.isStepOf id) →
      ∃ o, (c.after later).resolver.outcome? id = some o) ∧
    (∀ key id a, c.resolver.memo.lookup key = some id → a.forgets c.host.here key →
      ∀ later, ∀ p ∈ ((c.act a).after later).resolver.memo, p.2 ≠ id) ∧
    (∀ root, (c.act (.invalidate (some root))).resolver.attempts = c.resolver.attempts ∧
      (c.act (.invalidate (some root))).resolver.handles = c.resolver.handles ∧
      (c.act (.invalidate (some root))).host = c.host ∧
      ∀ key, key ≠ Resolver.key c.host root →
        (c.act (.invalidate (some root))).resolver.memo.lookup key = c.resolver.memo.lookup key) ∧
    ∀ root s, Meets c root s ↔ c.resolver.state c.host root = s := by
  intro start c
  have hlisted : c.Listed :=
    after_induction (P := Listed) (fun _ a h => h.act a)
      (by simp [Listed, start, Resolver.fresh]) acts
  have hsearches : ∀ id, start.searches id acts + c.unsearched id = 1 := by
    intro id
    rw [searches_add_unsearched]
    rfl
  refine ⟨fun root root' later hkey =>
      ⟨fun hasked a ha hforgets => hlisted.asked_of_forgets hkey ha hforgets hasked,
        asked_of_kept hkey⟩,
    fun id => ⟨?_, fun o ho => ⟨?_, outcome?_after ho⟩⟩,
    fun id hid later hlater => outcome?_of_three_steps hid hlater, fun key id a hid ha later =>
      (hlisted.not_mem_after_forgets hid ha later).2,
    fun root => ⟨rfl, rfl, rfl, fun key hne => Table.lookup_drop_of_ne _ hne⟩,
    fun root s => ⟨fun hmeets => (hlisted.meets root).unique hmeets, ?_⟩⟩
  · have := hsearches id
    omega
  · have hdone : c.unsearched id = 0 := by
      rw [unsearched, (Resolver.outcome?_eq_some _ _).mp ho]
    have := hsearches id
    omega
  · rintro rfl
    exact hlisted.meets root

end Resolution

end LintBridge

import LintBridge.Proofs.Resolver.Sharing

/-! Which modules are held. A module is held for the real file that its attempt found, once it was
executed to its end and has the entry point, and until the next reset no other one takes its
place. Whoever is given a module is given the one that is held. Where calls are made one at a
time, no file is executed twice to such a module between two resets. -/

namespace LintBridge

theorem Resolver.phase?_hold (r : Resolver) (origin : String) (m id : Nat) :
    (r.hold origin m).2.phase? id = r.phase? id := by
  simp only [hold]
  split <;> rfl

namespace Resolution

/-! ### What attempts find and make -/

/-- The real file that an attempt finds in a step, beside its number. -/
def finds? (c : Resolution) : Act → Option (Nat × String)
  | .step id =>
    match c.resolver.attempts[id]? with
    | some ⟨root, .begun⟩ =>
      match (c.resolver.find c.host root).1 with
      | .ok (some f) => some (id, c.host.files.realPath f.file)
      | _ => none
    | _ => none
  | _ => none

/-- The module that a step executes to its end and that has the entry point, beside the real file
that its attempt found. -/
def makes? (c : Resolution) : Act → Option (String × Nat)
  | .step id =>
    match c.resolver.attempts[id]? with
    | some ⟨_, .found f origin⟩ =>
      match LintModule.load c.host.files c.host.imports c.resolver.moduleName f with
      | (.ok m, imports) =>
        if LintModule.exports imports m c.resolver.entryPoint then some (origin, m) else none
      | _ => none
    | _ => none
  | _ => none

/-- What the attempts of a run find. -/
def finds (c : Resolution) : List Act → List (Nat × String)
  | [] => []
  | a :: acts => (c.finds? a).toList ++ (c.act a).finds acts

/-- What the attempts of a run make. -/
def makes (c : Resolution) : List Act → List (String × Nat)
  | [] => []
  | a :: acts => (c.makes? a).toList ++ (c.act a).makes acts

variable {c : Resolution} {id : Nat} {a : Attempt}

theorem step_none (h : c.resolver.attempts[id]? = none) : c.act (.step id) = c := by
  simp only [act, Resolver.step, h]

theorem finds?_of_phase (ha : c.resolver.attempts[id]? = some a) (hp : a.phase ≠ .begun) :
    c.finds? (.step id) = none := by
  obtain ⟨root, phase⟩ := a
  simp only [finds?, ha]
  split
  · rename_i heq
    obtain ⟨-, rfl⟩ := Attempt.mk.inj (Option.some.inj heq)
    exact absurd rfl hp
  · rfl

theorem makes?_of_phase (ha : c.resolver.attempts[id]? = some a)
    (hp : ∀ f origin, a.phase ≠ .found f origin) : c.makes? (.step id) = none := by
  obtain ⟨root, phase⟩ := a
  simp only [makes?, ha]
  split
  · rename_i f origin heq
    obtain ⟨-, rfl⟩ := Attempt.mk.inj (Option.some.inj heq)
    exact absurd rfl (hp f origin)
  · rfl

theorem makes?_eq_some {origin : String} {m : Nat} :
    c.makes? (.step id) = some (origin, m) ↔ ∃ a f, c.resolver.attempts[id]? = some a ∧
      a.phase = .found f origin ∧
      (LintModule.load c.host.files c.host.imports c.resolver.moduleName f).1 = .ok m ∧
      LintModule.exports (LintModule.load c.host.files c.host.imports c.resolver.moduleName f).2 m
        c.resolver.entryPoint = true := by
  constructor
  · intro h
    simp only [makes?] at h
    split at h
    · rename_i root f o ha
      split at h
      · rename_i m' imports hload
        split at h
        · rename_i hx
          obtain ⟨rfl, rfl⟩ := Prod.mk.inj (Option.some.inj h)
          exact ⟨_, f, ha, rfl, by rw [hload], by rw [hload]; exact hx⟩
        · simp at h
      · simp at h
    · simp at h
  · rintro ⟨⟨root, phase⟩, f, ha, rfl, hm, hx⟩
    simp only [makes?, ha]
    split
    · rename_i m' imports hload
      rw [hload] at hm hx
      obtain rfl := Except.ok.inj hm
      rw [if_pos hx]
    · rename_i hload
      exact (hload m _ (Prod.ext hm rfl)).elim

/-- A new attempt that finds a file goes on with it, or settles on the module held for it. -/
theorem step_of_found {f : LintModule.Found} (ha : c.resolver.attempts[id]? = some a)
    (hp : a.phase = .begun) (hf : (c.resolver.find c.host a.root).1 = .ok (some f)) :
    (∃ m, c.resolver.handles.lookup (c.host.files.realPath f.file) = some m ∧
      (c.act (.step id)).resolver = c.resolver.advance id (.settled (.present m))) ∨
    (c.resolver.handles.lookup (c.host.files.realPath f.file) = none ∧
      (c.act (.step id)).resolver =
        c.resolver.advance id (.found f (c.host.files.realPath f.file))) := by
  have hstep : (c.act (.step id)).resolver = _ := Resolver.step_of_found ha hp hf
  cases hheld : c.resolver.handles.lookup (c.host.files.realPath f.file) with
  | some m => exact .inl ⟨m, rfl, by rw [hstep, hheld]⟩
  | none => exact .inr ⟨rfl, by rw [hstep, hheld]⟩

/-- Does an attempt settle in a step without a module? -/
def SettlesWithout (c : Resolution) (id : Nat) : Prop :=
  ∃ failures o, (∀ m, o ≠ .present m) ∧ (c.act (.step id)).resolver =
    ({ c.resolver with failures := failures } : Resolver).advance id (.settled o)

theorem settleMissing_settlesWithout (r : Resolver) (h : Host) (id : Nat) (root : String) :
    ∃ failures o, (∀ m, o ≠ .present m) ∧ (r.settleMissing h id root).1 =
      ({ r with failures := failures } : Resolver).advance id (.settled o) := by
  simp only [Resolver.settleMissing]
  split
  · exact ⟨_, _, by simp, rfl⟩
  · exact ⟨_, _, by simp, rfl⟩
  · exact ⟨r.failures, .absent, by simp, rfl⟩

theorem step_of_unfound (ha : c.resolver.attempts[id]? = some a) (hp : a.phase = .begun)
    (hf : ∀ f, (c.resolver.find c.host a.root).1 ≠ .ok (some f)) : c.SettlesWithout id := by
  simp only [SettlesWithout, act, Resolver.step, ha, hp, Resolver.search]
  split <;> rename_i hh <;> rw [hh] at hf
  · exact ⟨_, _, by simp, rfl⟩
  · exact settleMissing_settlesWithout _ _ _ _
  · exact absurd rfl (hf _)

/-- An attempt that has executed a file holds its module, or settles without one. -/
theorem step_of_result {origin : String} {result : Except Fault Nat}
    (ha : c.resolver.attempts[id]? = some a) (hp : a.phase = .executed origin result) :
    (∃ m, result = .ok m ∧
      LintModule.exports c.host.imports m c.resolver.entryPoint = true ∧
      (c.act (.step id)).resolver = (c.resolver.hold origin m).2.advance id
        (.settled (.present (c.resolver.hold origin m).1))) ∨
    c.SettlesWithout id := by
  cases result with
  | error e =>
    refine .inr ?_
    simp only [SettlesWithout, act, Resolver.step, ha, hp, Resolver.settle]
    cases e.shown with
    | error flaw => exact ⟨_, _, by simp, rfl⟩
    | ok text => exact settleMissing_settlesWithout _ _ _ _
  | ok m =>
    by_cases hx : LintModule.exports c.host.imports m c.resolver.entryPoint = true
    · exact .inl ⟨m, rfl, hx, Resolver.step_of_executed ha hp hx⟩
    · refine .inr ?_
      simp only [SettlesWithout, act, Resolver.step, ha, hp, Resolver.settle, if_neg hx]
      exact ⟨_, _, by simp, rfl⟩

/-- An attempt that has found a file executes it. -/
theorem step_of_file {f : LintModule.Found} {origin : String}
    (ha : c.resolver.attempts[id]? = some a) (hp : a.phase = .found f origin) :
    (c.act (.step id)).resolver = c.resolver.advance id (.executed origin
      (LintModule.load c.host.files c.host.imports c.resolver.moduleName f).1) ∧
    (c.act (.step id)).host.imports =
      (LintModule.load c.host.files c.host.imports c.resolver.moduleName f).2 := by
  simp only [act, Resolver.step, ha, hp, Resolver.execute, and_self]

theorem step_of_settled {o : Outcome} (ha : c.resolver.attempts[id]? = some a)
    (hp : a.phase = .settled o) : c.act (.step id) = c := by
  simp only [act, Resolver.step, ha, hp]

/-! ### What is given out is accounted for -/

/-- Every module that is held or given out was made for the file for which it is held, and every
attempt that is remembered and was given a module was given the one held for the file it found. -/
structure Accounted (found : List (Nat × String)) (made : List (String × Nat)) (c : Resolution) :
    Prop where
  listed : c.Listed
  searched : ∀ p ∈ found, ∃ phase, c.resolver.phase? p.1 = some phase ∧ phase ≠ .begun
  unique : ∀ id origin origin', (id, origin) ∈ found → (id, origin') ∈ found → origin = origin'
  origin : ∀ id phase origin, c.resolver.phase? id = some phase → phase.origin? = some origin →
    (id, origin) ∈ found
  executed : ∀ id origin m, c.resolver.phase? id = some (.executed origin (.ok m)) →
    m < c.host.imports.modules.length ∧
      (LintModule.exports c.host.imports m c.resolver.entryPoint = true → (origin, m) ∈ made)
  exported : ∀ p ∈ made, LintModule.exports c.host.imports p.2 c.resolver.entryPoint = true
  handles : ∀ p ∈ c.resolver.handles, p ∈ made
  given : ∀ id m, c.resolver.phase? id = some (.settled (.present m)) →
    ∃ origin, (id, origin) ∈ found ∧ (origin, m) ∈ made
  remembered : ∀ p ∈ c.resolver.memo, ∀ m,
    c.resolver.phase? p.2 = some (.settled (.present m)) →
      ∃ origin, (p.2, origin) ∈ found ∧ c.resolver.handles.lookup origin = some m

variable {c' : Resolution} {found found' : List (Nat × String)} {made made' : List (String × Nat)}

/-- What is done to modules and the machine, and forgetting, leaves all accounted for. -/
theorem Accounted.weaken (hc : Accounted found made c)
    (entry : c'.resolver.entryPoint = c.resolver.entryPoint)
    (attempts : c'.resolver.attempts = c.resolver.attempts)
    (memo : ∀ p ∈ c'.resolver.memo, p ∈ c.resolver.memo)
    (handles : ∀ p ∈ c'.resolver.handles, p ∈ made)
    (held : ∀ p ∈ c'.resolver.memo, ∀ origin m, c.resolver.handles.lookup origin = some m →
      c'.resolver.handles.lookup origin = some m)
    (imports : c.host.imports.Follows c'.host.imports) : Accounted found made c' where
  listed p hp := by
    rw [attempts]
    exact hc.listed p (memo p hp)
  searched p hp := by
    rw [Resolver.phase?, attempts]
    exact hc.searched p hp
  unique := hc.unique
  origin id phase origin hp ho := by
    rw [Resolver.phase?, attempts] at hp
    exact hc.origin id phase origin hp ho
  executed id origin m hp := by
    rw [Resolver.phase?, attempts] at hp
    obtain ⟨hlt, hmade⟩ := hc.executed id origin m hp
    refine ⟨Nat.lt_of_lt_of_le hlt imports.length_le, fun hx => hmade ?_⟩
    rw [entry, LintModule.exports_of_follows imports hlt] at hx
    exact hx
  exported p hp := by
    have hx := hc.exported p hp
    rw [entry, LintModule.exports_of_follows imports (LintModule.exports_lt hx)]
    exact hx
  handles := handles
  given id m hp := by
    rw [Resolver.phase?, attempts] at hp
    exact hc.given id m hp
  remembered p hp m hm := by
    rw [Resolver.phase?, attempts] at hm
    obtain ⟨origin, hfound, hheld⟩ := hc.remembered p (memo p hp) m hm
    exact ⟨origin, hfound, held p hp origin m hheld⟩

theorem Accounted.follows (hc : Accounted found made c) {h' : Host}
    (imports : c.host.imports.Follows h'.imports) : Accounted found made ⟨c.resolver, h'⟩ :=
  hc.weaken rfl rfl (fun _ hp => hp) hc.handles (fun _ _ _ _ h => h) imports

theorem Accounted.make (hc : Accounted found made c) (more : ∀ p ∈ made, p ∈ made')
    (exported : ∀ p ∈ made',
      LintModule.exports c.host.imports p.2 c.resolver.entryPoint = true) :
    Accounted found made' c where
  listed := hc.listed
  searched := hc.searched
  unique := hc.unique
  origin := hc.origin
  executed id origin m hp :=
    ⟨(hc.executed id origin m hp).1, fun hx => more _ ((hc.executed id origin m hp).2 hx)⟩
  exported := exported
  handles p hp := more p (hc.handles p hp)
  given id m hp := by
    obtain ⟨origin, hfound, hmade⟩ := hc.given id m hp
    exact ⟨origin, hfound, more _ hmade⟩
  remembered := hc.remembered

/-- An attempt may go on to a phase whose file it found and whose module is held for that file. -/
theorem Accounted.advance (hc : Accounted found made c) {q p : Phase}
    (hq : c.resolver.phase? id = some q)
    (more : ∀ x ∈ found, x ∈ found') (fresh : ∀ x ∈ found', x ∈ found ∨ x.1 = id)
    (unique : ∀ origin origin', (id, origin) ∈ found' → (id, origin') ∈ found' → origin = origin')
    (gone : p ≠ .begun) (origin : ∀ origin, p.origin? = some origin → (id, origin) ∈ found')
    (executed : ∀ origin m, p = .executed origin (.ok m) → m < c.host.imports.modules.length ∧
      (LintModule.exports c.host.imports m c.resolver.entryPoint = true → (origin, m) ∈ made))
    (given : ∀ m, p = .settled (.present m) →
      ∃ origin, (id, origin) ∈ found' ∧ c.resolver.handles.lookup origin = some m) :
    Accounted found' made ⟨c.resolver.advance id p, c.host⟩ := by
  have hself : (c.resolver.advance id p).phase? id = some p :=
    Resolver.phase?_advance_lt _ id (c.resolver.phase?_lt id hq)
  have hother : ∀ id', id' ≠ id → (c.resolver.advance id p).phase? id' = c.resolver.phase? id' :=
    fun id' hne => Resolver.phase?_advance_of_ne _ _ hne.symm p
  have hold : ∀ id' origin, id' ≠ id → (id', origin) ∈ found' → (id', origin) ∈ found :=
    fun id' origin hne hx => (fresh _ hx).resolve_right hne
  refine ⟨?_, fun x hx => ?_, fun id' o o' ho ho' => ?_, fun id' phase o hp ho => ?_,
    fun id' o m hp => ?_, hc.exported, hc.handles, fun id' m hp => ?_, fun x hx m hm => ?_⟩
  · intro x hx
    have hroot := hc.listed x hx
    rwa [← Resolver.root?_advance c.resolver id p] at hroot
  · by_cases hne : x.1 = id
    · exact ⟨p, hne ▸ hself, gone⟩
    · rw [hother _ hne]
      exact hc.searched x (hold _ _ hne hx)
  · by_cases hne : id' = id
    · subst hne
      exact unique o o' ho ho'
    · exact hc.unique id' o o' (hold _ _ hne ho) (hold _ _ hne ho')
  · by_cases hne : id' = id
    · subst hne
      obtain rfl := Option.some.inj (hself.symm.trans hp)
      exact origin o ho
    · rw [hother _ hne] at hp
      exact more _ (hc.origin id' phase o hp ho)
  · by_cases hne : id' = id
    · subst hne
      exact executed o m (Option.some.inj (hself.symm.trans hp))
    · rw [hother _ hne] at hp
      exact hc.executed id' o m hp
  · by_cases hne : id' = id
    · subst hne
      obtain ⟨o, ho, hheld⟩ := given m (Option.some.inj (hself.symm.trans hp))
      exact ⟨o, ho, hc.handles _ (Table.mem_of_lookup hheld)⟩
    · rw [hother _ hne] at hp
      obtain ⟨o, ho, hmade⟩ := hc.given id' m hp
      exact ⟨o, more _ ho, hmade⟩
  · by_cases hne : x.2 = id
    · rw [hne] at hm ⊢
      exact given m (Option.some.inj (hself.symm.trans hm))
    · rw [hother _ hne] at hm
      obtain ⟨o, ho, hheld⟩ := hc.remembered x hx m hm
      exact ⟨o, more _ ho, hheld⟩

/-- An attempt that goes on without finding a file. -/
theorem Accounted.proceed (hc : Accounted found made c) {q p : Phase}
    (hq : c.resolver.phase? id = some q) (gone : p ≠ .begun)
    (origin : ∀ origin, p.origin? = some origin → (id, origin) ∈ found)
    (executed : ∀ origin m, p = .executed origin (.ok m) → m < c.host.imports.modules.length ∧
      (LintModule.exports c.host.imports m c.resolver.entryPoint = true → (origin, m) ∈ made))
    (given : ∀ m, p = .settled (.present m) →
      ∃ origin, (id, origin) ∈ found ∧ c.resolver.handles.lookup origin = some m) :
    Accounted found made ⟨c.resolver.advance id p, c.host⟩ :=
  hc.advance hq (fun _ hx => hx) (fun _ hx => .inl hx) (hc.unique id) gone origin executed given

/-- An attempt that goes on with a file that it has just found. -/
theorem Accounted.discover (hc : Accounted found made c) {p : Phase} {origin : String}
    (hq : c.resolver.phase? id = some .begun) (gone : p ≠ .begun)
    (searched : ∀ o, p.origin? = some o → o = origin)
    (executed : ∀ o result, p ≠ .executed o result)
    (given : ∀ m, p = .settled (.present m) → c.resolver.handles.lookup origin = some m) :
    Accounted (found ++ [(id, origin)]) made ⟨c.resolver.advance id p, c.host⟩ := by
  have hnone : ∀ o, (id, o) ∈ found ++ [(id, origin)] → o = origin := by
    intro o ho
    obtain ho | ho := List.mem_append.mp ho
    · obtain ⟨phase, hp, hne⟩ := hc.searched _ ho
      exact absurd (Option.some.inj (hp.symm.trans hq)) hne
    · simpa using ho
  have hnew : (id, origin) ∈ found ++ [(id, origin)] := by simp
  refine hc.advance hq (fun _ hx => List.mem_append_left _ hx) (fun x hx => ?_)
    (fun o o' ho ho' => (hnone o ho).trans (hnone o' ho').symm) gone
    (fun o ho => searched o ho ▸ hnew) (fun o m hm => absurd hm (executed o _))
    (fun m hm => ⟨origin, hnew, given m hm⟩)
  obtain hx | hx := List.mem_append.mp hx
  · exact .inl hx
  · exact .inr (by simp [List.mem_singleton.mp hx])

theorem Accounted.settle (hc : Accounted found made c) {q : Phase}
    (hq : c.resolver.phase? id = some q) (h : c.SettlesWithout id) :
    Accounted found made (c.act (.step id)) := by
  obtain ⟨failures, o, ho, hr⟩ := h
  have hw : Accounted found made
      ⟨{ c.resolver with failures := failures }, (c.act (.step id)).host⟩ :=
    hc.weaken rfl rfl (fun _ hp => hp) hc.handles (fun _ _ _ _ h => h)
      (c.resolver.step_grows c.host id).imports
  have hq' : ({ c.resolver with failures := failures } : Resolver).phase? id = some q := hq
  have hlast := hw.proceed hq' (p := .settled o) (by simp) (by simp [Phase.origin?])
    (by simp) (fun m hm => absurd (Phase.settled.inj hm) (ho m))
  rw [← hr] at hlast
  exact hlast

/-- A module is held for a file, if none is, once it was made for it. -/
theorem Accounted.hold (hc : Accounted found made c) {origin : String} {m : Nat}
    (hmade : (origin, m) ∈ made) :
    Accounted found made ⟨(c.resolver.hold origin m).2, c.host⟩ ∧
      (c.resolver.hold origin m).2.handles.lookup origin = some (c.resolver.hold origin m).1 := by
  simp only [Resolver.hold]
  split
  · rename_i other hother
    exact ⟨hc, hother⟩
  · rename_i hnone
    refine ⟨hc.weaken rfl rfl (fun _ hp => hp) (fun p hp => ?_) (fun _ _ o m' ho => ?_) (.refl _),
      List.lookup_cons_self⟩
    · obtain rfl | hp := List.mem_cons.mp hp
      · exact hmade
      · exact hc.handles p hp
    · have hne : (o == origin) = false := by
        refine beq_eq_false_iff_ne.mpr ?_
        rintro rfl
        rw [ho] at hnone
        simp at hnone
      rw [List.lookup_cons, hne]
      exact ho

/-- An attempt that has begun accounts for the file that it finds. -/
theorem Accounted.step_begun (hc : Accounted found made c)
    (ha : c.resolver.attempts[id]? = some a) (hp : a.phase = .begun) :
    Accounted (found ++ (c.finds? (.step id)).toList) (made ++ (c.makes? (.step id)).toList)
      (c.act (.step id)) := by
  have himports := (c.resolver.step_grows c.host id).imports
  have hq : c.resolver.phase? id = some a.phase := by rw [Resolver.phase?, ha]; rfl
  rw [makes?_of_phase ha (by simp [hp])]
  by_cases hf : ∃ f, (c.resolver.find c.host a.root).1 = .ok (some f)
  · obtain ⟨f, hf⟩ := hf
    have hfinds : c.finds? (.step id) = some (id, c.host.files.realPath f.file) := by
      obtain ⟨root, phase⟩ := a
      obtain rfl : phase = .begun := hp
      simp only [finds?, ha, hf]
    have hw : Accounted found made ⟨c.resolver, (c.act (.step id)).host⟩ :=
      hc.follows himports
    simp only [hfinds, Option.toList_some, Option.toList_none, List.append_nil]
    obtain ⟨m, hheld, hr⟩ | ⟨-, hr⟩ := step_of_found ha hp hf
    · have hlast := hw.discover (p := .settled (.present m)) (hq.trans (congrArg some hp))
        (by simp) (by simp [Phase.origin?]) (by simp)
        (fun m' hm => Outcome.present.inj (Phase.settled.inj hm) ▸ hheld)
      rw [← hr] at hlast
      exact hlast
    · have hlast := hw.discover (p := .found f (c.host.files.realPath f.file))
        (hq.trans (congrArg some hp)) (by simp)
        (fun o ho => (Option.some.inj ho).symm) (by simp) (by simp)
      rw [← hr] at hlast
      exact hlast
  · have hnone : c.finds? (.step id) = none := by
      obtain ⟨root, phase⟩ := a
      obtain rfl : phase = .begun := hp
      simp only [finds?, ha]
      split
      · rename_i f hf'
        exact absurd ⟨f, hf'⟩ hf
      · rfl
    rw [hnone]
    simpa using hc.settle hq (step_of_unfound ha hp fun f hf' => hf ⟨f, hf'⟩)

/-- An attempt that has found a file accounts for the module that it makes for it. -/
theorem Accounted.step_file (hc : Accounted found made c)
    (ha : c.resolver.attempts[id]? = some a) {f : LintModule.Found}
    {origin : String} (hp : a.phase = .found f origin) :
    Accounted (found ++ (c.finds? (.step id)).toList) (made ++ (c.makes? (.step id)).toList)
      (c.act (.step id)) := by
  have himports := (c.resolver.step_grows c.host id).imports
  have hq : c.resolver.phase? id = some a.phase := by rw [Resolver.phase?, ha]; rfl
  rw [finds?_of_phase ha (by simp [hp]), Option.toList_none, List.append_nil]
  obtain ⟨hr, hi⟩ := step_of_file ha hp
  have hw : Accounted found made ⟨c.resolver, (c.act (.step id)).host⟩ :=
    hc.follows himports
  have hmakes : ∀ p ∈ (c.makes? (.step id)).toList,
      LintModule.exports (c.act (.step id)).host.imports p.2 c.resolver.entryPoint = true := by
    rintro ⟨o, m⟩ hx
    obtain ⟨a', f', ha', hp', hm, hx⟩ := makes?_eq_some.mp (Option.mem_toList.mp hx)
    obtain rfl := Option.some.inj (ha.symm.trans ha')
    obtain ⟨rfl, -⟩ := Phase.found.inj (hp.symm.trans hp')
    rw [hi]
    exact hx
  have hmade : Accounted found (made ++ (c.makes? (.step id)).toList)
      ⟨c.resolver, (c.act (.step id)).host⟩ := by
    refine hw.make (fun _ hx => List.mem_append_left _ hx) fun p hx => ?_
    obtain hx | hx := List.mem_append.mp hx
    · exact hw.exported p hx
    · exact hmakes p hx
  have hlast := hmade.proceed (p := .executed origin
      (LintModule.load c.host.files c.host.imports c.resolver.moduleName f).1) hq (by simp)
    (fun o ho => hc.origin id _ o hq (by rw [hp]; exact ho)) (fun o m hm => ?_) (by simp)
  · rw [← hr] at hlast
    exact hlast
  · injection hm with ho hm
    subst ho
    rw [hi]
    refine ⟨LintModule.lt_of_load _ _ _ hm, fun hx => List.mem_append_right _ ?_⟩
    exact Option.mem_toList.mpr (makes?_eq_some.mpr ⟨a, f, ha, hp, hm, hx⟩)

/-- An attempt that has executed a file holds a module that was made for it. -/
theorem Accounted.step_result (hc : Accounted found made c)
    (ha : c.resolver.attempts[id]? = some a) {origin : String}
    {result : Except Fault Nat} (hp : a.phase = .executed origin result) :
    Accounted (found ++ (c.finds? (.step id)).toList) (made ++ (c.makes? (.step id)).toList)
      (c.act (.step id)) := by
  have himports := (c.resolver.step_grows c.host id).imports
  have hq : c.resolver.phase? id = some a.phase := by rw [Resolver.phase?, ha]; rfl
  rw [finds?_of_phase ha (by simp [hp]), makes?_of_phase ha (by simp [hp]),
    Option.toList_none, Option.toList_none, List.append_nil, List.append_nil]
  obtain ⟨m, rfl, hx, hr⟩ | hsettles := step_of_result ha hp
  · have hmade := (hc.executed id origin m (hq.trans (congrArg some hp))).2 hx
    obtain ⟨hheld, hlookup⟩ := hc.hold hmade
    have hw : Accounted found made
        ⟨(c.resolver.hold origin m).2, (c.act (.step id)).host⟩ := hheld.follows himports
    have hq' : (c.resolver.hold origin m).2.phase? id = some a.phase := by
      rw [Resolver.phase?_hold]
      exact hq
    have hlast := hw.proceed hq' (p := .settled (.present (c.resolver.hold origin m).1))
      (by simp) (by simp [Phase.origin?]) (by simp) (fun m' hm => ⟨origin,
        hc.origin id _ origin hq (by rw [hp]; rfl),
        Outcome.present.inj (Phase.settled.inj hm) ▸ hlookup⟩)
    rw [← hr] at hlast
    exact hlast
  · exact hc.settle hq hsettles

/-- What an attempt finds and makes in a step is all that has to be accounted for after it. -/
theorem Accounted.step (hc : Accounted found made c) (id : Nat) :
    Accounted (found ++ (c.finds? (.step id)).toList) (made ++ (c.makes? (.step id)).toList)
      (c.act (.step id)) := by
  cases ha : c.resolver.attempts[id]? with
  | none =>
    have hnone : c.finds? (.step id) = none ∧ c.makes? (.step id) = none := by
      simp only [finds?, makes?, ha, and_self]
    rw [hnone.1, hnone.2, step_none ha]
    simpa using hc
  | some a =>
    cases hp : a.phase with
    | begun => exact hc.step_begun ha hp
    | found f origin => exact hc.step_file ha hp
    | executed origin result => exact hc.step_result ha hp
    | settled o =>
      rw [finds?_of_phase ha (by simp [hp]), makes?_of_phase ha (by simp [hp]),
        step_of_settled ha hp]
      simpa using hc

theorem Accounted.resolve (hc : Accounted found made c) (root : String) :
    Accounted found made (c.act (.resolve root)) := by
  obtain ⟨-, -, -, hsame⟩ | ⟨-, -, hr⟩ := c.act_resolve root
  · rwa [hsame]
  have hlen := hc.listed.act (.resolve root)
  have himports : (c.act (.resolve root)).host.imports = c.host.imports := by
    simp only [act, Resolver.attemptFor]
    split <;> rfl
  -- the new attempt has just begun, and all others stay as they are
  have hphase : ∀ id phase, (c.act (.resolve root)).resolver.phase? id = some phase →
      phase = .begun ∨ c.resolver.phase? id = some phase := by
    intro id phase hp
    by_cases hid : id < c.resolver.attempts.length
    · rw [phase?_act c rfl hid] at hp
      exact .inr hp
    · obtain ⟨key, hnew⟩ | hsame := c.attempts_act (.resolve root)
      · rw [Resolver.phase?, hnew, List.getElem?_append_right (Nat.le_of_not_lt hid)] at hp
        obtain ⟨a, ha, rfl⟩ := Option.map_eq_some_iff.mp hp
        have ha := List.mem_of_getElem? ha
        rw [List.mem_singleton.mp ha]
        exact .inl rfl
      · exact absurd (Resolver.phase?_lt _ _ hp) (by omega)
  have hkept : ∀ id phase, c.resolver.phase? id = some phase →
      (c.act (.resolve root)).resolver.phase? id = some phase := by
    intro id phase hp
    rw [phase?_act c rfl (c.resolver.phase?_lt id hp), hp]
  have hhandles : (c.act (.resolve root)).resolver.handles = c.resolver.handles := by rw [hr]; rfl
  have hentry : (c.act (.resolve root)).resolver.entryPoint = c.resolver.entryPoint := by
    rw [hr]; rfl
  refine ⟨hlen, fun p hp => ?_, hc.unique, fun id phase o hp ho => ?_, fun id o m hp => ?_,
    fun p hp => ?_, fun p hp => ?_, fun id m hp => ?_, fun p hp m hm => ?_⟩
  · obtain ⟨phase, hphase, hne⟩ := hc.searched p hp
    exact ⟨phase, hkept _ _ hphase, hne⟩
  · obtain rfl | hp := hphase id phase hp
    · simp [Phase.origin?] at ho
    · exact hc.origin id phase o hp ho
  · obtain hb | hp := hphase id _ hp
    · simp at hb
    · rw [himports, hentry]
      exact hc.executed id o m hp
  · rw [himports, hentry]
    exact hc.exported p hp
  · rw [hhandles] at hp
    exact hc.handles p hp
  · obtain hb | hp := hphase id _ hp
    · simp at hb
    · exact hc.given id m hp
  · obtain hold | ⟨hlast, -⟩ := mem_memo_act hp
    · rw [phase?_act c rfl (hc.listed.lt hold)] at hm
      rw [hhandles]
      exact hc.remembered p hold m hm
    · obtain hb | hm := hphase _ _ hm
      · simp at hb
      · exact absurd (c.resolver.phase?_lt _ hm) (by omega)

/-- Only the steps of attempts find and make anything. -/
theorem Accounted.act_of_not_step (hc : Accounted found made c) {a : Act}
    (ha : ∀ id, a ≠ .step id) : Accounted found made (c.act a) := by
  cases a with
  | resolve root => exact hc.resolve root
  | step id => exact absurd rfl (ha id)
  | invalidate root =>
    cases root with
    | none =>
      exact hc.weaken rfl rfl (by simp [Resolution.act, Resolver.invalidate]) hc.handles
        (fun _ _ _ _ h => h) (.refl _)
    | some root =>
      exact hc.weaken rfl rfl (fun _ hp => (List.mem_filter.mp hp).1) hc.handles
        (fun _ _ _ _ h => h) (.refl _)
  | reset =>
    exact hc.weaken rfl rfl (by simp [Resolution.act, Resolver.reset])
      (by simp [Resolution.act, Resolver.reset]) (by simp [Resolution.act, Resolver.reset])
      (LintModule.Imports.follows_of_modules rfl)
  | call m text options =>
    exact hc.weaken rfl rfl (fun _ hp => hp) hc.handles (fun _ _ _ _ h => h)
      (LintModule.call_follows _ _ _ _ _)
  | setModulePath path =>
    exact hc.weaken rfl rfl (fun _ hp => hp) hc.handles (fun _ _ _ _ h => h) (.refl _)
  | tell failure =>
    exact hc.weaken rfl rfl (fun _ hp => hp) hc.handles (fun _ _ _ _ h => h) (.refl _)
  | change host =>
    exact hc.weaken rfl rfl (fun _ hp => hp) hc.handles (fun _ _ _ _ h => h) (.refl _)

theorem Accounted.act (hc : Accounted found made c) (a : Act) :
    Accounted (found ++ (c.finds? a).toList) (made ++ (c.makes? a).toList) (c.act a) := by
  cases a with
  | step id => exact hc.step id
  | _ => simpa [finds?, makes?] using hc.act_of_not_step (by simp)

theorem Accounted.after (hc : Accounted found made c) (acts : List Act) :
    Accounted (found ++ c.finds acts) (made ++ c.makes acts) (c.after acts) := by
  induction acts generalizing c found made with
  | nil => simpa [finds, makes, Resolution.after] using hc
  | cons a acts ih =>
    rw [finds, makes, ← List.append_assoc, ← List.append_assoc]
    exact ih (hc.act a)

/-! ### What stays held -/

/-- Until the next reset, the module that is held for a file is the one that was. -/
theorem lookup_handles_act {a : Act} (ha : a ≠ .reset) {origin : String} {m : Nat}
    (hm : c.resolver.handles.lookup origin = some m) :
    (c.act a).resolver.handles.lookup origin = some m := by
  cases a with
  | resolve root =>
    obtain ⟨-, -, -, hsame⟩ | ⟨-, -, hr⟩ := c.act_resolve root
    · rwa [hsame]
    · rw [hr]
      exact hm
  | step id =>
    have hcases := c.resolver.step_cases c.host id
    simp only [act]
    generalize c.resolver.step c.host id = x at hcases ⊢
    cases hcases with
    | holds a o m' h' executed phase exports host =>
      simp only [Resolver.hold]
      split
      · exact hm
      · rename_i hnone
        have hne : (origin == o) = false := by
          refine beq_eq_false_iff_ne.mpr ?_
          rintro rfl
          rw [hm] at hnone
          simp at hnone
        exact (List.lookup_cons ..).trans (by rw [hne]; exact hm)
    | _ => exact hm
  | invalidate root => cases root <;> exact hm
  | reset => exact absurd rfl ha
  | _ => exact hm

theorem lookup_handles_after {acts : List Act} (ha : .reset ∉ acts) {origin : String} {m : Nat}
    (hm : c.resolver.handles.lookup origin = some m) :
    (c.after acts).resolver.handles.lookup origin = some m := by
  induction acts generalizing c with
  | nil => exact hm
  | cons a acts ih =>
    rw [List.mem_cons, not_or] at ha
    exact ih ha.2 (lookup_handles_act (Ne.symm ha.1) hm)

/-! ### One call at a time -/

/-- Runs in which every call is told its outcome before anything else is done. -/
inductive OneByOne : Resolution → List Act → Prop where
  | nil (c : Resolution) : OneByOne c []
  | resolves (c : Resolution) (root : String) (rest : List Act)
      (next : OneByOne (c.after [.resolve root, .step (c.asked root), .step (c.asked root),
        .step (c.asked root)]) rest) :
      OneByOne c (.resolve root :: .step (c.asked root) :: .step (c.asked root) ::
        .step (c.asked root) :: rest)
  | other (c : Resolution) (a : Act) (rest : List Act) (calls : ∀ root, a ≠ .resolve root)
      (steps : ∀ id, a ≠ .step id) (next : OneByOne (c.act a) rest) : OneByOne c (a :: rest)

/-- Has every attempt settled, and is every attempt that is remembered one that has begun? -/
structure Quiet (c : Resolution) : Prop where
  listed : c.Listed
  settled : ∀ id < c.resolver.attempts.length, ∃ o, c.resolver.outcome? id = some o

theorem attempts_act_of_other {a : Act} (calls : ∀ root, a ≠ .resolve root)
    (steps : ∀ id, a ≠ .step id) : (c.act a).resolver.attempts = c.resolver.attempts := by
  cases a with
  | resolve root => exact absurd rfl (calls root)
  | step id => exact absurd rfl (steps id)
  | invalidate root => cases root <;> rfl
  | _ => rfl

theorem Quiet.other (hc : c.Quiet) {a : Act} (calls : ∀ root, a ≠ .resolve root)
    (steps : ∀ id, a ≠ .step id) : (c.act a).Quiet := by
  refine ⟨hc.listed.act a, fun id hid => ?_⟩
  rw [attempts_act_of_other calls steps] at hid
  obtain ⟨o, ho⟩ := hc.settled id hid
  exact ⟨o, outcome?_act ho a⟩

/-- A call, and all that its attempt does. -/
def wholeCall (c : Resolution) (root : String) : List Act :=
  [.resolve root, .step (c.asked root), .step (c.asked root), .step (c.asked root)]

theorem Quiet.wholeCall (hc : c.Quiet) (root : String) : (c.after (c.wholeCall root)).Quiet := by
  refine ⟨after_induction (fun _ a h => h.act a) hc.listed _, fun id hid => ?_⟩
  by_cases hold : id < c.resolver.attempts.length
  · obtain ⟨o, ho⟩ := hc.settled id hold
    exact ⟨o, outcome?_after ho _⟩
  · obtain ⟨-, -, -, hsame⟩ | ⟨-, hasked, hr⟩ := c.act_resolve root
    · simp only [Resolution.wholeCall, Resolution.after, List.foldl_cons, List.foldl_nil,
        length_step, hsame] at hid
      exact absurd hid hold
    · have hlen : (c.act (.resolve root)).resolver.attempts.length =
          c.resolver.attempts.length + 1 := by
        rw [hr]
        simp [Resolver.begin]
      simp only [Resolution.wholeCall, Resolution.after, List.foldl_cons, List.foldl_nil,
        length_step] at hid
      obtain rfl : id = c.asked root := by omega
      exact outcome?_of_three_steps hid (by simp [Act.isStepOf])

theorem makes_append (c : Resolution) (acts acts' : List Act) :
    c.makes (acts ++ acts') = c.makes acts ++ (c.after acts).makes acts' := by
  induction acts generalizing c with
  | nil => rfl
  | cons a acts ih => rw [List.cons_append, makes, makes, ih, List.append_assoc, after_cons]

/-- An attempt that has settled makes nothing more. -/
theorem makes_of_settled {o : Outcome} (ho : c.resolver.outcome? id = some o) (n : Nat) :
    c.makes (List.replicate n (.step id)) = [] := by
  obtain ⟨a, ha, hp⟩ := Option.map_eq_some_iff.mp ((Resolver.outcome?_eq_some _ _).mp ho)
  induction n with
  | zero => rfl
  | succ n ih =>
    rw [List.replicate_succ, makes, makes?_of_phase ha (by simp [hp]), step_of_settled ha hp, ih]
    rfl

theorem attempts_advance {r : Resolver} (ha : r.attempts[id]? = some a) (p : Phase) :
    (r.advance id p).attempts[id]? = some { a with phase := p } := by
  simp [Resolver.advance, ha]

theorem SettlesWithout.outcome (h : c.SettlesWithout id) (ha : c.resolver.attempts[id]? = some a) :
    ∃ o, (c.act (.step id)).resolver.outcome? id = some o := by
  obtain ⟨failures, o, -, hr⟩ := h
  refine ⟨o, (Resolver.outcome?_eq_some _ _).mpr ?_⟩
  rw [hr, Resolver.phase?_advance_self, ha]
  rfl

/-- An attempt that has found a file for which no module is held executes it, and holds its module
if it makes one. -/
theorem makes_of_file {f : LintModule.Found} {origin : String}
    (ha : c.resolver.attempts[id]? = some a) (hp : a.phase = .found f origin)
    (hnone : c.resolver.handles.lookup origin = none) :
    c.makes (List.replicate 2 (.step id)) = [] ∨
    ∃ m, c.makes (List.replicate 2 (.step id)) = [(origin, m)] ∧
      (c.after (List.replicate 2 (.step id))).resolver.handles.lookup origin = some m := by
  obtain ⟨hr, hi⟩ := step_of_file ha hp
  have ha' := hr ▸ attempts_advance ha _
  have hmakes : c.makes (List.replicate 2 (.step id)) = (c.makes? (.step id)).toList := by
    simp only [List.replicate_succ, List.replicate_zero, makes]
    rw [makes?_of_phase ha' (by simp)]
    simp
  rw [hmakes]
  cases hmade : c.makes? (.step id) with
  | none => exact .inl rfl
  | some p =>
    obtain ⟨b, f', hb, hp', hm, hx⟩ := makes?_eq_some.mp hmade
    obtain rfl := Option.some.inj (ha.symm.trans hb)
    obtain ⟨rfl, ho⟩ := Phase.found.inj (hp.symm.trans hp')
    refine .inr ⟨p.2, by rw [ho]; rfl, ?_⟩
    -- nothing was held in between, so the third step holds the module that was made
    have hstep := Resolver.step_of_executed ha' (congrArg (Phase.executed origin) hm)
      (by rw [hi, hr]; exact hx)
    have hhold : ((c.act (.step id)).resolver.hold origin p.2) =
        (p.2, { (c.act (.step id)).resolver with
          handles := (origin, p.2) :: (c.act (.step id)).resolver.handles }) := by
      have hnone' : (c.act (.step id)).resolver.handles.lookup origin = none := by
        rw [hr]
        exact hnone
      simp only [Resolver.hold, hnone']
    have hlast : (c.after (List.replicate 2 (.step id))).resolver =
        ((c.act (.step id)).resolver.step (c.act (.step id)).host id).1 := rfl
    rw [hlast, hstep, hhold]
    exact List.lookup_cons_self

/-- In its first step a new attempt settles, or finds a file for which no module is held. -/
theorem settles_or_finds (ha : c.resolver.attempts[id]? = some a) (hp : a.phase = .begun) :
    (∃ o, (c.act (.step id)).resolver.outcome? id = some o) ∨
    ∃ f : LintModule.Found, c.resolver.handles.lookup (c.host.files.realPath f.file) = none ∧
      (c.act (.step id)).resolver =
        c.resolver.advance id (.found f (c.host.files.realPath f.file)) := by
  by_cases hf : ∃ f, (c.resolver.find c.host a.root).1 = .ok (some f)
  · obtain ⟨f, hf⟩ := hf
    obtain ⟨m, -, hr⟩ | hfound := step_of_found ha hp hf
    · refine .inl ⟨.present m, ?_⟩
      rw [Resolver.outcome?_eq_some, hr, Resolver.phase?_advance_self, ha]
      rfl
    · exact .inr ⟨f, hfound⟩
  · exact .inl ((step_of_unfound ha hp fun f hf' => hf ⟨f, hf'⟩).outcome ha)

/-- In its three steps a new attempt makes at most one module, for a file for which none is held,
and then holds it. -/
theorem makes_of_begun (ha : c.resolver.attempts[id]? = some a) (hp : a.phase = .begun) :
    c.makes (List.replicate 3 (.step id)) = [] ∨
    ∃ origin m, c.makes (List.replicate 3 (.step id)) = [(origin, m)] ∧
      c.resolver.handles.lookup origin = none ∧
      (c.after (List.replicate 3 (.step id))).resolver.handles.lookup origin = some m := by
  have hfirst : c.makes (List.replicate 3 (.step id)) =
      (c.act (.step id)).makes (List.replicate 2 (.step id)) := by
    rw [List.replicate_succ, makes, makes?_of_phase ha (by simp [hp])]
    rfl
  rw [hfirst]
  obtain ⟨o, ho⟩ | ⟨f, hnone, hr⟩ := settles_or_finds ha hp
  · exact .inl (makes_of_settled ho 2)
  · have ha' := hr ▸ attempts_advance ha _
    obtain hnothing | ⟨m, hmade, hheld⟩ := makes_of_file ha' rfl (by rw [hr]; exact hnone)
    · exact .inl hnothing
    · exact .inr ⟨_, m, hmade, hnone, hheld⟩

/-- A call that is told its outcome before anything else is done makes at most one module, for a
file for which none is held, and then holds it. -/
theorem Quiet.makes_wholeCall (hc : c.Quiet) (root : String) :
    c.makes (c.wholeCall root) = [] ∨
    ∃ origin m, c.makes (c.wholeCall root) = [(origin, m)] ∧
      c.resolver.handles.lookup origin = none ∧
      (c.after (c.wholeCall root)).resolver.handles.lookup origin = some m := by
  have hfirst : c.makes (c.wholeCall root) =
      (c.act (.resolve root)).makes (List.replicate 3 (.step (c.asked root))) := rfl
  rw [hfirst]
  obtain ⟨id, hid, hasked, hsame⟩ | ⟨hnew, -, hr⟩ := c.act_resolve root
  · obtain ⟨o, ho⟩ := hc.settled id (hc.listed.lt (Table.mem_of_lookup hid))
    rw [hsame, hasked]
    exact .inl (makes_of_settled ho 3)
  · have hhandles : (c.act (.resolve root)).resolver.handles = c.resolver.handles := by
      rw [hr]
      rfl
    rw [← hhandles]
    exact makes_of_begun (attempts_resolve_new hnew) rfl

/-- As long as nothing is reset, no file is executed twice to a module that can be held, and none
for which a module is held already. -/
theorem OneByOne.makes_nodup {acts : List Act} (h : OneByOne c acts) (hc : c.Quiet)
    (hacts : .reset ∉ acts) :
    ((c.makes acts).map Prod.fst).Nodup ∧
      ∀ p ∈ c.makes acts, c.resolver.handles.lookup p.1 = none := by
  -- a file for which no module is held later has none now
  have hback : ∀ {c : Resolution} {acts : List Act} {origin : String}, .reset ∉ acts →
      (c.after acts).resolver.handles.lookup origin = none →
      c.resolver.handles.lookup origin = none := by
    intro c acts origin hacts hnone
    cases hm : c.resolver.handles.lookup origin with
    | none => rfl
    | some m =>
      rw [lookup_handles_after hacts hm] at hnone
      simp at hnone
  induction h with
  | nil c => exact ⟨.nil, by simp [makes]⟩
  | resolves c root rest next ih =>
    obtain ⟨hnodup, hrest⟩ := ih (hc.wholeCall root) (by simp_all)
    have hcall : .reset ∉ c.wholeCall root := by simp [Resolution.wholeCall]
    have hsplit := c.makes_append (c.wholeCall root) rest
    change ((c.makes (c.wholeCall root ++ rest)).map Prod.fst).Nodup ∧
      ∀ p ∈ c.makes (c.wholeCall root ++ rest), _
    rw [hsplit]
    obtain hnothing | ⟨origin, m, hmade, hnone, hheld⟩ := hc.makes_wholeCall root
    · rw [hnothing]
      exact ⟨hnodup, fun p hp => hback hcall (hrest p hp)⟩
    · rw [hmade]
      refine ⟨List.nodup_cons.mpr ⟨fun hmem => ?_, hnodup⟩, fun p hp => ?_⟩
      · obtain ⟨p, hp, rfl⟩ := List.mem_map.mp hmem
        have := (hrest p hp).symm.trans hheld
        simp at this
      · obtain rfl | hp := List.mem_cons.mp hp
        · exact hnone
        · exact hback hcall (hrest p hp)
  | other c a rest calls steps next ih =>
    rw [List.mem_cons, not_or] at hacts
    obtain ⟨hnodup, hrest⟩ := ih (hc.other calls steps) hacts.2
    have hnothing : c.makes? a = none := by
      cases a with
      | step id => exact absurd rfl (steps id)
      | _ => rfl
    rw [makes, hnothing]
    refine ⟨hnodup, fun p hp => ?_⟩
    have hnone : (c.after [a]).resolver.handles.lookup p.1 = none := hrest p hp
    exact hback (by simpa using hacts.1) hnone

theorem OneByOne.quiet {acts : List Act} (h : OneByOne c acts) (hc : c.Quiet) :
    (c.after acts).Quiet := by
  induction h with
  | nil c => exact hc
  | resolves c root rest next ih => exact ih (hc.wholeCall root)
  | other c a rest calls steps next ih => exact ih (hc.other calls steps)

/-! ### The law -/

theorem entryPoint_act (c : Resolution) (a : Act) :
    (c.act a).resolver.entryPoint = c.resolver.entryPoint :=
  (c.sameModule_act a).entryPoint

theorem entryPoint_after (c : Resolution) (acts : List Act) :
    (c.after acts).resolver.entryPoint = c.resolver.entryPoint :=
  after_induction (P := fun c' => c'.resolver.entryPoint = c.resolver.entryPoint)
    (fun c' a h => (entryPoint_act c' a).trans h) rfl acts

/-- Was a module made in a run, by executing the file of a real file? Its script compiled, raised
nothing and exports the entry point as a function. -/
def Executes (c : Resolution) (acts : List Act) (origin : String) (m : Nat) : Prop :=
  ∃ before id rest f script behavior, acts = before ++ .step id :: rest ∧
    (c.after before).resolver.phase? id = some (.found f origin) ∧
    (LintModule.load (c.after before).host.files (c.after before).host.imports
      (c.after before).resolver.moduleName f).1 = .ok m ∧
    LintModule.scriptOf (c.after before).host.files f.file = .ok script ∧
    script.importError = none ∧
    script.exported = some (c.resolver.entryPoint, .function behavior)

theorem executes_of_mem_makes {acts : List Act} {p : String × Nat} (hp : p ∈ c.makes acts) :
    c.Executes acts p.1 p.2 := by
  have hsplit : ∃ before id rest, acts = before ++ .step id :: rest ∧
      (c.after before).makes? (.step id) = some p := by
    induction acts generalizing c with
    | nil => simp [makes] at hp
    | cons a acts ih =>
      obtain hp | hp := List.mem_append.mp hp
      · have hp := Option.mem_toList.mp hp
        cases a with
        | step id => exact ⟨[], id, acts, rfl, hp⟩
        | _ => simp [makes?] at hp
      · obtain ⟨before, id, rest, rfl, hmakes⟩ := ih hp
        exact ⟨a :: before, id, rest, rfl, hmakes⟩
  obtain ⟨before, id, rest, rfl, hmakes⟩ := hsplit
  obtain ⟨a, f, ha, hphase, hm, hx⟩ := makes?_eq_some.mp hmakes
  obtain ⟨script, behavior, hscript, himport, hexported⟩ := LintModule.script_of_load _ _ _ hm hx
  refine ⟨before, id, rest, f, script, behavior, rfl, ?_, hm, hscript, himport, ?_⟩
  · rw [Resolver.phase?, ha]
    exact congrArg some hphase
  · rw [hexported, entryPoint_after]

theorem accounted_fresh (name entry : String) (path : Option String) (fallback : Bool) (h : Host) :
    Accounted [] [] ⟨.fresh name entry path fallback, h⟩ := by
  have hphase : ∀ id, (Resolver.fresh name entry path fallback).phase? id = none := fun _ => rfl
  exact {
    listed := by simp [Listed, Resolver.fresh]
    searched := by simp
    unique := by simp
    origin := by simp [hphase]
    executed := by simp [hphase]
    exported := by simp
    handles := by simp [Resolver.fresh]
    given := by simp [hphase]
    remembered := by simp [Resolver.fresh] }

/-- The module that is held for a file is held until the next reset. A module that is held or given
out was executed to its end, from the file for which it is held, and exports the entry point; an
attempt that is remembered was given the module that is held for the file it found, so those that
found one file were given one module. Where calls are made one at a time, no file is executed
twice to such a module between two resets. -/
theorem held_module_is_shared (name entry : String) (path : Option String) (fallback : Bool)
    (h : Host) (acts : List Act) :
    let start : Resolution := ⟨.fresh name entry path fallback, h⟩
    let c := start.after acts
    (∀ later, .reset ∉ later → ∀ origin m, c.resolver.handles.lookup origin = some m →
      (c.after later).resolver.handles.lookup origin = some m) ∧
    (∀ p ∈ c.resolver.handles, start.Executes acts p.1 p.2) ∧
    (∀ id m, c.resolver.outcome? id = some (.present m) →
      ∃ origin, (id, origin) ∈ start.finds acts ∧ start.Executes acts origin m) ∧
    (∀ root id m, c.resolver.memo.lookup (Resolver.key c.host root) = some id →
      c.resolver.outcome? id = some (.present m) → ∀ origin, (id, origin) ∈ start.finds acts →
        c.resolver.handles.lookup origin = some m) ∧
    (∀ root root' id id' m m' origin,
      c.resolver.memo.lookup (Resolver.key c.host root) = some id →
      c.resolver.memo.lookup (Resolver.key c.host root') = some id' →
      c.resolver.outcome? id = some (.present m) → c.resolver.outcome? id' = some (.present m') →
      (id, origin) ∈ start.finds acts → (id', origin) ∈ start.finds acts → m = m') ∧
    (start.OneByOne acts → ∀ later, c.OneByOne later → .reset ∉ later →
      ((c.makes later).map Prod.fst).Nodup) := by
  intro start c
  have hc : Accounted (start.finds acts) (start.makes acts) c := by
    simpa using (accounted_fresh name entry path fallback h).after acts
  have hheld : ∀ root id m, c.resolver.memo.lookup (Resolver.key c.host root) = some id →
      c.resolver.outcome? id = some (.present m) → ∀ origin, (id, origin) ∈ start.finds acts →
        c.resolver.handles.lookup origin = some m := by
    intro root id m hid ho origin hfound
    obtain ⟨o, ho, hlookup⟩ := hc.remembered _ (Table.mem_of_lookup hid) m
      ((Resolver.outcome?_eq_some _ _).mp ho)
    obtain rfl := hc.unique id o origin ho hfound
    exact hlookup
  have hquiet : start.Quiet := by
    refine ⟨by simp [Listed, start, Resolver.fresh], fun id hid => ?_⟩
    simp [start, Resolver.fresh] at hid
  refine ⟨fun later hlater origin m hm => lookup_handles_after hlater hm,
    fun p hp => executes_of_mem_makes (hc.handles p hp), fun id m ho => ?_, hheld,
    fun root root' id id' m m' origin hid hid' ho ho' hf hf' => ?_,
    fun hacts later hlater hreset => (hlater.makes_nodup (hacts.quiet hquiet) hreset).1⟩
  · obtain ⟨origin, hfound, hmade⟩ := hc.given id m ((Resolver.outcome?_eq_some _ _).mp ho)
    exact ⟨origin, hfound, executes_of_mem_makes hmade⟩
  · exact Option.some.inj ((hheld root id m hid ho origin hf).symm.trans
      (hheld root' id' m' hid' ho' origin hf'))

end Resolution

end LintBridge

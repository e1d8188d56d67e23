/-! Association lists with at most one entry for a key. Putting a key drops its
old entry and sets the new one in front; dropping a key drops its entry. Both
change what is found for that key and for no other. -/

namespace LintBridge.Table

variable {α β : Type} [BEq α] [LawfulBEq α]

omit [LawfulBEq α] in
/-- The first entry is found for its key, and hides nothing else. -/
theorem lookup_cons (p : α × β) (l : List (α × β)) (k : α) :
    (p :: l).lookup k = if k == p.1 then some p.2 else l.lookup k := by
  obtain ⟨a, b⟩ := p
  rw [List.lookup_cons]
  cases k == a <;> rfl

theorem lookup_drop_self (l : List (α × β)) (k : α) :
    (l.filter fun p => p.1 != k).lookup k = none := by
  rw [List.lookup_eq_none_iff]
  intro p hp
  have hne := (List.mem_filter.mp hp).2
  rw [bne_iff_ne] at hne
  exact bne_iff_ne.mpr hne.symm

theorem lookup_drop_of_ne (l : List (α × β)) {k k' : α} (h : k' ≠ k) :
    (l.filter fun p => p.1 != k).lookup k' = l.lookup k' := by
  induction l with
  | nil => rfl
  | cons p l ih =>
    obtain ⟨a, b⟩ := p
    by_cases ha : a = k
    · subst ha
      have hk : (k' == a) = false := by simpa using h
      simp [List.lookup_cons, hk, ih]
    · simp only [List.filter_cons, bne_iff_ne, ne_eq, ha, not_false_eq_true, ↓reduceIte,
        List.lookup_cons, ih]

theorem lookup_put_self (l : List (α × β)) (k : α) (v : β) :
    ((k, v) :: l.filter fun p => p.1 != k).lookup k = some v :=
  List.lookup_cons_self

theorem lookup_put_of_ne (l : List (α × β)) {k k' : α} (v : β) (h : k' ≠ k) :
    ((k, v) :: l.filter fun p => p.1 != k).lookup k' = l.lookup k' := by
  have hk : (k' == k) = false := by simpa using h
  rw [List.lookup_cons, hk]
  exact lookup_drop_of_ne l h

/-- What is found is changed for the key whose entries are changed, and for no other. -/
theorem lookup_map (l : List (α × β)) (k : α) (f : β → β) (k' : α) :
    (l.map fun p => if p.1 == k then (p.1, f p.2) else p).lookup k' =
      if k' == k then (l.lookup k').map f else l.lookup k' := by
  induction l with
  | nil => simp
  | cons p l ih =>
    rw [List.map_cons, lookup_cons, lookup_cons, ih]
    by_cases hp : p.1 = k
    · subst hp
      by_cases hk : k' = p.1 <;> simp [hk]
    · by_cases hk : k' = p.1 <;> simp [hp, hk]

/-- What is found for a key stands in the list. -/
theorem mem_of_lookup {l : List (α × β)} {k : α} {v : β} (h : l.lookup k = some v) :
    (k, v) ∈ l := by
  obtain ⟨l₁, l₂, rfl, -⟩ := List.lookup_eq_some_iff.mp h
  simp

/-- What stands in a list is found, if no key stands in it twice. -/
theorem lookup_of_mem {l : List (α × β)} {p : α × β} (hn : (l.map Prod.fst).Nodup)
    (hp : p ∈ l) : l.lookup p.1 = some p.2 := by
  induction l with
  | nil => simp at hp
  | cons q l ih =>
    obtain ⟨hq, hn⟩ := List.nodup_cons.mp hn
    obtain rfl | hp := List.mem_cons.mp hp
    · rw [List.lookup_cons, beq_self_eq_true]
    · have hne : (p.1 == q.1) = false := by
        refine beq_eq_false_iff_ne.mpr fun he => hq ?_
        exact he ▸ List.mem_map_of_mem hp
      rw [List.lookup_cons, hne]
      exact ih hn hp

end LintBridge.Table

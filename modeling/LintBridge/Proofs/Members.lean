import LintBridge.Json.Basic
import LintBridge.Proofs.Table
import Mathlib.Data.List.Induction
import Mathlib.Data.List.Nodup

/-! Members of objects. Putting a key keeps its place if it is there and adds it at the end if not, and
changes what is found for that key alone. So of members laid over others, in which no key stands twice,
each key has the value on top if there is one. -/

namespace LintBridge.Members

variable {ms top : Members} {key k : String} {v : Json}

theorem get?_put (ms : Members) (key : String) (v : Json) (k : String) :
    (ms.put key v).get? k = if k = key then some v else ms.get? k := by
  induction ms with
  | nil =>
    rw [put, get?, Table.lookup_cons]
    by_cases hk : k = key <;> simp [hk, get?]
  | cons p ms ih =>
    obtain ⟨a, w⟩ := p
    simp only [get?, put] at ih ⊢
    split
    · rename_i ha
      subst ha
      by_cases hk : k = a <;> simp [Table.lookup_cons, hk]
    · rename_i ha
      rw [Table.lookup_cons, Table.lookup_cons, ih]
      by_cases hk : k = a
      · simp [hk, ha]
      · simp [hk]

theorem keys_cons (p : String × Json) (ms : Members) : keys (p :: ms) = p.1 :: keys ms := rfl

theorem keys_put (ms : Members) (key : String) (v : Json) :
    (ms.put key v).keys = if key ∈ ms.keys then ms.keys else ms.keys ++ [key] := by
  induction ms with
  | nil => rfl
  | cons p ms ih =>
    obtain ⟨a, w⟩ := p
    rw [put, keys_cons]
    by_cases ha : a = key
    · subst ha
      rw [if_pos rfl, if_pos List.mem_cons_self, keys_cons]
    · rw [if_neg ha, keys_cons, ih]
      by_cases hin : key ∈ keys ms
      · rw [if_pos hin, if_pos (List.mem_cons_of_mem _ hin)]
      · rw [if_neg hin, if_neg (List.not_mem_cons_of_ne_of_not_mem (Ne.symm ha) hin),
          List.cons_append]

theorem mem_keys_put : k ∈ (ms.put key v).keys ↔ k = key ∨ k ∈ ms.keys := by
  rw [keys_put]
  split
  · rename_i hin
    exact ⟨.inr, fun h => h.elim (fun hk => hk ▸ hin) id⟩
  · rw [List.mem_append, List.mem_singleton, or_comm]

theorem nodup_put (h : ms.keys.Nodup) : (ms.put key v).keys.Nodup := by
  rw [keys_put]
  split
  · exact h
  · rename_i hnew
    refine List.nodup_append.mpr ⟨h, List.nodup_singleton _, fun k hk k' hk' heq => hnew ?_⟩
    rw [← List.mem_singleton.mp hk', ← heq]
    exact hk

theorem mem_keys_iff : k ∈ ms.keys ↔ ∃ v, ms.get? k = some v := by
  refine ⟨fun hk => ?_, fun ⟨v, hv⟩ => List.mem_map_of_mem (f := Prod.fst) (Table.mem_of_lookup hv)⟩
  obtain ⟨p, hp, rfl⟩ := List.mem_map.mp hk
  refine Option.ne_none_iff_exists'.mp fun hnone => ?_
  simpa using List.lookup_eq_none_iff.mp hnone p hp

theorem mem_keys_overlay : k ∈ (ms.overlay top).keys ↔ k ∈ ms.keys ∨ k ∈ top.keys := by
  induction top generalizing ms with
  | nil => simp [overlay, keys]
  | cons p top ih =>
    have hfirst : ms.overlay (p :: top) = (ms.put p.1 p.2).overlay top := rfl
    rw [hfirst, ih, mem_keys_put, keys_cons, List.mem_cons, or_assoc, or_left_comm]

theorem nodup_overlay (h : ms.keys.Nodup) (top : Members) : (ms.overlay top).keys.Nodup := by
  induction top generalizing ms with
  | nil => exact h
  | cons p top ih => exact ih (nodup_put h)

/-- What lies on top hides nothing but values. -/
theorem isSome_get?_overlay (ms top : Members) (k : String) :
    ((ms.overlay top).get? k).isSome = ((ms.get? k).isSome || (top.get? k).isSome) := by
  induction top generalizing ms with
  | nil => simp [overlay, get?]
  | cons p top ih =>
    have hfirst : (ms.overlay (p :: top)) = (ms.put p.1 p.2).overlay top := rfl
    rw [hfirst, ih, get?_put]
    simp only [get?, Table.lookup_cons]
    by_cases hk : k = p.1 <;> simp [hk]

/-- What lies on top is found first. -/
theorem get?_overlay (ms : Members) (h : top.keys.Nodup) (k : String) :
    (ms.overlay top).get? k = (top.get? k).or (ms.get? k) := by
  induction top generalizing ms with
  | nil => rfl
  | cons p top ih =>
    obtain ⟨hp, htop⟩ := List.nodup_cons.mp h
    have hfirst : ms.overlay (p :: top) = (ms.put p.1 p.2).overlay top := rfl
    have htop' : get? (p :: top) k = if k == p.1 then some p.2 else get? top k :=
      Table.lookup_cons p top k
    rw [hfirst, ih _ htop, get?_put, htop']
    by_cases hk : k = p.1
    · subst hk
      have hnone : get? top p.1 = none := by
        refine Option.eq_none_iff_forall_ne_some.mpr fun v hv => hp ?_
        exact mem_keys_iff.mpr ⟨v, hv⟩
      simp [hnone]
    · simp [hk]

/-- Members written one after another have no key twice. -/
theorem nodup_ofPairs (pairs : List (String × Json)) : (ofPairs pairs).keys.Nodup :=
  have hnil : keys [] = [] := rfl
  nodup_overlay (hnil ▸ List.nodup_nil) pairs

theorem mem_of_get?_ofPairs {pairs : List (String × Json)} (h : (ofPairs pairs).get? k = some v) :
    (k, v) ∈ pairs := by
  induction pairs using List.reverseRecOn with
  | nil => simp [ofPairs, get?] at h
  | append_singleton pairs p ih =>
    rw [ofPairs, List.foldl_concat, get?_put] at h
    rw [List.mem_append, List.mem_singleton]
    split at h
    · rename_i hk
      exact .inr (Prod.ext hk (Option.some.inj h).symm)
    · exact .inl (ih h)

end LintBridge.Members

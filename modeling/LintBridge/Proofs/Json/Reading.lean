import LintBridge.Proofs.Lists
import LintBridge.Proofs.Members
import Mathlib.Data.List.TakeWhile

/-! What the reader gives. The keys of an object that it gives are different, and the values of its
members are again values that it gives. A whole number of too many digits is refused. -/

namespace LintBridge.Json

/-- A value that the reader gives somewhere in a text. -/
def IsRead (v : Json) : Prop :=
  ∃ fuel depth c next, readValue fuel depth c = .ok (v, next)

variable {fuel depth : Nat} {c next : Cursor} {acc pairs ms : List (String × Json)} {v : Json}
  {key : String}

/-- Every member that is read has a value that is read. -/
theorem isRead_of_readMembers (h : readMembers fuel depth c acc = .ok (pairs, next))
    (hacc : ∀ p ∈ acc, IsRead p.2) : ∀ p ∈ pairs, IsRead p.2 := by
  induction fuel generalizing c acc with
  | zero => simp [readMembers] at h
  | succ fuel ih =>
    rw [readMembers] at h
    split at h
    · split at h
      · cases h
      · rename_i name _ _
        dsimp only at h
        split at h
        · split at h
          · cases h
          · rename_i v _ hv
            have hnew : ∀ p ∈ (name, v) :: acc, IsRead p.2 :=
              List.forall_mem_cons.mpr ⟨⟨_, _, _, _, hv⟩, hacc⟩
            split at h
            · cases h
              exact fun p hp => hnew p (List.mem_reverse.mp hp)
            · exact ih h hnew
            · cases h
        · cases h
    · cases h

theorem value_ne_obj (t : NumberText) : t.value ≠ .ok (.obj ms) := by
  intro h
  rw [NumberText.value] at h
  split at h
  · split at h <;> cases h
  · cases h

/-- An object that is read is written member by member. -/
theorem exists_pairs_of_isRead (h : IsRead (.obj ms)) :
    ∃ pairs, ms = Members.ofPairs pairs ∧ ∀ p ∈ pairs, IsRead p.2 := by
  obtain ⟨fuel, depth, c, next, h⟩ := h
  cases fuel with
  | zero => simp [readValue] at h
  | succ fuel =>
    rw [readValue] at h
    split at h
    · cases h
    · obtain ⟨_, -, h⟩ := map_eq_ok h
      cases h
    · split at h
      · cases h
      · dsimp only at h
        split at h
        · cases h
          exact ⟨[], rfl, by simp⟩
        · obtain ⟨⟨pairs, _⟩, hread, h⟩ := map_eq_ok h
          cases h
          exact ⟨pairs, rfl, isRead_of_readMembers hread (by simp)⟩
    · split at h
      · cases h
      · dsimp only at h
        split at h
        · cases h
        · obtain ⟨_, -, h⟩ := map_eq_ok h
          cases h
    · -- No word stands for an object, and no number is one.
      split at h
      · rename_i word hword
        cases h
        have hmem := List.mem_of_find?_eq_some hword
        simp [words] at hmem
      · split at h
        · obtain ⟨_, hvalue, h⟩ := map_eq_ok h
          cases h
          exact absurd hvalue (value_ne_obj _)
        · cases h

theorem nodup_keys_of_isRead (h : IsRead (.obj ms)) : Members.keys ms |>.Nodup := by
  obtain ⟨pairs, rfl, -⟩ := exists_pairs_of_isRead h
  exact Members.nodup_ofPairs pairs

theorem isRead_of_get? (h : IsRead (.obj ms)) (hv : Members.get? ms key = some v) : IsRead v := by
  obtain ⟨pairs, rfl, hpairs⟩ := exists_pairs_of_isRead h
  exact hpairs _ (Members.mem_of_get?_ofPairs hv)

/-- What a whole text is read as is a value that the reader gives. -/
theorem isRead_of_read {text : String} (h : read text = .ok v) : IsRead v := by
  rw [read] at h
  dsimp only at h
  split at h
  · cases h
  · split at h
    · cases h
    · cases h
    · cases h
    · rename_i hread
      split at h
      · cases h
        exact ⟨_, _, _, _, hread⟩
      · cases h

/-! ### Numbers that are too long -/

theorem scanNumber_of_digits {d : Char} {ds : List Char} (h : ∀ c ∈ d :: ds, c.isDigit = true)
    (hzero : d ≠ '0') : scanNumber (d :: ds) = some ⟨false, d :: ds, [], none, (d :: ds).length⟩ := by
  have hminus : d ≠ '-' := by
    rintro rfl
    exact absurd (h _ List.mem_cons_self) (by decide)
  have hwhole : (d :: ds).takeWhile Char.isDigit = d :: ds := List.takeWhile_eq_self_iff.mpr h
  simp [scanNumber, hminus, hzero, hwhole]

/-- A whole number of too many digits is refused. -/
theorem read_of_digits {d : Char} {ds : List Char} (h : ∀ c ∈ d :: ds, c.isDigit = true)
    (hzero : d ≠ '0') (hlength : Text.digitLimit < (d :: ds).length) :
    read (String.ofList (d :: ds)) = .error (.hugeNumber (d :: ds).length) := by
  have hother : ∀ c : Char, c.isDigit = false → d ≠ c := by
    rintro c hc rfl
    rw [h d List.mem_cons_self] at hc
    cases hc
  have hword : words.find? (fun w => Cursor.starts ⟨0, d :: ds⟩ w.1) = none := by
    have hstarts : ∀ first : Char, first.isDigit = false → (first == d) = false :=
      fun first hfirst => beq_eq_false_iff_ne.mpr (hother first hfirst).symm
    simp [words, Cursor.starts, List.isPrefixOf_cons_cons, hstarts]
  have hvalue : ∀ fuel, readValue (fuel + 1) 0 ⟨0, d :: ds⟩ =
      .error (.hugeNumber (d :: ds).length) := by
    intro fuel
    rw [readValue]
    split
    · simp at *
    · rename_i heq
      exact absurd (List.cons.inj heq).1 (hother _ (by decide))
    · rename_i heq
      exact absurd (List.cons.inj heq).1 (hother _ (by decide))
    · rename_i heq
      exact absurd (List.cons.inj heq).1 (hother _ (by decide))
    · rw [hword]
      simp only [scanNumber_of_digits h hzero, NumberText.value, if_pos hlength]
      rfl
  have hspace : Cursor.skipSpace ⟨0, d :: ds⟩ = ⟨0, d :: ds⟩ := by
    have hnone : Cursor.isSpace d = false := by
      simp [Cursor.isSpace, hother]
    simp [Cursor.skipSpace, Cursor.advance, hnone]
  rw [read, String.toList_ofList]
  dsimp only
  split
  · rename_i heq
    exact absurd (List.cons.inj heq).1 (hother _ (by decide))
  · rw [hspace, hvalue]

end LintBridge.Json

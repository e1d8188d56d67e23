import LintBridge.Json.Basic
import LintBridge.Proofs.Table

/-! Equality of values holds of every value and itself, unless a number that is none stands in it.
Objects have no key twice. -/

namespace LintBridge.Json

mutual

/-- A value as a reader of texts gives it, without a number that is none: no object has a key
twice. -/
def IsProper : Json → Prop
  | .float x => x ≠ .notANumber
  | .arr items => AreProper items
  | .obj members => (members.map Prod.fst).Nodup ∧ HaveProper members
  | _ => True

/-- All items are proper. -/
def AreProper : List Json → Prop
  | [] => True
  | v :: rest => IsProper v ∧ AreProper rest

/-- All members have proper values. -/
def HaveProper : List (String × Json) → Prop
  | [] => True
  | (_, v) :: rest => IsProper v ∧ HaveProper rest

end

theorem numEq_self {x : Binary64} (h : x ≠ .notANumber) : x.numEq x = true := by
  cases x with
  | finite s m q => simp only [Binary64.numEq, beq_self_eq_true]
  | infinite s => simp only [Binary64.numEq, beq_self_eq_true]
  | notANumber => exact absurd rfl h

mutual

/-- A proper value is equal to itself. -/
theorem alike_self : ∀ {v : Json}, v.IsProper → alike v v = true
  | .null, _ => rfl
  | .bool b, _ => by simp [alike, numAlike, whole?]
  | .int n, _ => by simp [alike, numAlike, whole?]
  | .float x, h => numEq_self h
  | .str s, _ => by simp [alike]
  | .arr items, h => alikeItems_self h
  | .obj members, h => by
    rw [alike, beq_self_eq_true, Bool.true_and]
    exact alikeMembers_of_lookup h.2 fun p hp => Table.lookup_of_mem h.1 hp

theorem alikeItems_self : ∀ {items : List Json}, AreProper items → alikeItems items items = true
  | [], _ => rfl
  | v :: rest, h => by
    rw [alikeItems, alike_self h.1, alikeItems_self h.2, Bool.and_self]

theorem alikeMembers_of_lookup : ∀ {ms ns : List (String × Json)}, HaveProper ms →
    (∀ p ∈ ms, ns.lookup p.1 = some p.2) → alikeMembers ms ns = true
  | [], _, _, _ => rfl
  | (k, v) :: rest, ns, h, hns => by
    have hv : ns.lookup k = some v := hns (k, v) List.mem_cons_self
    have hrest : alikeMembers rest ns = true :=
      alikeMembers_of_lookup h.2 fun p hp => hns p (List.mem_cons_of_mem _ hp)
    simp only [alikeMembers, hv, alike_self h.1, hrest, Bool.and_self]

end

end LintBridge.Json

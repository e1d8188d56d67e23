import LintBridge.Proofs.Lists
import LintBridge.Diagnostic

/-! What has a text. A fault has one unless it is an error from outside, and a text that is needed is
there exactly if it can be made; a message that describes a diagnostic has shown the rule it names. -/

namespace LintBridge

variable {α : Type}

namespace Fault

@[simp] theorem needText_ok (text : α) : needText (.ok text) = .ok text := rfl

@[simp] theorem needText_error (flaw : Json.ShowFlaw) :
    needText (.error flaw : Except Json.ShowFlaw α) = .error (unshown flaw) := rfl

theorem needText_eq_ok_iff {text : Except Json.ShowFlaw α} {t : α} :
    needText text = .ok t ↔ text = .ok t := by
  cases text <;> simp

end Fault

theorem Diagnostic.textOf_eq_ok_iff {v : Json} {text : String} :
    textOf v = .ok text ↔ v = .str text := by
  cases v <;> simp [textOf]

/-- A message that describes a diagnostic names no rule or one that has a text. -/
theorem Diagnostic.display_codeOf {problem : Members} {source : Except Fault Json} {d : Diagnostic}
    (h : ofProblem (.obj problem) source = .ok d) :
    ∃ rule, (codeOf problem).display = .ok rule := by
  obtain ⟨message, hmessage, -⟩ := bind_eq_ok h
  simp only [messageOf] at hmessage
  split at hmessage
  · rename_i hnull
    cases hcode : codeOf problem with
    | null => exact ⟨_, rfl⟩
    | _ => simp [hcode, Json.isNull] at hnull
  · obtain ⟨_, -, hmessage⟩ := bind_eq_ok hmessage
    obtain ⟨rule, hrule, -⟩ := bind_eq_ok hmessage
    exact ⟨rule, Fault.needText_eq_ok_iff.mp hrule⟩

end LintBridge

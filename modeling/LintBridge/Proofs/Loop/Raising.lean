import LintBridge.Proofs.Loop.Awaiting
import LintBridge.Proofs.Loop.Progress

/-! Why a validation ends without a result. Its URI is refused when it begins; or the module that it
waited for is called on its document and fails with an error that has no text. A batch ends without
results only if one of its validations does. So whoever finds a fault at the end of a run finds in
the run where it comes from. -/

namespace LintBridge.Loop

/-- A task has just gone on with the module of its workspace, which was called on a document and has
failed with an error that has no text. -/
def HasFailedOn (l : Loop) (t : Nat) (d : Document) (flaw : Json.ShowFlaw) : Prop :=
  ∃ (before : Loop) (v : Validation) (m : Nat) (r : Raised),
    t < before.tasks.length ∧ v.document = d ∧
    before.session.isCurrent d.uri v.number = true ∧
    (before.session.lint before.host v m).1.fault? = some (.raised r) ∧ r.message = .error flaw ∧
    l = before.proceed t (.conclude v false) (.present m)

variable {cs : Nat → Prop} {hand : Option Nat} {ws : List (Nat × Nat)} {l l' : Loop} {t n : Nat}
  {task : Task} {e : Fault} {v : Validation} {d : Document} {a : Listener}

/-! ### A validation -/

/-- A task whose module has failed so has raised the fault. -/
theorem HasFailedOn.result? {flaw : Json.ShowFlaw} (h : l.HasFailedOn t d flaw) :
    l.result? t = some (.raised (.unshown flaw)) := by
  obtain ⟨before, v, m, r, ht, rfl, current, fault, hmessage, rfl⟩ := h
  have hconclude : (before.session.conclude before.host v (.present m)).1 =
      .error (.unshown flaw) := by
    have hshown : (Fault.raised r).shown = .error flaw := hmessage
    simp only [Session.conclude, Session.concludePresent, current, fault, hshown, Bool.not_true,
      Bool.false_eq_true, if_false]
  have hcases := before.proceed_conclude_cases t v (.present m) false
  generalize before.proceed t (.conclude v false) (.present m) = l at hcases ⊢
  cases hcases with
  | untold e result =>
    obtain rfl := Except.error.inj (result.symm.trans hconclude)
    exact result?_finish (l := before.concluded v (.present m)) ht _
  | silent r result => cases result.symm.trans hconclude
  | unnoticed r result => cases result.symm.trans hconclude
  | noticed r result => cases result.symm.trans hconclude

/-! ### Turns -/

/-- The first turn is one of the steps that a session can take. -/
theorem ownAct_first {turn : Turn} {rest : List Turn} (hq : l.queue = turn :: rest) :
    l.ownAct (.turn 0) = ({ l with queue := rest } : Loop).take turn := by
  simp [Loop.ownAct, Act.own, act, hq]

theorem Keeps.first (h : Keeps ws l) {turn : Turn} {rest : List Turn}
    (hq : l.queue = turn :: rest) :
    (turn.isReport = false → Keeps ws { l with queue := rest }) ∧
      ∃ ws', Keeps ws' (({ l with queue := rest } : Loop).take turn) := by
  refine ⟨h.drop ?_, _, ownAct_first hq ▸ h.ownAct (.turn 0)⟩
  rw [hq]

end LintBridge.Loop

import LintBridge.Proofs.Session.Basic

/-! The history of a session: validations have begun and ended, and documents were closed. The
history tells who gave a document its number, whether those who ended were in time, and which
quick fixes they left. -/

namespace LintBridge

/-- What has happened to a document: a validation has begun, one has ended with a result,
events and quick fixes, or the document was closed, with events. -/
inductive Happening where
  | began (k : Nat) (uri : String)
  | ended (k : Nat) (result : ValidationResult) (events : List Event) (fixes : List QuickFix)
  | closed (uri : String) (events : List Event)

/-- What gives a document a new number. -/
inductive Renewal where
  | began (k : Nat)
  | closed
  deriving DecidableEq

namespace Happening

/-- The new number that a happening gives a document. -/
def renewal? (uri : String) : Happening → Option Renewal
  | began k u => if u = uri then some (.began k) else none
  | closed u _ => if u = uri then some .closed else none
  | ended .. => none

/-- The last beginning or closing of a document. -/
def last (hs : List Happening) (uri : String) : Option Renewal :=
  hs.reverse.findSome? (renewal? uri)

/-- The quick fixes that a happening leaves to a document: a closing leaves none. -/
def fixes? (uri : String) : Happening → Option (List QuickFix)
  | ended _ r _ fs => if r.uri = uri ∧ r.status = .ok then some fs else none
  | closed u _ => if u = uri then some [] else none
  | began .. => none

/-- The quick fixes that a document was left with. -/
def fixesLeft (hs : List Happening) (uri : String) : List QuickFix :=
  (hs.reverse.findSome? (fixes? uri)).getD []

/-- What the editor was told. -/
def events : Happening → List Event
  | began _ _ => []
  | ended _ _ es _ => es
  | closed _ es => es

variable (hs hs' : List Happening)

/-! ### Who renewed a document last -/

@[simp] theorem last_nil (uri : String) : last [] uri = none := rfl

theorem last_append (uri : String) : last (hs ++ hs') uri = (last hs' uri).or (last hs uri) := by
  simp only [last, List.reverse_append, List.findSome?_append]

theorem last_began (k : Nat) (u uri : String) :
    last (hs ++ [began k u]) uri = if u = uri then some (.began k) else last hs uri := by
  rw [last_append]
  by_cases h : u = uri <;> simp [last, renewal?, h]

theorem last_closed (u uri : String) (es : List Event) :
    last (hs ++ [closed u es]) uri = if u = uri then some .closed else last hs uri := by
  rw [last_append]
  by_cases h : u = uri <;> simp [last, renewal?, h]

@[simp] theorem last_ended (k : Nat) (r : ValidationResult) (es : List Event)
    (fs : List QuickFix) (uri : String) :
    last (hs ++ [ended k r es fs]) uri = last hs uri := by
  rw [last_append]
  rfl

/-- Who renewed a document last has begun, and if the document was closed, has begun since. -/
theorem began_mem_of_last {hs hs' : List Happening} {uri : String} {es : List Event} {k : Nat}
    (h : last (hs ++ [closed uri es] ++ hs') uri = some (.began k)) : began k uri ∈ hs' := by
  rw [last_append, last_closed, if_pos rfl] at h
  cases hl : last hs' uri with
  | none => simp [hl] at h
  | some renewal =>
    obtain rfl : renewal = .began k := by simpa [hl] using h
    obtain ⟨x, hx, hr⟩ := List.exists_of_findSome?_eq_some hl
    have hmem := List.mem_reverse.mp hx
    cases x with
    | began k' u =>
      simp only [renewal?, Option.ite_none_right_eq_some, Option.some.injEq,
        Renewal.began.injEq] at hr
      obtain ⟨rfl, rfl⟩ := hr
      exact hmem
    | ended => simp [renewal?] at hr
    | closed u es => simp [renewal?] at hr

/-! ### Which quick fixes are left -/

@[simp] theorem fixesLeft_nil (uri : String) : fixesLeft [] uri = [] := rfl

theorem fixesLeft_concat (x : Happening) (uri : String) :
    fixesLeft (hs ++ [x]) uri = (fixes? uri x).getD (fixesLeft hs uri) := by
  simp only [fixesLeft, List.reverse_append, List.reverse_singleton, List.singleton_append,
    List.findSome?_cons]
  cases fixes? uri x <;> rfl

/-- Quick fixes of a document that was closed are those of a validation that has ended well
since. -/
theorem ended_mem_of_fixesLeft {hs hs' : List Happening} {uri : String} {es : List Event}
    (h : fixesLeft (hs ++ [closed uri es] ++ hs') uri ≠ []) :
    ∃ k r es' fs, ended k r es' fs ∈ hs' ∧ r.uri = uri ∧ r.status = .ok ∧ fs ≠ [] := by
  simp only [fixesLeft, List.reverse_append, List.findSome?_append] at h
  cases hl : hs'.reverse.findSome? (fixes? uri) with
  | none => simp [hl, fixes?] at h
  | some fs =>
    obtain ⟨x, hx, hr⟩ := List.exists_of_findSome?_eq_some hl
    have hmem := List.mem_reverse.mp hx
    have hfs : fs ≠ [] := by simpa [hl] using h
    cases x with
    | began k' u => simp [fixes?] at hr
    | ended k r es' fs' =>
      simp only [fixes?, Option.ite_none_right_eq_some, Option.some.injEq] at hr
      obtain ⟨⟨hu, hok⟩, rfl⟩ := hr
      exact ⟨k, r, es', fs', hmem, hu, hok, hfs⟩
    | closed u es =>
      simp only [fixes?, Option.ite_none_right_eq_some, Option.some.injEq] at hr
      exact absurd hr.2.symm hfs

/-! ### Whether an end is whole and in time -/

/-- A validation publishes its diagnostics when it ends well, and else nothing; it has no quick
fixes without diagnostics. A closing publishes the empty list. -/
def Whole : Happening → Prop
  | began _ _ => True
  | ended _ r es fs => es = (if r.status = .ok then [.publish r.uri r.diagnostics] else []) ∧
      (r.status = .ok → r.diagnostics = [] → fs = [])
  | closed u es => es = [.publish u []]

/-- A validation ends in time: it publishes only if nothing has renewed its document since it
began, and it is stale only if something has. -/
structure InTime (before : List Happening) (k : Nat) (r : ValidationResult)
    (es : List Event) : Prop where
  publishes : ∀ uri ds, .publish uri ds ∈ es → last before uri = some (.began k)
  stale : r.status = .stale → last before r.uri ≠ some (.began k)

/-- All validations that ended did so in time. -/
def Timely (hs : List Happening) : Prop :=
  ∀ before k r es fs later, hs = before ++ ended k r es fs :: later → InTime before k r es

theorem timely_nil : Timely [] := by
  intro before k r es fs later h
  simp at h

/-- A happening at the end keeps the history timely if it is itself in time. -/
theorem Timely.concat {hs : List Happening} (ht : Timely hs) (x : Happening)
    (hx : ∀ k r es fs, x = ended k r es fs → InTime hs k r es) : Timely (hs ++ [x]) := by
  intro before k r es fs later h
  obtain rfl | ⟨later, y, rfl⟩ := List.eq_nil_or_concat later
  · obtain ⟨rfl, hy⟩ := List.append_inj' h rfl
    exact hx k r es fs (List.singleton_inj.mp hy)
  · rw [List.concat_eq_append, ← List.cons_append, ← List.append_assoc] at h
    obtain ⟨rfl, -⟩ := List.append_inj' h rfl
    exact ht before k r es fs later rfl

end Happening

end LintBridge

import LintBridge.Proofs.Resolver.Anew
import LintBridge.Proofs.Session.Verdict

/-! Two sessions in which attempts have come to the same, with modules and failures that have other
numbers. They judge every document alike: the verdicts differ in the number of a failure at most.
Documents that are skipped leave the machine as it is, so it matters only in which order those of
files are judged. -/

namespace LintBridge

/-! ### What does not depend on numbers -/

/-- The fault that a cause is, whatever number the failure has. -/
def Cause.fault? (r : Resolver) : Cause → Option Fault
  | .resolution f => (r.failure? f).map Failure.fault
  | .linting e => some e

/-- What a validation came to, with the fault itself as its cause. -/
structure Account where
  uri : String
  status : Status
  diagnostics : List Diagnostic
  errorType : Option ErrorType
  fault : Option Fault

/-- The account of a result, whose failure is one of this resolver. -/
def ValidationResult.account (r : Resolver) (result : ValidationResult) : Account :=
  ⟨result.uri, result.status, result.diagnostics, result.errorType,
    result.cause.bind (Cause.fault? r)⟩

/-- Whether a failure has been told does not matter to an account. -/
theorem ValidationResult.account_congr {r r' : Resolver} {result : ValidationResult}
    (h : ∀ f, result.cause = some (.resolution f) →
      (r'.failure? f).map Failure.fault = (r.failure? f).map Failure.fault) :
    result.account r' = result.account r := by
  have hfault : result.cause.bind (Cause.fault? r') = result.cause.bind (Cause.fault? r) := by
    cases hc : result.cause with
    | none => rfl
    | some cause =>
      cases cause with
      | resolution f => exact h f hc
      | linting e => rfl
  rw [account, hfault, account]

namespace Verdict

/-- Verdicts that differ in the number of a failure at most. -/
structure Matches (r r' : Resolver) (x x' : Verdict) : Prop where
  uri : x'.uri = x.uri
  account : x'.result.map (·.account r') = x.result.map (·.account r)
  shown : x'.shown = x.shown

theorem Matches.events {r r' : Resolver} {x x' : Verdict} (h : Matches r r' x x') :
    x'.events = x.events := by
  rw [Verdict.events, h.shown, h.uri, Verdict.events]

end Verdict

namespace Session

variable {s s' : Session} {h h' : Host} {o o' : Outcome}

/-- Sessions that judge alike although their modules and failures have other numbers. -/
structure JudgesAlike (s s' : Session) (h h' : Host) (o o' : Outcome) : Prop where
  settings : s'.settings = s.settings
  entryPoint : s'.resolver.entryPoint = s.resolver.entryPoint
  stays : h.Stays h'
  outcomes : Resolution.Matches ⟨s.resolver, h⟩ ⟨s'.resolver, h'⟩ o o'

/-- A validation is concluded alike, and the next one will be. -/
theorem JudgesAlike.concluded (a : JudgesAlike s s' h h' o o') (v : Validation) :
    Verdict.Matches s.resolver s'.resolver (s.concluded h v o).1 (s'.concluded h' v o').1 ∧
      JudgesAlike s s' (s.concluded h v o).2 (s'.concluded h' v o').2 o o' := by
  obtain ⟨settings, entryPoint, stays, outcomes⟩ := a
  cases outcomes with
  | absent => exact ⟨⟨rfl, rfl, rfl⟩, settings, entryPoint, stays, .absent⟩
  | failed f f' x failure failure' =>
    refine ⟨⟨rfl, ?_, rfl⟩, settings, entryPoint, stays, .failed f f' x failure failure'⟩
    have hfailure : s.resolver.failure? f = some x := failure
    have hfailure' : s'.resolver.failure? f' = some x := failure'
    simp [Session.concluded, ValidationResult.account, ValidationResult.failed, Cause.fault?,
      hfailure, hfailure', Except.map]
  | present m m' module =>
    obtain ⟨hlint, hmodule⟩ := lint_congr settings entryPoint (v := v) rfl rfl rfl stays module
    have hstays : (s.lint h v m).2.Stays (s'.lint h' v m').2 :=
      (s.lint_recalls h v m).stays.symm.trans (stays.trans (s'.lint_recalls h' v m').stays)
    simp only [Session.concluded, hlint]
    split
    · split
      · exact ⟨⟨rfl, rfl, rfl⟩, settings, entryPoint, hstays, .present m m' hmodule⟩
      · refine ⟨⟨rfl, rfl, rfl⟩, settings, entryPoint, ?_, .present m m' hmodule⟩
        exact (Host.stays_note _ _ _).symm.trans (hstays.trans (Host.stays_note _ _ _))
    · exact ⟨⟨rfl, rfl, rfl⟩, settings, entryPoint, hstays, .present m m' hmodule⟩

theorem JudgesAlike.verdict (a : JudgesAlike s s' h h' o o') (root : String) (d : Document) :
    Verdict.Matches s.resolver s'.resolver (s.verdict root o h d).1 (s'.verdict root o' h' d).1 ∧
      JudgesAlike s s' (s.verdict root o h d).2 (s'.verdict root o' h' d).2 o o' := by
  simp only [Session.verdict]
  split
  · exact a.concluded _
  · exact ⟨⟨rfl, rfl, rfl⟩, a⟩

/-- Documents in order are judged alike: the accounts are the same, and so is what is shown. -/
theorem JudgesAlike.tally (a : JudgesAlike s s' h h' o o') (root : String) (ds : List Document) :
    (s'.tally root o' h' ds).1.map (fun x => x.result.map (·.account s'.resolver)) =
        (s.tally root o h ds).1.map (fun x => x.result.map (·.account s.resolver)) ∧
      (s'.tally root o' h' ds).1.flatMap Verdict.events =
        (s.tally root o h ds).1.flatMap Verdict.events := by
  induction ds generalizing h h' with
  | nil => exact ⟨rfl, rfl⟩
  | cons d ds ih =>
    obtain ⟨hverdict, hnext⟩ := a.verdict root d
    obtain ⟨haccounts, hevents⟩ := ih hnext
    simp only [Session.tally, List.map_cons, List.flatMap_cons, hverdict.account, hverdict.events,
      haccounts, hevents, and_self]

/-! ### Documents of files -/

/-- What is skipped shows nothing. -/
theorem events_tally (s : Session) (root : String) (o : Outcome) (h : Host) (ds : List Document) :
    (s.tally root o h ds).1.flatMap Verdict.events =
      (s.tally root o h (ds.filter fun d => d.IsFile)).1.flatMap Verdict.events := by
  induction ds generalizing h with
  | nil => rfl
  | cons d ds ih =>
    by_cases hd : d.IsFile
    · simp only [List.filter_cons, hd, decide_true, if_true, Session.tally, List.flatMap_cons, ih]
    · simp only [List.filter_cons, hd, decide_false, Bool.false_eq_true, if_false, Session.tally,
        List.flatMap_cons, verdict_of_skipped hd, ih]
      rfl

/-- Each verdict is on a document that is skipped, or stands among those on the documents of
files. -/
theorem mem_tally_iff (s : Session) (root : String) (o : Outcome) (h : Host) (ds : List Document)
    (x : Verdict) : x ∈ (s.tally root o h ds).1 ↔ (∃ d ∈ ds, ¬ d.IsFile ∧ x = .skipped d.uri) ∨
      x ∈ (s.tally root o h (ds.filter fun d => d.IsFile)).1 := by
  induction ds generalizing h with
  | nil => simp [Session.tally]
  | cons d ds ih =>
    by_cases hd : d.IsFile
    · simp only [List.filter_cons, hd, decide_true, if_true, Session.tally, List.mem_cons, ih]
      grind
    · simp only [List.filter_cons, hd, decide_false, Bool.false_eq_true, if_false, Session.tally,
        List.mem_cons, verdict_of_skipped hd, ih]
      grind

/-- The verdict on each document is the same in all orders in which those of files are judged in the
same order. -/
theorem on?_tally {ds ds' : List Document} (s : Session) (root : String) (o : Outcome) (h : Host)
    (all : ds'.Perm ds) (files : ds'.filter (fun d => d.IsFile) = ds.filter fun d => d.IsFile)
    (hn : (ds.map Document.uri).Nodup) (uri : String) :
    Verdict.on? (s.tally root o h ds').1 uri = Verdict.on? (s.tally root o h ds).1 uri := by
  refine Verdict.on?_congr ?_ ?_ (fun x => ?_) uri
  · rwa [tally_uris]
  · rwa [tally_uris, (all.map Document.uri).nodup_iff]
  · rw [s.mem_tally_iff root o h ds, s.mem_tally_iff root o h ds', files]
    simp only [all.mem_iff]

end Session

end LintBridge

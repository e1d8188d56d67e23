import LintBridge.Proofs.Resolver.Basic
import LintBridge.Proofs.Shown
import LintBridge.Proofs.Table
import LintBridge.Session.Basic

/-! What the operations of a session do to the numbers, the fixes and the lists
that the editor was sent. Beginning and closing take the next number of one
document and of no other. Concluding leaves the session as it is, or publishes
one list and stores its fixes; it publishes only under the current number. -/

namespace LintBridge

namespace Event

/-- The list that an event publishes for a document. -/
def listFor (uri : String) : Event → Option (List Diagnostic)
  | publish u ds => if u = uri then some ds else none
  | _ => none

/-- The list that was published last for a document, if one was. -/
def lastList (events : List Event) (uri : String) : Option (List Diagnostic) :=
  events.reverse.findSome? (listFor uri)

@[simp] theorem lastList_nil (uri : String) : lastList [] uri = none := rfl

theorem lastList_append (es₁ es₂ : List Event) (uri : String) :
    lastList (es₁ ++ es₂) uri = (lastList es₂ uri).or (lastList es₁ uri) := by
  simp only [lastList, List.reverse_append, List.findSome?_append]

@[simp] theorem lastList_publish_self (uri : String) (ds : List Diagnostic) :
    lastList [.publish uri ds] uri = some ds := by
  simp [lastList, listFor]

theorem lastList_publish_of_ne {u uri : String} (ds : List Diagnostic) (h : u ≠ uri) :
    lastList [.publish u ds] uri = none := by
  simp [lastList, listFor, h]

end Event

/-- Every quick fix is one of a diagnostic. -/
theorem Report.Digest.fixes_eq_nil {d : Report.Digest} (h : d.diagnostics = []) :
    d.fixes = [] := by
  have he : d.entries = [] := List.map_eq_nil_iff.mp h
  rw [Report.Digest.fixes, he]
  rfl

namespace Session

variable (s : Session) (h : Host)

/-! ### Numbers and fixes -/

@[simp] theorem number_bump_self (uri : String) :
    (s.bump uri).1.number uri = s.number uri + 1 := by
  simp only [bump, number]
  rw [Table.lookup_put_self]
  rfl

theorem number_bump_of_ne {uri uri' : String} (hne : uri' ≠ uri) :
    (s.bump uri).1.number uri' = s.number uri' := by
  simp only [bump, number]
  rw [Table.lookup_put_of_ne _ _ hne]

theorem number_le_bump (uri uri' : String) : s.number uri' ≤ (s.bump uri).1.number uri' := by
  by_cases hne : uri' = uri
  · subst hne
    rw [number_bump_self]
    omega
  · exact Nat.le_of_eq (number_bump_of_ne s hne).symm

@[simp] theorem bump_snd (uri : String) : (s.bump uri).2 = s.number uri + 1 := rfl

/-- A number that was taken is current if it is the number of its document. -/
theorem isCurrent_iff {uri : String} {n : Nat} (hn : 0 < n) :
    s.isCurrent uri n = true ↔ n = s.number uri := by
  simp only [isCurrent, number, beq_iff_eq]
  cases s.numbers.lookup uri with
  | none => simp; omega
  | some k => simp [eq_comm]

theorem fixes_storeFixes_self (uri : String) (fs : List QuickFix) :
    (s.storeFixes uri fs).fixes.lookup uri = some fs :=
  Table.lookup_put_self _ _ _

theorem fixes_storeFixes_of_ne {uri uri' : String} (fs : List QuickFix) (hne : uri' ≠ uri) :
    (s.storeFixes uri fs).fixes.lookup uri' = s.fixes.lookup uri' :=
  Table.lookup_put_of_ne _ _ hne

/-! ### Closing -/

@[simp] theorem close_events (uri : String) : (s.close uri).1 = [.publish uri []] := rfl

theorem number_close_self (uri : String) : (s.close uri).2.number uri = s.number uri + 1 :=
  number_bump_self s uri

theorem number_close_of_ne {uri uri' : String} (hne : uri' ≠ uri) :
    (s.close uri).2.number uri' = s.number uri' :=
  number_bump_of_ne s hne

theorem fixes_close_self (uri : String) : (s.close uri).2.fixes.lookup uri = none :=
  Table.lookup_drop_self _ _

theorem fixes_close_of_ne {uri uri' : String} (hne : uri' ≠ uri) :
    (s.close uri).2.fixes.lookup uri' = s.fixes.lookup uri' :=
  Table.lookup_drop_of_ne _ hne

/-! ### Beginning and concluding -/

/-- What beginning can do: the URI is refused or is not a file's, or the validation waits with the
document's path and the number that it took. -/
inductive Beginning (d : Document) : Except Fault (Option Validation) × Session × Host → Prop where
  | refused (e : Fault) (uri : Uri.toPath? d.uri = .error e) :
      Beginning d (.error e, (s.bump d.uri).1, h)
  | skipped (h' : Host) (uri : Uri.toPath? d.uri = .ok none) :
      Beginning d (.ok none, (s.bump d.uri).1, h')
  | waits (path : Path) (uri : Uri.toPath? d.uri = .ok (some path)) :
      Beginning d (.ok (some ⟨d, s.number d.uri + 1, path.toString,
        s.workspace?.getD path.parent.toString⟩), (s.bump d.uri).1, h)

theorem begin_cases (d : Document) : Beginning s h d (s.begin h d) := by
  simp only [begin]
  cases hp : Uri.toPath? d.uri with
  | error e => exact .refused e hp
  | ok path =>
    cases path with
    | none => exact .skipped _ hp
    | some path => exact .waits path hp

/-- Changed settings leave numbers and fixes alone. -/
theorem applySettings_ok {payload : Json} {s' : Session}
    (ha : (s.applySettings h payload).1 = .ok s') :
    s'.numbers = s.numbers ∧ s'.fixes = s.fixes := by
  simp only [applySettings] at ha
  split at ha
  · simp at ha
  · obtain rfl := Except.ok.inj ha
    exact ⟨rfl, rfl⟩

/-- Changed settings make the session forget what was resolved. -/
theorem applySettings_renews {payload : Json} {s' : Session} {h' : Host}
    (ha : s.applySettings h payload = (.ok s', h')) :
    s'.root = s.root ∧ s'.resolver.refusal = s.resolver.refusal ∧ s'.resolver.memo = [] ∧
      h'.config? = h.config? := by
  simp only [applySettings] at ha
  split at ha
  · simp at ha
  · obtain ⟨hs, rfl⟩ := Prod.mk.inj ha
    obtain rfl := Except.ok.inj hs
    exact ⟨rfl, rfl, rfl, rfl⟩

/-- Settings that are refused change nothing. -/
theorem applySettings_error {payload : Json} {e : Fault} {h' : Host}
    (ha : s.applySettings h payload = (.error e, h')) : h' = h := by
  simp only [applySettings] at ha
  split at ha
  · exact (Prod.mk.inj ha).2.symm
  · simp at ha

/-- What the module's report on a validation comes to; nothing without a module. -/
def translation (v : Validation) : Outcome → Report.Digest
  | .present m => (s.lint h v m).1
  | _ => .nothing

/-- What concluding can do: it is stale, or it fails or skips, or the text of a fault cannot be made
and there is no result, or it publishes. -/
inductive Conclusion (v : Validation) (o : Outcome) :
    Except Fault ValidationResult × List Event × Session × Host → Prop where
  | stale (h' : Host) (old : s.isCurrent v.document.uri v.number = false) :
      Conclusion v o (.ok (.plain v.document.uri .stale), [], s, h')
  | silent (r : ValidationResult) (h' : Host) (status : r.status = .skipped ∨ r.status = .error)
      (uri : r.uri = v.document.uri) : Conclusion v o (.ok r, [], s, h')
  | untold (m : Nat) (present : o = .present m)
      (current : s.isCurrent v.document.uri v.number = true) (e : Fault) (flaw : Json.ShowFlaw)
      (fault : (s.lint h v m).1.fault? = some e) (shown : e.shown = .error flaw) :
      Conclusion v o (.error (.unshown flaw), [], s, (s.lint h v m).2)
  | published (m : Nat) (present : o = .present m)
      (current : s.isCurrent v.document.uri v.number = true)
      (whole : (s.lint h v m).1.fault? = none) :
      Conclusion v o (.ok (.published v.document.uri (s.lint h v m).1.diagnostics),
        [.publish v.document.uri (s.lint h v m).1.diagnostics],
        s.storeFixes v.document.uri (s.lint h v m).1.fixes, (s.lint h v m).2)

theorem conclude_cases (v : Validation) (o : Outcome) :
    Conclusion s h v o (s.conclude h v o) := by
  cases o with
  | absent => exact .silent _ _ (.inl rfl) rfl
  | failed f => exact .silent _ _ (.inr rfl) rfl
  | present m =>
    simp only [conclude, concludePresent]
    cases hc : s.isCurrent v.document.uri v.number with
    | false => exact .stale _ hc
    | true =>
      simp only [Bool.not_true, Bool.false_eq_true, ↓reduceIte]
      cases hf : (s.lint h v m).1.fault? with
      | some e =>
        cases hshown : e.shown with
        | error flaw => simpa only [hshown] using .untold m rfl hc e flaw hf hshown
        | ok text => simpa only [hshown] using .silent _ _ (.inr rfl) rfl
      | none => exact .published m rfl hc hf

theorem conclude_uri {v : Validation} {o : Outcome} {r : ValidationResult}
    (hr : (s.conclude h v o).1 = .ok r) : r.uri = v.document.uri := by
  have hcases := s.conclude_cases h v o
  generalize s.conclude h v o = x at hcases hr
  cases hcases with
  | stale h' old => exact Except.ok.inj hr ▸ rfl
  | silent r h' status uri => exact Except.ok.inj hr ▸ uri
  | untold m present current e flaw fault shown => cases hr
  | published m present current whole => exact Except.ok.inj hr ▸ rfl

/-- Concluding ends without a result only where a text is missing. -/
theorem conclude_error {v : Validation} {o : Outcome} {e : Fault}
    (he : (s.conclude h v o).1 = .error e) : ∃ flaw, e = .unshown flaw := by
  have hcases := s.conclude_cases h v o
  generalize s.conclude h v o = x at hcases he
  cases hcases with
  | untold m present current e' flaw fault shown => exact ⟨flaw, (Except.error.inj he).symm⟩
  | _ => cases he

theorem lint_grows (v : Validation) (m : Nat) : h.Grows (s.lint h v m).2 := by
  have hcall := LintModule.call_follows h.imports m s.resolver.entryPoint v.document.text
    (s.optionsFor v)
  simp only [lint]
  generalize LintModule.call h.imports m s.resolver.entryPoint v.document.text
    (s.optionsFor v) = x at hcall ⊢
  have hcalled : h.Grows { h with imports := x.2 } := ⟨rfl, hcall, fun _ hc => hc⟩
  split
  · exact hcalled
  · refine hcalled.trans (Host.Agrees.grows ?_)
    have hnotes : ∀ (remarks : List String) {h₁ h₂ : Host}, h₁.Agrees h₂ →
        h₁.Agrees (remarks.foldl (fun h remark => h.note .debug remark) h₂) := by
      intro remarks
      induction remarks with
      | nil => exact fun ha => ha
      | cons remark remarks ih => exact fun ha => ih (ha.note _ _)
    refine hnotes _ ?_
    split
    · exact Host.linterConfig_agrees _
    · exact .refl _

theorem conclude_grows (v : Validation) (o : Outcome) : h.Grows (s.conclude h v o).2.2.2 := by
  cases o with
  | absent => exact .refl h
  | failed f => exact .refl h
  | present m =>
    have hlint := s.lint_grows h v m
    simp only [conclude, concludePresent]
    split
    · exact ((Host.Agrees.refl h).note _ _).grows
    · split
      · split
        · exact hlint
        · exact hlint.trans ((Host.Agrees.refl _).note _ _).grows
      · exact hlint

/-! ### What a module says about a document -/

/-- The module `m`, among the modules `im`, says `ds` about a document: it is called with the
document's text and the editor's options, in which the two paths are replaced, and its report is
digested as the settings and the configuration want it. -/
def Says (im : LintModule.Imports) (m : Nat) (root : String) (path : Path) (d : Document)
    (ds : List Diagnostic) : Prop :=
  ∃ c report, h.config? = some c ∧
    (LintModule.call im m s.resolver.entryPoint d.text
      ((s.settings.options.put "cwd" (.str root)).put "filename" (.str path.toString))).1 =
        .ok report ∧
    (Report.digest report d.text.toList s.settings.showWarnings
      (.ok c.2.linter.sourceName)).fault? = none ∧
    (Report.digest report d.text.toList s.settings.showWarnings
      (.ok c.2.linter.sourceName)).diagnostics = ds

variable {s h} {im im' : LintModule.Imports} {m : Nat} {root : String} {path : Path}
  {d : Document} {ds : List Diagnostic}

/-- A validation that ends without a fault publishes what the module says. -/
theorem says_of_lint {v : Validation} {c : Nat × Config} (hc : h.config? = some c)
    (hpath : v.path = path.toString) (whole : (s.lint h v m).1.fault? = none) :
    s.Says h h.imports m v.root path v.document (s.lint h v m).1.diagnostics := by
  have hlinter : ∀ im, ({ h with imports := im } : Host).linterConfig =
      (.ok c.2.linter, { h with imports := im }) := fun im => Host.linterConfig_of_config hc
  simp only [lint, hlinter] at whole ⊢
  split at whole
  · simp [Report.Digest.stopped] at whole
  · rename_i report hreport
    rw [optionsFor, hpath] at hreport
    exact ⟨c, report, hc, hreport, whole, rfl⟩

/-- What is said depends on the settings, the entry point and the configuration. -/
theorem Says.congr {s' : Session} {h' : Host} (hs : s.Says h im m root path d ds)
    (settings : s'.settings = s.settings)
    (entry : s'.resolver.entryPoint = s.resolver.entryPoint)
    (config : ∀ c, h.config? = some c → h'.config? = some c) :
    s'.Says h' im m root path d ds := by
  obtain ⟨c, report, hc, hsays⟩ := hs
  rw [← settings, ← entry] at hsays
  exact ⟨c, report, config c hc, hsays⟩

/-- A module of pure functions says the same later. -/
theorem Says.of_pure (hs : s.Says h im m root path d ds) (follows : im.Follows im')
    (pure : im'.IsPure) : s.Says h im' m root path d ds := by
  obtain ⟨c, report, hc, hreport, hsays⟩ := hs
  exact ⟨c, report, hc, LintModule.call_of_pure follows pure hreport, hsays⟩

end Session

/-! ### Notices -/

/-- An error with a text is told by it, unless it is empty. -/
theorem noticeFor_ok (text : String) (uri : Option String) :
    noticeFor (.ok text) uri = if text != "" then .ok text else noticeFor (.ok "") uri := by
  by_cases ht : text = ""
  · simp [ht]
  · simp [noticeFor, ht, bind, Except.bind, pure, Except.pure]

/-- What is told of an error with a text about a document whose URI is accepted can be put into
words. -/
theorem noticeFor_of_accepted {uri : String} {path : Option Path}
    (h : Uri.toPath? uri = .ok path) (text : String) :
    ∃ notice, noticeFor (.ok text) (some uri) = .ok notice := by
  rw [noticeFor_ok]
  split
  · exact ⟨text, rfl⟩
  · cases path <;>
      simp [noticeFor, Uri.toPathText?, h, Except.map, bind, Except.bind, pure, Except.pure]

/-- What is told about an accepted document cannot be put into words only where a text is missing. -/
theorem Session.notice_error_of_accepted (s : Session) {r : ValidationResult} {path : Option Path}
    (h : Uri.toPath? r.uri = .ok path) {e : Fault} (he : s.notice r = .error e) :
    ∃ flaw, e = .unshown flaw := by
  simp only [notice] at he
  split at he
  · split at he
    · cases he
    · split at he
      · rename_i f _ _
        cases hshown : f.fault.shown with
        | error flaw =>
          rw [hshown] at he
          exact ⟨flaw, (Except.error.inj he).symm⟩
        | ok text =>
          obtain ⟨message, hmessage⟩ := noticeFor_of_accepted h text
          rw [hshown, hmessage] at he
          cases he
      · cases he
  · cases he

end LintBridge

import LintBridge.Proofs.Resolver.Agreement
import LintBridge.Proofs.Session.Basic

/-! What a document's validation comes to under its current number, once the workspace's module is
resolved. It depends on the document, the settings, the module and what the configuration says. A
module of pure functions judges every document as if it were the first, so the order in which
documents are judged does not matter; any other module judges in order. -/

namespace LintBridge

/-- Is a document that of a file? -/
def Document.IsFile (d : Document) : Prop :=
  ∃ path, Uri.toPath? d.uri = .ok (some path)

instance (d : Document) : Decidable d.IsFile :=
  match h : Uri.toPath? d.uri with
  | .ok (some path) => .isTrue ⟨path, h⟩
  | .ok none => .isFalse (by simp [Document.IsFile, h])
  | .error e => .isFalse (by simp [Document.IsFile, h])

/-! ### Calls that are not counted -/

namespace LintModule

/-- A module as if it had never been called. -/
def Module.uncalled (m : Module) : Module :=
  { m with calls := 0 }

/-- The same modules, but for how often they were called. -/
def Imports.Recalls (im im' : Imports) : Prop :=
  ∀ k, (im'.module? k).map Module.uncalled = (im.module? k).map Module.uncalled

variable {im im' im'' : Imports}

theorem Imports.Recalls.refl (im : Imports) : im.Recalls im := fun _ => rfl

theorem Imports.Recalls.trans (a : im.Recalls im') (b : im'.Recalls im'') : im.Recalls im'' :=
  fun k => (b k).trans (a k)

theorem Imports.Recalls.symm (a : im.Recalls im') : im'.Recalls im := fun k => (a k).symm

theorem call_recalls (im : Imports) (id : Nat) (entryPoint text : String) (options : Members) :
    im.Recalls (call im id entryPoint text options).2 := by
  intro k
  simp only [call]
  split
  · rfl
  · rename_i m hm
    split
    · split
      · by_cases hk : id = k
        · subst hk
          simp only [Imports.module?] at hm
          simp [Imports.module?, Imports.modify, hm, Module.uncalled]
        · simp [Imports.module?, Imports.modify, hk]
      · rfl
    · rfl

/-- The function of a module does not answer otherwise because of how often it was called. -/
def Imports.IsPureAt (im : Imports) (id : Nat) : Prop :=
  ∀ m name behavior, im.module? id = some m → m.exported = some (name, .function behavior) →
    ∀ calls calls' text options,
      behavior.answer m.label calls text options = behavior.answer m.label calls' text options

theorem Imports.IsPureAt.recalls {id : Nat} (pure : im.IsPureAt id) (a : im.Recalls im') :
    im'.IsPureAt id := by
  intro m name behavior hm hx
  have hk := a id
  rw [hm, Option.map_some] at hk
  obtain ⟨m₀, hm₀, heq⟩ := Option.map_eq_some_iff.mp hk.symm
  simp only [Module.uncalled, Module.mk.injEq] at heq
  obtain ⟨-, hlabel, hexported, -⟩ := heq
  rw [← hlabel]
  exact pure m₀ name behavior hm₀ (hexported.trans hx)

/-- A pure function answers as if it had not been called. -/
theorem call_of_recalls {id : Nat} (pure : im.IsPureAt id) (a : im.Recalls im')
    (entryPoint text : String) (options : Members) :
    (call im' id entryPoint text options).1 = (call im id entryPoint text options).1 := by
  have hk := a id
  simp only [call]
  cases hm : im.module? id with
  | none =>
    rw [hm] at hk
    rw [Option.map_eq_none_iff.mp hk]
  | some m =>
    rw [hm, Option.map_some] at hk
    obtain ⟨m', hm', heq⟩ := Option.map_eq_some_iff.mp hk
    simp only [Module.uncalled, Module.mk.injEq] at heq
    obtain ⟨-, hlabel, hexported, -⟩ := heq
    simp only [hm', hlabel, hexported]
    split
    · rename_i name behavior hx
      split
      · exact pure m name behavior hm hx _ _ _ _
      · rfl
    · rfl

/-- What a call comes to depends on the called module alone. -/
theorem call_congr {k k' : Nat} (h : im'.module? k' = im.module? k) (entryPoint text : String)
    (options : Members) :
    (call im' k' entryPoint text options).1 = (call im k entryPoint text options).1 ∧
      (call im' k' entryPoint text options).2.module? k' =
        (call im k entryPoint text options).2.module? k := by
  simp only [call, h]
  cases hm : im.module? k with
  | none => exact ⟨rfl, h⟩
  | some m =>
    dsimp only
    split
    · split
      · refine ⟨rfl, ?_⟩
        simp only [Imports.module?] at h hm
        simp [Imports.module?, Imports.modify, h, hm]
      · exact ⟨rfl, h⟩
    · exact ⟨rfl, h⟩

end LintModule

/-- The same machine as far as its files and its configuration go, with the same modules, which may
have been called. -/
structure Host.Recalls (h h' : Host) : Prop where
  stays : h.Stays h'
  imports : h.imports.Recalls h'.imports

theorem Host.Recalls.trans {h h' h'' : Host} (a : h.Recalls h') (b : h'.Recalls h'') :
    h.Recalls h'' :=
  ⟨a.stays.trans b.stays, a.imports.trans b.imports⟩

theorem Host.Alike.recalls {h h' : Host} (a : h.Alike h') : h.Recalls h' :=
  ⟨a.stays, by rw [a.imports]; exact .refl _⟩

/-! ### Verdicts -/

/-- What the validation of a document comes to: its result, or the fault that it raises, and the list
and the quick fixes that are shown for the document, if any are. -/
structure Verdict where
  uri : String
  result : Except Fault ValidationResult
  shown : Option (List Diagnostic × List QuickFix)

namespace Verdict

/-- What is published. -/
def events (x : Verdict) : List Event :=
  (x.shown.map fun shown => .publish x.uri shown.1).toList

/-- Stores the quick fixes that are shown. -/
def store (x : Verdict) (s : Session) : Session :=
  match x.shown with
  | some shown => s.storeFixes x.uri shown.2
  | none => s

/-- The verdict on a document that is skipped. -/
def skipped (uri : String) : Verdict := ⟨uri, .ok (.plain uri .skipped), none⟩

variable (x : Verdict) (s : Session)

theorem store_eq : x.store s = { s with fixes := (x.store s).fixes } := by
  simp only [store]
  split <;> rfl

@[simp] theorem store_numbers : (x.store s).numbers = s.numbers := by rw [store_eq]

@[simp] theorem store_resolver : (x.store s).resolver = s.resolver := by rw [store_eq]

@[simp] theorem store_settings : (x.store s).settings = s.settings := by rw [store_eq]

@[simp] theorem store_root : (x.store s).root = s.root := by rw [store_eq]

end Verdict

/-- Sessions that judge alike: they have the same settings and the same entry point, and failures of
the same types. -/
structure Session.Alike (s s' : Session) : Prop where
  settings : s'.settings = s.settings
  entryPoint : s'.resolver.entryPoint = s.resolver.entryPoint
  errorTypes : ∀ f, (s'.resolver.failure? f).bind Failure.errorType =
    (s.resolver.failure? f).bind Failure.errorType

theorem Session.Alike.of_eq {s s' : Session} (settings : s'.settings = s.settings)
    (resolver : s'.resolver = s.resolver) : s.Alike s' :=
  ⟨settings, by rw [resolver], fun _ => by rw [resolver]⟩

namespace Session

variable (s : Session) (h : Host) (v : Validation) (m : Nat)

/-! ### Linting -/

/-- What the module's report comes to, as the settings and the configuration want it. -/
theorem lint_fst : (s.lint h v m).1 =
    match (LintModule.call h.imports m s.resolver.entryPoint v.document.text (s.optionsFor v)).1 with
    | .error e => .stopped e
    | .ok report => Report.digest report v.document.text.toList s.settings.showWarnings
        (h.linterConfig.1.map LinterSection.sourceName) := by
  simp only [lint]
  generalize LintModule.call h.imports m s.resolver.entryPoint v.document.text (s.optionsFor v) = x
  obtain ⟨report, imports⟩ := x
  cases report with
  | error e => rfl
  | ok report => simp only [(h.stays_imports imports).linter]

theorem alike_notes (h : Host) (remarks : List String) :
    h.Alike (remarks.foldl (fun h remark => h.note .debug remark) h) := by
  induction remarks generalizing h with
  | nil => exact .refl h
  | cons remark remarks ih => exact (h.alike_note _ _).trans (ih _)

/-- Linting calls the module, and else changes nothing but what is logged and read. -/
theorem lint_alike : Host.Alike { h with imports := (LintModule.call h.imports m
    s.resolver.entryPoint v.document.text (s.optionsFor v)).2 } (s.lint h v m).2 := by
  simp only [lint]
  split
  · exact .refl _
  · refine Host.Alike.trans ?_ (alike_notes _ _)
    split
    · exact Host.alike_linterConfig _
    · exact .refl _

theorem lint_recalls : h.Recalls (s.lint h v m).2 := by
  have hcalled := s.lint_alike h v m
  refine ⟨(h.stays_imports _).trans hcalled.stays, ?_⟩
  rw [hcalled.imports]
  exact LintModule.call_recalls _ _ _ _ _

variable {s s' : Session} {h h' : Host} {v v' : Validation} {m m' : Nat} {o : Outcome}

theorem optionsFor_congr (settings : s'.settings = s.settings) (path : v'.path = v.path)
    (root : v'.root = v.root) : s'.optionsFor v' = s.optionsFor v := by
  simp only [optionsFor, settings, path, root]

/-- What linting comes to depends on the settings, the module and the configuration alone. -/
theorem lint_congr (settings : s'.settings = s.settings)
    (entryPoint : s'.resolver.entryPoint = s.resolver.entryPoint)
    (document : v'.document = v.document) (path : v'.path = v.path) (root : v'.root = v.root)
    (stays : h.Stays h') (module : h'.imports.module? m' = h.imports.module? m) :
    (s'.lint h' v' m').1 = (s.lint h v m).1 ∧
      (s'.lint h' v' m').2.imports.module? m' = (s.lint h v m).2.imports.module? m := by
  obtain ⟨hreport, hmodule⟩ := LintModule.call_congr module s.resolver.entryPoint v.document.text
    (s.optionsFor v)
  constructor
  · simp only [lint_fst, entryPoint, document, optionsFor_congr settings path root, hreport,
      settings, stays.linter]
  · rw [(s'.lint_alike h' v' m').imports, (s.lint_alike h v m).imports, entryPoint, document,
      optionsFor_congr settings path root]
    exact hmodule

/-! ### Judging -/

/-- What concluding a validation under its current number comes to. -/
def concluded (s : Session) (h : Host) (v : Validation) (o : Outcome) : Verdict × Host :=
  match o with
  | .absent => (.skipped v.document.uri, h)
  | .failed f =>
    let errorType := ((s.resolver.failure? f).bind Failure.errorType).getD .manifestReadError
    (⟨v.document.uri, .ok (.failed v.document.uri (.resolution f) errorType), none⟩, h)
  | .present m =>
    let (t, h) := s.lint h v m
    match t.fault? with
    | some e =>
      match e.shown with
      | .error flaw => (⟨v.document.uri, .error (.unshown flaw), none⟩, h)
      | .ok text =>
        (⟨v.document.uri, .ok (.failed v.document.uri (.linting e) .lintCallError), none⟩,
          h.note .warning s!"Linting failed for {v.path}: {text}")
    | none => (⟨v.document.uri, .ok (.published v.document.uri t.diagnostics),
        some (t.diagnostics, t.fixes)⟩, h)

/-- Under its current number a validation is concluded as judged. -/
theorem conclude_of_current (current : s.isCurrent v.document.uri v.number = true) (h : Host)
    (o : Outcome) : s.conclude h v o = ((s.concluded h v o).1.result, (s.concluded h v o).1.events,
      (s.concluded h v o).1.store s, (s.concluded h v o).2) := by
  cases o with
  | absent => rfl
  | failed f => rfl
  | present m =>
    simp only [conclude, concludePresent, current, Bool.not_true, Bool.false_eq_true, ↓reduceIte,
      concluded]
    cases (s.lint h v m).1.fault? with
    | none => rfl
    | some e =>
      dsimp only
      cases e.shown <;> rfl

theorem concluded_recalls (s : Session) (h : Host) (v : Validation) (o : Outcome) :
    h.Recalls (s.concluded h v o).2 := by
  have hsame : h.Recalls h := (Host.Alike.refl h).recalls
  cases o with
  | absent => exact hsame
  | failed f => exact hsame
  | present m =>
    have hlint := s.lint_recalls h v m
    simp only [concluded]
    split
    · split
      · exact hlint
      · exact hlint.trans ((Host.alike_note _ _ _).recalls)
    · exact hlint

/-- Validations of one document are concluded alike in sessions that judge alike, on machines that
are alike. -/
theorem concluded_congr (sessions : s.Alike s') (hosts : h.Alike h')
    (document : v'.document = v.document) (path : v'.path = v.path) (root : v'.root = v.root)
    (o : Outcome) : (s'.concluded h' v' o).1 = (s.concluded h v o).1 ∧
      (s.concluded h v o).2.Alike (s'.concluded h' v' o).2 := by
  cases o with
  | absent => exact ⟨by simp only [concluded, document], hosts⟩
  | failed f => exact ⟨by simp only [concluded, document, sessions.errorTypes], hosts⟩
  | present m =>
    have hmodule : h'.imports.module? m = h.imports.module? m := by rw [hosts.imports]
    have hlint := (lint_congr sessions.settings sessions.entryPoint document path root hosts.stays
      hmodule).1
    have hafter : (s.lint h v m).2.Alike (s'.lint h' v' m).2 := by
      refine Host.Alike.trans ((s.lint_alike h v m).symm.trans ?_) (s'.lint_alike h' v' m)
      rw [sessions.entryPoint, document, optionsFor_congr sessions.settings path root,
        hosts.imports]
      exact ⟨(h.stays_imports _).symm.trans (hosts.stays.trans (h'.stays_imports _)), rfl⟩
    simp only [concluded, hlint, document]
    split
    · split
      · exact ⟨rfl, hafter⟩
      · exact ⟨rfl, hafter.both (Host.alike_note _ _ _) (Host.alike_note _ _ _)⟩
    · exact ⟨rfl, hafter⟩

/-- The same of a module with a pure function, which may have been called. -/
theorem concluded_of_recalls (sessions : s.Alike s')
    (pure : ∀ m, o = .present m → h.imports.IsPureAt m) (hosts : h.Recalls h') (v : Validation) :
    (s'.concluded h' v o).1 = (s.concluded h v o).1 := by
  cases o with
  | absent => rfl
  | failed f => simp only [concluded, sessions.errorTypes]
  | present m =>
    have hlint : (s'.lint h' v m).1 = (s.lint h v m).1 := by
      simp only [lint_fst, sessions.entryPoint, sessions.settings,
        optionsFor_congr sessions.settings rfl rfl, hosts.stays.linter,
        LintModule.call_of_recalls (pure m rfl) hosts.imports]
    simp only [concluded, hlint]
    split
    · split <;> rfl
    · rfl

/-- The verdict on a document of a workspace that is resolved. -/
def verdict (s : Session) (root : String) (o : Outcome) (h : Host) (d : Document) :
    Verdict × Host :=
  match Uri.toPath? d.uri with
  | .ok (some path) => s.concluded h ⟨d, 0, path.toString, root⟩ o
  | _ => (.skipped d.uri, h)

variable {root : String} {d : Document}

@[simp] theorem verdict_uri (s : Session) (root : String) (o : Outcome) (h : Host) (d : Document) :
    (s.verdict root o h d).1.uri = d.uri := by
  simp only [verdict]
  split
  · simp only [concluded]
    split
    · rfl
    · rfl
    · split
      · split <;> rfl
      · rfl
  · rfl

/-- A verdict with a result has one about its document. -/
theorem uri_of_verdict {r : ValidationResult} (hr : (s.verdict root o h d).1.result = .ok r) :
    r.uri = d.uri := by
  simp only [verdict] at hr
  split at hr
  · simp only [concluded] at hr
    split at hr
    · exact Except.ok.inj hr ▸ rfl
    · exact Except.ok.inj hr ▸ rfl
    · split at hr
      · split at hr
        · cases hr
        · exact Except.ok.inj hr ▸ rfl
      · exact Except.ok.inj hr ▸ rfl
  · exact Except.ok.inj hr ▸ rfl

theorem verdict_of_skipped (hd : ¬ d.IsFile) :
    s.verdict root o h d = (.skipped d.uri, h) := by
  simp only [verdict]
  split
  · exact absurd ⟨_, ‹_›⟩ hd
  · rfl

/-- Only what is judged of a document of a file has a failure of the attempt as its cause. -/
theorem isFile_of_cause {r : ValidationResult} {f : Nat}
    (hr : (s.verdict root o h d).1.result = .ok r) (hf : r.cause = some (.resolution f)) :
    d.IsFile := by
  refine Decidable.byContradiction fun hskipped => ?_
  rw [verdict_of_skipped hskipped] at hr
  obtain rfl := Except.ok.inj hr
  simp [ValidationResult.plain] at hf

/-- A module that is called comes to a published list or to a fault while linting. -/
theorem result_of_present {r : ValidationResult}
    (hr : (s.concluded h v (.present m)).1.result = .ok r) :
    (∃ diagnostics, r = .published v.document.uri diagnostics) ∨
      ∃ e, r = .failed v.document.uri (.linting e) .lintCallError := by
  simp only [concluded] at hr
  split at hr
  · split at hr
    · cases hr
    · exact .inr ⟨_, (Except.ok.inj hr).symm⟩
  · exact .inl ⟨_, (Except.ok.inj hr).symm⟩

/-- Only a module that is called makes a validation raise a fault, one that cannot be shown. -/
theorem raised_of_verdict {e : Fault} (he : (s.verdict root o h d).1.result = .error e) :
    (∃ m, o = .present m) ∧ ∃ flaw, e = .unshown flaw := by
  simp only [verdict] at he
  split at he
  · simp only [concluded] at he
    split at he
    · cases he
    · cases he
    · rename_i m
      split at he
      · split at he
        · exact ⟨⟨m, rfl⟩, _, (Except.error.inj he).symm⟩
        · cases he
      · cases he
  · cases he

theorem verdict_recalls (s : Session) (root : String) (o : Outcome) (h : Host) (d : Document) :
    h.Recalls (s.verdict root o h d).2 := by
  simp only [verdict]
  split
  · exact s.concluded_recalls h _ o
  · exact (Host.Alike.refl h).recalls

theorem verdict_of_recalls (sessions : s.Alike s')
    (pure : d.IsFile → ∀ m, o = .present m → h.imports.IsPureAt m) (hosts : h.Recalls h')
    (root : String) : (s'.verdict root o h' d).1 = (s.verdict root o h d).1 := by
  simp only [verdict]
  split
  · rename_i path hpath
    exact concluded_of_recalls sessions (pure ⟨path, hpath⟩) hosts _
  · rfl

/-! ### Judging documents in order -/

/-- The verdicts on documents, one after the other. -/
def tally (s : Session) (root : String) (o : Outcome) (h : Host) :
    List Document → List Verdict × Host
  | [] => ([], h)
  | d :: ds =>
    let x := s.verdict root o h d
    let rest := tally s root o x.2 ds
    (x.1 :: rest.1, rest.2)

theorem tally_append (s : Session) (root : String) (o : Outcome) (h : Host) (ds : List Document)
    (d : Document) : s.tally root o h (ds ++ [d]) =
      ((s.tally root o h ds).1 ++ [(s.verdict root o (s.tally root o h ds).2 d).1],
        (s.verdict root o (s.tally root o h ds).2 d).2) := by
  induction ds generalizing h with
  | nil => rfl
  | cons d' ds ih =>
    simp only [List.cons_append, tally, ih]

theorem mem_tally (s : Session) (root : String) (o : Outcome) {h : Host} {ds : List Document}
    {x : Verdict} (hx : x ∈ (s.tally root o h ds).1) :
    ∃ d ∈ ds, ∃ h', x = (s.verdict root o h' d).1 := by
  induction ds generalizing h with
  | nil => simp [tally] at hx
  | cons d ds ih =>
    obtain rfl | hx := List.mem_cons.mp hx
    · exact ⟨d, List.mem_cons_self, h, rfl⟩
    · obtain ⟨d', hd', hverdict⟩ := ih hx
      exact ⟨d', List.mem_cons_of_mem _ hd', hverdict⟩

/-- There is one verdict on each document. -/
theorem tally_uris (s : Session) (root : String) (o : Outcome) (h : Host) (ds : List Document) :
    (s.tally root o h ds).1.map Verdict.uri = ds.map Document.uri := by
  induction ds generalizing h with
  | nil => rfl
  | cons d ds ih => simp only [tally, List.map_cons, verdict_uri, ih]

/-- A module with a pure function judges every document as if it were the first. -/
theorem tally_of_pure {ds : List Document} (root : String)
    (pure : ∀ d ∈ ds, d.IsFile → ∀ m, o = .present m → h.imports.IsPureAt m) :
    (s.tally root o h ds).1 = ds.map fun d => (s.verdict root o h d).1 := by
  have hlater : ∀ (ds : List Document) (h' : Host), h.Recalls h' →
      (∀ d ∈ ds, d.IsFile → ∀ m, o = .present m → h.imports.IsPureAt m) →
      (s.tally root o h' ds).1 = ds.map fun d => (s.verdict root o h d).1 := by
    intro ds
    induction ds with
    | nil => exact fun _ _ _ => rfl
    | cons d ds ih =>
      intro h' hosts pure
      obtain ⟨hd, hds⟩ := List.forall_mem_cons.mp pure
      simp only [tally, List.map_cons, verdict_of_recalls (.of_eq rfl rfl) hd hosts,
        ih _ (hosts.trans (s.verdict_recalls root o h' d)) hds]
  exact hlater ds h (Host.Alike.refl h).recalls pure

end Session

/-! ### Verdicts by document -/

namespace Verdict

/-- The verdict on the document of a URI. -/
def on? (xs : List Verdict) (uri : String) : Option Verdict :=
  (xs.map fun x => (x.uri, x)).lookup uri

variable {xs xs' : List Verdict} {x : Verdict} {uri : String}

theorem mem_of_on? (h : on? xs uri = some x) : x ∈ xs ∧ x.uri = uri := by
  obtain ⟨x', hx', heq⟩ := List.mem_map.mp (Table.mem_of_lookup h)
  obtain ⟨rfl, rfl⟩ := Prod.mk.inj heq
  exact ⟨hx', rfl⟩

theorem on?_of_mem (hn : (xs.map Verdict.uri).Nodup) (hx : x ∈ xs) :
    on? xs x.uri = some x := by
  have hkeys : ((xs.map fun x => (x.uri, x)).map Prod.fst).Nodup := by
    simpa [List.map_map, Function.comp_def] using hn
  exact Table.lookup_of_mem hkeys (List.mem_map_of_mem hx)

theorem on?_cons (x : Verdict) (xs : List Verdict) (uri : String) :
    on? (x :: xs) uri = if uri = x.uri then some x else on? xs uri := by
  simp only [on?, List.map_cons, Table.lookup_cons, beq_iff_eq]

/-- No verdict is on a document that is none of these. -/
theorem on?_eq_none (h : uri ∉ xs.map Verdict.uri) : on? xs uri = none := by
  cases hx : on? xs uri with
  | none => rfl
  | some x =>
    obtain ⟨hmem, rfl⟩ := mem_of_on? hx
    exact absurd (List.mem_map_of_mem hmem) h

/-- The verdict on a document is the same in whatever order the verdicts stand. -/
theorem on?_congr (hn : (xs.map Verdict.uri).Nodup)
    (hn' : (xs'.map Verdict.uri).Nodup) (h : ∀ x, x ∈ xs' ↔ x ∈ xs) (uri : String) :
    on? xs' uri = on? xs uri := by
  cases hx : on? xs uri with
  | some x =>
    obtain ⟨hmem, rfl⟩ := mem_of_on? hx
    exact on?_of_mem hn' ((h x).mpr hmem)
  | none =>
    cases hx' : on? xs' uri with
    | none => rfl
    | some x =>
      obtain ⟨hmem, rfl⟩ := mem_of_on? hx'
      rw [on?_of_mem hn ((h x).mp hmem)] at hx
      simp at hx

/-- The list that is shown for a document is that of the verdict on it. -/
theorem lastList_events (hn : (xs.map Verdict.uri).Nodup) (uri : String) :
    Event.lastList (xs.flatMap events) uri =
      (on? xs uri).bind fun x => x.shown.map Prod.fst := by
  induction xs with
  | nil => rfl
  | cons x xs ih =>
    obtain ⟨hx, hn⟩ := List.nodup_cons.mp hn
    rw [List.flatMap_cons, Event.lastList_append, ih hn, on?_cons]
    by_cases huri : uri = x.uri
    · subst huri
      rw [on?_eq_none hx, if_pos rfl, events]
      cases hs : x.shown <;> simp [hs]
    · rw [if_neg huri, events]
      cases x.shown <;> simp [Event.lastList_publish_of_ne _ (Ne.symm huri)]

theorem fixes_store (x : Verdict) (s : Session) (uri : String) : (x.store s).fixes.lookup uri =
    ((if uri = x.uri then x.shown.map Prod.snd else none).or (s.fixes.lookup uri)) := by
  simp only [store]
  by_cases huri : uri = x.uri
  · subst huri
    cases x.shown <;> simp [Session.fixes_storeFixes_self]
  · cases x.shown <;> simp [huri, Session.fixes_storeFixes_of_ne]

/-- The quick fixes of a document are those of the verdict on it, or stay what they were. -/
theorem fixes_stores (hn : (xs.map Verdict.uri).Nodup) (s : Session) (uri : String) :
    (xs.foldl (fun s x => x.store s) s).fixes.lookup uri =
      ((on? xs uri).bind fun x => x.shown.map Prod.snd).or (s.fixes.lookup uri) := by
  induction xs generalizing s with
  | nil => rfl
  | cons x xs ih =>
    obtain ⟨hx, hn⟩ := List.nodup_cons.mp hn
    rw [List.foldl_cons, ih hn, fixes_store, on?_cons]
    by_cases huri : uri = x.uri
    · subst huri
      simp [on?_eq_none hx]
    · simp [huri]

end Verdict

end LintBridge

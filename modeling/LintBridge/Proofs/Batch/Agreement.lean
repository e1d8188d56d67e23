import LintBridge.Proofs.Batch.InTurn

/-! Documents that are validated together and documents that are validated one after the other come
to the same: the same results, the same lists and quick fixes, and the same calls in which the user
is told of a failure. There is one exception. If no text can be made of the error with which the
function that judges them fails, the validation of that document raises a fault; then a batch has no
results at all, and in turn the other documents have theirs. -/

namespace LintBridge

theorem Event.lastList_filter (events : List Event) (uri : String) :
    lastList (events.filter isList) uri = lastList events uri := by
  induction events with
  | nil => rfl
  | cons e events ih =>
    rw [← List.singleton_append, List.filter_append, lastList_append, lastList_append, ih]
    cases e <;> rfl

namespace Loop

/-- The list that a document has last is that of the verdict on it, or stays what it was. -/
theorem lastList_of_lists {start l : Loop} {xs : List Verdict}
    (hn : (xs.map Verdict.uri).Nodup)
    (lists : l.lists = start.lists ++ xs.flatMap Verdict.events) (uri : String) :
    Event.lastList l.events uri = ((Verdict.on? xs uri).bind fun x => x.shown.map Prod.fst).or
      (Event.lastList start.events uri) := by
  rw [← Event.lastList_filter, ← Event.lastList_filter start.events, ← Verdict.lastList_events hn,
    ← Event.lastList_append]
  exact congrArg (Event.lastList · uri) lists

end Loop

namespace Batch

open Loop

variable {b : Batch} {judged : List Document} {l : Loop}

theorem Ended.lists (h : b.Ended judged l) :
    l.lists = b.start.lists ++ (b.tally judged).1.flatMap Verdict.events := by
  have hlists : ∀ xs : List Verdict, (xs.flatMap Verdict.events).filter Event.isList =
      xs.flatMap Verdict.events := by
    intro xs
    induction xs with
    | nil => rfl
    | cons x xs ih => rw [List.flatMap_cons, List.filter_append, isList_events, ih]
  have hshown : ((b.told judged).toList.flatMap (shown b.start.asksQuestions)).filter
      Event.isList = [] := by
    cases b.told judged with
    | none => rfl
    | some n =>
      simp only [Option.toList_some, List.flatMap_singleton, shown]
      split <;> rfl
  rw [Loop.lists, h.events, List.filter_append, List.filter_append, hshown, hlists,
    List.append_nil]
  rfl

theorem InTurn.resolver_of_file (h : b.InTurn judged l) (hfile : ∃ d ∈ judged, d.IsFile) :
    l.session.resolver = b.marked judged ∧ (b.tally judged).2.Alike l.host := by
  obtain ⟨d, hd, hisFile⟩ := hfile
  cases h.rests with
  | unasked _ _ _ _ skipped => exact absurd hisFile (skipped d hd)
  | settled resolver host => exact ⟨resolver, host⟩

theorem told_length_le (b : Batch) (judged : List Document) :
    ((b.told judged).toList.map Prod.snd).length ≤ 1 := by
  cases b.told judged <;> simp

theorem eq_of_perm_of_length_le {α : Type} {as as' : List α} (h : as.Perm as')
    (hle : as'.length ≤ 1) : as = as' := by
  match as', hle with
  | [], _ => exact h.eq_nil
  | [a], _ => exact h.eq_singleton

/-- A batch has a result for each document that was judged as it would have been in order. -/
theorem results_eq (b : Batch) {judged : List Document}
    (hon : ∀ uri, Verdict.on? (b.tally judged).1 uri = Verdict.on? (b.tally b.documents).1 uri) :
    b.results judged = (b.tally b.documents).1.filterMap fun x => x.result.toOption := by
  have hn : ((b.tally b.documents).1.map Verdict.uri).Nodup := by
    rw [uris_tally]
    exact b.distinct
  calc b.results judged
      = (b.documents.map Document.uri).filterMap fun uri =>
          (Verdict.on? (b.tally b.documents).1 uri).bind fun x => x.result.toOption := by
        simp only [results, hon, List.filterMap_map, Function.comp_def]
    _ = (b.tally b.documents).1.filterMap fun x =>
          (Verdict.on? (b.tally b.documents).1 x.uri).bind fun x => x.result.toOption := by
        rw [← b.uris_tally, List.filterMap_map]
        rfl
    _ = (b.tally b.documents).1.filterMap fun x => x.result.toOption :=
        List.filterMap_congr fun x hx => by rw [Verdict.on?_of_mem hn hx, Option.bind_some]

/-- The results are about the documents, in their order. -/
theorem uris_results (b : Batch) (sound : ∀ x ∈ (b.tally b.documents).1, ∃ r, x.result = .ok r) :
    ((b.tally b.documents).1.filterMap fun x => x.result.toOption).map ValidationResult.uri =
      b.documents.map Document.uri := by
  rw [← b.uris_tally, ← List.filterMap_eq_map, List.filterMap_filterMap, ← List.filterMap_eq_map]
  refine List.filterMap_congr fun x hx => ?_
  obtain ⟨r, hr⟩ := sound x hx
  obtain ⟨d, -, host, rfl⟩ := Session.mem_tally _ _ _ hx
  simp [hr, Except.toOption, Session.uri_of_verdict hr]

/-- A pure function judges a document alike wherever it stands. -/
theorem mem_tally_of_pure (b : Batch) {judged judged' : List Document}
    (pure : ∀ d ∈ b.documents, d.IsFile → ∀ m, b.outcome = .present m →
      b.resolved.host.imports.IsPureAt m)
    (known : ∀ d ∈ judged, d ∈ b.documents) (known' : ∀ d ∈ judged', d ∈ b.documents)
    (sub : ∀ d ∈ judged, d ∈ judged') {x : Verdict} (hx : x ∈ (b.tally judged).1) :
    x ∈ (b.tally judged').1 := by
  have htally : (b.tally judged).1 = _ := Session.tally_of_pure _ fun d hd => pure d (known d hd)
  have htally' : (b.tally judged').1 = _ :=
    Session.tally_of_pure _ fun d hd => pure d (known' d hd)
  rw [htally] at hx
  rw [htally']
  obtain ⟨d, hd, rfl⟩ := List.mem_map.mp hx
  exact List.mem_map_of_mem (sub d hd)

end Batch

namespace Loop

/-- What documents come to that are validated together by this task is what they come to one after
the other: each has the same result with the same error, and the same list and the same quick fixes
are shown for it. -/
structure Agree (together : Loop) (t : Nat) (apart : Loop × List (Option TaskResult))
    (documents : List Document) : Prop where
  results : ∃ rs, together.result? t = some (.validations rs) ∧
    apart.2 = rs.map (fun r => some (.validation r)) ∧
    rs.map ValidationResult.uri = documents.map Document.uri ∧
    ∀ r ∈ rs, ∀ f, r.cause = some (.resolution f) →
      apart.1.session.resolver.failure? f = together.session.resolver.failure? f
  lists : ∀ uri, Event.lastList apart.1.events uri = Event.lastList together.events uri
  fixes : ∀ uri, apart.1.session.fixesOf uri = together.session.fixesOf uri

end Loop

namespace Batch

open Loop

variable {b : Batch} {judged : List Document} {l : Loop}

/-- A batch that ends with results comes to the same as the same documents one after the other, none
of which raises a fault, if the function that judges them is pure. -/
theorem agrees (b : Batch) {together : Loop} (h : b.Ended judged together)
    (pure : ∀ d ∈ b.documents, d.IsFile → ∀ m, b.outcome = .present m →
      b.resolved.host.imports.IsPureAt m) :
    let apart := b.start.validateInTurn b.documents
    Agree together b.parent apart b.documents ∧ (∀ e, some (.raised e) ∉ apart.2) ∧
      toldSince b.start apart.1 = toldSince b.start together := by
  intro apart
  obtain ⟨hinTurn, hresults⟩ := b.inTurn
  have hall := h.all
  have hn : ((b.tally judged).1.map Verdict.uri).Nodup := by
    rw [uris_tally, (hall.map Document.uri).nodup_iff]
    exact b.distinct
  have hn' : ((b.tally b.documents).1.map Verdict.uri).Nodup := by
    rw [uris_tally]
    exact b.distinct
  have hmem : ∀ x, x ∈ (b.tally b.documents).1 ↔ x ∈ (b.tally judged).1 := fun x =>
    ⟨b.mem_tally_of_pure pure (fun _ hd => hd) (fun _ => hall.mem_iff.mp) fun _ => hall.mem_iff.mpr,
      b.mem_tally_of_pure pure (fun _ => hall.mem_iff.mp) (fun _ hd => hd) fun _ => hall.mem_iff.mp⟩
  have hon : ∀ uri, Verdict.on? (b.tally b.documents).1 uri =
      Verdict.on? (b.tally judged).1 uri := Verdict.on?_congr hn hn' hmem
  have hsound : ∀ x ∈ (b.tally b.documents).1, ∃ r, x.result = .ok r :=
    fun x hx => h.sound x ((hmem x).mp hx)
  have htold : b.told b.documents = b.told judged := b.told_congr fun d => hall.mem_iff.symm
  have hrs := b.results_eq fun uri => (hon uri).symm
  have hapart : apart.2 = (b.results judged).map fun r => some (.validation r) := by
    have hended := congrArg (List.map some) (Verdict.map_ended hsound)
    rw [List.map_map, List.map_map] at hended
    rw [hresults, hrs]
    exact hended
  refine ⟨⟨⟨_, h.result, hapart, ?_, ?_⟩, fun uri => ?_, fun uri => ?_⟩, fun e he => ?_, ?_⟩
  · rw [hrs]
    exact b.uris_results hsound
  · intro r hr f hf
    rw [hrs] at hr
    obtain ⟨x, hx, hr⟩ := List.mem_filterMap.mp hr
    obtain ⟨d, hd, host, rfl⟩ := Session.mem_tally _ _ _ hx
    obtain ⟨r', hr'⟩ := hsound _ hx
    obtain rfl : r' = r := by simpa [hr', Except.toOption] using hr
    have hisFile := Session.isFile_of_cause hr' hf
    rw [(hinTurn.resolver_of_file ⟨d, hd, hisFile⟩).1,
      h.resolver ⟨d, hall.mem_iff.mpr hd, hisFile⟩, marked, marked, htold]
  · rw [lastList_of_lists hn' hinTurn.lists, lastList_of_lists hn h.lists, hon]
  · rw [Session.fixesOf, Session.fixesOf, hinTurn.fixes, h.fixes, Verdict.fixes_stores hn',
      Verdict.fixes_stores hn, hon]
  · rw [hapart] at he
    simp at he
  · have htogether := h.calls.toldSince
    have hcalls := hinTurn.calls.toldSince
    rw [htold] at hcalls
    rw [eq_of_perm_of_length_le htogether (b.told_length_le _),
      eq_of_perm_of_length_le hcalls (b.told_length_le _)]

/-- A batch that ends with a fault ends with that of one of its documents, one after the other, if
the function that judges them is pure. The user is told nothing. -/
theorem raises (b : Batch) {together : Loop} {e : Fault} (h : b.Failed judged e together)
    (pure : ∀ d ∈ b.documents, d.IsFile → ∀ m, b.outcome = .present m →
      b.resolved.host.imports.IsPureAt m) :
    let apart := b.start.validateInTurn b.documents
    some (.raised e) ∈ apart.2 ∧ (∃ flaw, e = .unshown flaw) ∧
      toldSince b.start apart.1 = toldSince b.start together := by
  intro apart
  obtain ⟨hinTurn, hresults⟩ := b.inTurn
  obtain ⟨x, hx, he⟩ := h.raised
  have hx' := b.mem_tally_of_pure pure h.known (fun _ hd => hd) h.known hx
  obtain ⟨d, -, host, rfl⟩ := Session.mem_tally _ _ _ hx
  refine ⟨?_, (Session.raised_of_verdict he).2, ?_⟩
  · rw [hresults, List.mem_map]
    exact ⟨_, hx', congrArg some (Verdict.ended_eq_raised.mpr he)⟩
  · have htold : b.told b.documents = none := by
      rw [told, b.notice_of_raised he, ite_self]
    have hcalls := hinTurn.calls.toldSince
    rw [htold] at hcalls
    rw [h.calls.toldSince.eq_nil, hcalls.eq_nil]

end Batch

namespace Loop

variable {ws : List (Nat × Nat)} {l : Loop}

/-- No task reports to one that is still to be added. -/
theorem Gathers.listener?_length (h : Gathers none l) (c : Nat) :
    l.listener? c ≠ some (.task l.tasks.length) := by
  intro hc
  obtain ⟨task, htask, hl⟩ := Option.map_eq_some_iff.mp hc
  obtain ⟨-, hstands⟩ := h.child c task _ htask hl
  obtain ⟨s, hs, -⟩ := hstands (by simp)
  exact Nat.lt_irrefl _ (stage?_lt hs)

theorem accepted_of_all {documents : List Document}
    (h : (documents.all fun d => (Uri.toPath? d.uri).toOption.isSome) = true) :
    ∀ d ∈ documents, ∃ path, Uri.toPath? d.uri = .ok path := by
  intro d hd
  have hpath := List.all_eq_true.mp h d hd
  cases hp : Uri.toPath? d.uri with
  | error e => simp [hp, Except.toOption] at hpath
  | ok path => exact ⟨path, rfl⟩

/-- A session in which one file has been validated. -/
def validatedOnce : Loop :=
  (fresh .withModule (.fresh (some "/w") .standard (.fresh "marlint" "lint_text" none false))
    .nowhere false).ownAfter
      (.begin (.validateSingle ⟨"file:///w/a.js", "let x", .null⟩) :: .replicate 5 (.turn 0))

end Loop

end LintBridge

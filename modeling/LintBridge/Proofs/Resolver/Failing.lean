import LintBridge.Proofs.Resolver.Sharing

/-! What an attempt can fail with. A search or a manifest fails with a fault whose text does not end
in a full stop, so it is never the text of a missing module, the one fault after which trying again
can help: failures with one text agree on that. Every attempt that fails records a failure of its
own, which the user has not been told of. -/

namespace LintBridge

/-- A text that is not empty and does not end in a full stop. -/
def IsUnstopped (s : String) : Prop :=
  ∃ c, s.toList.getLast? = some c ∧ c ≠ '.'

theorem IsUnstopped.append (s : String) {t : String} (h : IsUnstopped t) :
    IsUnstopped (s ++ t) := by
  obtain ⟨c, hc, hne⟩ := h
  exact ⟨c, by rw [String.toList_append, List.getLast?_append, hc]; rfl, hne⟩

theorem isUnstopped_quoted (s : String) : IsUnstopped (Text.quoted s) := by
  refine ⟨Text.quoteMark s.toList, ?_, ?_⟩
  · rw [Text.quoted, String.toList_ofList, ← List.cons_append, List.getLast?_append]
    rfl
  · unfold Text.quoteMark
    split <;> decide

namespace Fault

/-- A fault that has a text, which does not end in a full stop, and after which it is not known that
trying again can help. -/
structure IsPlain (e : Fault) : Prop where
  shown : e.shown = .ok e.message
  retry : e.retry? = none
  text : IsUnstopped e.message

/-- What an attempt of a resolver fails with. -/
inductive IsOfAttempt : Fault → Prop where
  | plain (e : Fault) (h : e.IsPlain) : IsOfAttempt e
  | missing (name : String) : IsOfAttempt (.moduleMissing name)
  | malformed (entryPoint : String) : IsOfAttempt (.moduleMalformed entryPoint)

/-! ### What can go wrong with files -/

theorem isPlain_file (flaw : FileFlaw) (path : String) : (file flaw path).IsPlain := by
  refine ⟨rfl, rfl, ?_⟩
  cases flaw with
  | nullCharacter =>
    show IsUnstopped "embedded null byte"
    exact ⟨'e', rfl, by decide⟩
  | _ => exact (isUnstopped_quoted path).append _

theorem isUnstopped_utf8 (e : Text.Utf8Error) : IsUnstopped e.message := by
  have hflaw : IsUnstopped e.flaw.message := by
    cases e.flaw with
    | unexpectedEnd => exact ⟨'a', rfl, by decide⟩
    | _ => exact ⟨'e', rfl, by decide⟩
  unfold Text.Utf8Error.message
  dsimp only
  split
  · exact hflaw.append _
  · exact hflaw.append _

theorem isUnstopped_malformed (flaw : Json.Flaw) (place : Json.Place) :
    IsUnstopped (Json.ReadError.malformed flaw place).message :=
  IsUnstopped.append _ ⟨')', rfl, by decide⟩

theorem isUnstopped_json (e : Json.ReadError) : IsUnstopped e.message := by
  cases e with
  | malformed flaw place => exact isUnstopped_malformed flaw place
  | hugeNumber digits => exact IsUnstopped.append _ ⟨'t', rfl, by decide⟩
  | tooDeep array => exact IsUnstopped.append _ ⟨'g', rfl, by decide⟩

theorem isPlain_noMember (typeName member : String) : (noMember typeName member).IsPlain :=
  ⟨rfl, rfl, IsUnstopped.append _ ⟨'\'', rfl, by decide⟩⟩

theorem isPlain_noJoin (typeName : String) : (noJoin typeName).IsPlain :=
  ⟨rfl, rfl, IsUnstopped.append _ ⟨'\'', rfl, by decide⟩⟩

theorem isPlain_notMapping (typeName : String) : (notMapping typeName).IsPlain :=
  ⟨rfl, rfl, IsUnstopped.append _ ⟨'g', rfl, by decide⟩⟩

theorem isPlain_unknownSetting (group key : String) : (unknownSetting group key).IsPlain :=
  ⟨rfl, rfl, IsUnstopped.append _ (IsUnstopped.append _ ⟨'\'', rfl, by decide⟩)⟩

theorem isPlain_unshown (flaw : Json.ShowFlaw) : (unshown flaw).IsPlain := by
  refine ⟨rfl, rfl, ?_⟩
  cases flaw with
  | tooManyDigits => exact ⟨'t', by decide +kernel, by decide⟩
  | tooDeep => exact ⟨'t', rfl, by decide⟩

/-- What a configuration file is refused for is told at the end. -/
theorem IsPlain.config {cause : Fault} (h : cause.IsPlain) (path : String) :
    (config path cause).IsPlain :=
  ⟨rfl, rfl, h.text.append _⟩

theorem isPlain_readText {fs : FileSystem} {path : String} {e : Fault}
    (h : fs.readText path = .error e) : e.IsPlain := by
  unfold FileSystem.readText at h
  split at h
  · obtain rfl := Except.error.inj h
    exact isPlain_file _ _
  · split at h
    · obtain rfl := Except.error.inj h
      exact ⟨rfl, rfl, isUnstopped_utf8 _⟩
    · simp at h

theorem isPlain_probe {fs : FileSystem} {path : String} {wanted : Node → Bool} {e : Fault}
    (h : fs.probe path wanted = .error e) : e.IsPlain := by
  unfold FileSystem.probe at h
  split at h
  · simp at h
  · obtain rfl := Except.error.inj h
    exact isPlain_file _ _
  · simp at h

/-! ### What can go wrong with a configuration -/

theorem isPlain_merged {defaults : Members} {given : Option Json} {e : Fault}
    (h : Config.merged defaults given = .error e) : e.IsPlain := by
  unfold Config.merged at h
  split at h
  · simp at h
  · simp at h
  · obtain rfl := Except.error.inj h
    exact isPlain_notMapping _

theorem isPlain_checkKeys {group : String} {known : List String} {members : Members} {e : Fault}
    (h : Config.checkKeys group known members = .error e) : e.IsPlain := by
  unfold Config.checkKeys at h
  split at h
  · simp at h
  · obtain rfl := Except.error.inj h
    exact isPlain_unknownSetting _ _

theorem isPlain_bind {α β : Type} {x : Except Fault α} {f : α → Except Fault β} {e : Fault}
    (h : x >>= f = .error e) (hx : ∀ e, x = .error e → e.IsPlain)
    (hf : ∀ a e, f a = .error e → e.IsPlain) : e.IsPlain := by
  cases x with
  | error e' => exact hx e (congrArg Except.error (Except.error.inj h))
  | ok a => exact hf a e h

theorem isPlain_content {fs : FileSystem} {path : String} {e : Fault}
    (h : Config.content fs path = .error e) : e.IsPlain := by
  unfold Config.content at h
  split at h
  · refine isPlain_bind h (fun _ => isPlain_readText) fun text e h => ?_
    split at h
    · simp at h
    · obtain rfl := Except.error.inj h
      exact ⟨rfl, rfl, isUnstopped_json _⟩
  · simp at h

theorem isPlain_ofContent {home path : String} {content : Json} {e : Fault}
    (h : Config.ofContent home path content = .error e) : e.IsPlain := by
  unfold Config.ofContent at h
  split at h
  · refine isPlain_bind h (fun _ => isPlain_merged) fun logging e h => ?_
    refine isPlain_bind h (fun _ => isPlain_merged) fun linter e h => ?_
    refine isPlain_bind h (fun _ => isPlain_checkKeys) fun _ e h => ?_
    refine isPlain_bind h (fun _ => isPlain_checkKeys) fun _ e h => ?_
    simp [pure, Except.pure] at h
  · obtain rfl := Except.error.inj h
    exact isPlain_noMember _ _

theorem isPlain_config {fs : FileSystem} {home path : String} {e : Fault}
    (h : Config.read fs home path = .error e) : e.IsPlain := by
  unfold Config.read at h
  split at h
  · simp at h
  · rename_i cause hcause
    obtain rfl := Except.error.inj h
    exact (isPlain_bind hcause (fun _ => isPlain_content) fun _ _ => isPlain_ofContent).config path

theorem isPlain_linterConfig {h : Host} {e : Fault} (he : h.linterConfig.1 = .error e) :
    e.IsPlain := by
  simp only [Host.linterConfig, Host.currentConfig, Host.readConfig] at he
  split at he
  · simp [Except.map] at he
  · split at he
    · rename_i cause hcause
      obtain rfl := Except.error.inj he
      exact isPlain_config hcause
    · simp [Except.map] at he

/-! ### What can go wrong with a manifest -/

theorem isPlain_load {fs : FileSystem} {path : String} {e : Fault}
    (h : Manifest.load fs path = .error e) : e.IsPlain := by
  unfold Manifest.load at h
  refine isPlain_bind h (fun _ => isPlain_probe) fun there e h => ?_
  split at h
  · refine isPlain_bind h (fun _ => isPlain_readText) fun text e h => ?_
    simp [pure, Except.pure] at h
  · simp [pure, Except.pure] at h

theorem isPlain_manifest {fs : FileSystem} {path : String} {e : Fault}
    (h : Manifest.read fs path = .error e) : e.IsPlain := by
  unfold Manifest.read at h
  refine isPlain_bind h (fun _ => isPlain_load) fun loaded e h => ?_
  split at h
  · simp [pure, Except.pure] at h
  · simp [pure, Except.pure] at h
  · obtain rfl := Except.error.inj h
    exact ⟨rfl, rfl, IsUnstopped.append _ ⟨'t', rfl, by decide⟩⟩
  · obtain rfl := Except.error.inj h
    exact ⟨rfl, rfl, (isUnstopped_malformed _ _).append _⟩
  · obtain rfl := Except.error.inj h
    exact ⟨rfl, rfl, isUnstopped_json _⟩

theorem isPlain_declares {h : Host} {root package : String} {e : Fault}
    (he : (Workspace.declares h root package).1 = .error e) : e.IsPlain := by
  have hname : ∀ e, (Workspace.manifestName h .null).1 = .error e → e.IsPlain := by
    intro e he
    simp only [Workspace.manifestName] at he
    split at he
    · simp at he
    · cases hl : h.linterConfig.1 with
      | ok l => simp [hl, Except.map] at he
      | error e' =>
        obtain rfl : e' = e := by simpa [hl, Except.map] using he
        exact isPlain_linterConfig hl
  simp only [Workspace.declares] at he
  split at he
  · rename_i e' h' hn
    obtain rfl := Except.error.inj he
    exact hname _ (by rw [hn])
  · simp only [Workspace.declaresIn, Workspace.dependencies] at he
    split at he
    · rename_i e' hpath
      obtain rfl : e' = e := by simpa [Except.map] using he
      unfold Workspace.manifestPath at hpath
      split at hpath
      · simp at hpath
      · obtain rfl := Except.error.inj hpath
        exact isPlain_noJoin _
    · split at he
      · rename_i e' hread
        obtain rfl : e' = e := by simpa [Except.map] using he
        exact isPlain_manifest hread
      · simp [Except.map] at he
      · simp [Except.map] at he

/-! ### What can go wrong with a search -/

theorem isPlain_findIn {fs : FileSystem} {name directory : String} {e : Fault}
    (h : LintModule.findIn fs name directory = .error e) : e.IsPlain := by
  unfold LintModule.findIn at h
  split at h
  · obtain rfl := Except.error.inj h
    exact isPlain_file _ _
  · split at h
    · simp at h
    · dsimp only at h
      split at h
      · simp at h
      · split at h
        · simp at h
        · split at h <;> simp at h

theorem isPlain_find {fs : FileSystem} {name : String} {paths : List String} {e : Fault}
    (h : LintModule.find fs name paths = .error e) : e.IsPlain := by
  induction paths generalizing e with
  | nil => simp [LintModule.find] at h
  | cons directory rest ih =>
    unfold LintModule.find at h
    refine isPlain_bind h (fun _ => isPlain_findIn) fun finding e h => ?_
    split at h
    · simp [pure, Except.pure] at h
    · refine isPlain_bind h (fun _ => ih) fun later e h => ?_
      split at h <;> simp [pure, Except.pure] at h
    · exact ih h

theorem isPlain_filterM {fs : FileSystem} {wanted : Node → Bool} {paths : List String} {e : Fault}
    (h : paths.filterM (fs.probe · wanted) = .error e) : e.IsPlain := by
  have haux : ∀ (paths acc : List String) (e : Fault),
      List.filterAuxM (fs.probe · wanted) paths acc = .error e → e.IsPlain := by
    intro paths
    induction paths with
    | nil => intro acc e h; simp [List.filterAuxM, pure, Except.pure] at h
    | cons path paths ih =>
      intro acc e h
      unfold List.filterAuxM at h
      exact isPlain_bind h (fun _ => isPlain_probe) fun kept e h => ih _ e h
  unfold List.filterM at h
  refine isPlain_bind h (haux paths []) fun kept e h => ?_
  simp [pure, Except.pure] at h

theorem isPlain_sitePackages {fs : FileSystem} {environment : String} {e : Fault}
    (h : LintModule.sitePackages fs environment = .error e) : e.IsPlain := by
  unfold LintModule.sitePackages at h
  refine isPlain_bind h (fun _ => isPlain_probe) fun there e h => ?_
  split at h
  · simp [pure, Except.pure] at h
  · refine isPlain_bind h (fun _ => isPlain_probe) fun library e h => ?_
    refine isPlain_bind h (fun _ => isPlain_filterM) fun kept e h => ?_
    refine isPlain_bind h (fun _ => isPlain_probe) fun plain e h => ?_
    simp [pure, Except.pure] at h

theorem isPlain_searchPaths {fs : FileSystem} {modulePath : Option String} {root : String}
    {e : Fault} (h : LintModule.searchPaths fs modulePath root = .error e) : e.IsPlain := by
  unfold LintModule.searchPaths at h
  refine isPlain_bind h (fun _ => isPlain_sitePackages) fun first e h => ?_
  refine isPlain_bind h (fun _ => isPlain_sitePackages) fun second e h => ?_
  simp [pure, Except.pure] at h

theorem isPlain_resolverFind {r : Resolver} {h : Host} {root : String} {e : Fault}
    (he : (r.find h root).1 = .error e) : e.IsPlain := by
  have hmap : ∀ {x : Except Fault LintModule.Finding} {e : Fault},
      x.map Resolver.fileOf = .error e → x = .error e := by
    intro x e h
    cases x with
    | error e' => exact congrArg Except.error (Except.error.inj h)
    | ok f => simp [Except.map] at h
  simp only [Resolver.find] at he
  split at he
  · split at he
    · exact isPlain_find (hmap he)
    · simp at he
  · have hspace := hmap he
    unfold Resolver.findInWorkspace at hspace
    exact isPlain_bind hspace (fun _ => isPlain_searchPaths) fun _ _ => isPlain_find

/-! ### Texts -/

theorem missing_text (name : String) :
    (moduleMissing name).message.toList.head? = some 'F' ∧
      (moduleMissing name).message.toList.getLast? = some '.' := by
  simp only [message, message?, Option.getD_some, String.toList_append, List.head?_append,
    List.getLast?_append]
  exact ⟨rfl, rfl⟩

theorem malformed_text (entryPoint : String) :
    (moduleMalformed entryPoint).message.toList.head? = some 'M' := by
  simp only [message, message?, Option.getD_some, String.toList_append, List.head?_append]
  rfl

/-- Is a text of this form one after which trying again can help? -/
def answer (text : String) : Bool :=
  text.toList.head? == some 'F' && text.toList.getLast? == some '.'

/-- The text of a fault tells whether trying again can help. -/
theorem IsOfAttempt.retry_eq_answer {e : Fault} (h : e.IsOfAttempt) :
    (e.retry? == some true) = answer e.message := by
  unfold answer
  cases h with
  | plain e h =>
    obtain ⟨c, hc, hne⟩ := h.text
    rw [h.retry, hc]
    simp [hne]
  | missing name =>
    rw [(missing_text name).1, (missing_text name).2]
    rfl
  | malformed entryPoint =>
    rw [malformed_text entryPoint]
    rfl

theorem IsOfAttempt.shown {e : Fault} (h : e.IsOfAttempt) : e.shown = .ok e.message := by
  cases h with
  | plain e h => exact h.shown
  | missing name => rfl
  | malformed entryPoint => rfl

theorem IsOfAttempt.message_ne {e : Fault} (h : e.IsOfAttempt) : e.message ≠ "" := by
  intro hnone
  cases h with
  | plain e h =>
    obtain ⟨c, hc, -⟩ := h.text
    rw [hnone] at hc
    simp at hc
  | missing name =>
    have htext := (missing_text name).1
    rw [hnone] at htext
    simp at htext
  | malformed entryPoint =>
    have htext := malformed_text entryPoint
    rw [hnone] at htext
    simp at htext

end Fault

/-! ### Failures -/

/-- A failure with which an attempt of a resolver ended. -/
def Failure.IsOfAttempt (x : Failure) : Prop :=
  ∃ e told, e.IsOfAttempt ∧ x = { Failure.of e with surfaced := told }

namespace Failure

variable {x : Failure}

theorem isOfAttempt_of {e : Fault} (h : e.IsOfAttempt) : (Failure.of e).IsOfAttempt :=
  ⟨e, false, h, rfl⟩

theorem IsOfAttempt.surfaced (h : x.IsOfAttempt) (told : Bool) :
    ({ x with surfaced := told } : Failure).IsOfAttempt := by
  obtain ⟨e, -, he, rfl⟩ := h
  exact ⟨e, told, he, rfl⟩

theorem IsOfAttempt.retry (h : x.IsOfAttempt) : x.retry = (x.fault.retry? == some true) := by
  obtain ⟨e, told, -, rfl⟩ := h
  rfl

theorem IsOfAttempt.errorType (h : x.IsOfAttempt) : x.errorType ≠ some .lintCallError := by
  obtain ⟨e, told, -, rfl⟩ := h
  cases e <;> simp [Failure.of, Fault.errorType?]

theorem IsOfAttempt.shown (h : x.IsOfAttempt) : x.fault.shown = .ok x.fault.message := by
  obtain ⟨e, told, he, rfl⟩ := h
  exact he.shown

theorem IsOfAttempt.message_ne (h : x.IsOfAttempt) : x.fault.message ≠ "" := by
  obtain ⟨e, told, he, rfl⟩ := h
  exact he.message_ne

/-- Failures with one text agree on whether trying again can help. -/
theorem IsOfAttempt.retry_eq_answer (h : x.IsOfAttempt) :
    x.retry = Fault.answer x.fault.message := by
  obtain ⟨e, told, he, rfl⟩ := h
  exact he.retry_eq_answer

end Failure

namespace Resolver

variable {r : Resolver} {h : Host} {id : Nat}

/-- No attempt that had not failed fails. -/
structure FailsNone (r r' : Resolver) : Prop where
  failures : r'.failures = r.failures
  outcome : ∀ id f, r'.outcome? id = some (.failed f) → r.outcome? id = some (.failed f)

theorem failsNone_advance (r : Resolver) (id : Nat) {p : Phase}
    (hp : ∀ f, p ≠ .settled (.failed f)) : FailsNone r (r.advance id p) := by
  refine ⟨rfl, fun id' f hf => ?_⟩
  rw [outcome?_eq_some] at hf ⊢
  by_cases hid : id = id'
  · subst hid
    rw [phase?_advance_self, Option.map_eq_some_iff] at hf
    obtain ⟨-, -, hf⟩ := hf
    exact absurd hf (hp f)
  · rwa [phase?_advance_of_ne _ _ hid] at hf

theorem settleMissing_fails (r : Resolver) (h : Host) (id : Nat) (root : String) :
    (∃ e, e.IsOfAttempt ∧ (r.settleMissing h id root).1 = r.settleFailed id e) ∨
      FailsNone r (r.settleMissing h id root).1 := by
  simp only [settleMissing]
  split
  · rename_i e h' hd
    exact .inl ⟨e, .plain e (Fault.isPlain_declares (by rw [hd])), rfl⟩
  · exact .inl ⟨_, .missing _, rfl⟩
  · exact .inr (failsNone_advance r id (by simp))

/-- A step of an attempt fails it with a fault of its own, or fails none. -/
theorem step_fails (r : Resolver) (h : Host) (id : Nat) :
    (∃ e, e.IsOfAttempt ∧ id < r.attempts.length ∧ (r.step h id).1 = r.settleFailed id e) ∨
      FailsNone r (r.step h id).1 := by
  have hsame : FailsNone r r := ⟨rfl, fun _ _ hf => hf⟩
  simp only [step]
  split
  · exact .inr hsame
  · rename_i a ha
    have hlt := (List.getElem?_eq_some_iff.mp ha).1
    have hmissing : ∀ h root, (∃ e, e.IsOfAttempt ∧ id < r.attempts.length ∧
        (r.settleMissing h id root).1 = r.settleFailed id e) ∨
          FailsNone r (r.settleMissing h id root).1 := by
      intro h root
      obtain ⟨e, he, hfails⟩ | hnone := settleMissing_fails r h id root
      · exact .inl ⟨e, he, hlt, hfails⟩
      · exact .inr hnone
    split
    · simp only [search]
      split
      · rename_i e h' hf
        exact .inl ⟨e, .plain e (Fault.isPlain_resolverFind (by rw [hf])), hlt, rfl⟩
      · exact hmissing _ _
      · split
        · exact .inr (failsNone_advance r id (by simp))
        · exact .inr (failsNone_advance r id (by simp))
    · exact .inr (failsNone_advance r id (by simp))
    · rename_i origin result hp
      simp only [settle]
      split
      · split
        · exact .inl ⟨_, .plain _ (Fault.isPlain_unshown _), hlt, rfl⟩
        · exact hmissing _ _
      · rename_i m
        split
        · have hheld : FailsNone r (r.hold origin m).2 := by
            simp only [hold]
            split <;> exact ⟨rfl, fun _ _ hf => hf⟩
          have hlast := failsNone_advance (r.hold origin m).2 id
            (p := .settled (.present (r.hold origin m).1)) (by simp)
          exact .inr ⟨hlast.failures.trans hheld.failures,
            fun id' f hf => hheld.outcome id' f (hlast.outcome id' f hf)⟩
        · exact .inl ⟨_, .malformed _, hlt, rfl⟩
    · exact .inr hsame

/-- A resolver of its own: every failure is one of an attempt, and every attempt that failed has
its own failure recorded. -/
structure Records (r : Resolver) : Prop where
  refusal : r.refusal = none
  failures : ∀ x ∈ r.failures, x.IsOfAttempt
  failed : ∀ id f, r.outcome? id = some (.failed f) → f < r.failures.length
  owned : ∀ f, f < r.failures.length → ∃ id, r.outcome? id = some (.failed f)
  unique : ∀ id id' f, r.outcome? id = some (.failed f) → r.outcome? id' = some (.failed f) →
    id = id'

theorem records_fresh (name entry : String) (path : Option String) (fallback : Bool) :
    (fresh name entry path fallback).Records :=
  have hnone : ∀ id f, (fresh name entry path fallback).outcome? id ≠ some (.failed f) := by
    simp [fresh, outcome?, phase?]
  ⟨rfl, by simp [fresh], fun id f hf => absurd hf (hnone id f), by simp [fresh],
    fun id _ f hf => absurd hf (hnone id f)⟩

theorem Records.of_failsNone {r' : Resolver} (hr : r.Records) (refusal : r'.refusal = r.refusal)
    (settled : ∀ id o, r.outcome? id = some o → r'.outcome? id = some o)
    (h : FailsNone r r') : r'.Records where
  refusal := refusal.trans hr.refusal
  failures := by
    rw [h.failures]
    exact hr.failures
  failed id f hf := by
    rw [h.failures]
    exact hr.failed id f (h.outcome id f hf)
  owned f hf := by
    obtain ⟨id, hid⟩ := hr.owned f (h.failures ▸ hf)
    exact ⟨id, settled id _ hid⟩
  unique id id' f hf hf' := hr.unique id id' f (h.outcome id f hf) (h.outcome id' f hf')

/-- An attempt that fails has the last failure; the others have those before it. -/
theorem outcome?_settleFailed (r : Resolver) (id : Nat) (e : Fault) {id' f : Nat}
    (hf : (r.settleFailed id e).outcome? id' = some (.failed f)) :
    id' = id ∧ f = r.failures.length ∨ r.outcome? id' = some (.failed f) := by
  rw [outcome?_eq_some] at hf ⊢
  by_cases hid : id = id'
  · subst hid
    obtain ⟨-, -, hf⟩ := Option.map_eq_some_iff.mp (((phase?_advance_self _ _ _).symm).trans hf)
    exact .inl ⟨rfl, (Outcome.failed.inj (Phase.settled.inj hf)).symm⟩
  · exact .inr ((phase?_advance_of_ne _ _ hid _).symm.trans hf)

theorem Records.settleFailed (hr : r.Records) (hid : id < r.attempts.length) {e : Fault}
    (he : e.IsOfAttempt)
    (settled : ∀ id' o, r.outcome? id' = some o → (r.settleFailed id e).outcome? id' = some o) :
    (r.settleFailed id e).Records := by
  have hlength : (r.settleFailed id e).failures.length = r.failures.length + 1 :=
    List.length_append
  refine ⟨hr.refusal, fun x hx => ?_, fun id' f hf => ?_, fun f hf => ?_,
    fun id₁ id₂ f h₁ h₂ => ?_⟩
  · obtain hx | hx := List.mem_append.mp hx
    · exact hr.failures x hx
    · exact List.mem_singleton.mp hx ▸ Failure.isOfAttempt_of he
  · rw [hlength]
    obtain ⟨-, rfl⟩ | hold := outcome?_settleFailed r id e hf
    · exact Nat.lt_succ_self _
    · exact Nat.lt_succ_of_lt (hr.failed id' f hold)
  · rw [hlength] at hf
    obtain hf | rfl := Nat.lt_succ_iff_lt_or_eq.mp hf
    · obtain ⟨id', hid'⟩ := hr.owned f hf
      exact ⟨id', settled id' _ hid'⟩
    · exact ⟨id, (outcome?_eq_some _ _).mpr (phase?_advance_lt _ _ hid)⟩
  · obtain ⟨rfl, rfl⟩ | hold₁ := outcome?_settleFailed r id e h₁
    · obtain ⟨rfl, -⟩ | hold₂ := outcome?_settleFailed r id₁ e h₂
      · rfl
      · exact absurd (hr.failed id₂ _ hold₂) (Nat.lt_irrefl _)
    · obtain ⟨rfl, rfl⟩ | hold₂ := outcome?_settleFailed r id e h₂
      · exact absurd (hr.failed id₁ _ hold₁) (Nat.lt_irrefl _)
      · exact hr.unique id₁ id₂ f hold₁ hold₂

theorem Records.step (hr : r.Records) (h : Host) (id : Nat) : (r.step h id).1.Records := by
  have hsettled : ∀ id' o, r.outcome? id' = some o → (r.step h id).1.outcome? id' = some o :=
    fun id' o ho => Resolution.outcome?_act (c := ⟨r, h⟩) ho (.step id)
  obtain ⟨e, he, hid, hstep⟩ | hnone := r.step_fails h id
  · rw [hstep] at hsettled ⊢
    exact hr.settleFailed hid he hsettled
  · refine hr.of_failsNone ?_ hsettled hnone
    rw [r.step_keeps h id]

/-! ### What the user has been told -/

/-- Has the user been told of a failure? -/
def HasTold (r : Resolver) (f : Nat) : Prop :=
  ∃ x, r.failure? f = some x ∧ x.surfaced = true

/-- Attempts that settled and failures stay as they are, but that the user may be told of them. -/
structure Carries (r r' : Resolver) : Prop where
  outcome : ∀ id o, r.outcome? id = some o → r'.outcome? id = some o
  failure : ∀ f x, r.failure? f = some x →
    ∃ told, r'.failure? f = some { x with surfaced := told } ∧ (x.surfaced = true → told = true)
  records : r.Records → r'.Records
  module : r.SameModule r'

/-- Attempts that settled and failures stay as they are, and the user is told of none. -/
structure Hushes (r r' : Resolver) : Prop where
  outcome : ∀ id o, r.outcome? id = some o → r'.outcome? id = some o
  failures : ∃ new, r'.failures = r.failures ++ new ∧ ∀ x ∈ new, x.surfaced = false
  records : r.Records → r'.Records
  module : r.SameModule r'

variable {r' r'' : Resolver} {f : Nat}

theorem failure?_lt {x : Failure} (hx : r.failure? f = some x) : f < r.failures.length :=
  (List.getElem?_eq_some_iff.mp hx).1

theorem Carries.trans (h : Carries r r') (h' : Carries r' r'') : Carries r r'' where
  outcome id o ho := h'.outcome id o (h.outcome id o ho)
  failure f x hx := by
    obtain ⟨told, hx', htold⟩ := h.failure f x hx
    obtain ⟨told', hx'', htold'⟩ := h'.failure f _ hx'
    exact ⟨told', hx'', fun hs => htold' (htold hs)⟩
  records hr := h'.records (h.records hr)
  module := h.module.trans h'.module

theorem Carries.hasTold (h : Carries r r') (ht : r.HasTold f) : r'.HasTold f := by
  obtain ⟨x, hx, hs⟩ := ht
  obtain ⟨told, hx', htold⟩ := h.failure f x hx
  exact ⟨_, hx', htold hs⟩

theorem Carries.length_le (h : Carries r r') : r.failures.length ≤ r'.failures.length := by
  refine Nat.le_of_not_lt fun hlt => ?_
  obtain ⟨told, hx, -⟩ := h.failure _ _ (List.getElem?_eq_getElem hlt)
  exact absurd (failure?_lt hx) (Nat.lt_irrefl _)

theorem Hushes.refl (r : Resolver) : Hushes r r :=
  ⟨fun _ _ ho => ho, ⟨[], by simp⟩, id, .refl r⟩

theorem Hushes.trans (h : Hushes r r') (h' : Hushes r' r'') : Hushes r r'' where
  outcome id o ho := h'.outcome id o (h.outcome id o ho)
  failures := by
    obtain ⟨new, hnew, hn⟩ := h.failures
    obtain ⟨new', hnew', hn'⟩ := h'.failures
    refine ⟨new ++ new', by rw [hnew', hnew, List.append_assoc], fun x hx => ?_⟩
    exact (List.mem_append.mp hx).elim (hn x) (hn' x)
  records hr := h'.records (h.records hr)
  module := h.module.trans h'.module

theorem Hushes.failure? (h : Hushes r r') {x : Failure} (hx : r.failure? f = some x) :
    r'.failure? f = some x := by
  obtain ⟨new, hnew, -⟩ := h.failures
  rw [Resolver.failure?, hnew, List.getElem?_append_left (failure?_lt hx)]
  exact hx

/-- What the user has been told of was there. -/
theorem Hushes.failure?_old (h : Hushes r r') {x : Failure} (hx : r'.failure? f = some x)
    (hs : x.surfaced = true) : r.failure? f = some x := by
  obtain ⟨new, hnew, hn⟩ := h.failures
  rw [Resolver.failure?, hnew, List.getElem?_append] at hx
  split at hx
  · exact hx
  · rw [hn x (List.mem_of_getElem? hx)] at hs
    simp at hs

theorem Hushes.carries (h : Hushes r r') : Carries r r' where
  outcome := h.outcome
  failure _ x hx := ⟨x.surfaced, h.failure? hx, id⟩
  records := h.records
  module := h.module

theorem Hushes.hasTold_iff (h : Hushes r r') : r'.HasTold f ↔ r.HasTold f := by
  constructor
  · rintro ⟨x, hx, hs⟩
    exact ⟨x, h.failure?_old hx hs, hs⟩
  · exact h.carries.hasTold

theorem failsNone_begin (r : Resolver) (key : String) : FailsNone r (r.begin key).1 := by
  refine ⟨rfl, fun id f hf => ?_⟩
  rw [outcome?_eq_some] at hf ⊢
  obtain ⟨-, hbegun⟩ | hf := r.phase?_begin_cases id hf
  · simp at hbegun
  · exact hf

/-- Nothing that happens to a resolver but telling tells the user of a failure. -/
theorem hushes_act (c : Resolution) {a : Resolution.Act} (ha : ∀ f, a ≠ .tell f) :
    Hushes c.resolver (c.act a).resolver := by
  refine ⟨fun id o ho => Resolution.outcome?_act ho a, ?_, ?_, Resolution.sameModule_act c a⟩
  · have hsame : ∀ {fs : List Failure}, fs = c.resolver.failures →
        ∃ new, fs = c.resolver.failures ++ new ∧ ∀ x ∈ new, x.surfaced = false :=
      fun h => ⟨[], by simp [h]⟩
    cases a with
    | resolve root =>
      obtain ⟨-, -, -, hc⟩ | ⟨-, -, hr⟩ := c.act_resolve root
      · exact hsame (by rw [hc])
      · exact hsame (by rw [hr]; rfl)
    | step id =>
      obtain ⟨e, -, -, hstep⟩ | hnone := c.resolver.step_fails c.host id
      · exact ⟨[Failure.of e], by rw [Resolution.act, hstep]; rfl, by simp [Failure.of]⟩
      · exact hsame hnone.failures
    | invalidate root => exact hsame (by cases root <;> rfl)
    | tell f => exact absurd rfl (ha f)
    | _ => exact hsame rfl
  · intro hr
    cases a with
    | resolve root =>
      obtain ⟨-, -, -, hc⟩ | ⟨-, -, hbegun⟩ := c.act_resolve root
      · rwa [hc]
      · have hsettled : ∀ id o, c.resolver.outcome? id = some o →
            (c.act (.resolve root)).resolver.outcome? id = some o :=
          fun _ _ ho => Resolution.outcome?_act ho _
        rw [hbegun] at hsettled ⊢
        exact hr.of_failsNone rfl hsettled (failsNone_begin _ _)
    | step id => exact hr.step c.host id
    | invalidate root =>
      cases root <;> exact ⟨hr.refusal, hr.failures, hr.failed, hr.owned, hr.unique⟩
    | tell f => exact absurd rfl (ha f)
    | _ => exact ⟨hr.refusal, hr.failures, hr.failed, hr.owned, hr.unique⟩

/-- The user is told of failures. -/
theorem carries_surface (hfailures : ∀ f x, r.failure? f = some x →
      ∃ told, r'.failure? f = some { x with surfaced := told } ∧ (x.surfaced = true → told = true))
    (hlength : r'.failures.length = r.failures.length)
    (hrest : r' = { r with failures := r'.failures }) : Carries r r' := by
  have houtcome : ∀ id, r'.outcome? id = r.outcome? id := by
    intro id
    rw [hrest]
    rfl
  refine ⟨fun id o ho => (houtcome id).trans ho, hfailures, fun hr => ⟨?_, ?_, ?_, ?_, ?_⟩,
    by rw [hrest]; exact ⟨rfl, rfl, rfl⟩⟩
  · rw [hrest]
    exact hr.refusal
  · intro x hx
    obtain ⟨f, hf⟩ := List.mem_iff_getElem?.mp hx
    have hlt : f < r.failures.length := hlength ▸ (List.getElem?_eq_some_iff.mp hf).1
    obtain ⟨told, hx', -⟩ := hfailures f _ (List.getElem?_eq_getElem hlt)
    obtain rfl := Option.some.inj (hf.symm.trans hx')
    exact (hr.failures _ (List.getElem_mem hlt)).surfaced told
  · intro id f hf
    rw [hlength]
    exact hr.failed id f ((houtcome id).symm.trans hf)
  · intro f hf
    obtain ⟨id, hid⟩ := hr.owned f (hlength ▸ hf)
    exact ⟨id, (houtcome id).trans hid⟩
  · intro id id' f hf hf'
    exact hr.unique id id' f ((houtcome id).symm.trans hf) ((houtcome id').symm.trans hf')

end Resolver

end LintBridge

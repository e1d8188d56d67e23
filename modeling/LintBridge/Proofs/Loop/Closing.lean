import LintBridge.Proofs.Loop.Run
import LintBridge.Proofs.Resolver.Basic

/-! What is shown for a document after it was closed. A validation that had begun before the
closing shows nothing any more. One that begins after it takes a number that is newer than the
closing's and does show its list, even if it is one of a batch that was called before: the
documents of a batch are taken down when it is called, but each is validated in a task that begins
at a turn of its own. -/

namespace LintBridge

open Happening (fixesLeft)

namespace Course

variable {c₁ c₂ : Course} {hs new : List Happening} {uri : String} {es : List Event}

/-- A validation that ends well after its document was closed has begun after it. -/
theorem Grown.not_begun (hg : Grown c₁ c₂ new) (hc₂ : c₂.Sound)
    (hclosed : c₁.history = hs ++ [.closed uri es]) {k : Nat} {r : ValidationResult}
    {es' : List Event} {fs : List QuickFix} (he : .ended k r es' fs ∈ new) (hu : r.uri = uri)
    (hok : r.status = .ok) : k ∉ c₁.begun := by
  obtain ⟨before, later, rfl⟩ := List.append_of_mem he
  have hhistory : c₂.history =
      (hs ++ [.closed uri es] ++ before) ++ .ended k r es' fs :: later := by
    rw [hg.history, hclosed, ← List.append_assoc]
  have hmem : .ended k r es' fs ∈ c₂.history := by
    rw [hhistory]
    exact List.mem_append_right _ List.mem_cons_self
  have hes : es' = [.publish uri r.diagnostics] := by
    have hw := (hc₂.whole _ hmem).1
    rwa [if_pos hok, hu] at hw
  have hlast := (hc₂.timely _ _ _ _ _ _ hhistory).publishes uri r.diagnostics (by simp [hes])
  exact hg.fresh k uri (List.mem_append_left _ (Happening.began_mem_of_last hlast))

/-- A list that is not empty is published by a validation that ends well. -/
theorem Sound.ended_of_publish {c : Course} (hc : c.Sound) {x : Happening} (hx : x ∈ c.history)
    {ds : List Diagnostic} (hp : .publish uri ds ∈ x.events) (hds : ds ≠ []) :
    ∃ k r es fs, x = .ended k r es fs ∧ r.uri = uri ∧ r.status = .ok ∧ r.diagnostics = ds := by
  have hw := hc.whole x hx
  cases x with
  | began k u => simp [Happening.events] at hp
  | closed u es =>
    rw [Happening.events, show es = [.publish u []] from hw] at hp
    obtain ⟨-, rfl⟩ := Event.publish.inj (List.mem_singleton.mp hp)
    exact absurd rfl hds
  | ended k r es fs =>
    rw [Happening.events, hw.1] at hp
    split at hp
    · rename_i hok
      obtain ⟨rfl, rfl⟩ := Event.publish.inj (List.mem_singleton.mp hp)
      exact ⟨k, r, es, fs, rfl, rfl, hok, rfl⟩
    · simp at hp

end Course

namespace Loop

/-- Who is told how a task ended. -/
def listener? (l : Loop) (t : Nat) : Option Listener :=
  (l.tasks[t]?).map Task.listener

/-- The document that a task has validated. -/
def validated? (l : Loop) (t : Nat) : Option String :=
  (l.validation? t).map ValidationResult.uri

/-- Since `closed`, nothing but empty lists was published for a document, and it has no quick
fixes. -/
def StaysClear (closed l : Loop) (uri : String) : Prop :=
  (∀ ds, .publish uri ds ∈ l.lists.drop closed.lists.length → ds = []) ∧
    l.session.fixesOf uri = []

theorem validation?_eq_some {l : Loop} {t : Nat} {r : ValidationResult} :
    l.validation? t = some r ↔ l.result? t = some (.validation r) := by
  simp only [validation?]
  split <;> simp_all

theorem listener?_lt {l : Loop} {t : Nat} {a : Listener} (h : l.listener? t = some a) :
    t < l.tasks.length := by
  obtain ⟨task, ht, -⟩ := Option.map_eq_some_iff.mp h
  exact (List.getElem?_eq_some_iff.mp ht).1

variable {closed l : Loop} {c₁ c₂ : Course} {uri : String}

/-- A document stays clear after it was closed exactly if no validation that begins after it comes
to diagnostics of it. -/
theorem Follows.staysClear_iff (h : Follows c₁ closed .free l c₂) (hc₁ : c₁.Sound)
    (hbegun : ∀ k ∈ c₁.begun, closed.hasBegun k = true) (hlists : closed.lists = c₁.events)
    {hs : List Happening} {es : List Event} (hclosed : c₁.history = hs ++ [.closed uri es]) :
    StaysClear closed l uri ↔ ∀ t r, closed.hasBegun t = false → l.validation? t = some r →
      r.uri = uri → r.status = .ok → r.diagnostics = [] := by
  obtain ⟨acts, rfl⟩ := h.reached
  obtain ⟨new, hg⟩ := c₁.grown_after acts
  have hc₂ := hc₁.after acts
  have hsince : l.lists.drop closed.lists.length = new.flatMap Happening.events := by
    rw [h.lists, hlists, Course.events, Course.events, hg.history,
      List.flatMap_append, List.drop_left]
  have hold : ∀ {k r es' fs}, .ended k r es' fs ∈ new → .ended k r es' fs ∈ (c₁.after acts).history :=
    fun he => hg.history ▸ List.mem_append_right _ he
  -- what has ended well since stands as the result of a task that had not begun
  have hresult : ∀ {k r es' fs}, .ended k r es' fs ∈ new → r.uri = uri → r.status = .ok →
      closed.hasBegun k = false ∧ l.validation? k = some r := by
    intro k r es' fs he hu hok
    have hk := hg.not_begun hc₂ hclosed he hu hok
    refine ⟨(h.new k (hc₂.ended k r es' fs (hold he)).1).resolve_left hk, ?_⟩
    rw [validation?_eq_some]
    exact (h.ended k r es' fs (hold he) hok).resolve_right (by simp)
  constructor
  · rintro ⟨hempty, -⟩ t r ht hr hu hok
    obtain ⟨es', fs, he⟩ := h.results t r (validation?_eq_some.mp hr) hok
    have hnew : .ended t r es' fs ∈ new := by
      rw [hg.history] at he
      refine (List.mem_append.mp he).resolve_left fun he₁ => ?_
      rw [hbegun t (hc₁.ended t r es' fs he₁).1] at ht
      simp at ht
    refine hempty r.diagnostics ?_
    rw [hsince]
    refine List.mem_flatMap.mpr ⟨_, hnew, ?_⟩
    rw [Happening.events, (hc₂.whole _ (hold hnew)).1, if_pos hok, hu]
    exact List.mem_singleton_self _
  · intro hall
    constructor
    · intro ds hp
      rw [hsince] at hp
      obtain ⟨x, hx, hp⟩ := List.mem_flatMap.mp hp
      refine Classical.byContradiction fun hds => ?_
      have hmem : x ∈ (c₁.after acts).history := hg.history ▸ List.mem_append_right _ hx
      obtain ⟨k, r, es', fs, rfl, hu, hok, rfl⟩ := hc₂.ended_of_publish hmem hp hds
      obtain ⟨hk, hr⟩ := hresult hx hu hok
      exact hds (hall k r hk hr hu hok)
    · rw [← h.session, hc₂.fixes, hg.history, hclosed]
      refine Classical.byContradiction fun hfs => ?_
      obtain ⟨k, r, es', fs, hx, hu, hok, hne⟩ := Happening.ended_mem_of_fixesLeft hfs
      obtain ⟨hk, hr⟩ := hresult hx hu hok
      exact hne ((hc₂.whole _ (hold hx)).2 hok (hall k r hk hr hu hok))

/-- After a document was closed, while only the batch `p` validates it, it stays clear exactly if
none of the batch's validations begins after the closing and comes to diagnostics of it. The turns
may be taken in any order, before and after the closing. -/
theorem closed_document_stays_clear_iff (host : Host) (root : Option String) (settings : Settings)
    (resolver : Resolver) (documents : DocumentSource) (asks : Bool) (before later : List Act)
    (uri : String) (p : Nat) :
    let closed := ((fresh host (.fresh root settings resolver) documents asks).after before).close uri
    let l := closed.after later
    (∀ t < l.tasks.length, closed.hasBegun t = false → l.validated? t = some uri →
      l.listener? t = some (.task p)) →
    (StaysClear closed l uri ↔ ∀ t r, closed.hasBegun t = false →
      l.listener? t = some (.task p) → l.validation? t = some r → r.uri = uri →
      r.status = .ok → r.diagnostics = []) := by
  intro closed l honly
  have hsound := Course.sound_fresh root settings resolver host
  have hstart := follows_fresh host (.fresh root settings resolver) documents asks
  obtain ⟨c, hc⟩ := Traced.after ⟨_, hstart⟩ hsound before
  have hc₁ : (c.act (.close uri)).Sound := by
    obtain ⟨acts, rfl⟩ := hc.reached
    exact (hsound.after acts).act _
  have hclosed : Follows (c.act (.close uri)) closed .free closed (c.act (.close uri)) :=
    (hc.closes uri).restart
  obtain ⟨c₂, hl⟩ := Traced.after ⟨_, hclosed⟩ hc₁ later
  have hiff := hl.staysClear_iff hc₁
    (fun k hk => (hclosed.begun k hk).resolve_right (by simp [Hand.task?])) hclosed.lists rfl
  rw [hiff]
  constructor
  · intro hall t r ht _ hr hu hok
    exact hall t r ht hr hu hok
  · intro hall t r ht hr hu hok
    have hlt : t < l.tasks.length :=
      stage?_lt (result?_eq_some.mp (validation?_eq_some.mp hr))
    have hvalidated : l.validated? t = some uri := by
      rw [validated?, hr, ← hu]
      rfl
    exact hall t r ht (honly t hlt ht hvalidated) hr hu hok

/-- A batch of one document was called and `early` turns were taken; then the document was
closed. -/
def batchThenClosed (early : List Act) : Loop :=
  ((fresh .withModule (.fresh (some "/w") .standard (.fresh "marlint" "lint_text" none false))
    .nowhere false).after
      (.begin (.validateMany (some [⟨"file:///w/a.js", "let x", .null⟩])) :: early)).close
    "file:///w/a.js"

/-- The document is closed once its validation has begun: it stays clear. -/
theorem begun_batch_stays_clear :
    StaysClear (batchThenClosed [.turn 0])
      ((batchThenClosed [.turn 0]).after (.replicate 8 (.turn 0))) "file:///w/a.js" := by
  refine (closed_document_stays_clear_iff .withModule (some "/w") .standard
    (.fresh "marlint" "lint_text" none false) .nowhere false
    [.begin (.validateMany (some [⟨"file:///w/a.js", "let x", .null⟩])), .turn 0]
    (.replicate 8 (.turn 0)) "file:///w/a.js" 0 (by decide +kernel)).mpr ?_
  intro t r ht hlistener
  have hnone : ∀ t < ((batchThenClosed [.turn 0]).after (.replicate 8 (.turn 0))).tasks.length,
      (batchThenClosed [.turn 0]).hasBegun t = false →
      ((batchThenClosed [.turn 0]).after (.replicate 8 (.turn 0))).listener? t ≠
        some (.task 0) := by
    decide +kernel
  exact absurd hlistener (hnone t (listener?_lt hlistener) ht)

/-- The document is closed before its validation has begun: it is shown again. -/
theorem batch_shows_closed_document :
    ¬ StaysClear (batchThenClosed [])
      ((batchThenClosed []).after (.replicate 8 (.turn 0))) "file:///w/a.js" := by
  rintro ⟨-, hfixes⟩
  have hone : (((batchThenClosed []).after
      (.replicate 8 (.turn 0))).session.fixesOf "file:///w/a.js").length = 1 := by
    decide +kernel
  rw [hfixes] at hone
  simp at hone

end Loop

end LintBridge

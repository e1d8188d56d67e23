import LintBridge.Proofs.Loop.Basic
import LintBridge.Proofs.Session.Course

/-! A session that takes turns follows a course. Every task that validates a document is told by its
number: it begins, waits and ends in the course as it does in the loop, the editor is sent the
same lists, and a task that came to a result keeps it. So what holds of all courses holds
whatever tasks there are and in whatever order they take their turns. -/

namespace LintBridge

namespace Loop

/-- A task whose turn it is, when its validation stands otherwise than the task: it has begun, it
waits for a module, or it has ended with a result. -/
inductive Hand where
  | free
  | begun (t : Nat)
  | waits (t : Nat) (v : Validation)
  | ended (t : Nat) (r : ValidationResult)

/-- The task whose turn it is. -/
def Hand.task? : Hand → Option Nat
  | free => none
  | begun t | waits t _ | ended t _ => some t

/-- The loop `l`, gone on from `l₀`, follows the course `c`, gone on from `c₀`. -/
structure Follows (c₀ : Course) (l₀ : Loop) (hand : Hand) (l : Loop) (c : Course) : Prop where
  reached : ∃ acts, c = c₀.after acts
  session : c.session = l.session
  host : c.host = l.host
  lists : l.lists = c.events
  begun : ∀ k ∈ c.begun, l.hasBegun k = true ∨ hand.task? = some k
  waits : ∀ t id v told, hand.task? ≠ some t →
    l.stage? t = some (.resolving id (.conclude v told)) → c.waiting.lookup t = some v
  results : ∀ t r, l.result? t = some (.validation r) → r.status = .ok →
    ∃ es fs, .ended t r es fs ∈ c.history
  ended : ∀ t r es fs, .ended t r es fs ∈ c.history → r.status = .ok →
    l.result? t = some (.validation r) ∨ hand = .ended t r
  /-- A task that had begun in `l₀` has begun. -/
  kept : ∀ t, l₀.hasBegun t = true → l.hasBegun t = true
  new : ∀ k ∈ c.begun, k ∈ c₀.begun ∨ l₀.hasBegun k = false
  isOpen : ∀ t, hand.task? = some t → l.IsOpen t
  inHand : ∀ t v, hand = .waits t v → c.waiting.lookup t = some v
  atHand : ∀ t r, hand = .ended t r → r.status = .ok → ∃ es fs, .ended t r es fs ∈ c.history

variable {c₀ : Course} {l₀ : Loop} {hand : Hand} {l l' : Loop} {c : Course} {t : Nat}
  {v : Validation}

/-- A quiet change is none of the course but for the resolver and the machine. -/
theorem Follows.quiet (h : Follows c₀ l₀ hand l c) (hq : Quiet l l') :
    Follows c₀ l₀ hand l' (c.act (.elsewhere l'.session.resolver l'.host)) where
  reached := by
    obtain ⟨acts, rfl⟩ := h.reached
    exact ⟨acts ++ [.elsewhere l'.session.resolver l'.host], (c₀.after_concat _ _).symm⟩
  session := by
    rw [hq.session]
    simp only [Course.act, h.session]
  host := rfl
  lists := hq.lists.trans h.lists
  begun k hk := by
    rw [hq.hasBegun]
    exact h.begun k hk
  waits t id v told hne hs := h.waits t id v told hne ((hq.stage?_iff (by simp)).mp hs)
  results t r hr := h.results t r ((hq.result? t).symm.trans hr)
  ended t r es fs he hs := by
    rw [hq.result?]
    exact h.ended t r es fs he hs
  kept t ht := by
    rw [hq.hasBegun]
    exact h.kept t ht
  new := h.new
  isOpen t ht := hq.isOpen (h.isOpen t ht)
  inHand := h.inHand
  atHand := h.atHand

/-- A task is put into another place, in which it has no validation under way and, if it is in
hand with a result, stands with this result. -/
theorem Follows.put (h : Follows c₀ l₀ hand l c) {t : Nat} {s : Stage} (ht : l.IsOpen t)
    (hhand : hand.task? = none ∨ hand.task? = some t) (hready : s ≠ .ready)
    (hwaits : ∀ id v told, s = .resolving id (.conclude v told) → c.waiting.lookup t = some v)
    (hdone : ∀ r, s = .done (.validation r) → r.status = .ok →
      ∃ es fs, .ended t r es fs ∈ c.history)
    (hended : ∀ r, hand = .ended t r → r.status = .ok → s = .done (.validation r)) :
    Follows c₀ l₀ .free (l.setStage t s) c where
  reached := h.reached
  session := h.session
  host := h.host
  lists := h.lists
  begun k hk := by
    left
    by_cases hkt : t = k
    · subst hkt
      exact hasBegun_setStage_self ht.lt hready
    · rw [hasBegun_setStage_of_ne hkt]
      obtain hb | hb := h.begun k hk
      · exact hb
      · obtain hn | hn := hhand <;> rw [hn] at hb <;> simp_all
  waits t' id v told _ hs := by
    by_cases htt : t = t'
    · subst htt
      rw [stage?_setStage_self ht.lt] at hs
      exact hwaits id v told (Option.some.inj hs)
    · rw [stage?_setStage_of_ne htt] at hs
      refine h.waits t' id v told ?_ hs
      obtain hn | hn := hhand <;> rw [hn] <;> simp [htt]
  results t' r hr hs := by
    rw [result?_eq_some] at hr
    by_cases htt : t = t'
    · subst htt
      rw [stage?_setStage_self ht.lt] at hr
      exact hdone r (Option.some.inj hr) hs
    · rw [stage?_setStage_of_ne htt] at hr
      exact h.results t' r (result?_eq_some.mpr hr) hs
  ended t' r es fs he hs := by
    left
    rw [result?_eq_some]
    by_cases htt : t = t'
    · subst htt
      rw [stage?_setStage_self ht.lt]
      obtain hr | hr := h.ended t r es fs he hs
      · rw [ht.result?] at hr
        simp at hr
      · exact congrArg some (hended r hr hs)
    · rw [stage?_setStage_of_ne htt, ← result?_eq_some]
      obtain hr | hr := h.ended t' r es fs he hs
      · exact hr
      · obtain hn | hn := hhand <;> rw [hr] at hn <;> simp_all [Hand.task?]
  kept t' ht' := by
    by_cases htt : t = t'
    · subst htt
      exact hasBegun_setStage_self ht.lt hready
    · rw [hasBegun_setStage_of_ne htt]
      exact h.kept t' ht'
  new := h.new
  isOpen t' ht' := by simp [Hand.task?] at ht'
  inHand t' v ht' := by simp at ht'
  atHand t' r ht' := by simp at ht'

/-! ### Beginning and concluding -/

/-- A task that has not begun begins its validation, which is new in the course. -/
theorem Follows.begins (h : Follows c₀ l₀ .free l c) {t : Nat} (ht : l.stage? t = some .ready)
    {c' : Course} {es : List Happening} {w : List (Nat × Validation)} {hand' : Hand}
    (reached : ∃ acts, c' = c.after acts) (hbegun : c'.begun = t :: c.begun)
    (hwaiting : c'.waiting = c.waiting ++ w) (hhistory : c'.history = c.history ++ es)
    (hevents : es.flatMap Happening.events = [])
    (hes : ∀ k r es' fs, .ended k r es' fs ∈ es → r.status ≠ .ok) (hhand : hand'.task? = some t)
    (hended : ∀ r, hand' ≠ .ended t r)
    (hinHand : ∀ v, hand' = .waits t v → c'.waiting.lookup t = some v) :
    Follows c₀ l₀ hand' { l with session := c'.session, host := c'.host } c' where
  reached := by
    obtain ⟨acts, rfl⟩ := h.reached
    obtain ⟨acts', rfl⟩ := reached
    exact ⟨acts ++ acts', (c₀.after_append _ _).symm⟩
  session := rfl
  host := rfl
  lists := by
    rw [Course.events, hhistory, List.flatMap_append, hevents, List.append_nil]
    exact h.lists
  begun k hk := by
    rw [hbegun] at hk
    obtain rfl | hk := List.mem_cons.mp hk
    · exact .inr hhand
    · obtain hb | hb := h.begun k hk
      · exact .inl hb
      · simp [Hand.task?] at hb
  waits t' id v told _ hs := by
    rw [hwaiting, List.lookup_append, h.waits t' id v told (by simp [Hand.task?]) hs]
    rfl
  results t' r hr hs := by
    obtain ⟨es', fs, he⟩ := h.results t' r hr hs
    exact ⟨es', fs, hhistory ▸ List.mem_append_left _ he⟩
  ended t' r es' fs he hs := by
    rw [hhistory] at he
    obtain he | he := List.mem_append.mp he
    · obtain hr | hr := h.ended t' r es' fs he hs
      · exact .inl hr
      · simp at hr
    · exact absurd hs (hes _ _ _ _ he)
  kept := h.kept
  new k hk := by
    rw [hbegun] at hk
    obtain rfl | hk := List.mem_cons.mp hk
    · refine .inr (Bool.eq_false_iff.mpr fun hb => ?_)
      have hb' := h.kept k hb
      simp [hasBegun, ht] at hb'
    · exact h.new k hk
  isOpen t' ht' := by
    obtain rfl := Option.some.inj (hhand.symm.trans ht')
    exact ⟨.ready, ht, rfl⟩
  inHand t' v ht' := by
    have htt : t' = t := by
      rw [ht'] at hhand
      exact Option.some.inj hhand
    subst htt
    exact hinHand v ht'
  atHand t' r ht' := by
    have htt : t' = t := by
      rw [ht'] at hhand
      exact Option.some.inj hhand
    subst htt
    exact absurd ht' (hended r)

/-- Who is in hand after a validation has begun. -/
def Hand.ofBegun (t : Nat) : Except Fault (Option Validation) → Hand
  | .ok (some v) => .waits t v
  | _ => .begun t

theorem Follows.begin (h : Follows c₀ l₀ .free l c) (hc₀ : c₀.Sound) {t : Nat}
    (ht : l.stage? t = some .ready) (d : Document) :
    Follows c₀ l₀ (.ofBegun t (l.session.begin l.host d).1)
      { l with session := (l.session.begin l.host d).2.1, host := (l.session.begin l.host d).2.2 }
      (c.act (.begin t d)) := by
  have hk : t ∉ c.begun := by
    intro hk
    obtain hb | hb := h.begun t hk
    · simp [hasBegun, ht] at hb
    · simp [Hand.task?] at hb
  have hsound : c.Sound := by
    obtain ⟨acts, rfl⟩ := h.reached
    exact hc₀.after acts
  have hnone : c.waiting.lookup t = none := by
    rw [List.lookup_eq_none_iff]
    rintro ⟨k, v⟩ hw
    have hne : t ≠ k := fun he => hk (he ▸ hsound.early k v hw)
    simpa using hne
  have hact : c.act (.begin t d) = c.begin t d := if_neg hk
  have hreached : ∃ acts, c.begin t d = c.after acts := ⟨[.begin t d], hact.symm⟩
  rw [hact]
  simp only [Course.begin, h.session, h.host] at hreached ⊢
  have hcases := l.session.begin_cases l.host d
  generalize l.session.begin l.host d = x at hcases hreached ⊢
  cases hcases with
  | refused e uri =>
    exact h.begins ht hreached rfl (List.append_nil _).symm rfl rfl (by simp) rfl
      (by simp [Hand.ofBegun]) (by simp [Hand.ofBegun])
  | skipped h' uri =>
    refine h.begins ht hreached rfl (List.append_nil _).symm (List.append_assoc _ _ _) rfl ?_ rfl
      (by simp [Hand.ofBegun]) (by simp [Hand.ofBegun])
    intro k r es fs he
    obtain ⟨-, rfl, -⟩ := by simpa using he
    simp [ValidationResult.plain]
  | waits path uri =>
    refine h.begins ht hreached rfl rfl rfl rfl (by simp) rfl (by simp [Hand.ofBegun]) ?_
    intro v hv
    obtain rfl := (Hand.waits.inj hv).2
    simp [List.lookup_append, hnone]

/-- A task that waits with its validation takes its turn. -/
theorem Follows.resumes (h : Follows c₀ l₀ .free l c) {t id : Nat} {v : Validation} {told : Bool}
    (ht : l.stage? t = some (.resolving id (.conclude v told))) :
    Follows c₀ l₀ (.waits t v) l c :=
  { h with
    begun := fun k hk => (h.begun k hk).elim .inl fun hb => by simp [Hand.task?] at hb
    waits := fun t' id v told _ hs => h.waits t' id v told (by simp [Hand.task?]) hs
    ended := fun t' r es fs he hs => (h.ended t' r es fs he hs).elim .inl fun hr => by simp at hr
    isOpen := fun t' ht' => by
      obtain rfl := Option.some.inj ht'
      exact ⟨_, ht, rfl⟩
    inHand := fun t' v' hv => by
      obtain ⟨rfl, rfl⟩ := Hand.waits.inj hv
      exact h.waits _ id _ told (by simp [Hand.task?]) ht
    atHand := fun t' r hr => by simp at hr }

/-- Who is in hand after a validation has been concluded. -/
def Hand.ofConcluded (t : Nat) : Except Fault ValidationResult → Hand
  | .ok r => .ended t r
  | .error _ => .begun t

@[simp] theorem Hand.task?_ofConcluded (t : Nat) (result : Except Fault ValidationResult) :
    (ofConcluded t result).task? = some t := by
  cases result <;> rfl

theorem Hand.ofConcluded_eq_ended_iff {t t' : Nat} {result : Except Fault ValidationResult}
    {r : ValidationResult} : ofConcluded t result = .ended t' r ↔ t = t' ∧ result = .ok r := by
  cases result <;> simp [ofConcluded]

theorem Follows.concludes (h : Follows c₀ l₀ (.waits t v) l c) (o : Outcome) :
    Follows c₀ l₀ (.ofConcluded t (l.session.conclude l.host v o).1) (l.concluded v o)
      (c.act (.conclude t o)) := by
  have hlookup := h.inHand t v rfl
  have hact : c.act (.conclude t o) = c.conclude t v o := by
    simp only [Course.act, hlookup]
  have hlists : (l.session.conclude l.host v o).2.1.filter Event.isList =
      (l.session.conclude l.host v o).2.1 := by
    have hcases := l.session.conclude_cases l.host v o
    generalize l.session.conclude l.host v o = x at hcases ⊢
    cases hcases <;> rfl
  rw [hact]
  refine ⟨?_, ?_, ?_, ?_, ?_, ?_, ?_, ?_, h.kept, ?_, ?_, ?_, ?_⟩
  · obtain ⟨acts, rfl⟩ := h.reached
    exact ⟨acts ++ [.conclude t o], by rw [c₀.after_concat, hact]⟩
  · rw [Course.session_conclude, h.session, h.host]
    rfl
  · rw [Course.host_conclude, h.session, h.host]
    rfl
  · rw [lists_of_events rfl, hlists, Course.events_conclude, h.session, h.host]
    exact congrArg (· ++ _) h.lists
  · intro k hk
    rw [Course.begun_conclude] at hk
    rw [Hand.task?_ofConcluded]
    exact h.begun k hk
  · intro t' id v' told hne hs
    have htt : t' ≠ t := fun he => hne (by rw [he, Hand.task?_ofConcluded])
    rw [Course.waiting_conclude, Table.lookup_drop_of_ne _ htt]
    exact h.waits t' id v' told (by simpa [Hand.task?] using Ne.symm htt) hs
  · intro t' r hr hs
    obtain ⟨es, fs, he⟩ := h.results t' r hr hs
    exact ⟨es, fs, Course.ended_mem_conclude_iff.mpr (.inl he)⟩
  · intro t' r es fs he hs
    rw [Course.ended_mem_conclude_iff, h.session, h.host] at he
    obtain he | ⟨rfl, hr, -⟩ := he
    · obtain hr | hr := h.ended t' r es fs he hs
      · exact .inl hr
      · simp at hr
    · exact .inr (Hand.ofConcluded_eq_ended_iff.mpr ⟨rfl, hr⟩)
  · intro k hk
    rw [Course.begun_conclude] at hk
    exact h.new k hk
  · intro t' ht'
    rw [Hand.task?_ofConcluded] at ht'
    exact h.isOpen t' ht'
  · intro t' v' hv
    cases hr : (l.session.conclude l.host v o).1 <;> simp [hr, Hand.ofConcluded] at hv
  · intro t' r hr hs
    obtain ⟨rfl, hresult⟩ := Hand.ofConcluded_eq_ended_iff.mp hr
    refine ⟨_, _, Course.ended_mem_conclude_iff.mpr (.inr ⟨rfl, ?_, rfl, rfl⟩)⟩
    rw [h.session, h.host]
    exact hresult

/-! ### What happens to the session as a whole -/

/-- The session changes by a step of the course that begins and ends no validation. -/
theorem Follows.of_act (h : Follows c₀ l₀ hand l c) (a : Course.Act) (es : List Event)
    (tasks : l'.tasks = l.tasks) (session : (c.act a).session = l'.session)
    (host : (c.act a).host = l'.host) (sent : l'.events = l.events ++ es)
    (hevents : (c.act a).events = c.events ++ es.filter Event.isList)
    (hbegun : (c.act a).begun = c.begun) (hwaiting : (c.act a).waiting = c.waiting)
    (hended : ∀ t r es fs, .ended t r es fs ∈ (c.act a).history ↔ .ended t r es fs ∈ c.history) :
    Follows c₀ l₀ hand l' (c.act a) := by
  have hstage : ∀ t, l'.stage? t = l.stage? t := fun t => by simp only [stage?, tasks]
  have hhas : ∀ t, l'.hasBegun t = l.hasBegun t := fun t => by simp only [hasBegun, hstage]
  have hresult : ∀ t, l'.result? t = l.result? t := fun t => by simp only [result?, hstage]
  refine ⟨?_, session, host, ?_, ?_, ?_, ?_, ?_, ?_, ?_, ?_, ?_, ?_⟩
  · obtain ⟨acts, rfl⟩ := h.reached
    exact ⟨acts ++ [a], (c₀.after_concat _ _).symm⟩
  · rw [hevents, ← h.lists, lists_of_events sent]
  · intro k hk
    rw [hhas]
    exact h.begun k (hbegun ▸ hk)
  · intro t id v told hne hs
    rw [hwaiting]
    exact h.waits t id v told hne ((hstage t).symm.trans hs)
  · intro t r hr hs
    obtain ⟨es, fs, he⟩ := h.results t r ((hresult t).symm.trans hr) hs
    exact ⟨es, fs, (hended t r es fs).mpr he⟩
  · intro t r es fs he hs
    rw [hresult]
    exact h.ended t r es fs ((hended t r es fs).mp he) hs
  · intro t ht
    rw [hhas]
    exact h.kept t ht
  · intro k hk
    exact h.new k (hbegun ▸ hk)
  · intro t ht
    obtain ⟨s, hs, ho⟩ := h.isOpen t ht
    exact ⟨s, (hstage t).trans hs, ho⟩
  · intro t v ht
    rw [hwaiting]
    exact h.inHand t v ht
  · intro t r ht hs
    obtain ⟨es, fs, he⟩ := h.atHand t r ht hs
    exact ⟨es, fs, (hended t r es fs).mpr he⟩

theorem Follows.closes (h : Follows c₀ l₀ hand l c) (uri : String) :
    Follows c₀ l₀ hand
      ({ l with session := (l.session.close uri).2 }.emit (l.session.close uri).1)
      (c.act (.close uri)) := by
  refine h.of_act (.close uri) [.publish uri []] rfl ?_ h.host rfl ?_ rfl rfl ?_
  · rw [← h.session]
    rfl
  · simp only [Course.events, Course.act, Course.close, List.flatMap_append,
      List.flatMap_singleton, Happening.events, Session.close_events]
    rfl
  · simp [Course.act, Course.close]

theorem Follows.changesSettings (h : Follows c₀ l₀ hand l c) {payload : Json} {s : Session}
    {host : Host} (ha : l.session.applySettings l.host payload = (.ok s, host)) :
    Follows c₀ l₀ hand { l with session := s, host := host }
      (c.act (.changeSettings payload)) := by
  have hact : c.act (.changeSettings payload) = { c with session := s, host := host } := by
    simp only [Course.act, h.session, h.host, ha]
  refine h.of_act _ [] rfl ?_ ?_ (List.append_nil _).symm ?_ ?_ ?_ ?_ <;> rw [hact]
  · simp [Course.events]
  · simp

theorem Follows.attaches (h : Follows c₀ l₀ hand l c) (root : Option String)
    (settings : Option Settings) :
    Follows c₀ l₀ hand
      { l with
        session := (l.session.attach l.host root settings).1
        host := (l.session.attach l.host root settings).2 }
      (c.act (.attach root settings)) := by
  refine h.of_act (.attach root settings) [] rfl ?_ ?_ (List.append_nil _).symm ?_ rfl rfl ?_
  · rw [← h.session, ← h.host]
    rfl
  · rw [← h.session, ← h.host]
    rfl
  · simp [Course.events, Course.act]
  · simp [Course.act]

end Loop

end LintBridge

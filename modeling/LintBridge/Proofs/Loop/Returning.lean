import LintBridge.Proofs.Loop.Raising

/-! What is begun comes to an end. Whatever else happens to a session, all that waits in it is
attended to, and each turn that is taken brings the end nearer. So a validation comes to a result
about its document, and a batch to one result for each document, in order, unless a URI is refused
or a module fails on a document with an error that has no text. -/

namespace LintBridge

/-- The flaw of a network location that was the fault with which a task ended. -/
def TaskResult.flaw? : TaskResult → Option HostFlaw
  | .raised (.host flaw) => some flaw
  | _ => none

namespace Loop

variable {cs : Nat → Prop} {hand : Option Nat} {l l' : Loop} {t n n' : Nat} {task : Task}

/-! ### Whatever happens -/

/-- A task is added that is to begin at once. -/
theorem Attended.addTask (ha : Attended cs none n l) (job : Job) (listener : Listener)
    (hlistener : ∀ p, listener ≠ .task p) :
    Attended cs (some l.tasks.length) (n + job.worth l.documents.size)
      (l.addTask job listener).1 := by
  have hidle := idle_addTask l job listener hlistener
  refine ⟨ha.unsettled, ha.known, ha.waiting, fun task hm => ?_, fun t s hne hs => ?_,
    fun t task ht => ?_, ?_⟩
  · have hlength : (l.addTask job listener).1.tasks.length = l.tasks.length + 1 := by
      simp [Loop.addTask]
    rw [hlength]
    obtain hm | hm := List.mem_append.mp hm
    · exact Nat.le_succ_of_le (ha.children task hm)
    · obtain rfl := List.mem_singleton.mp hm
      exact Nat.zero_le _
  · have hlt : t < l.tasks.length := by
      have hbound := stage?_lt hs
      simp only [Loop.addTask, List.length_append, List.length_singleton] at hbound
      have hlast : l.tasks.length ≠ t := fun he => hne (congrArg some he)
      omega
    refine due_mono (l := l) (fun _ hm => hm) (fun hm => .inl hm) (fun hm => hm)
      (fun _ hw => .inl hw) (fun _ ho => ho) (fun _ _ _ => Nat.le_of_eq (hidle.pending t).symm)
      (ha.due t s (by simp) ?_)
    rw [← hs, (quiet_addTask l job listener).stage? hlt]
  · obtain hold | ⟨-, hready, -⟩ := hidle.task?_cases ht
    · exact faithful_mono (ha.faithful t task hold) (fun c d s hc => ⟨s, hidle.task? hc⟩)
        fun c e he => hidle.result?.mpr he
    · exact faithful_of_plain (.inl hready)
  · have hwork := work_append l (l.addTask job listener).1 [] [⟨job, listener, .ready⟩]
      rfl (List.append_nil _).symm rfl rfl rfl
    have hjob : Task.worth l.documents.size ⟨job, listener, .ready⟩ = job.worth l.documents.size :=
      rfl
    have hle := ha.work
    simp only [List.map_cons, List.map_nil, List.sum_cons, List.sum_nil, hjob] at hwork
    omega

/-- A task begins at once. -/
theorem Attended.beginNow (ha : Attended cs none n l) (job : Job) :
    Attended cs none (n + job.worth l.documents.size)
      ((l.addTask job .nobody).1.begin (l.addTask job .nobody).2 job) :=
  (ha.addTask job .nobody (by simp)).begin (.inr rfl) (a := .nobody) (by simp [Loop.addTask])

/-- A question is answered. -/
theorem Attended.answer (ha : Attended cs none n l) (hg : Gathers none l) (request : Nat)
    (again : Bool) : ∃ n', Attended cs none n' (l.answer request again) := by
  obtain hnobody | ⟨t, task, ht, hstage, hanswer⟩ := l.answer_cases request again
  · rw [hnobody]
    exact ⟨n, ha⟩
  · have hfits := hg.fits t task ht
    rw [hstage] at hfits
    obtain ⟨message, hjob⟩ := hfits
    rw [hanswer]
    refine ⟨_, ha.move [.relay t] (s := .answered again) (.inl rfl) ht
      (by rw [hstage]; rfl) rfl (fun p => ?_) (by simp) (Nat.zero_le _)
      (.inl (List.mem_append_right _ List.mem_cons_self))
      (faithful_of_not_bringsDocuments (by rw [hjob]; rfl)) (Nat.le_add_right _ _)⟩
    rw [pending_enqueue (l.setStage t (.answered again)) (.relay t) rfl]
    exact pending_setStage ht (s := .answered again) (by rw [hstage]; rfl) p

/-- A task is cancelled: it no longer waits, and notices that at its turn. -/
theorem Attended.cancel (ha : Attended cs none n l) (ht : cs t) :
    ∃ n', Attended cs none n' (l.cancel t) := by
  obtain hover | ⟨task, htask, hopen, hcancel⟩ := l.cancel_cases t
  · rw [hover]
    exact ⟨n, ha⟩
  · have hleft : Attended cs (some t) n
        { l with waiting := l.waiting.filter fun p => p.2 != t } := by
      refine ⟨ha.unsettled, ha.known, fun id t' hw => ha.waiting id t' (List.mem_filter.mp hw).1,
        ha.children, fun t' s hne hs => ?_, fun t' task' ht' => ?_, ?_⟩
      · refine due_mono (l := l) (fun _ hm => hm) (fun hm => .inl hm) (fun hm => hm)
          (fun id hw => .inl (List.mem_filter.mpr ⟨hw, ?_⟩)) (fun _ ho => ho)
          (fun _ _ _ => Nat.le_refl _) (ha.due t' s (by simp) hs)
        simpa using fun he => hne (congrArg some he.symm)
      · exact faithful_mono (ha.faithful t' task' ht') (fun c d s hc => ⟨s, hc⟩)
          fun c e he => he
      · have hfewer := List.length_filter_le (fun p => p.2 != t) l.waiting
        have hle := ha.work
        simp only [Loop.work] at hle ⊢
        omega
    rw [hcancel]
    refine ⟨_, hleft.move [.wake t] (s := .leaving) (.inr rfl) htask hopen rfl
      (fun p => ?_) (by simp) (Nat.zero_le _)
      ⟨ht, List.mem_append_right _ List.mem_cons_self⟩
      (faithful_of_plain (.inr (.inl rfl))) (Nat.le_add_right _ _)⟩
    rw [pending_enqueue _ (.wake t) rfl]
    exact pending_setStage htask (s := .leaving) (isDone_of_isOver hopen).symm p

/-- Who is in a step that a session takes is attended to. -/
theorem Attended.ownAct (ha : Attended (fun _ => True) none n l) (hg : Gathers none l) (a : Act) :
    ∃ n', Attended (fun _ => True) none n' (l.ownAct a) := by
  have hsteady : ∀ {k : Nat}, Steady k l (l.ownAct a) →
      ∃ n', Attended (fun _ => True) none n' (l.ownAct a) := fun h => ⟨_, ha.steady h⟩
  cases a with
  | turn i =>
    simp only [Loop.ownAct, Act.own, act]
    split
    · rename_i turn hturn
      obtain ⟨hlt, rfl⟩ := List.getElem?_eq_some_iff.mp hturn
      exact ⟨n, Attended.take (l := { l with queue := l.queue.eraseIdx i })
        (ha.le (Nat.le_succ n)) hg (List.getElem_cons_eraseIdx_perm hlt).symm⟩
    · exact ⟨n, ha⟩
  | spawn job told =>
    have hadded := ha.addTask job (if told then .editor else .nobody) (by split <;> simp)
    refine ⟨_, (hadded.steady (steady_enqueue _ (.start l.tasks.length) rfl
      (by simp))).settleHand fun s hs => ?_⟩
    obtain rfl := (quiet_addTask l job _).stage?_new (Nat.le_refl _) hs
    exact List.mem_append_right _ List.mem_cons_self
  | begin job => exact ⟨_, ha.beginNow job⟩
  | close uri => exact hsteady (.of_eq rfl rfl rfl rfl rfl fun _ hp => hp)
  | answer request again => exact ha.answer hg request again
  | cancel t => exact ha.cancel trivial
  | attach root settings =>
    refine hsteady (k := 0) (.of_eq rfl rfl rfl rfl ?_ ?_) <;> cases settings
    · rfl
    · rfl
    · exact fun _ hp => hp
    · exact fun _ hp => hp
  | elsewhere documents resolver host =>
    exact ⟨_, ⟨ha.unsettled, ha.known, ha.waiting, ha.children, ha.due, ha.faithful,
      Nat.le_refl _⟩⟩

theorem Attended.ownAfter (ha : Attended (fun _ => True) none n l) (hg : Gathers none l)
    (acts : List Act) : ∃ n', Attended (fun _ => True) none n' (l.ownAfter acts) := by
  induction acts generalizing n l with
  | nil => exact ⟨n, ha⟩
  | cons a acts ih =>
    obtain ⟨n', ha'⟩ := ha.ownAct hg a
    exact ih ha' (hg.act _)

/-- Only tasks that are there have been cancelled. -/
theorem Attended.present (ha : Attended (fun _ => True) none n l) :
    Attended (· < l.tasks.length) none n l := by
  refine ⟨ha.unsettled, ha.known, ha.waiting, ha.children, fun t s hne hs => ?_, ha.faithful,
    ha.work⟩
  have hlt := stage?_lt hs
  have hdue := ha.due t s hne hs
  cases s with
  | leaving => exact ⟨hlt, hdue.2⟩
  | cancelled => exact hlt
  | _ => exact hdue

/-! ### When nothing is left to do -/

end Loop

end LintBridge

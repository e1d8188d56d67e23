import LintBridge.Proofs.Session.History

/-! The course of a session: validations begin and conclude in any order, with closings,
changed settings and forgotten modules between any two of these steps. What happened is
kept as a history. One number for each document is enough to keep the history straight: a
validation that waits has the current number if and only if nothing has begun or closed
its document since it began. -/

namespace LintBridge

/-- A session with the validations that have begun, those that wait, and what has happened. -/
structure Course where
  session : Session
  host : Host
  begun : List Nat
  waiting : List (Nat × Validation)
  history : List Happening

namespace Course

open Happening (last fixesLeft Timely timely_nil last_began last_closed last_ended
  fixesLeft_concat)

/-- A step of a session. Every validation has a number of its own to be told by. A module is
resolved in other steps, whose outcome a validation is given when it concludes; `elsewhere` is any
of these, and whatever else goes on. -/
inductive Act where
  | begin (k : Nat) (d : Document)
  | conclude (k : Nat) (o : Outcome)
  | close (uri : String)
  | changeSettings (payload : Json)
  | attach (root : Option String) (settings : Option Settings)
  | invalidate (root : Option String)
  | reset
  | elsewhere (resolver : Resolver) (host : Host)

/-- A session at its start. -/
def fresh (s : Session) (h : Host) : Course :=
  ⟨s, h, [], [], []⟩

variable (c : Course)

/-- Begins a validation. One of a document that is not a file ends at once, one of a
refused URI never ends. -/
def begin (k : Nat) (d : Document) : Course :=
  let (begun, session, host) := c.session.begin c.host d
  let history := c.history ++ [.began k d.uri]
  match begun with
  | .ok (some v) => ⟨session, host, k :: c.begun, c.waiting ++ [(k, v)], history⟩
  | .ok none => ⟨session, host, k :: c.begun, c.waiting,
      history ++ [.ended k (.plain d.uri .skipped) [] []]⟩
  | .error _ => ⟨session, host, k :: c.begun, c.waiting, history⟩

/-- Concludes a validation that waits. One whose fault cannot be told never ends. -/
def conclude (k : Nat) (v : Validation) (o : Outcome) : Course :=
  let (result, events, session, host) := c.session.conclude c.host v o
  let waiting := c.waiting.filter fun p => p.1 != k
  match result with
  | .ok r => ⟨session, host, c.begun, waiting,
      c.history ++ [.ended k r events (c.session.translation c.host v o).fixes]⟩
  | .error _ => ⟨session, host, c.begun, waiting, c.history⟩

/-- Closes a document. -/
def close (uri : String) : Course :=
  let (events, session) := c.session.close uri
  { c with session := session, history := c.history ++ [.closed uri events] }

/-- Takes a step. -/
def act : Act → Course
  | .begin k d => if k ∈ c.begun then c else c.begin k d
  | .conclude k o =>
    match c.waiting.lookup k with
    | some v => c.conclude k v o
    | none => c
  | .close uri => c.close uri
  | .changeSettings payload =>
    match c.session.applySettings c.host payload with
    | (.ok session, host) => { c with session := session, host := host }
    | (.error _, host) => { c with host := host }
  | .attach root settings =>
    let (session, host) := c.session.attach c.host root settings
    { c with session := session, host := host }
  | .invalidate root =>
    { c with session.resolver := c.session.resolver.invalidate c.host root }
  | .reset =>
    let (resolver, host) := c.session.resolver.reset c.host
    { c with session.resolver := resolver, host := host }
  | .elsewhere resolver host => { c with session.resolver := resolver, host := host }

/-- Takes steps in order. -/
def after (acts : List Act) : Course :=
  acts.foldl act c

theorem after_append (acts acts' : List Act) :
    c.after (acts ++ acts') = (c.after acts).after acts' :=
  List.foldl_append

theorem after_concat (acts : List Act) (a : Act) : c.after (acts ++ [a]) = (c.after acts).act a :=
  c.after_append acts [a]

/-- All that the editor was told. -/
def events : List Event :=
  c.history.flatMap Happening.events

/-- The list that was published last for a document. -/
def shown (uri : String) : Option (List Diagnostic) :=
  Event.lastList c.events uri

/-! ### How the history grows -/

/-- The history has gone on to that of `c'`: nothing is taken back, and who has begun since had not
begun before. -/
structure Grown (c c' : Course) (new : List Happening) : Prop where
  history : c'.history = c.history ++ new
  begun : ∀ k ∈ c.begun, k ∈ c'.begun
  fresh : ∀ k uri, .began k uri ∈ new → k ∉ c.begun

theorem Grown.refl : Grown c c [] :=
  ⟨(List.append_nil _).symm, fun _ hk => hk, by simp⟩

theorem Grown.trans {c c' c'' : Course} {new new' : List Happening} (h : Grown c c' new)
    (h' : Grown c' c'' new') : Grown c c'' (new ++ new') where
  history := by rw [h'.history, h.history, List.append_assoc]
  begun k hk := h'.begun k (h.begun k hk)
  fresh k uri hm hk := by
    obtain hm | hm := List.mem_append.mp hm
    · exact h.fresh k uri hm hk
    · exact h'.fresh k uri hm (h.begun k hk)

theorem grown_begin {k : Nat} (hk : k ∉ c.begun) (d : Document) :
    ∃ new, Grown c (c.begin k d) new := by
  simp only [begin]
  split
  · exact ⟨[.began k d.uri], rfl, fun _ h => List.mem_cons_of_mem _ h, by simp [hk]⟩
  · exact ⟨[.began k d.uri, .ended k (.plain d.uri .skipped) [] []],
      List.append_assoc _ _ _, fun _ h => List.mem_cons_of_mem _ h, by simp [hk]⟩
  · exact ⟨[.began k d.uri], rfl, fun _ h => List.mem_cons_of_mem _ h, by simp [hk]⟩

theorem grown_conclude (k : Nat) (v : Validation) (o : Outcome) :
    ∃ new, Grown c (c.conclude k v o) new := by
  simp only [conclude]
  split
  · exact ⟨_, rfl, fun _ h => h, by simp⟩
  · exact ⟨[], (List.append_nil _).symm, fun _ h => h, by simp⟩

theorem grown_act (a : Act) : ∃ new, Grown c (c.act a) new := by
  cases a with
  | begin k d =>
    simp only [act]
    split
    · exact ⟨[], .refl c⟩
    · rename_i hk
      exact c.grown_begin hk d
  | conclude k o =>
    simp only [act]
    split
    · exact c.grown_conclude k _ o
    · exact ⟨[], .refl c⟩
  | close uri => exact ⟨_, rfl, fun _ h => h, by simp⟩
  | changeSettings payload =>
    simp only [act]
    split <;> exact ⟨[], (List.append_nil _).symm, fun _ h => h, by simp⟩
  | attach root settings => exact ⟨[], (List.append_nil _).symm, fun _ h => h, by simp⟩
  | invalidate root => exact ⟨[], (List.append_nil _).symm, fun _ h => h, by simp⟩
  | reset => exact ⟨[], (List.append_nil _).symm, fun _ h => h, by simp⟩
  | elsewhere resolver host => exact ⟨[], (List.append_nil _).symm, fun _ h => h, by simp⟩

theorem grown_after (acts : List Act) : ∃ new, Grown c (c.after acts) new := by
  induction acts generalizing c with
  | nil => exact ⟨[], .refl c⟩
  | cons a acts ih =>
    obtain ⟨new, h⟩ := c.grown_act a
    obtain ⟨new', h'⟩ := ih (c.act a)
    exact ⟨new ++ new', h.trans h'⟩

/-! ### What the history keeps -/

/-- Numbers, lists and quick fixes agree with the history. -/
structure Sound (c : Course) : Prop where
  early : ∀ k v, (k, v) ∈ c.waiting → k ∈ c.begun
  ended : ∀ k r es fs, .ended k r es fs ∈ c.history → k ∈ c.begun ∧ ∀ v, (k, v) ∉ c.waiting
  known : ∀ uri k, last c.history uri = some (.began k) → k ∈ c.begun
  taken : ∀ k v, (k, v) ∈ c.waiting → 0 < v.number ∧ v.number ≤ c.session.number v.document.uri
  /-- A validation has the current number while it was the last to renew it. -/
  current : ∀ k v, (k, v) ∈ c.waiting → ∀ uri, last c.history uri = some (.began k) ↔
    uri = v.document.uri ∧ v.number = c.session.number uri
  timely : Timely c.history
  whole : ∀ x ∈ c.history, x.Whole
  fixes : ∀ uri, c.session.fixesOf uri = fixesLeft c.history uri
  cleared : ∀ uri, last c.history uri = some .closed →
    c.shown uri = some [] ∧ c.session.fixes.lookup uri = none
  kept : ∀ uri k r es fs, last c.history uri = some (.began k) → .ended k r es fs ∈ c.history →
    r.status = .ok → c.shown uri = some r.diagnostics ∧ c.session.fixes.lookup uri = some fs

theorem sound_fresh (root : Option String) (settings : Settings) (resolver : Resolver)
    (h : Host) : (fresh (.fresh root settings resolver) h).Sound where
  early _ _ hw := by simp [fresh] at hw
  ended _ _ _ _ he := by simp [fresh] at he
  known _ _ hl := by simp [fresh] at hl
  taken _ _ hw := by simp [fresh] at hw
  current _ _ hw := by simp [fresh] at hw
  timely := timely_nil
  whole _ he := by simp [fresh] at he
  fixes _ := rfl
  cleared _ hl := by simp [fresh] at hl
  kept _ _ _ _ _ hl := by simp [fresh] at hl

variable {c}

theorem shown_of_silent {c c' : Course} {x : Happening} (hx : x.events = [])
    (hh : c'.history = c.history ++ [x]) (uri : String) : c'.shown uri = c.shown uri := by
  simp [shown, events, hh, hx]

theorem shown_of_publish {c c' : Course} {x : Happening} {u : String} {ds : List Diagnostic}
    (hx : x.events = [.publish u ds]) (hh : c'.history = c.history ++ [x]) (uri : String) :
    c'.shown uri = if u = uri then some ds else c.shown uri := by
  simp only [shown, events, hh, List.flatMap_append, List.flatMap_singleton, hx,
    Event.lastList_append]
  by_cases h : u = uri
  · subst h
    simp
  · simp [Event.lastList_publish_of_ne ds h, h]

theorem Sound.whole_concat (hc : c.Sound) {x : Happening} (hx : x.Whole) :
    ∀ y ∈ c.history ++ [x], y.Whole :=
  List.forall_mem_append.mpr ⟨hc.whole, List.forall_mem_singleton.mpr hx⟩

/-- Whoever has ended has begun and no longer waits, and so does one more. -/
theorem Sound.ended_concat (hc : c.Sound) {k : Nat} {r : ValidationResult} {es : List Event}
    {fs : List QuickFix} (hk : k ∈ c.begun) (hw : ∀ v, (k, v) ∉ c.waiting) (k' : Nat)
    (r' : ValidationResult) (es' : List Event) (fs' : List QuickFix)
    (he : .ended k' r' es' fs' ∈ c.history ++ [.ended k r es fs]) :
    k' ∈ c.begun ∧ ∀ v, (k', v) ∉ c.waiting := by
  simp only [List.mem_append, List.mem_singleton, Happening.ended.injEq] at he
  obtain he | ⟨rfl, -⟩ := he
  · exact hc.ended k' r' es' fs' he
  · exact ⟨hk, hw⟩

/-- Only numbers and fixes of the session matter. -/
theorem Sound.of_session (hc : c.Sound) {s : Session} (h : Host)
    (hn : s.numbers = c.session.numbers) (hf : s.fixes = c.session.fixes) :
    Sound { c with session := s, host := h } where
  early := hc.early
  ended := hc.ended
  known := hc.known
  taken k v hw := by
    simp only [Session.number, hn]
    exact hc.taken k v hw
  current k v hw uri := by
    simp only [Session.number, hn]
    exact hc.current k v hw uri
  timely := hc.timely
  whole := hc.whole
  fixes uri := by
    rw [Session.fixesOf, hf]
    exact hc.fixes uri
  cleared uri hl := by
    rw [hf]
    exact hc.cleared uri hl
  kept uri k r es fs hl he hr := by
    rw [hf]
    exact hc.kept uri k r es fs hl he hr

/-! ### Beginning -/

/-- A beginning makes all validations of its document stale. -/
theorem Sound.began (hc : c.Sound) (h : Host) {k : Nat} (hk : k ∉ c.begun) (u : String) :
    Sound ⟨(c.session.bump u).1, h, k :: c.begun, c.waiting, c.history ++ [.began k u]⟩ where
  early k' v hw := List.mem_cons_of_mem _ (hc.early k' v hw)
  ended k' r es fs he := by
    simp only [List.mem_append, List.mem_singleton, reduceCtorEq, or_false] at he
    obtain ⟨hk', hw⟩ := hc.ended k' r es fs he
    exact ⟨List.mem_cons_of_mem _ hk', hw⟩
  known uri k' hl := by
    rw [last_began] at hl
    split at hl
    · obtain rfl := Renewal.began.inj (Option.some.inj hl)
      exact List.mem_cons_self
    · exact List.mem_cons_of_mem _ (hc.known uri k' hl)
  taken k' v hw := by
    obtain ⟨h0, hle⟩ := hc.taken k' v hw
    exact ⟨h0, Nat.le_trans hle (c.session.number_le_bump u _)⟩
  current k' v hw uri := by
    have hk' := hc.early k' v hw
    obtain ⟨-, hle⟩ := hc.taken k' v hw
    rw [last_began]
    by_cases hu : u = uri
    · subst hu
      rw [if_pos rfl, Session.number_bump_self]
      constructor
      · intro hb
        obtain rfl := Renewal.began.inj (Option.some.inj hb)
        exact absurd hk' hk
      · rintro ⟨rfl, hv⟩
        omega
    · rw [if_neg hu, Session.number_bump_of_ne _ (Ne.symm hu)]
      exact hc.current k' v hw uri
  timely := hc.timely.concat _ fun k r es fs hx => by simp at hx
  whole := hc.whole_concat trivial
  fixes uri := by
    rw [fixesLeft_concat]
    exact hc.fixes uri
  cleared uri hl := by
    rw [last_began] at hl
    split at hl
    · simp at hl
    · rw [shown_of_silent rfl rfl]
      exact hc.cleared uri hl
  kept uri k' r es fs hl he hr := by
    simp only [List.mem_append, List.mem_singleton, reduceCtorEq, or_false] at he
    rw [last_began] at hl
    split at hl
    · obtain rfl := Renewal.began.inj (Option.some.inj hl)
      exact absurd (hc.ended k r es fs he).1 hk
    · rw [shown_of_silent rfl rfl]
      exact hc.kept uri k' r es fs hl he hr

/-- The last validation to begin may wait with the number that it took. -/
theorem Sound.waits (hc : c.Sound) {k : Nat} {v : Validation} (hk : k ∈ c.begun)
    (h0 : 0 < v.number) (hv : v.number = c.session.number v.document.uri)
    (hl : ∀ uri, last c.history uri = some (.began k) ↔ uri = v.document.uri)
    (hn : ∀ r es fs, .ended k r es fs ∉ c.history) :
    Sound { c with waiting := c.waiting ++ [(k, v)] } where
  early k' v' hw := by
    obtain hw | hw := List.mem_append.mp hw
    · exact hc.early k' v' hw
    · obtain ⟨rfl, rfl⟩ := Prod.mk.inj (List.mem_singleton.mp hw)
      exact hk
  ended k' r es fs he := by
    refine ⟨(hc.ended k' r es fs he).1, fun v' hw => ?_⟩
    obtain hw | hw := List.mem_append.mp hw
    · exact (hc.ended k' r es fs he).2 v' hw
    · obtain ⟨rfl, rfl⟩ := Prod.mk.inj (List.mem_singleton.mp hw)
      exact hn r es fs he
  known := hc.known
  taken k' v' hw := by
    obtain hw | hw := List.mem_append.mp hw
    · exact hc.taken k' v' hw
    · obtain ⟨rfl, rfl⟩ := Prod.mk.inj (List.mem_singleton.mp hw)
      exact ⟨h0, Nat.le_of_eq hv⟩
  current k' v' hw uri := by
    obtain hw | hw := List.mem_append.mp hw
    · exact hc.current k' v' hw uri
    · obtain ⟨rfl, rfl⟩ := Prod.mk.inj (List.mem_singleton.mp hw)
      rw [hl]
      exact ⟨fun hu => ⟨hu, hu ▸ hv⟩, And.left⟩
  timely := hc.timely
  whole := hc.whole
  fixes := hc.fixes
  cleared := hc.cleared
  kept := hc.kept

/-! ### Ending -/

/-- A validation no longer waits. -/
theorem Sound.leaves (hc : c.Sound) (k : Nat) :
    Sound { c with waiting := c.waiting.filter fun p => p.1 != k } where
  early k' v hw := hc.early k' v (List.mem_filter.mp hw).1
  ended k' r es fs he :=
    ⟨(hc.ended k' r es fs he).1, fun v hw =>
      (hc.ended k' r es fs he).2 v (List.mem_filter.mp hw).1⟩
  known := hc.known
  taken k' v hw := hc.taken k' v (List.mem_filter.mp hw).1
  current k' v hw := hc.current k' v (List.mem_filter.mp hw).1
  timely := hc.timely
  whole := hc.whole
  fixes := hc.fixes
  cleared := hc.cleared
  kept := hc.kept

/-- An end without a list leaves everything as it is. -/
theorem Sound.endsSilently (hc : c.Sound) (h : Host) {k : Nat} {r : ValidationResult}
    (fs : List QuickFix) (hk : k ∈ c.begun) (hw : ∀ v, (k, v) ∉ c.waiting)
    (hr : r.status ≠ .ok) (hs : r.status = .stale → last c.history r.uri ≠ some (.began k)) :
    Sound { c with host := h, history := c.history ++ [.ended k r [] fs] } where
  early := hc.early
  ended := hc.ended_concat hk hw
  known uri k' hl := hc.known uri k' (by rwa [last_ended] at hl)
  taken := hc.taken
  current k' v hw uri := by
    rw [last_ended]
    exact hc.current k' v hw uri
  timely := hc.timely.concat _ fun k' r' es fs' hx => by
    obtain ⟨rfl, rfl, rfl, -⟩ := Happening.ended.inj hx
    exact ⟨fun uri ds hp => by simp at hp, hs⟩
  whole := hc.whole_concat ⟨by rw [if_neg hr], fun hok => absurd hok hr⟩
  fixes uri := by
    rw [fixesLeft_concat]
    simp only [Happening.fixes?, hr, and_false, if_false, Option.getD_none]
    exact hc.fixes uri
  cleared uri hl := by
    rw [last_ended] at hl
    rw [shown_of_silent rfl rfl]
    exact hc.cleared uri hl
  kept uri k' r' es fs' hl he hr' := by
    rw [last_ended] at hl
    rw [shown_of_silent rfl rfl]
    simp only [List.mem_append, List.mem_singleton, Happening.ended.injEq] at he
    obtain he | ⟨-, rfl, -⟩ := he
    · exact hc.kept uri k' r' es fs' hl he hr'
    · exact absurd hr' hr

/-- An end with a list, by the validation that renewed the document last, shows the list and
stores its fixes. -/
theorem Sound.publishes (hc : c.Sound) (h : Host) {k : Nat} {u : String} (ds : List Diagnostic)
    (fs : List QuickFix) (hk : k ∈ c.begun) (hw : ∀ v, (k, v) ∉ c.waiting)
    (hl : ∀ uri, last c.history uri = some (.began k) ↔ uri = u)
    (hn : ∀ r es fs, .ended k r es fs ∉ c.history) (hf : ds = [] → fs = []) :
    Sound ⟨c.session.storeFixes u fs, h, c.begun, c.waiting,
      c.history ++ [.ended k (.published u ds) [.publish u ds] fs]⟩ where
  early := hc.early
  ended := hc.ended_concat hk hw
  known uri k' hl' := hc.known uri k' (by rwa [last_ended] at hl')
  taken := hc.taken
  current k' v hw uri := by
    rw [last_ended]
    exact hc.current k' v hw uri
  timely := hc.timely.concat _ fun k' r' es fs' hx => by
    obtain ⟨rfl, rfl, rfl, -⟩ := Happening.ended.inj hx
    refine ⟨fun uri ds' hp => ?_, fun hs => by simp [ValidationResult.published] at hs⟩
    obtain ⟨rfl, -⟩ := Event.publish.inj (List.mem_singleton.mp hp)
    exact (hl uri).mpr rfl
  whole := hc.whole_concat ⟨rfl, fun _ => hf⟩
  fixes uri := by
    rw [fixesLeft_concat]
    by_cases hu : u = uri
    · subst hu
      simp [Happening.fixes?, ValidationResult.published, Session.fixesOf,
        Session.fixes_storeFixes_self]
    · simp only [Happening.fixes?, ValidationResult.published, hu, false_and, if_false,
        Option.getD_none, Session.fixesOf, Session.fixes_storeFixes_of_ne _ _ (Ne.symm hu)]
      exact hc.fixes uri
  cleared uri hl' := by
    rw [last_ended] at hl'
    have hu : u ≠ uri := by
      rintro rfl
      rw [(hl u).mpr rfl] at hl'
      simp at hl'
    rw [shown_of_publish rfl rfl, if_neg hu, Session.fixes_storeFixes_of_ne _ _ (Ne.symm hu)]
    exact hc.cleared uri hl'
  kept uri k' r' es fs' hl' he hr' := by
    rw [last_ended] at hl'
    rw [shown_of_publish rfl rfl]
    simp only [List.mem_append, List.mem_singleton, Happening.ended.injEq] at he
    by_cases hu : u = uri
    · subst hu
      rw [(hl u).mpr rfl] at hl'
      obtain rfl := Renewal.began.inj (Option.some.inj hl')
      obtain he | ⟨-, rfl, -, rfl⟩ := he
      · exact absurd he (hn r' es fs')
      · rw [if_pos rfl, Session.fixes_storeFixes_self]
        exact ⟨rfl, rfl⟩
    · rw [if_neg hu, Session.fixes_storeFixes_of_ne _ _ (Ne.symm hu)]
      obtain he | ⟨rfl, -⟩ := he
      · exact hc.kept uri k' r' es fs' hl' he hr'
      · exact absurd ((hl uri).mp hl').symm hu

/-- A closing makes all validations of its document stale, and shows the empty list. -/
theorem Sound.closes (hc : c.Sound) (u : String) :
    Sound { c with
      session := (c.session.close u).2, history := c.history ++ [.closed u [.publish u []]] } where
  early := hc.early
  ended k r es fs he := by
    simp only [List.mem_append, List.mem_singleton, reduceCtorEq, or_false] at he
    exact hc.ended k r es fs he
  known uri k hl := by
    rw [last_closed] at hl
    split at hl
    · simp at hl
    · exact hc.known uri k hl
  taken k v hw := by
    obtain ⟨h0, hle⟩ := hc.taken k v hw
    exact ⟨h0, Nat.le_trans hle (c.session.number_le_bump u _)⟩
  current k v hw uri := by
    obtain ⟨-, hle⟩ := hc.taken k v hw
    rw [last_closed]
    by_cases hu : u = uri
    · subst hu
      rw [if_pos rfl, Session.number_close_self]
      constructor
      · simp
      · rintro ⟨rfl, hv⟩
        omega
    · rw [if_neg hu, Session.number_close_of_ne _ (Ne.symm hu)]
      exact hc.current k v hw uri
  timely := hc.timely.concat _ fun k r es fs hx => by simp at hx
  whole := hc.whole_concat rfl
  fixes uri := by
    rw [fixesLeft_concat]
    by_cases hu : u = uri
    · subst hu
      simp [Happening.fixes?, Session.fixesOf, Session.fixes_close_self]
    · simp only [Happening.fixes?, if_neg hu, Option.getD_none, Session.fixesOf,
        Session.fixes_close_of_ne _ (Ne.symm hu)]
      exact hc.fixes uri
  cleared uri hl := by
    rw [last_closed] at hl
    rw [shown_of_publish rfl rfl]
    by_cases hu : u = uri
    · subst hu
      rw [if_pos rfl, Session.fixes_close_self]
      exact ⟨rfl, rfl⟩
    · rw [if_neg hu] at hl ⊢
      rw [Session.fixes_close_of_ne _ (Ne.symm hu)]
      exact hc.cleared uri hl
  kept uri k r es fs hl he hr := by
    simp only [List.mem_append, List.mem_singleton, reduceCtorEq, or_false] at he
    rw [last_closed] at hl
    rw [shown_of_publish rfl rfl]
    by_cases hu : u = uri
    · rw [if_pos hu] at hl
      simp at hl
    · rw [if_neg hu] at hl ⊢
      rw [Session.fixes_close_of_ne _ (Ne.symm hu)]
      exact hc.kept uri k r es fs hl he hr

/-! ### One step and all of them -/

theorem Sound.begin (hc : c.Sound) {k : Nat} (hk : k ∉ c.begun) (d : Document) :
    (c.begin k d).Sound := by
  have hs := fun h => hc.began h hk d.uri
  have hw : ∀ v, (k, v) ∉ c.waiting := fun v hw => hk (hc.early _ _ hw)
  have hn : ∀ r es fs, .ended k r es fs ∉ c.history ++ [.began k d.uri] := by
    intro r es fs he
    simp only [List.mem_append, List.mem_singleton, reduceCtorEq, or_false] at he
    exact hk (hc.ended _ _ _ _ he).1
  have hl : ∀ uri, last (c.history ++ [.began k d.uri]) uri = some (.began k) ↔
      uri = d.uri := by
    intro uri
    rw [last_began]
    by_cases hu : d.uri = uri
    · simp [hu]
    · rw [if_neg hu]
      exact ⟨fun hl => absurd (hc.known _ _ hl) hk, fun hu' => absurd hu'.symm hu⟩
  have hcases := c.session.begin_cases c.host d
  simp only [Course.begin]
  generalize c.session.begin c.host d = x at hcases ⊢
  cases hcases with
  | refused e uri => exact hs c.host
  | skipped h' uri =>
    exact (hs h').endsSilently h' [] List.mem_cons_self hw
      (by simp [ValidationResult.plain]) (by simp [ValidationResult.plain])
  | waits path uri =>
    exact (hs c.host).waits List.mem_cons_self (Nat.succ_pos _)
      (c.session.number_bump_self d.uri).symm hl hn

theorem Sound.conclude (hc : c.Sound) {k : Nat} {v : Validation} (hw : (k, v) ∈ c.waiting)
    (o : Outcome) : (c.conclude k v o).Sound := by
  have hl := hc.leaves k
  have hk := hc.early k v hw
  have hgone : ∀ v', (k, v') ∉ c.waiting.filter fun p => p.1 != k := by simp
  have hcases := c.session.conclude_cases c.host v o
  simp only [Course.conclude]
  generalize c.session.conclude c.host v o = x at hcases ⊢
  cases hcases with
  | stale h' old =>
    refine hl.endsSilently h' _ hk hgone (by simp [ValidationResult.plain]) fun _ hlast => ?_
    obtain ⟨-, hv⟩ := (hc.current k v hw v.document.uri).mp hlast
    rw [(c.session.isCurrent_iff (hc.taken k v hw).1).mpr hv] at old
    simp at old
  | untold m present current e flaw fault shown => exact hl.of_session _ rfl rfl
  | silent r h' status =>
    refine hl.endsSilently h' _ hk hgone (fun hr => ?_) fun hr => ?_ <;>
      obtain hs | hs := status <;> exact absurd (hs.symm.trans hr) (by decide)
  | published m present current whole =>
    have hcur := (c.session.isCurrent_iff (hc.taken k v hw).1).mp current
    subst present
    refine hl.publishes _ _ _ hk hgone (fun uri => ?_)
      (fun r es fs he => (hc.ended k r es fs he).2 v hw) Report.Digest.fixes_eq_nil
    rw [hc.current k v hw uri]
    exact ⟨And.left, fun hu => ⟨hu, hu ▸ hcur⟩⟩

theorem session_conclude (k : Nat) (v : Validation) (o : Outcome) :
    (c.conclude k v o).session = (c.session.conclude c.host v o).2.2.1 := by
  simp only [Course.conclude]
  split <;> rfl

theorem host_conclude (k : Nat) (v : Validation) (o : Outcome) :
    (c.conclude k v o).host = (c.session.conclude c.host v o).2.2.2 := by
  simp only [Course.conclude]
  split <;> rfl

theorem begun_conclude (k : Nat) (v : Validation) (o : Outcome) :
    (c.conclude k v o).begun = c.begun := by
  simp only [Course.conclude]
  split <;> rfl

theorem waiting_conclude (k : Nat) (v : Validation) (o : Outcome) :
    (c.conclude k v o).waiting = c.waiting.filter fun p => p.1 != k := by
  simp only [Course.conclude]
  split <;> rfl

/-- A validation that is concluded with a result ends with it, and nothing else ends. -/
theorem ended_mem_conclude_iff {k k' : Nat} {v : Validation} {o : Outcome} {r : ValidationResult}
    {es : List Event} {fs : List QuickFix} :
    .ended k' r es fs ∈ (c.conclude k v o).history ↔ .ended k' r es fs ∈ c.history ∨
      k' = k ∧ (c.session.conclude c.host v o).1 = .ok r ∧
        es = (c.session.conclude c.host v o).2.1 ∧
        fs = (c.session.translation c.host v o).fixes := by
  simp only [Course.conclude]
  cases hr : (c.session.conclude c.host v o).1 <;> simp [eq_comm]

theorem events_conclude (k : Nat) (v : Validation) (o : Outcome) :
    (c.conclude k v o).events = c.events ++ (c.session.conclude c.host v o).2.1 := by
  have hcases := c.session.conclude_cases c.host v o
  simp only [Course.conclude]
  generalize c.session.conclude c.host v o = x at hcases ⊢
  cases hcases <;> simp [events, Happening.events]

theorem Sound.act (hc : c.Sound) (a : Act) : (c.act a).Sound := by
  cases a with
  | begin k d =>
    simp only [Course.act]
    split
    · exact hc
    · rename_i hk
      exact hc.begin hk d
  | conclude k o =>
    simp only [Course.act]
    split
    · rename_i v hv
      obtain ⟨l₁, l₂, hw, -⟩ := List.lookup_eq_some_iff.mp hv
      exact hc.conclude (hw ▸ List.mem_append_right _ List.mem_cons_self) o
    · exact hc
  | close uri => exact hc.closes uri
  | changeSettings payload =>
    simp only [Course.act]
    split
    · rename_i s h hs
      obtain ⟨hn, hf⟩ := c.session.applySettings_ok c.host (congrArg Prod.fst hs)
      exact hc.of_session h hn hf
    · exact hc.of_session _ rfl rfl
  | attach root settings =>
    simp only [Course.act, Session.attach]
    split <;> exact hc.of_session _ rfl rfl
  | invalidate root => exact hc.of_session _ rfl rfl
  | reset => exact hc.of_session _ rfl rfl
  | elsewhere resolver host => exact hc.of_session _ rfl rfl

theorem Sound.after (hc : c.Sound) (acts : List Act) : (c.after acts).Sound := by
  induction acts generalizing c with
  | nil => exact hc
  | cons a acts ih => exact ih (hc.act a)

/-- Whatever the order of the steps, a validation publishes only if nothing has begun or closed
its document since it began, and is not stale if its number is current when it concludes. What
is shown for a document, and its quick fixes, are those of the last closing, none, or those of
the last validation to begin once it has ended well. -/
theorem newest_result_is_shown (root : Option String) (settings : Settings)
    (resolver : Resolver) (h : Host) (acts : List Act) :
    let c := (fresh (.fresh root settings resolver) h).after acts
    (∀ before k r es fs later, c.history = before ++ .ended k r es fs :: later →
      (∀ uri ds, .publish uri ds ∈ es → last before uri = some (.began k)) ∧
      (r.status = .stale → last before r.uri ≠ some (.began k))) ∧
    (∀ k v o r, (k, v) ∈ c.waiting → c.session.number v.document.uri = v.number →
      (c.session.conclude c.host v o).1 = .ok r → r.status ≠ .stale) ∧
    (∀ uri, last c.history uri = some .closed →
      c.shown uri = some [] ∧ c.session.fixes.lookup uri = none) ∧
    (∀ uri k r es fs, last c.history uri = some (.began k) → .ended k r es fs ∈ c.history →
      r.status = .ok → c.shown uri = some r.diagnostics ∧ c.session.fixes.lookup uri = some fs) := by
  intro c
  have hc : c.Sound := (sound_fresh root settings resolver h).after acts
  refine ⟨fun before k r es fs later hh => ?_, fun k v o r hw hn hr => ?_, hc.cleared, hc.kept⟩
  · exact ⟨(hc.timely _ _ _ _ _ _ hh).publishes, (hc.timely _ _ _ _ _ _ hh).stale⟩
  · have hcur := (c.session.isCurrent_iff (hc.taken k v hw).1).mpr hn.symm
    have hcases := c.session.conclude_cases c.host v o
    generalize c.session.conclude c.host v o = x at hcases hr
    cases hcases with
    | stale h' old => rw [hcur] at old; simp at old
    | silent r h' status =>
      obtain rfl := Except.ok.inj hr
      obtain hs | hs := status <;> simp [hs]
    | untold m present current e flaw fault shown => cases hr
    | published m present current whole =>
      obtain rfl := Except.ok.inj hr
      simp [ValidationResult.published]

end Course

end LintBridge

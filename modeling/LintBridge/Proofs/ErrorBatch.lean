import LintBridge.ErrorBatch
import LintBridge.Proofs.Members
import Mathlib.Data.Finset.Card

/-! What a batch of messages tells. A message that is added anew goes to the end, and one that is there
keeps its place; its answer is the first one that counts as true, or else the last one. What has been
told before changes nothing. -/

namespace LintBridge.ErrorBatch

variable {message : String} {retry : Json} {ms : List (String × Json)}

/-! ### One message more -/

/-- A message that is there keeps its place, and its answer if this counts as true. -/
theorem insert_eq_put (message : String) (retry : Json) (ms : List (String × Json)) :
    insert message retry ms =
      Members.put ms message (((ms.lookup message).map (·.orElse retry)).getD retry) := by
  induction ms with
  | nil => rfl
  | cons p ms ih =>
    rw [insert, Members.put, Table.lookup_cons]
    by_cases hp : p.1 = message
    · simp [hp]
    · simp [hp, Ne.symm hp, ih]

theorem keys_insert (message : String) (retry : Json) (ms : List (String × Json)) :
    (insert message retry ms).map Prod.fst =
      if message ∈ ms.map Prod.fst then ms.map Prod.fst else ms.map Prod.fst ++ [message] := by
  rw [insert_eq_put]
  exact Members.keys_put ms message _

theorem mem_keys_insert {m : String} :
    m ∈ (insert message retry ms).map Prod.fst ↔ m = message ∨ m ∈ ms.map Prod.fst := by
  rw [insert_eq_put]
  exact Members.mem_keys_put

theorem nodup_insert (h : (ms.map Prod.fst).Nodup) :
    ((insert message retry ms).map Prod.fst).Nodup := by
  rw [insert_eq_put]
  exact Members.nodup_put h

theorem lookup_insert (message : String) (retry : Json) (ms : List (String × Json)) (m : String) :
    (insert message retry ms).lookup m =
      if m = message then some (((ms.lookup message).map (·.orElse retry)).getD retry)
      else ms.lookup m := by
  rw [insert_eq_put]
  exact Members.get?_put ms message _ m

/-! ### What is to be told -/

variable {adds : List (String × Json)}

/-- The answers that came with a message, in order. -/
def answersOf (adds : List (String × Json)) (m : String) : List Json :=
  (adds.filter (·.1 = m)).map Prod.snd

/-- The first answer to a message that counts as true, or else the last one. -/
def answer? (adds : List (String × Json)) (m : String) : Option Json :=
  ((answersOf adds m).find? Json.truthy).or (answersOf adds m).getLast?

theorem answer?_concat (adds : List (String × Json)) (message : String) (retry : Json) (m : String) :
    answer? (adds ++ [(message, retry)]) m =
      if m = message then some (((answer? adds message).map (·.orElse retry)).getD retry)
      else answer? adds m := by
  by_cases hm : m = message
  · subst hm
    have hanswers : answersOf (adds ++ [(m, retry)]) m = answersOf adds m ++ [retry] := by
      simp [answersOf]
    rw [if_pos rfl, answer?, hanswers, answer?, List.find?_append, List.getLast?_concat]
    cases htrue : (answersOf adds m).find? Json.truthy with
    | some first =>
      have hfirst : first.truthy = true := List.find?_some htrue
      simp [Json.orElse, hfirst]
    | none =>
      have hnew : (((answersOf adds m).getLast?.map (·.orElse retry)).getD retry) = retry := by
        cases hlast : (answersOf adds m).getLast? with
        | none => rfl
        | some last =>
          have hfalse := List.find?_eq_none.mp htrue last (List.mem_of_getLast? hlast)
          simp [Json.orElse, hfalse]
      rw [Option.none_or, Option.none_or, hnew]
      cases hretry : retry.truthy <;> simp [hretry]
  · have hanswers : answersOf (adds ++ [(message, retry)]) m = answersOf adds m := by
      simp [answersOf, Ne.symm hm]
    rw [if_neg hm, answer?, hanswers, answer?]

/-- What is to be told after some messages were added: each of them, in the order in which they came
first, with the first answer to it that counts as true, or else the last one. -/
structure IsToldOf (adds told : List (String × Json)) : Prop where
  mem_keys : ∀ m, m ∈ told.map Prod.fst ↔ m ∈ adds.map Prod.fst
  order : (told.map Prod.fst).Pairwise fun m m' =>
    (adds.map Prod.fst).idxOf m < (adds.map Prod.fst).idxOf m'
  answers : ∀ p ∈ told, answer? adds p.1 = some p.2

theorem IsToldOf.nodup {told : List (String × Json)} (h : IsToldOf adds told) :
    (told.map Prod.fst).Nodup :=
  h.order.imp fun hlt heq => absurd (heq ▸ hlt) (lt_irrefl _)

/-- A batch in which every added message is found with its answer. -/
structure Collects (adds ms : List (String × Json)) : Prop where
  told : IsToldOf adds ms
  lookup : ∀ m, ms.lookup m = answer? adds m

theorem collects_nil : Collects [] [] :=
  ⟨⟨by simp, by simp, by simp⟩, fun _ => rfl⟩

theorem Collects.insert (h : Collects adds ms) (message : String) (retry : Json) :
    Collects (adds ++ [(message, retry)]) (insert message retry ms) := by
  have hlookup : ∀ m, (ErrorBatch.insert message retry ms).lookup m =
      answer? (adds ++ [(message, retry)]) m := fun m => by
    rw [lookup_insert, answer?_concat, h.lookup, h.lookup]
  have hnodup : ((ErrorBatch.insert message retry ms).map Prod.fst).Nodup :=
    nodup_insert h.told.nodup
  refine ⟨⟨fun m => ?_, ?_, fun p hp => ?_⟩, hlookup⟩
  · rw [mem_keys_insert, h.told.mem_keys, List.map_append, List.mem_append, or_comm]
    simp
  · -- What has come keeps its place among all that came, a new message comes after it.
    have hplace : ∀ m ∈ ms.map Prod.fst,
        ((adds ++ [(message, retry)]).map Prod.fst).idxOf m = (adds.map Prod.fst).idxOf m := by
      intro m hm
      rw [List.map_append, List.idxOf_append_of_mem ((h.told.mem_keys m).mp hm)]
    have horder := h.told.order.imp_of_mem (S := fun m m' =>
      ((adds ++ [(message, retry)]).map Prod.fst).idxOf m <
        ((adds ++ [(message, retry)]).map Prod.fst).idxOf m')
      (fun hm hm' hlt => by rw [hplace _ hm, hplace _ hm']; exact hlt)
    rw [keys_insert]
    split
    · exact horder
    · rename_i hnew
      have hlast : ((adds ++ [(message, retry)]).map Prod.fst).idxOf message =
          (adds.map Prod.fst).length := by
        rw [List.map_append, List.idxOf_append_of_notMem ((h.told.mem_keys message).not.mp hnew)]
        simp
      refine List.pairwise_append.mpr ⟨horder, List.pairwise_singleton _ _, fun m hm m' hm' => ?_⟩
      rw [List.mem_singleton.mp hm', hlast, hplace m hm]
      exact List.idxOf_lt_length_of_mem ((h.told.mem_keys m).mp hm)
  · rw [← hlookup]
    exact Table.lookup_of_mem hnodup hp

/-! ### Adding and telling -/

/-- What is done with a batch: a message is added, or the user is told all that is in it. -/
inductive Act where
  | add (message : String) (retry : Json)
  | tell

/-- The message that an act adds. -/
def Act.added? : Act → Option (String × Json)
  | .add message retry => some (message, retry)
  | .tell => none

/-- A batch, and what the user has been told from it. -/
def step (s : ErrorBatch × List (String × Json)) : Act → ErrorBatch × List (String × Json)
  | .add message retry => (s.1.add message retry, s.2)
  | .tell => (s.1, s.2 ++ s.1.announcements)

/-- What there is after some acts on an empty batch. -/
def after (acts : List Act) : ErrorBatch × List (String × Json) :=
  acts.foldl step (empty, [])

/-- Whatever is told in between, a batch collects the messages that are added. -/
theorem collects_after (acts : List Act) :
    Collects (acts.filterMap Act.added?) (after acts).1.messages := by
  induction acts using List.reverseRecOn with
  | nil => exact collects_nil
  | append_singleton acts a ih =>
    rw [after, List.foldl_concat, List.filterMap_append]
    cases a with
    | add message retry => exact ih.insert message retry
    | tell =>
      rw [show [Act.tell].filterMap Act.added? = [] from rfl, List.append_nil]
      exact ih

theorem after_tell (acts : List Act) (n : Nat) :
    after (acts ++ List.replicate n .tell) =
      ((after acts).1, (after acts).2 ++ (List.replicate n (after acts).1.announcements).flatten) := by
  induction n with
  | zero => simp
  | succ n ih =>
    rw [List.replicate_succ', ← List.append_assoc, after, List.foldl_concat, ← after, ih, step,
      List.replicate_succ', List.flatten_concat, List.append_assoc]

/-- After any adding and telling, telling makes one call for each message that was added, in the
order in which they were first added, with the first answer to it that counts as true or else the
last one. There are as many calls as there are different messages, and telling again repeats them. -/
theorem messages_are_told_in_first_order (acts : List Act) :
    ∃ told, IsToldOf (acts.filterMap Act.added?) told ∧ (told.map Prod.fst).Nodup ∧
      (after acts).1.size = ((acts.filterMap Act.added?).map Prod.fst).toFinset.card ∧
      ∀ n, after (acts ++ List.replicate n .tell) =
        ((after acts).1, (after acts).2 ++ (List.replicate n told).flatten) := by
  have htold := (collects_after acts).told
  refine ⟨(after acts).1.messages, htold, htold.nodup, ?_, after_tell acts⟩
  have hkeys : ((acts.filterMap Act.added?).map Prod.fst).toFinset =
      ((after acts).1.messages.map Prod.fst).toFinset := by
    ext m
    rw [List.mem_toFinset, List.mem_toFinset, htold.mem_keys]
  rw [hkeys, List.toFinset_card_of_nodup htold.nodup, List.length_map, size]

/-- An answer that counts as true stays, and its message keeps the first place. -/
example : (after [.add "a" (.str ""), .add "b" .null, .add "a" (.int 1), .add "a" (.bool false),
    .tell]).2 = [("a", .int 1), ("b", .null)] := by
  rfl

end LintBridge.ErrorBatch

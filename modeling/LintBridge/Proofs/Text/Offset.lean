import LintBridge.Proofs.Text.Position
import Mathlib.Algebra.Order.BigOperators.Group.List
import Mathlib.Algebra.Order.Group.Nat
import Mathlib.Data.Prod.Lex
import Mathlib.Data.Set.Function

/-! Offsets and positions of a text stand for each other. Positions are ordered by their lines, and
on one line by their characters; a later one has a greater offset, and none has an offset past the end
of the text. So the offsets of a text, one after another, go through its positions in their order. -/

namespace LintBridge

namespace Text

variable {text line : List Char} {l m : Nat}

/-- The offset at which a line starts: the lines before it with their line feeds. -/
def lineStart (text : List Char) (l : Nat) : Nat :=
  (((lines text).take l).map fun line => line.length + 1).sum

theorem lineStart_succ (h : (lines text)[l]? = some line) :
    lineStart text (l + 1) = lineStart text l + (line.length + 1) := by
  simp only [lineStart, List.take_add_one, h, Option.toList_some, List.map_append, List.map_cons,
    List.map_nil, List.sum_append, List.sum_singleton]

theorem lineStart_mono (text : List Char) (h : l ≤ m) : lineStart text l ≤ lineStart text m := by
  have htake : ((lines text).take l).Sublist ((lines text).take m) :=
    (List.take_prefix_take_left h).sublist
  exact (htake.map _).sum_le_sum fun _ _ => Nat.zero_le _

/-- The lines with a line feed each are one longer than the text, in which the last one has none. -/
theorem sum_lines (text : List Char) :
    ((lines text).map fun line => line.length + 1).sum = text.length + 1 := by
  induction text with
  | nil => rfl
  | cons c text ih =>
    by_cases hc : c = '\n'
    · subst hc
      rw [lines_newline, List.map_cons, List.sum_cons, ih, List.length_nil, List.length_cons]
      omega
    · obtain ⟨first, others, hlines⟩ := List.exists_cons_of_ne_nil (lines_ne_nil text)
      rw [hlines, List.map_cons, List.sum_cons] at ih
      rw [lines_cons_of_ne hc, hlines, List.modifyHead_cons, List.map_cons, List.sum_cons,
        List.length_cons, List.length_cons]
      omega

theorem lineStart_le (text : List Char) (l : Nat) : lineStart text l ≤ text.length + 1 := by
  rw [← sum_lines]
  exact ((List.take_sublist l _).map _).sum_le_sum fun _ _ => Nat.zero_le _

end Text

namespace Position

variable {text : List Char} {p q : Position}

/-- What positions are ordered by: the line, then the character. -/
def key (p : Position) : Nat ×ₗ Nat :=
  toLex (p.line, p.character)

theorem eq_of_key_eq (h : p.key = q.key) : p = q := by
  cases p
  cases q
  simpa [key] using h

theorem offset_eq (p : Position) (text : List Char) :
    p.offset text = Text.lineStart text p.line + p.character :=
  rfl

/-- A position stands before the line after its own. -/
theorem IsIn.offset_lt (h : p.IsIn text) : p.offset text < Text.lineStart text (p.line + 1) := by
  obtain ⟨line, hline, hle⟩ := h
  rw [offset_eq, Text.lineStart_succ hline]
  omega

theorem IsIn.offset_le (h : p.IsIn text) : p.offset text ≤ text.length :=
  Nat.le_of_lt_succ (h.offset_lt.trans_le (Text.lineStart_le text _))

/-- A later position has a greater offset. -/
theorem IsIn.offset_lt_of_key_lt (h : p.IsIn text) (hkey : p.key < q.key) :
    p.offset text < q.offset text := by
  obtain hline | ⟨hline, hcharacter⟩ := Prod.Lex.toLex_lt_toLex.mp hkey
  · calc p.offset text < Text.lineStart text (p.line + 1) := h.offset_lt
      _ ≤ Text.lineStart text q.line := Text.lineStart_mono text hline
      _ ≤ q.offset text := Nat.le_add_right _ _
  · have hstart : Text.lineStart text p.line = Text.lineStart text q.line :=
      congrArg (Text.lineStart text) hline
    rw [offset_eq, offset_eq, hstart]
    exact Nat.add_lt_add_left hcharacter _

/-- Positions stand in the order of their offsets. -/
theorem IsIn.key_lt_iff (hp : p.IsIn text) (hq : q.IsIn text) :
    p.key < q.key ↔ p.offset text < q.offset text := by
  refine ⟨hp.offset_lt_of_key_lt, fun hlt => ?_⟩
  obtain hkey | hkey | hkey := lt_trichotomy p.key q.key
  · exact hkey
  · exact absurd hlt (eq_of_key_eq hkey ▸ lt_irrefl _)
  · exact absurd hlt (hq.offset_lt_of_key_lt hkey).not_gt

theorem IsIn.eq_of_offset_eq (hp : p.IsIn text) (hq : q.IsIn text)
    (h : p.offset text = q.offset text) : p = q := by
  have hnotBefore : ¬ p.key < q.key := fun hlt => ((hp.key_lt_iff hq).mp hlt).ne h
  have hnotAfter : ¬ q.key < p.key := fun hlt => ((hq.key_lt_iff hp).mp hlt).ne' h
  exact eq_of_key_eq (le_antisymm (not_lt.mp hnotAfter) (not_lt.mp hnotBefore))

theorem isIn_ofOffset (text : List Char) (n : Int) : (ofOffset text n).IsIn text :=
  (offset_after (clamp_le_length text n)).1

theorem offset_ofOffset (text : List Char) (n : Int) :
    ((ofOffset text n).offset text : Int) = max 0 (min n text.length) := by
  rw [ofOffset, (offset_after (clamp_le_length text n)).2, clamp]
  omega

theorem IsIn.ofOffset_offset (h : p.IsIn text) : ofOffset text (p.offset text) = p := by
  refine (isIn_ofOffset text _).eq_of_offset_eq h ?_
  have hoffset := offset_ofOffset text (p.offset text)
  have hle := h.offset_le
  omega

/-- The position of an offset is one of the text, and the offset of the position is the offset moved
into the text. So from the start to the end of the text each offset has a position of its own, which
is later than those before, and every position of the text is that of an offset. -/
theorem offsets_match_positions (text : List Char) :
    (∀ n : Int, (ofOffset text n).IsIn text ∧
      ((ofOffset text n).offset text : Int) = max 0 (min n text.length)) ∧
    (∀ m n : Int, 0 ≤ m → m < n → n ≤ text.length →
      (ofOffset text m).key < (ofOffset text n).key) ∧
    Set.BijOn (ofOffset text) {n : Int | 0 ≤ n ∧ n ≤ text.length} {p | p.IsIn text} := by
  have hinside : ∀ n : Int, 0 ≤ n ∧ n ≤ text.length →
      ((ofOffset text n).offset text : Int) = n := by
    rintro n ⟨hstart, hend⟩
    rw [offset_ofOffset]
    omega
  refine ⟨fun n => ⟨isIn_ofOffset text n, offset_ofOffset text n⟩, fun m n hstart hlt hend => ?_, ?_⟩
  · refine ((isIn_ofOffset text m).key_lt_iff (isIn_ofOffset text n)).mpr ?_
    have hm := hinside m ⟨hstart, by omega⟩
    have hn := hinside n ⟨by omega, hend⟩
    omega
  · have hinverse : Set.InvOn (fun p => (p.offset text : Int)) (ofOffset text)
        {n : Int | 0 ≤ n ∧ n ≤ text.length} {p | p.IsIn text} :=
      ⟨hinside, fun _ hp => IsIn.ofOffset_offset hp⟩
    refine hinverse.bijOn (fun n _ => isIn_ofOffset text n) fun p hp => ?_
    exact ⟨Int.natCast_nonneg _, Int.ofNat_le.mpr (IsIn.offset_le hp)⟩

/-- An empty line has one position, and so has the end of a text behind its last line feed. -/
example : (List.range 4).map (fun n => ofOffset ['a', '\n', '\n'] n) =
    [⟨0, 0⟩, ⟨0, 1⟩, ⟨1, 0⟩, ⟨2, 0⟩] := by
  decide

end Position

end LintBridge

import LintBridge.Diagnostic
import Mathlib.Algebra.GroupWithZero.Nat
import Mathlib.Data.List.TakeWhile

/-! Positions and offsets of a text. An editor counts a position by lines and characters, a report
counts an offset from the start. The position after the first `k` characters is one of the text,
and its offset is `k`; so a range between two offsets replaces what stands between them. -/

namespace LintBridge

/-- The lines of a text, which line feeds part. -/
def Text.lines (text : List Char) : List (List Char) :=
  text.splitOn '\n'

namespace Text

theorem lines_ne_nil (text : List Char) : lines text ≠ [] :=
  List.splitOn_ne_nil _ _

@[simp] theorem lines_newline (text : List Char) : lines ('\n' :: text) = [] :: lines text := by
  rw [lines, List.splitOn_cons_eq_if_modifyHead, if_pos (beq_self_eq_true _)]
  rfl

theorem lines_cons_of_ne {c : Char} (h : c ≠ '\n') (text : List Char) :
    lines (c :: text) = (lines text).modifyHead (List.cons c) := by
  rw [lines, List.splitOn_cons_eq_if_modifyHead, if_neg (by simpa using h)]
  rfl

end Text

namespace Position

/-! ### The position after some characters -/

@[simp] theorem after_zero (text : List Char) : after text 0 = ⟨0, 0⟩ := rfl

theorem after_newline (text : List Char) (k : Nat) :
    after ('\n' :: text) (k + 1) = ⟨(after text k).line + 1, (after text k).character⟩ := by
  -- The new line feed is the last one that a search from the end meets, and ends it there.
  have hend : ([ '\n' ].takeWhile fun x => decide (x ≠ '\n')) = [] := rfl
  simp only [after, List.take_succ_cons, List.count_cons_self, List.reverse_cons, mk.injEq,
    true_and]
  rw [List.takeWhile_append, hend]
  split
  · rename_i hall
    rw [List.append_nil, hall]
  · rfl

theorem after_cons_of_ne {c : Char} (h : c ≠ '\n') (text : List Char) (k : Nat) :
    after (c :: text) (k + 1) = ⟨(after text k).line,
      (after text k).character + if (after text k).line = 0 then 1 else 0⟩ := by
  have hline : (after text k).line = 0 ↔ ∀ x ∈ (text.take k).reverse, decide (x ≠ '\n') = true := by
    simp only [after, List.count_eq_zero, List.mem_reverse, decide_eq_true_eq]
    exact ⟨fun hn x hx hxc => hn (hxc ▸ hx), fun hall hx => hall _ hx rfl⟩
  have hone : ([c].takeWhile fun x => decide (x ≠ '\n')) = [c] := by simp [h]
  have hchar : (after (c :: text) (k + 1)).character =
      (after text k).character + if (after text k).line = 0 then 1 else 0 := by
    simp only [hline]
    simp only [after, List.take_succ_cons, List.reverse_cons]
    rw [List.takeWhile_append, hone]
    -- The search from the end reaches the new character if it meets no line feed before.
    by_cases hall : ∀ x ∈ (text.take k).reverse, decide (x ≠ '\n') = true
    · have hself := List.takeWhile_eq_self_iff.mpr hall
      rw [if_pos (congrArg List.length hself), if_pos hall, hself, List.length_append]
      rfl
    · have hshort : ((text.take k).reverse.takeWhile fun x => decide (x ≠ '\n')).length ≠
          (text.take k).reverse.length := fun hlength =>
        hall (List.takeWhile_eq_self_iff.mp
          ((List.takeWhile_sublist _).eq_of_length hlength))
      rw [if_neg hshort, if_neg hall, Nat.add_zero]
  rw [← hchar]
  simp only [after, List.take_succ_cons, List.count_cons_of_ne h]

/-! ### The offset of a position -/

/-- Is this a position of a text? Its line is one of the text, and its character one of the line or
the end of it. -/
def IsIn (p : Position) (text : List Char) : Prop :=
  ∃ line ∈ (Text.lines text)[p.line]?, p.character ≤ line.length

instance (p : Position) (text : List Char) : Decidable (p.IsIn text) :=
  inferInstanceAs (Decidable (∃ line ∈ (Text.lines text)[p.line]?, p.character ≤ line.length))

/-- The offset of a position: the lines before it with their line feeds, and the characters before
it on its own line. -/
def offset (p : Position) (text : List Char) : Nat :=
  (((Text.lines text).take p.line).map fun line => line.length + 1).sum + p.character

/-- The position after the first `k` characters is one of the text, and its offset is `k`. -/
theorem offset_after {text : List Char} {k : Nat} (hk : k ≤ text.length) :
    (after text k).IsIn text ∧ (after text k).offset text = k := by
  induction text generalizing k with
  | nil =>
    obtain rfl := Nat.le_zero.mp hk
    exact ⟨⟨[], rfl, Nat.le_refl 0⟩, rfl⟩
  | cons c text ih =>
    cases k with
    | zero =>
      obtain ⟨line, lines, hlines⟩ := List.exists_cons_of_ne_nil (Text.lines_ne_nil (c :: text))
      rw [after_zero]
      exact ⟨⟨line, by simp [hlines], Nat.zero_le _⟩, by simp [offset]⟩
    | succ k =>
      obtain ⟨⟨line, hline, hle⟩, hoffset⟩ := ih (Nat.le_of_succ_le_succ hk)
      by_cases hc : c = '\n'
      · subst hc
        rw [after_newline]
        refine ⟨⟨line, by simpa using hline, hle⟩, ?_⟩
        simp only [offset, Text.lines_newline, List.take_succ_cons, List.map_cons,
          List.length_nil, List.sum_cons] at hoffset ⊢
        omega
      · rw [after_cons_of_ne hc]
        obtain ⟨first, others, hlines⟩ := List.exists_cons_of_ne_nil (Text.lines_ne_nil text)
        simp only [offset, IsIn, Text.lines_cons_of_ne hc, hlines, List.modifyHead_cons]
          at hline hle hoffset ⊢
        -- On the first line the character moves on, on a later one the first line is longer.
        cases hl : (after text k).line with
        | zero =>
          simp only [hl, List.getElem?_cons_zero, Option.mem_some_iff, List.take_zero,
            List.map_nil, List.sum_nil, ↓reduceIte] at hline hoffset ⊢
          subst hline
          exact ⟨⟨_, rfl, Nat.succ_le_succ hle⟩, by omega⟩
        | succ n =>
          simp only [hl, List.getElem?_cons_succ, List.take_succ_cons, List.map_cons,
            List.sum_cons, List.length_cons, Nat.succ_ne_zero, ↓reduceIte, Nat.add_zero]
            at hline hoffset ⊢
          exact ⟨⟨line, hline, hle⟩, by omega⟩

theorem clamp_le_length (text : List Char) (n : Int) : clamp text n ≤ text.length :=
  Nat.min_le_right _ _

theorem clamp_mono (text : List Char) {m n : Int} (h : m ≤ n) : clamp text m ≤ clamp text n := by
  simp only [clamp]
  omega

end Position

namespace Range

/-- What an editor makes of a text by replacing a range of it; none if an end of the range is no
position of the text, or the range ends before it starts. -/
def replaceIn? (r : Range) (text new : List Char) : Option (List Char) :=
  if r.start.IsIn text ∧ r.stop.IsIn text ∧ r.start.offset text ≤ r.stop.offset text then
    some (text.take (r.start.offset text) ++ new ++ text.drop (r.stop.offset text))
  else none

/-- A range between two offsets is replaced by replacing the characters between them. -/
theorem replaceIn?_ofOffset (text new : List Char) {start stop : Int} (h : start ≤ stop) :
    (⟨.ofOffset text start, .ofOffset text stop⟩ : Range).replaceIn? text new =
      some (text.take (Position.clamp text start) ++ new ++
        text.drop (Position.clamp text stop)) := by
  obtain ⟨hstart, hfrom⟩ := Position.offset_after (Position.clamp_le_length text start)
  obtain ⟨hstop, hto⟩ := Position.offset_after (Position.clamp_le_length text stop)
  simp only [replaceIn?, Position.ofOffset, hfrom, hto]
  rw [if_pos ⟨hstart, hstop, Position.clamp_mono text h⟩]

end Range

end LintBridge

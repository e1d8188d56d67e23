import LintBridge.FileSystem.Edit
import LintBridge.Proofs.Table
import Mathlib.Data.List.Induction
import Mathlib.Data.List.Nodup

/-! Files that form a tree: no place stands in the list twice, and every entry stands in a directory.
Nothing lies below a regular file then, so erasing one takes it from its directory and changes nothing
else. -/

namespace LintBridge.FileSystem

/-- Is this the name of an entry? -/
def IsName (name : String) : Prop :=
  name ≠ "" ∧ name ≠ "." ∧ name ≠ ".." ∧ '/' ∉ name.toList ∧ name.utf8ByteSize ≤ segmentLimit

instance : DecidablePred IsName := fun _ => inferInstanceAs (Decidable (_ ∧ _))

/-- A regular file stands at a place. -/
def HasFile (fs : FileSystem) (place : Place) : Prop :=
  (∃ bytes, fs.node? place = some (.file bytes)) ∨ ∃ script, fs.node? place = some (.script script)

/-- The entries form a tree. -/
structure IsTree (fs : FileSystem) : Prop where
  places : (fs.entries.map Prod.fst).Nodup
  names : ∀ p ∈ fs.entries, ∀ name ∈ p.1, IsName name
  parents : ∀ p ∈ fs.entries, fs.node? p.1.dropLast = some .directory

variable {fs : FileSystem} {place file : Place} {name : String}

/-! ### Entries -/

theorem entry?_of_ne_nil (fs : FileSystem) (h : place ≠ []) :
    fs.entry? place = fs.entries.lookup place := by
  unfold entry?
  simp [h]

theorem exists_mem_of_node? {n : Node} (h : fs.node? place = some n) (hne : place ≠ []) :
    ∃ e, (place, e) ∈ fs.entries := by
  rw [node?, entry?_of_ne_nil fs hne] at h
  obtain ⟨e, he, -⟩ := Option.map_eq_some_iff.mp h
  exact ⟨e, Table.mem_of_lookup he⟩

theorem HasFile.ne_directory (h : fs.HasFile file) : fs.node? file ≠ some .directory := by
  obtain ⟨bytes, hnode⟩ | ⟨script, hnode⟩ := h <;> simp [hnode]

theorem HasFile.ne_nil (h : fs.HasFile file) : file ≠ [] := by
  rintro rfl
  exact h.ne_directory rfl

/-- Every place before an entry is a directory. -/
theorem IsTree.directory_of_prefix (h : fs.IsTree) {p : Place × Entry} (hp : p ∈ fs.entries)
    (hbefore : place <+: p.1) (hne : place ≠ p.1) : fs.node? place = some .directory := by
  obtain ⟨tail, htail⟩ := hbefore
  induction tail using List.reverseRecOn generalizing p with
  | nil => exact absurd (by simpa using htail) hne
  | append_singleton tail name ih =>
    have hparent := h.parents p hp
    rw [← htail, ← List.append_assoc, List.dropLast_concat] at hparent
    cases tail with
    | nil => simpa using hparent
    | cons first rest =>
      obtain ⟨e, he⟩ := exists_mem_of_node? hparent (by simp)
      exact ih he (by simp) rfl

theorem mem_names : name ∈ fs.names place ↔ ∃ e, (place ++ [name], e) ∈ fs.entries := by
  simp only [FileSystem.names, List.mem_filterMap]
  constructor
  · rintro ⟨⟨q, e⟩, hq, h⟩
    split at h
    · rename_i hlast
      refine ⟨e, ?_⟩
      rw [← hlast, List.dropLast_append_getLast? name h]
      exact hq
    · cases h
  · rintro ⟨e, he⟩
    exact ⟨_, he, by simp⟩

theorem IsTree.entry_of_mem (h : fs.IsTree) {p : Place × Entry} (hp : p ∈ fs.entries)
    (hne : p.1 ≠ []) : fs.entry? p.1 = some p.2 := by
  rw [entry?_of_ne_nil fs hne]
  exact Table.lookup_of_mem h.places hp

theorem IsTree.isName (h : fs.IsTree) (hname : name ∈ fs.names place) : IsName name := by
  obtain ⟨e, he⟩ := mem_names.mp hname
  exact h.names _ he name (by simp)

/-- What stands somewhere stands in a directory, and has a name. -/
theorem IsTree.of_node? (h : fs.IsTree) {n : Node} (hnode : fs.node? place = some n) :
    (∀ name ∈ place, IsName name) ∧ fs.node? place.dropLast = some .directory := by
  by_cases hnil : place = []
  · subst hnil
    exact ⟨by simp, rfl⟩
  · obtain ⟨e, he⟩ := exists_mem_of_node? hnode hnil
    exact ⟨h.names _ he, h.parents _ he⟩

theorem IsTree.isName_of_hasFile (h : fs.IsTree) (hfile : fs.HasFile (place ++ [name])) :
    IsName name := by
  obtain ⟨bytes, hnode⟩ | ⟨script, hnode⟩ := hfile <;>
    exact (h.of_node? hnode).1 name (by simp)

/-! ### Something less -/

theorem lookup_erase (fs : FileSystem) (place q : Place) :
    (fs.erase place).entries.lookup q =
      if place <+: q then none else fs.entries.lookup q := by
  have herase : (fs.erase place).entries = fs.entries.filter fun p => !place.isPrefixOf p.1 := rfl
  rw [herase]
  induction fs.entries with
  | nil => simp
  | cons p entries ih =>
    by_cases hp : place <+: p.1
    · rw [List.filter_cons_of_neg (by simpa using hp), ih, Table.lookup_cons]
      by_cases hq : q = p.1
      · rw [hq, if_pos hp, if_pos hp]
      · simp [hq]
    · rw [List.filter_cons_of_pos (by simpa [← List.isPrefixOf_iff_prefix] using hp),
        Table.lookup_cons, Table.lookup_cons, ih]
      by_cases hq : q = p.1
      · simp [hq, hp]
      · simp [hq]

theorem IsTree.erase (h : fs.IsTree) (place : Place) : (fs.erase place).IsTree where
  places := h.places.sublist ((List.filter_sublist).map Prod.fst)
  names p hp := h.names p (List.mem_of_mem_filter hp)
  parents p hp := by
    obtain ⟨hp, hout⟩ := List.mem_filter.mp hp
    have hparent := h.parents p hp
    by_cases hnil : p.1.dropLast = []
    · rw [hnil]
      rfl
    · have hbelow : ¬ place <+: p.1.dropLast := fun hbefore => by
        have hwhole := hbefore.trans (List.dropLast_prefix p.1)
        rw [List.isPrefixOf_iff_prefix.mpr hwhole] at hout
        cases hout
      rw [node?, entry?_of_ne_nil _ hnil] at hparent ⊢
      rw [lookup_erase, if_neg hbelow]
      exact hparent

/-! ### A file less -/

/-- Only a file itself is gone with it. -/
theorem IsTree.entry?_erase (h : fs.IsTree) (hfile : fs.HasFile file) (place : Place) :
    FileSystem.entry? (fs.erase file) place = if place = file then none else fs.entry? place := by
  by_cases hnil : place = []
  · subst hnil
    rw [if_neg (Ne.symm hfile.ne_nil)]
    rfl
  · rw [entry?_of_ne_nil _ hnil, entry?_of_ne_nil _ hnil, lookup_erase]
    by_cases heq : place = file
    · rw [heq, if_pos (List.prefix_refl _), if_pos rfl]
    · rw [if_neg heq]
      split
      · rename_i hbefore
        refine (Option.eq_none_iff_forall_ne_some.mpr fun e he => ?_).symm
        have hmem := Table.mem_of_lookup he
        exact hfile.ne_directory (h.directory_of_prefix hmem hbefore (Ne.symm heq))
      · rfl

theorem IsTree.node?_erase (h : fs.IsTree) (hfile : fs.HasFile file) (place : Place) :
    (fs.erase file).node? place = if place = file then none else fs.node? place := by
  rw [node?, h.entry?_erase hfile]
  split <;> rfl

theorem IsTree.entries_erase (h : fs.IsTree) (hfile : fs.HasFile file) :
    (fs.erase file).entries = fs.entries.filter fun p => p.1 != file := by
  refine List.filter_congr fun p hp => ?_
  by_cases heq : p.1 = file
  · simp [heq]
  · have hbelow : ¬ file <+: p.1 := fun hbefore =>
      hfile.ne_directory (h.directory_of_prefix hp hbefore (Ne.symm heq))
    rw [← List.isPrefixOf_iff_prefix, Bool.not_eq_true] at hbelow
    simp [heq, hbelow]

theorem IsTree.names_erase (h : fs.IsTree) (hfile : fs.HasFile (place ++ [name])) :
    (fs.erase (place ++ [name])).names place = (fs.names place).filter (· != name) := by
  rw [FileSystem.names, h.entries_erase hfile, FileSystem.names, List.filterMap_filter,
    List.filter_filterMap]
  refine List.filterMap_congr fun p _ => ?_
  by_cases hlast : p.1.dropLast = place
  · cases hname : p.1.getLast? with
    | none => simp [hlast, hname]
    | some last =>
      have hp : p.1 = place ++ [last] := by
        rw [← List.dropLast_append_getLast? last hname, hlast]
      by_cases heq : last = name <;> simp [hp, heq, Option.filter]
  · have hne : p.1 ≠ place ++ [name] := fun heq => hlast (by rw [heq, List.dropLast_concat])
    simp [hlast]

end LintBridge.FileSystem

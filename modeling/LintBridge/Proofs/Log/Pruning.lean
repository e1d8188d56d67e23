import LintBridge.Log.Pruning
import LintBridge.Proofs.FileSystem.Walk
import LintBridge.Proofs.Lists

/-! Session logs are pruned from the oldest on. In a directory whose session logs can be removed,
erasing one keeps the others where they are, so that all that are meant to go do, and nothing else
changes. A limit of zero is the exception: it removes nothing. -/

namespace LintBridge.Log

variable {fs : FileSystem} {directory name : String} {place : Place} {gone : List String}
  {limit : Nat}

/-- The session logs in a directory. -/
def sessions (fs : FileSystem) (place : Place) : List String :=
  (fs.names place).filter isSessionName

/-- The time of the last change of a file in a directory. -/
def changed (fs : FileSystem) (place : Place) (name : String) : Int :=
  ((fs.entry? (place ++ [name])).map Entry.changed).getD 0

/-- A path leads to a directory whose session logs are regular files that can be removed. -/
structure HoldsLogs (fs : FileSystem) (directory : String) (place : Place) : Prop where
  tree : fs.IsTree
  located : fs.locate true directory = .ok place
  isDirectory : fs.node? place = some .directory
  files : ∀ name ∈ sessions fs place, fs.HasFile (place ++ [name])
  removable : ∀ name ∈ sessions fs place,
    ∃ after, fs.removeFile (Path.append directory name) = .ok after

theorem mem_sessions : name ∈ sessions fs place ↔ name ∈ fs.names place ∧ isSessionName name :=
  List.mem_filter

/-! ### Removing -/

theorem HoldsLogs.locate_log (h : HoldsLogs fs directory place) (hname : name ∈ sessions fs place)
    (follow : Bool) : fs.locate follow (Path.append directory name) = .ok (place ++ [name]) := by
  obtain ⟨after, hafter⟩ := h.removable name hname
  rw [FileSystem.removeFile] at hafter
  split at hafter
  · cases hafter
  · rename_i hpath
    obtain ⟨-, hnull, hlength, -⟩ := FileSystem.locate_eq_ok_iff.mp hpath
    exact FileSystem.locate_append (h.tree.isName (mem_sessions.mp hname).1) h.located
      h.isDirectory (h.files name hname) hnull hlength

theorem removeFile_of_hasFile {path : String} (hfile : fs.HasFile place)
    (hpath : fs.locate false path = .ok place) : fs.removeFile path = .ok (fs.erase place) := by
  obtain ⟨bytes, hnode⟩ | ⟨script, hnode⟩ := hfile <;>
    simp only [FileSystem.removeFile, hpath, hnode]

theorem sessions_erase (h : fs.IsTree) (hfile : fs.HasFile (place ++ [name])) :
    sessions (fs.erase (place ++ [name])) place = (sessions fs place).filter (· != name) := by
  rw [sessions, h.names_erase hfile, sessions, List.filter_filter, List.filter_filter]
  simp only [Bool.and_comm]

/-- The other session logs can still be removed when one is gone. -/
theorem HoldsLogs.erase (h : HoldsLogs fs directory place) (hname : name ∈ sessions fs place) :
    HoldsLogs (fs.erase (place ++ [name])) directory place := by
  have hfile := h.files name hname
  have hother : ∀ {n}, n ∈ sessions (fs.erase (place ++ [name])) place →
      n ∈ sessions fs place ∧ place ++ [n] ≠ place ++ [name] := by
    intro n hn
    rw [sessions_erase h.tree hfile, List.mem_filter, bne_iff_ne] at hn
    exact ⟨hn.1, fun heq => hn.2 (by simpa using heq)⟩
  have hfiles : ∀ n ∈ sessions (fs.erase (place ++ [name])) place,
      (fs.erase (place ++ [name])).HasFile (place ++ [n]) := by
    intro n hn
    obtain ⟨hn, hne⟩ := hother hn
    rw [FileSystem.HasFile, h.tree.node?_erase hfile, if_neg hne]
    exact h.files n hn
  refine ⟨h.tree.erase _, ?_, ?_, hfiles, fun n hn => ?_⟩
  · exact FileSystem.locate_erase h.tree hfile (by simp) h.located
  · rw [h.tree.node?_erase hfile, if_neg (by simp)]
    exact h.isDirectory
  · obtain ⟨hn', hne⟩ := hother hn
    exact ⟨_, removeFile_of_hasFile (hfiles n hn)
      (FileSystem.locate_erase h.tree hfile hne (h.locate_log hn' false))⟩

/-- All that are meant to go do, and nothing else changes. -/
theorem HoldsLogs.removeEach (h : HoldsLogs fs directory place)
    (hgone : ∀ name ∈ gone, name ∈ sessions fs place) (hnodup : gone.Nodup) :
    sessions (removeEach fs directory gone).1 place =
        (sessions fs place).filter (fun name => !gone.contains name) ∧
      ∀ q, (∀ name ∈ gone, q ≠ place ++ [name]) →
        FileSystem.entry? (Log.removeEach fs directory gone).1 q = fs.entry? q := by
  induction gone generalizing fs with
  | nil => exact ⟨by simp [Log.removeEach], fun _ _ => rfl⟩
  | cons name rest ih =>
    obtain ⟨hnotin, hnodup⟩ := List.nodup_cons.mp hnodup
    have hname := hgone name List.mem_cons_self
    have hfile := h.files name hname
    have hsessions := sessions_erase h.tree hfile
    have hstep : (Log.removeEach fs directory (name :: rest)).1 =
        (Log.removeEach (fs.erase (place ++ [name])) directory rest).1 := by
      simp only [Log.removeEach, removeFile_of_hasFile hfile (h.locate_log hname false)]
    obtain ⟨hleft, hother⟩ := ih (h.erase hname) (fun n hn => by
      rw [hsessions, List.mem_filter, bne_iff_ne]
      exact ⟨hgone n (List.mem_cons_of_mem _ hn), fun heq => hnotin (heq ▸ hn)⟩) hnodup
    rw [hstep]
    refine ⟨?_, fun q hq => ?_⟩
    · rw [hleft, hsessions, List.filter_filter]
      refine List.filter_congr fun n _ => ?_
      rw [List.contains_cons, Bool.not_or, Bool.and_comm]
      rfl
    · rw [hother q fun n hn => hq n (List.mem_cons_of_mem _ hn), h.tree.entry?_erase hfile,
        if_neg (hq name List.mem_cons_self)]

/-! ### Which go -/

theorem HoldsLogs.list (h : HoldsLogs fs directory place) :
    fs.list directory = .ok (fs.names place) := by
  simp only [FileSystem.list, h.located, h.isDirectory]

theorem HoldsLogs.stat_log (h : HoldsLogs fs directory place) (hname : name ∈ sessions fs place) :
    ∃ e, fs.stat (Path.append directory name) = .ok e ∧ e.changed = changed fs place name := by
  obtain ⟨e, he⟩ := FileSystem.mem_names.mp (mem_sessions.mp hname).1
  have hentry := h.tree.entry_of_mem he (by simp)
  refine ⟨e, ?_, ?_⟩
  · simp only [FileSystem.stat, h.locate_log hname true, bind, Except.bind, hentry]
  · rw [changed, hentry]
    rfl

theorem HoldsLogs.timed (h : HoldsLogs fs directory place) {names : List String}
    (hnames : ∀ name ∈ names, name ∈ sessions fs place) :
    timed fs directory names = .ok (names.map fun name => (name, changed fs place name)) := by
  induction names with
  | nil => rfl
  | cons name rest ih =>
    obtain ⟨e, hstat, hchanged⟩ := h.stat_log (hnames name List.mem_cons_self)
    simp only [Log.timed, hstat]
    rw [ih fun n hn => hnames n (List.mem_cons_of_mem _ hn), hchanged]
    rfl

end LintBridge.Log

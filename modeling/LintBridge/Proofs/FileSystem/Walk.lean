import LintBridge.Proofs.FileSystem.Tree
import LintBridge.Proofs.Path

/-! Walks along paths. A path with the name of a regular file appended leads to the file in the
directory that the path leads to, and a file that is erased changes only the walks that end at it. -/

namespace LintBridge.FileSystem

variable {fs : FileSystem} {follow : Bool} {path directory name : String} {place dir file : Place}
  {onLink onLink' : Place → List String → Except FileFlaw Place} {segs tail : List String}

theorem locate_eq_ok_iff : fs.locate follow path = .ok place ↔
    path ≠ "" ∧ '\x00' ∉ path.toList ∧ path.utf8ByteSize ≤ pathLimit ∧
      fs.walk follow linkBudget (fs.start path) (segments path) = .ok place := by
  rw [locate]
  split
  · rename_i hempty
    simp [String.isEmpty_iff.mp hempty]
  · rename_i hempty
    split
    · rename_i hnull
      simp [List.contains_iff_mem.mp hnull]
    · rename_i hnull
      split
      · rename_i hlong
        simp [Nat.not_le.mpr hlong]
      · rename_i hlong
        rw [List.contains_iff_mem] at hnull
        rw [String.isEmpty_iff] at hempty
        simp [hempty, hnull, Nat.le_of_not_lt hlong]

/-! ### A name appended -/

theorem segments_slash (a b : String) :
    segments (a ++ "/" ++ b) = segments a ++ segments b := by
  simp only [segments, Path.splitSlash_eq_splitOn, String.toList_append]
  have hsplit : (a.toList ++ "/".toList ++ b.toList).splitOn '/' =
      a.toList.splitOn '/' ++ b.toList.splitOn '/' := by
    rw [List.append_assoc]
    exact List.splitOn_append_cons_self _ _
  rw [hsplit, List.map_append]

theorem segments_of_isName (h : IsName name) : segments name = [name] := by
  rw [segments, Path.splitSlash_eq_splitOn, List.splitOn_eq_singleton h.2.2.2.1]
  simp

theorem endsWith_slash (h : path.endsWith "/" = true) : ∃ front : String, path = front ++ "/" := by
  rw [String.endsWith_eq_endsWith_toSlice, String.Slice.endsWith_string_iff] at h
  obtain ⟨front, hfront⟩ := h
  refine ⟨String.ofList front, String.toList_inj.mp ?_⟩
  rw [String.toList_append, String.toList_ofList, hfront, String.copy_toSlice]

theorem segments_slash_nil (front : String) : segments (front ++ "/") = segments front ++ [""] := by
  have hnil := segments_slash front ""
  rw [String.append_empty] at hnil
  exact hnil

theorem append_of_isName (hname : IsName name) (hdirectory : directory ≠ "") :
    Path.append directory name =
      if directory.endsWith "/" then directory ++ name else directory ++ "/" ++ name := by
  have hrelative : name.startsWith "/" = false := by
    rw [String.startsWith_string_eq_false_iff]
    rintro ⟨rest, hrest⟩
    exact hname.2.2.2.1 (hrest ▸ by simp)
  simp [Path.append, hrelative, hdirectory]

/-- A name appended is the last segment. The directory's own path may end in a slash, which says
nothing. -/
theorem exists_segments_append (hname : IsName name) (hdirectory : directory ≠ "") :
    ∃ segs tail, segments directory = segs ++ tail ∧ (tail = [] ∨ tail = [""]) ∧
      segments (Path.append directory name) = segs ++ [name] := by
  rw [append_of_isName hname hdirectory]
  split
  · rename_i hends
    obtain ⟨front, rfl⟩ := endsWith_slash hends
    exact ⟨segments front, [""], segments_slash_nil front, .inr rfl, by
      rw [segments_slash, segments_of_isName hname]⟩
  · exact ⟨segments directory, [], (List.append_nil _).symm, .inl rfl, by
      rw [segments_slash, segments_of_isName hname]⟩

theorem startsWith_append {a : String} (ha : a ≠ "") (b : String) :
    (a ++ b).startsWith "/" = a.startsWith "/" := by
  obtain ⟨c, cs, hcs⟩ := List.exists_cons_of_ne_nil (fun h => ha (String.toList_inj.mp h) :
    a.toList ≠ [])
  rw [Bool.eq_iff_iff, String.startsWith_string_iff, String.startsWith_string_iff,
    String.toList_append, hcs]
  simp [List.cons_prefix_cons]

theorem start_append (hname : IsName name) (hdirectory : directory ≠ "") :
    fs.start (Path.append directory name) = fs.start directory := by
  rw [start, append_of_isName hname hdirectory]
  split <;> simp only [String.append_assoc, startsWith_append hdirectory, start]

/-! ### One segment -/

/-- What the next segment of a walk leads to. -/
inductive Ahead where
  | directory (place : Place)
  | tooLong
  | missing
  | file
  | link (target : String)

/-- What a segment leads to from a directory. -/
def ahead (fs : FileSystem) (dir : Place) (segment : String) : Ahead :=
  if segment = "" ∨ segment = "." then .directory dir
  else if segment = ".." then .directory dir.dropLast
  else if segmentLimit < segment.utf8ByteSize then .tooLong
  else match fs.node? (dir ++ [segment]) with
    | none => .missing
    | some .directory => .directory (dir ++ [segment])
    | some (.link target) => .link target
    | some _ => .file

theorem walkWith_cons (segment : String) (rest : List String) :
    fs.walkWith follow onLink dir (segment :: rest) =
      match fs.ahead dir segment with
      | .directory next => fs.walkWith follow onLink next rest
      | .tooLong => .error .nameTooLong
      | .missing => if rest.isEmpty then .ok (dir ++ [segment]) else .error .notFound
      | .file => if rest.isEmpty then .ok (dir ++ [segment]) else .error .notDirectory
      | .link target =>
        if rest.isEmpty && !follow then .ok (dir ++ [segment])
        else onLink (if target.startsWith "/" then [] else dir) (segments target ++ rest) := by
  rw [walkWith, ahead]
  by_cases hstay : segment = "" ∨ segment = "."
  · simp only [if_pos hstay]
  · by_cases hup : segment = ".."
    · simp only [if_neg hstay, if_pos hup]
    · by_cases hlong : segmentLimit < segment.utf8ByteSize
      · simp only [if_neg hstay, if_neg hup, if_pos hlong]
      · simp only [if_neg hstay, if_neg hup, if_neg hlong]
        cases fs.node? (dir ++ [segment]) with
        | none => rfl
        | some node => cases node <;> rfl

theorem ahead_of_hasFile (hname : IsName name) (hfile : fs.HasFile (dir ++ [name])) :
    fs.ahead dir name = .file := by
  obtain ⟨hempty, hpoint, hpoints, -, hlength⟩ := hname
  obtain ⟨bytes, hnode⟩ | ⟨script, hnode⟩ := hfile <;>
    simp [ahead, hempty, hpoint, hpoints, Nat.not_lt.mpr hlength, hnode]

/-- No directory stands where nothing is found, nor where a file is. -/
theorem ne_directory_of_ahead {segment : String}
    (h : fs.ahead dir segment = .missing ∨ fs.ahead dir segment = .file) :
    fs.node? (dir ++ [segment]) ≠ some .directory := by
  intro hnode
  simp only [ahead, hnode] at h
  split at h
  · simp at h
  · split at h
    · simp at h
    · split at h <;> simp at h

theorem ahead_congr {fs' : FileSystem} {segment : String}
    (h : fs'.node? (dir ++ [segment]) = fs.node? (dir ++ [segment])) :
    fs'.ahead dir segment = fs.ahead dir segment := by
  rw [ahead, h, ahead]

/-! ### On to a file -/

/-- A walk to a directory goes on to a file in it. -/
theorem walkWith_append (hname : IsName name) (hplace : fs.node? place = some .directory)
    (hfile : fs.HasFile (place ++ [name])) (htail : tail = [] ∨ tail = [""])
    (hlink : ∀ dir segs, onLink dir (segs ++ tail) = .ok place →
      onLink' dir (segs ++ [name]) = .ok (place ++ [name]))
    (h : fs.walkWith true onLink dir (segs ++ tail) = .ok place) :
    fs.walkWith follow onLink' dir (segs ++ [name]) = .ok (place ++ [name]) := by
  induction segs generalizing dir with
  | nil =>
    have hdir : dir = place := by
      obtain rfl | rfl := htail <;> simpa [walkWith] using h
    rw [List.nil_append, walkWith_cons, hdir, ahead_of_hasFile hname hfile]
    rfl
  | cons s segs ih =>
    rw [List.cons_append, walkWith_cons] at h ⊢
    cases hahead : fs.ahead dir s with
    | directory next =>
      rw [hahead] at h
      exact ih h
    | tooLong => simp [hahead] at h
    | missing =>
      simp only [hahead] at h
      split at h
      · cases h
        exact absurd hplace (ne_directory_of_ahead (.inl hahead))
      · cases h
    | file =>
      simp only [hahead] at h
      split at h
      · cases h
        exact absurd hplace (ne_directory_of_ahead (.inr hahead))
      · cases h
    | link target =>
      simp only [hahead, Bool.not_true, Bool.and_false, Bool.false_eq_true, if_false] at h
      rw [← List.append_assoc] at h
      have hon := hlink _ _ h
      rw [List.append_assoc] at hon
      simpa using hon

theorem walk_append (hname : IsName name) (hplace : fs.node? place = some .directory)
    (hfile : fs.HasFile (place ++ [name])) (htail : tail = [] ∨ tail = [""]) {budget : Nat}
    (h : fs.walk true budget dir (segs ++ tail) = .ok place) :
    fs.walk follow budget dir (segs ++ [name]) = .ok (place ++ [name]) := by
  induction budget generalizing dir segs with
  | zero => exact walkWith_append hname hplace hfile htail (fun _ _ h => by cases h) h
  | succ budget ih => exact walkWith_append hname hplace hfile htail (fun _ _ h => ih h) h

/-- A file in a directory is found under the directory's path with its name appended, if that can
be a path at all. -/
theorem locate_append (hname : IsName name) (h : fs.locate true directory = .ok place)
    (hplace : fs.node? place = some .directory) (hfile : fs.HasFile (place ++ [name]))
    (hnull : '\x00' ∉ (Path.append directory name).toList)
    (hlength : (Path.append directory name).utf8ByteSize ≤ pathLimit) :
    fs.locate follow (Path.append directory name) = .ok (place ++ [name]) := by
  obtain ⟨hempty, -, -, hwalk⟩ := locate_eq_ok_iff.mp h
  obtain ⟨segs, tail, hsegs, htail, happend⟩ := exists_segments_append hname hempty
  have hne : Path.append directory name ≠ "" := by
    rw [append_of_isName hname hempty]
    split <;> simp [hempty]
  rw [hsegs] at hwalk
  refine locate_eq_ok_iff.mpr ⟨hne, hnull, hlength, ?_⟩
  rw [start_append hname hempty, happend]
  exact walk_append hname hplace hfile htail hwalk

/-! ### Around a file -/

/-- A walk that does not end at a file goes the same way without it. -/
theorem walkWith_erase (h : fs.IsTree) (hfile : fs.HasFile file) (hne : place ≠ file)
    (hlink : ∀ dir segs, onLink dir segs = .ok place → onLink' dir segs = .ok place)
    (hwalk : fs.walkWith follow onLink dir segs = .ok place) :
    (fs.erase file).walkWith follow onLink' dir segs = .ok place := by
  induction segs generalizing dir with
  | nil => exact hwalk
  | cons s segs ih =>
    rw [walkWith_cons] at hwalk ⊢
    by_cases hnext : dir ++ [s] = file
    · subst hnext
      rw [ahead_of_hasFile (h.isName_of_hasFile hfile) hfile] at hwalk
      dsimp only at hwalk
      split at hwalk
      · cases hwalk
        exact absurd rfl hne
      · cases hwalk
    · have hsame : (fs.erase file).ahead dir s = fs.ahead dir s :=
        ahead_congr (by rw [h.node?_erase hfile, if_neg hnext])
      rw [hsame]
      cases hahead : fs.ahead dir s with
      | directory next =>
        rw [hahead] at hwalk
        exact ih hwalk
      | link target =>
        simp only [hahead] at hwalk ⊢
        split at hwalk
        · rename_i hend
          rw [if_pos hend]
          exact hwalk
        · rename_i hend
          rw [if_neg hend]
          exact hlink _ _ hwalk
      | _ =>
        rw [hahead] at hwalk
        exact hwalk

theorem walk_erase (h : fs.IsTree) (hfile : fs.HasFile file) (hne : place ≠ file) {budget : Nat}
    (hwalk : fs.walk follow budget dir segs = .ok place) :
    (fs.erase file).walk follow budget dir segs = .ok place := by
  induction budget generalizing dir segs with
  | zero => exact walkWith_erase h hfile hne (fun _ _ h => by cases h) hwalk
  | succ budget ih => exact walkWith_erase h hfile hne (fun _ _ h => ih h) hwalk

/-- A path that does not lead to a file leads to the same place without it. -/
theorem locate_erase (h : fs.IsTree) (hfile : fs.HasFile file) (hne : place ≠ file)
    (hpath : fs.locate follow path = .ok place) :
    (fs.erase file).locate follow path = .ok place := by
  obtain ⟨hempty, hnull, hlength, hwalk⟩ := locate_eq_ok_iff.mp hpath
  exact locate_eq_ok_iff.mpr ⟨hempty, hnull, hlength, walk_erase h hfile hne hwalk⟩

end LintBridge.FileSystem

import LintBridge.Path

/-! Absolute paths and their texts. Segments that say where to go, joined by slashes after a root,
are read back as they are. -/

namespace LintBridge.Path

/-- Is this a segment of a path? It says where to go, and holds no slash. -/
def IsSegment (s : String) : Prop :=
  s ≠ "" ∧ s ≠ "." ∧ '/' ∉ s.toList

theorem splitSlash_eq_splitOn (cs : List Char) : splitSlash cs = cs.splitOn '/' := by
  induction cs with
  | nil => rfl
  | cons c cs ih =>
    rw [List.splitOn_cons_eq_if_modifyHead, ← ih]
    by_cases hc : c = '/'
    · subst hc
      rfl
    · obtain ⟨segment, more, hsplit⟩ := List.exists_cons_of_ne_nil
        (show splitSlash cs ≠ [] from ih ▸ List.splitOn_ne_nil _ _)
      rw [splitSlash, hsplit, if_neg (by simpa using hc)]
      · rfl
      · exact hc

theorem rootOf_cons {cs : List Char} (h : cs.head? ≠ some '/') : rootOf ('/' :: cs) = "/" := by
  unfold rootOf
  split
  · rfl
  · rename_i heq
    obtain rfl := (List.cons.inj heq).2
    exact absurd rfl h
  · rfl
  · rename_i hslash
    exact absurd rfl (hslash cs)

variable {s : String} {segments : List String}

theorem IsSegment.isProper (h : IsSegment s) : isProper s.toList = true := by
  simp only [Path.isProper, Bool.and_eq_true, bne_iff_ne]
  exact ⟨fun hs => h.1 (String.toList_inj.mp hs), fun hs => h.2.1 (String.toList_inj.mp hs)⟩

theorem head?_intercalate (h : ∀ s ∈ segments, IsSegment s) :
    (['/'].intercalate (segments.map String.toList)).head? ≠ some '/' := by
  cases segments with
  | nil => simp
  | cons s rest =>
    obtain ⟨hempty, -, hslash⟩ := h s List.mem_cons_self
    obtain ⟨c, cs, hs⟩ := List.exists_cons_of_ne_nil
      (fun hs => hempty (String.toList_inj.mp hs) : s.toList ≠ [])
    have hhead : (['/'].intercalate ((s :: rest).map String.toList)).head? = some c := by
      cases rest <;> simp [hs]
    rw [hhead]
    rintro ⟨⟩
    exact hslash (hs ▸ List.mem_cons_self)

/-- Joined segments are split again; of none, an empty one is left, which says nothing. -/
theorem segments_splitSlash (h : ∀ s ∈ segments, IsSegment s) :
    (splitSlash (['/'].intercalate (segments.map String.toList))).filter Path.isProper =
      segments.map String.toList := by
  rw [splitSlash_eq_splitOn]
  cases segments with
  | nil => rfl
  | cons s rest =>
    have hslash : ∀ l ∈ (s :: rest).map String.toList, '/' ∉ l :=
      List.forall_mem_map.mpr fun s hs => (h s hs).2.2
    rw [List.splitOn_intercalate _ hslash (by simp), List.filter_eq_self]
    exact List.forall_mem_map.mpr fun s hs => (h s hs).isProper

theorem toList_absolute (segments : List String) :
    ("/" ++ "/".intercalate segments).toList =
      '/' :: ['/'].intercalate (segments.map String.toList) := by
  rw [String.toList_append, String.toList_intercalate]
  rfl

/-- The text of an absolute path is read back as the path. -/
theorem ofString_absolute (h : ∀ s ∈ segments, IsSegment s) :
    ofString ("/" ++ "/".intercalate segments) = ⟨"/", segments⟩ := by
  have hproper : Path.isProper [] = false := rfl
  rw [ofString, toList_absolute, rootOf_cons (head?_intercalate h), splitSlash,
    List.filter_cons_of_neg (by simp [hproper]), segments_splitSlash h, List.map_map]
  simp

/-! ### Roots -/

variable {p : Path}

/-- Is the path at a root, of one slash or of two? -/
def IsRooted (p : Path) : Prop :=
  p.root = "/" ∨ p.root = "//"

theorem isRooted_ofString (h : (ofString s).isAbsolute = true) : (ofString s).IsRooted := by
  have hroot : rootOf s.toList ≠ "" := by simpa [isAbsolute, ofString] using h
  show rootOf s.toList = "/" ∨ rootOf s.toList = "//"
  unfold rootOf at hroot ⊢
  split at hroot
  · exact .inl rfl
  · exact .inr rfl
  · exact .inl rfl
  · exact absurd rfl hroot

theorem IsRooted.join (h : p.IsRooted) (t : String) : (p.join (ofString t)).IsRooted := by
  rw [Path.join]
  split
  · rename_i ht
    exact isRooted_ofString ht
  · exact h

theorem IsRooted.head?_toString (h : p.IsRooted) : p.toString.toList.head? = some '/' := by
  obtain hroot | hroot := h
  · simp [toString, hroot]
  · simp [toString, hroot]

end LintBridge.Path

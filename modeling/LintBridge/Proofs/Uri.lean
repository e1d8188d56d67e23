import LintBridge.Proofs.Path
import LintBridge.Proofs.Text.Utf8
import LintBridge.Uri.Basic
import Mathlib.Data.List.TakeWhile

/-! The many ways to write a path as the URI of a file. Every character may stand as it is or as the
escapes of its bytes, whatever the others do, but for those that a URI reads as something else.
Reading goes by runs of ASCII characters; a run that spells characters ends where a character ends,
so each run is decoded by itself and the path is that which was spelled. -/

namespace LintBridge.Uri

/-! ### Spellings -/

/-- A hexadecimal digit, in either case. -/
def IsHexDigit (n : Nat) (c : Char) : Prop :=
  c = Nat.digitChar n ∨ c = (Nat.digitChar n).toUpper

/-- Bytes escaped one by one. -/
inductive Escapes : List UInt8 → List Char → Prop
  | nil : Escapes [] []
  | cons {b : UInt8} {high low : Char} {bytes : List UInt8} {escaped : List Char}
    (hhigh : IsHexDigit (b.toNat / 16) high) (hlow : IsHexDigit (b.toNat % 16) low)
    (hrest : Escapes bytes escaped) :
    Escapes (b :: bytes) ('%' :: high :: low :: escaped)

/-- The characters that cannot stand for themselves in the path of a URI: an escape, the start of a
query and of a fragment, and what counts for nothing. -/
def reserved : List Char := ['%', '?', '#', '\t', '\r', '\n']

/-- A spelling of some characters: each stands as it is or is escaped, a slash always as it is. -/
inductive Spells : List Char → List Char → Prop
  | nil : Spells [] []
  | plain {c : Char} {cs written : List Char} (hplain : c ∉ reserved) (hrest : Spells cs written) :
    Spells (c :: cs) (c :: written)
  | escaped {c : Char} {cs escaped written : List Char} (hslash : c ≠ '/')
    (hescaped : Escapes (Text.encodeChar c) escaped) (hrest : Spells cs written) :
    Spells (c :: cs) (escaped ++ written)

variable {c : Char} {cs cs' written written' escaped : List Char} {bytes : List UInt8}

theorem Spells.append (h : Spells cs written) (h' : Spells cs' written') :
    Spells (cs ++ cs') (written ++ written') := by
  induction h with
  | nil => exact h'
  | plain hplain _ ih => exact .plain hplain ih
  | escaped hslash hescaped _ ih =>
    rw [List.append_assoc]
    exact .escaped hslash hescaped ih

theorem Spells.of_slash (h : Spells ('/' :: cs) written) :
    ∃ written', written = '/' :: written' := by
  cases h with
  | plain => exact ⟨_, rfl⟩
  | escaped hslash => exact absurd rfl hslash

/-! ### What is read of an escape -/

theorem IsHexDigit.spec {n : Nat} (h : IsHexDigit n c) (hn : n < 16) :
    Json.hexValue? c = some n ∧ isAscii c = true ∧ c ∉ reserved := by
  obtain rfl | rfl := h
  · revert n
    decide
  · revert n
    decide

theorem Escapes.escapedBytes_append (h : Escapes bytes escaped) (rest : List Char) :
    escapedBytes (escaped ++ rest) = bytes ++ escapedBytes rest := by
  induction h with
  | nil => rfl
  | @cons b high low bytes escaped hhigh hlow _ ih =>
    have hb := b.toNat_lt
    have hbyte : UInt8.ofNat (b.toNat / 16 * 16 + b.toNat % 16) = b := by
      rw [Nat.div_add_mod', UInt8.ofNat_toNat]
    simp only [List.cons_append, escapedBytes, (hhigh.spec (by omega)).1,
      (hlow.spec (by omega)).1, hbyte, ih]

theorem escapedBytes_cons_of_ne (h : c ≠ '%') (rest : List Char) :
    escapedBytes (c :: rest) = UInt8.ofNat c.toNat :: escapedBytes rest := by
  rw [escapedBytes]
  exact fun _ _ _ hc _ => h hc

theorem Escapes.isAscii (h : Escapes bytes escaped) : ∀ c ∈ escaped, isAscii c = true := by
  induction h with
  | nil => simp
  | @cons b high low bytes escaped hhigh hlow _ ih =>
    have hb := b.toNat_lt
    simp only [List.forall_mem_cons]
    exact ⟨rfl, (hhigh.spec (by omega)).2.1, (hlow.spec (by omega)).2.1, ih⟩

/-- A spelling in ASCII is read as the bytes of what it spells. -/
theorem Spells.escapedBytes_eq (h : Spells cs written) (hascii : ∀ c ∈ written, isAscii c = true) :
    escapedBytes written = cs.flatMap Text.encodeChar := by
  induction h with
  | nil => rfl
  | @plain c cs written hplain _ ih =>
    obtain ⟨hc, hrest⟩ := List.forall_mem_cons.mp hascii
    have hpercent : c ≠ '%' := fun hc => hplain (hc ▸ List.mem_cons_self)
    rw [escapedBytes_cons_of_ne hpercent, ih hrest, List.flatMap_cons,
      Text.encodeChar_ascii (by simpa [isAscii] using hc), List.singleton_append]
  | escaped _ hescaped _ ih =>
    rw [hescaped.escapedBytes_append, List.flatMap_cons,
      ih fun c hc => hascii c (List.mem_append_right _ hc)]

/-! ### Runs -/

theorem unquoteFrom_append (h : ∀ c ∈ escaped, isAscii c = true) (run rest : List Char) :
    unquoteFrom run (escaped ++ rest) = unquoteFrom (escaped.reverse ++ run) rest := by
  induction escaped generalizing run with
  | nil => rfl
  | cons c escaped ih =>
    obtain ⟨hc, hescaped⟩ := List.forall_mem_cons.mp h
    rw [List.cons_append, unquoteFrom, if_pos hc, ih hescaped, List.reverse_cons,
      List.append_assoc, List.singleton_append]

/-- The run so far spells some characters; what is read are these and those that the rest spells. -/
theorem Spells.unquoteFrom_eq (h : Spells cs written) {before run : List Char}
    (hrun : Spells before run) (hascii : ∀ c ∈ run, isAscii c = true) :
    unquoteFrom run.reverse written = before ++ cs := by
  induction h generalizing run before with
  | nil =>
    rw [unquoteFrom, List.reverse_reverse, hrun.escapedBytes_eq hascii, Text.decodeLenient_encode,
      List.append_nil]
  | @plain c cs written hplain _ ih =>
    rw [unquoteFrom]
    split
    · -- The character joins the run.
      rename_i hc
      rw [← List.reverse_concat, ih (hrun.append (.plain hplain .nil))
        (List.forall_mem_append.mpr ⟨hascii, by simpa using hc⟩)]
      simp
    · -- The run ends here, and the character stands by itself.
      rw [List.reverse_reverse, hrun.escapedBytes_eq hascii, Text.decodeLenient_encode]
      exact congrArg (fun rest => before ++ c :: rest) (ih .nil (by simp))
  | @escaped c cs escaped written hslash hescaped _ ih =>
    have hjoined := hrun.append (.escaped hslash hescaped .nil)
    rw [List.append_nil] at hjoined
    rw [unquoteFrom_append hescaped.isAscii, ← List.reverse_append, ih hjoined
      (List.forall_mem_append.mpr ⟨hascii, hescaped.isAscii⟩)]
    simp

/-- Undoing the escapes of a spelling gives what it spells. -/
theorem Spells.unquote_eq (h : Spells cs written) : unquote written = cs :=
  h.unquoteFrom_eq .nil (by simp : ∀ c ∈ [], isAscii c = true)

/-! ### The parts of a URI -/

theorem Escapes.forall_mem (h : Escapes bytes escaped) : ∀ c ∈ escaped, c = '%' ∨ c ∉ reserved := by
  induction h with
  | nil => simp
  | @cons b high low bytes escaped hhigh hlow _ ih =>
    have hb := b.toNat_lt
    refine List.forall_mem_cons.mpr ⟨.inl rfl, List.forall_mem_cons.mpr ⟨?_, ?_⟩⟩
    · exact .inr (hhigh.spec (by omega)).2.2
    · exact List.forall_mem_cons.mpr ⟨.inr (hlow.spec (by omega)).2.2, ih⟩

theorem Spells.forall_mem (h : Spells cs written) : ∀ c ∈ written, c = '%' ∨ c ∉ reserved := by
  induction h with
  | nil => simp
  | plain hplain _ ih => exact List.forall_mem_cons.mpr ⟨.inr hplain, ih⟩
  | escaped _ hescaped _ ih => exact List.forall_mem_append.mpr ⟨hescaped.forall_mem, ih⟩

/-- What stands in a spelling counts, and starts neither a query nor a fragment. -/
theorem Spells.counts (h : Spells cs written) (hc : c ∈ written) :
    isDropped c = false ∧ c ≠ '?' ∧ c ≠ '#' := by
  obtain rfl | hplain := h.forall_mem c hc
  · decide
  · simp only [reserved, List.mem_cons, List.not_mem_nil, or_false, not_or] at hplain
    simp [isDropped, hplain]

theorem Spells.pathPart_eq (h : Spells cs written) : pathPart written = written := by
  have hfragment : written.takeWhile (· != '#') = written :=
    List.takeWhile_eq_self_iff.mpr fun c hc => by simpa using (h.counts hc).2.2
  rw [pathPart, hfragment, List.takeWhile_eq_self_iff]
  exact fun c hc => by simpa using (h.counts hc).2.1

theorem Spells.clean_eq (h : Spells cs written) :
    clean ("file://".toList ++ written) = "file://".toList ++ written := by
  have hleading : ("file://".toList ++ written).dropWhile isLeading = "file://".toList ++ written :=
    rfl
  have hfile : "file://".toList.filter (!isDropped ·) = "file://".toList := rfl
  have hwritten : written.filter (!isDropped ·) = written :=
    List.filter_eq_self.mpr fun c hc => by simp [(h.counts hc).1]
  rw [clean, hleading, List.filter_append, hfile, hwritten]

/-- The URI of a file without a network location has the spelling of its path as its path. -/
theorem Spells.split_eq (h : Spells ('/' :: cs) written) :
    split ("file://" ++ String.ofList written) = .ok ⟨"file".toList, [], written⟩ := by
  obtain ⟨rest, hrest⟩ := h.of_slash
  have hscheme : splitScheme ("file://".toList ++ written) =
      ("file".toList, '/' :: '/' :: written) := rfl
  have hlocation : splitLocation ('/' :: '/' :: written) = ([], written) := by
    rw [hrest]
    rfl
  have hflaw : locationFlaw? [] = none := rfl
  have hfold : foldFlaw? [] = none := rfl
  simp only [split, String.toList_append, String.toList_ofList, h.clean_eq, hscheme, hlocation,
    hflaw, hfold, h.pathPart_eq]

theorem dropDriveSlash_of_ne (h : cs[2]? ≠ some ':') : dropDriveSlash cs = cs := by
  unfold dropDriveSlash
  split
  · exact absurd rfl h
  · rfl

/-- However an absolute path without a drive letter is spelled, its URI stands for it. -/
theorem spelled_path_is_read (p : String) (segments : List String) (written : List Char)
    (hp : p = "/" ++ "/".intercalate segments) (hsegments : ∀ s ∈ segments, Path.IsSegment s)
    (hthird : p.toList[2]? ≠ some ':') (hspells : Spells p.toList written) :
    toPath? ("file://" ++ String.ofList written) = .ok (some ⟨"/", segments⟩) ∧
      toPathText? ("file://" ++ String.ofList written) = .ok (some p) := by
  subst hp
  have hpath : toPath? ("file://" ++ String.ofList written) = .ok (some ⟨"/", segments⟩) := by
    have hslash := hspells
    rw [Path.toList_absolute] at hslash
    simp only [toPath?, hslash.split_eq, ↓reduceIte, hspells.unquote_eq,
      dropDriveSlash_of_ne hthird, String.ofList_toList, Path.ofString_absolute hsegments]
  refine ⟨hpath, ?_⟩
  rw [toPathText?, hpath]
  rfl

/-- A character of four bytes, escaped with digits of both cases, beside one that stands as it is; a
segment of two points is kept. -/
theorem mixed_spelling_is_read :
    let p := "/é😀/.."
    let written :=
      ['/', 'é', '%', 'F', '0', '%', '9', 'f', '%', '9', '8', '%', '8', '0', '/', '.', '.']
    (∀ s ∈ ["é😀", ".."], Path.IsSegment s) ∧ p.toList[2]? ≠ some ':' ∧ Spells p.toList written ∧
      toPath? ("file://" ++ String.ofList written) = .ok (some ⟨"/", ["é😀", ".."]⟩) ∧
      toPathText? ("file://" ++ String.ofList written) = .ok (some p) := by
  intro p written
  have hsegments : ∀ s ∈ ["é😀", ".."], Path.IsSegment s := by
    simp [Path.IsSegment]
  have hthird : p.toList[2]? ≠ some ':' := by decide
  have hescapes : Escapes (Text.encodeChar '😀')
      ['%', 'F', '0', '%', '9', 'f', '%', '9', '8', '%', '8', '0'] := by
    rw [show Text.encodeChar '😀' = [0xF0, 0x9F, 0x98, 0x80] from rfl]
    exact .cons (.inr rfl) (.inl rfl) (.cons (.inl rfl) (.inl rfl)
      (.cons (.inl rfl) (.inl rfl) (.cons (.inl rfl) (.inl rfl) .nil)))
  have hspells : Spells p.toList written := by
    rw [show p.toList = ['/', 'é', '😀', '/', '.', '.'] by decide]
    exact .plain (by decide) (.plain (by decide) (.escaped (by decide) hescapes
      (.plain (by decide) (.plain (by decide) (.plain (by decide) .nil)))))
  exact ⟨hsegments, hthird, hspells,
    spelled_path_is_read p ["é😀", ".."] written (by decide) hsegments hthird hspells⟩

/-- The slash before a drive letter is dropped. -/
example : toPathText? "file:///c%3A/x" = .ok (some "c:/x") := by
  rfl

end LintBridge.Uri

import LintBridge.Text.Utf8

/-! Decoding undoes encoding. The first byte of a character tells how many bytes follow it and
between which bounds the second one lies; these bounds leave out no character, and the bits of the
bytes make up its code. -/

namespace LintBridge.Text

/-! ### What a first byte tells -/

theorem sequenceAfter_one {b : UInt8} (h : b.toNat < 0x80) : sequenceAfter b = some (0, 0, 0) := by
  simp only [sequenceAfter, if_pos h]

theorem sequenceAfter_two {b : UInt8} (h : 0xC2 ≤ b.toNat ∧ b.toNat ≤ 0xDF) :
    sequenceAfter b = some (1, 0x80, 0xBF) := by
  simp only [sequenceAfter]
  rw [if_neg (by omega), if_pos h]

/-- The second of three bytes may be any continuation byte, except after the first bytes at which
shorter sequences and surrogates would begin. -/
theorem sequenceAfter_three {b : UInt8} (h : 0xE0 ≤ b.toNat ∧ b.toNat ≤ 0xEF) :
    ∃ low high, sequenceAfter b = some (2, low, high) ∧
      ∀ n, 0x80 ≤ n → n ≤ 0xBF → (b.toNat = 0xE0 → 0xA0 ≤ n) → (b.toNat = 0xED → n ≤ 0x9F) →
        low ≤ n ∧ n ≤ high := by
  simp only [sequenceAfter]
  rw [if_neg (by omega), if_neg (by omega)]
  split
  · exact ⟨_, _, rfl, fun n _ hhigh he0 _ => ⟨he0 ‹_›, hhigh⟩⟩
  · split
    · exact ⟨_, _, rfl, fun n hlow _ _ hed => ⟨hlow, hed ‹_›⟩⟩
    · rw [if_pos (by omega)]
      exact ⟨_, _, rfl, fun n hlow hhigh _ _ => ⟨hlow, hhigh⟩⟩

/-- The second of four bytes may be any continuation byte, except after the first bytes at which
shorter sequences and numbers that are no code would begin. -/
theorem sequenceAfter_four {b : UInt8} (h : 0xF0 ≤ b.toNat ∧ b.toNat ≤ 0xF4) :
    ∃ low high, sequenceAfter b = some (3, low, high) ∧
      ∀ n, 0x80 ≤ n → n ≤ 0xBF → (b.toNat = 0xF0 → 0x90 ≤ n) → (b.toNat = 0xF4 → n ≤ 0x8F) →
        low ≤ n ∧ n ≤ high := by
  simp only [sequenceAfter]
  rw [if_neg (by omega), if_neg (by omega), if_neg (by omega), if_neg (by omega),
    if_neg (by omega)]
  split
  · exact ⟨_, _, rfl, fun n _ hhigh hf0 _ => ⟨hf0 ‹_›, hhigh⟩⟩
  · split
    · exact ⟨_, _, rfl, fun n hlow hhigh _ _ => ⟨hlow, hhigh⟩⟩
    · rw [if_pos (by omega)]
      exact ⟨_, _, rfl, fun n hlow _ _ hf4 => ⟨hlow, hf4 (by omega)⟩⟩

/-! ### One character -/

theorem continuation_cons {taken acc following low high : Nat} {b : UInt8} (rest : List UInt8)
    (h : low ≤ b.toNat ∧ b.toNat ≤ high) :
    continuation taken acc (following + 1) low high (b :: rest) =
      continuation (taken + 1) (acc * 64 + b.toNat % 64) following 0x80 0xBF rest := by
  rw [continuation, if_pos h]

theorem encodeChar_ascii {c : Char} (h : c.toNat < 0x80) :
    encodeChar c = [UInt8.ofNat c.toNat] := by
  simp only [encodeChar, String.utf8EncodeChar]
  exact if_pos (Nat.le_of_lt_succ h)

theorem utf8Step_one {v : Nat} (h : v ≤ 127) (rest : List UInt8) :
    utf8Step (UInt8.ofNat v) rest = .char (Char.ofNat v) 0 := by
  have hfirst : (UInt8.ofNat v).toNat = v :=
    UInt8.toNat_ofNat_of_lt' (Nat.lt_of_le_of_lt h (by decide))
  rw [utf8Step, sequenceAfter_one (by omega)]
  simp only [firstBits, continuation, hfirst]

theorem utf8Step_two {v : Nat} (h : 127 < v) (h' : v ≤ 2047) (rest : List UInt8) :
    utf8Step (UInt8.ofNat (v / 64 % 32 + 192)) (UInt8.ofNat (v % 64 + 128) :: rest) =
      .char (Char.ofNat v) 1 := by
  have hfirst := UInt8.toNat_ofNat' (n := v / 64 % 32 + 192)
  have hsecond := UInt8.toNat_ofNat' (n := v % 64 + 128)
  rw [utf8Step, sequenceAfter_two (by omega)]
  simp only [firstBits]
  rw [continuation_cons _ (by omega), continuation]
  refine congrArg (fun n => Utf8Step.char (Char.ofNat n) 1) ?_
  omega

theorem utf8Step_three {v : Nat} (h : 2047 < v) (h' : v ≤ 65535)
    (hvalid : v < 0xD800 ∨ 0xDFFF < v) (rest : List UInt8) :
    utf8Step (UInt8.ofNat (v / 4096 % 16 + 224))
        (UInt8.ofNat (v / 64 % 64 + 128) :: UInt8.ofNat (v % 64 + 128) :: rest) =
      .char (Char.ofNat v) 2 := by
  have hfirst := UInt8.toNat_ofNat' (n := v / 4096 % 16 + 224)
  have hsecond := UInt8.toNat_ofNat' (n := v / 64 % 64 + 128)
  have hthird := UInt8.toNat_ofNat' (n := v % 64 + 128)
  obtain ⟨low, high, hsequence, hbounds⟩ :=
    sequenceAfter_three (b := UInt8.ofNat (v / 4096 % 16 + 224)) (by omega)
  rw [utf8Step, hsequence]
  simp only [firstBits]
  rw [continuation_cons _ (hbounds _ (by omega) (by omega) (by omega) (by omega)),
    continuation_cons _ (by omega), continuation]
  refine congrArg (fun n => Utf8Step.char (Char.ofNat n) 2) ?_
  omega

theorem utf8Step_four {v : Nat} (h : 65535 < v) (hvalid : v < 0x110000) (rest : List UInt8) :
    utf8Step (UInt8.ofNat (v / 262144 % 8 + 240))
        (UInt8.ofNat (v / 4096 % 64 + 128) :: UInt8.ofNat (v / 64 % 64 + 128) ::
          UInt8.ofNat (v % 64 + 128) :: rest) =
      .char (Char.ofNat v) 3 := by
  have hfirst := UInt8.toNat_ofNat' (n := v / 262144 % 8 + 240)
  have hsecond := UInt8.toNat_ofNat' (n := v / 4096 % 64 + 128)
  have hthird := UInt8.toNat_ofNat' (n := v / 64 % 64 + 128)
  have hfourth := UInt8.toNat_ofNat' (n := v % 64 + 128)
  obtain ⟨low, high, hsequence, hbounds⟩ :=
    sequenceAfter_four (b := UInt8.ofNat (v / 262144 % 8 + 240)) (by omega)
  rw [utf8Step, hsequence]
  simp only [firstBits]
  rw [continuation_cons _ (hbounds _ (by omega) (by omega) (by omega) (by omega)),
    continuation_cons _ (by omega), continuation_cons _ (by omega), continuation]
  refine congrArg (fun n => Utf8Step.char (Char.ofNat n) 3) ?_
  omega

/-- At the bytes of a character, the character is read and all its bytes are taken. -/
theorem utf8Step_encodeChar (c : Char) : ∃ b following, encodeChar c = b :: following ∧
    ∀ rest, utf8Step b (following ++ rest) = .char c following.length := by
  have hvalid : c.val.toNat < 0xD800 ∨ 0xDFFF < c.val.toNat ∧ c.val.toNat < 0x110000 := c.valid
  obtain ⟨v, hv⟩ : ∃ v, c.val.toNat = v := ⟨_, rfl⟩
  rw [hv] at hvalid
  have hc : Char.ofNat v = c := hv ▸ Char.ofNat_toNat c
  simp only [encodeChar, String.utf8EncodeChar, hv]
  rw [← hc]
  split
  · exact ⟨_, _, rfl, utf8Step_one ‹_›⟩
  · split
    · exact ⟨_, _, rfl, utf8Step_two (by omega) ‹_›⟩
    · split
      · exact ⟨_, _, rfl, utf8Step_three (by omega) ‹_› (by omega)⟩
      · exact ⟨_, _, rfl, utf8Step_four (by omega) (by omega)⟩

/-! ### All characters -/

theorem decodeLenientFrom_skip (skipped rest : List UInt8) :
    decodeLenientFrom skipped.length (skipped ++ rest) = decodeLenientFrom 0 rest := by
  induction skipped with
  | nil => rfl
  | cons b skipped ih => exact ih

/-- Decoding the bytes of a text gives the text. -/
theorem decodeLenient_encode (cs : List Char) : decodeLenient (cs.flatMap encodeChar) = cs := by
  induction cs with
  | nil => rfl
  | cons c cs ih =>
    obtain ⟨b, following, hbytes, hstep⟩ := utf8Step_encodeChar c
    rw [decodeLenient, List.flatMap_cons, hbytes, List.cons_append, decodeLenientFrom, hstep]
    simp only [decodeLenientFrom_skip]
    rw [← decodeLenient, ih]

theorem decodeFrom_skip (offset : Nat) (skipped rest : List UInt8) :
    decodeFrom offset skipped.length (skipped ++ rest) =
      decodeFrom (offset + skipped.length) 0 rest := by
  induction skipped generalizing offset with
  | nil => rfl
  | cons b skipped ih =>
    rw [List.length_cons, List.cons_append, decodeFrom, ih]
    congr 1
    omega

theorem decodeFrom_encode (offset : Nat) (cs : List Char) :
    decodeFrom offset 0 (cs.flatMap encodeChar) = .ok cs := by
  induction cs generalizing offset with
  | nil => rfl
  | cons c cs ih =>
    obtain ⟨b, following, hbytes, hstep⟩ := utf8Step_encodeChar c
    rw [List.flatMap_cons, hbytes, List.cons_append, decodeFrom, hstep]
    simp only [decodeFrom_skip, ih]
    rfl

/-- Decoding the bytes of a text strictly gives the text. -/
theorem decodeUtf8_encodeUtf8 (s : String) : decodeUtf8 (encodeUtf8 s) = .ok s.toList :=
  decodeFrom_encode 0 s.toList

theorem uniformLines_of_not_mem {cs : List Char} (h : '\r' ∉ cs) : uniformLines cs = cs := by
  induction cs with
  | nil => rfl
  | cons c cs ih =>
    rw [List.mem_cons, not_or] at h
    obtain ⟨hc, hcs⟩ := h
    rw [uniformLines, ih hcs]
    · rintro rest rfl
      exact absurd rfl hc
    · rintro rfl
      exact hc rfl

end LintBridge.Text

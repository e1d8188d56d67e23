/-!
UTF-8. The strict decoder stops at the first fault and says which bytes are to blame; the lenient
one puts one replacement character in place of each faulty run, a run being the longest start of a
sequence that could still have been completed.
-/
namespace LintBridge.Text

inductive Utf8Flaw where
  | invalidStart
  | invalidContinuation
  | unexpectedEnd
  deriving DecidableEq, Repr

def Utf8Flaw.message : Utf8Flaw → String
  | invalidStart => "invalid start byte"
  | invalidContinuation => "invalid continuation byte"
  | unexpectedEnd => "unexpected end of data"

/-- A faulty run: the flaw, the offset of its first byte, that byte and the number of bytes. -/
structure Utf8Error where
  flaw : Utf8Flaw
  start : Nat
  first : UInt8
  length : Nat
  deriving DecidableEq, Repr

def Utf8Error.message (e : Utf8Error) : String :=
  let digits := Nat.toDigits 16 e.first.toNat
  let hex := String.ofList (List.replicate (2 - digits.length) '0' ++ digits)
  if e.length = 1 then
    s!"'utf-8' codec can't decode byte 0x{hex} in position {e.start}: {e.flaw.message}"
  else
    s!"'utf-8' codec can't decode bytes in position {e.start}-{e.start + e.length - 1}: " ++
      e.flaw.message

/-- How many bytes follow a first byte, and the range of the byte right after it. -/
def sequenceAfter (b : UInt8) : Option (Nat × Nat × Nat) :=
  let n := b.toNat
  if n < 0x80 then some (0, 0, 0)
  else if 0xC2 ≤ n ∧ n ≤ 0xDF then some (1, 0x80, 0xBF)
  else if n = 0xE0 then some (2, 0xA0, 0xBF)
  else if n = 0xED then some (2, 0x80, 0x9F)
  else if 0xE1 ≤ n ∧ n ≤ 0xEF then some (2, 0x80, 0xBF)
  else if n = 0xF0 then some (3, 0x90, 0xBF)
  else if 0xF1 ≤ n ∧ n ≤ 0xF3 then some (3, 0x80, 0xBF)
  else if n = 0xF4 then some (3, 0x80, 0x8F)
  else none

def firstBits (b : UInt8) (following : Nat) : Nat :=
  match following with
  | 0 => b.toNat
  | 1 => b.toNat % 32
  | 2 => b.toNat % 16
  | _ => b.toNat % 8

/-- What stands at the start of a byte sequence: a character and the number of bytes after its
first one, or a flaw and the length of the faulty run. -/
inductive Utf8Step where
  | char (c : Char) (following : Nat)
  | fault (flaw : Utf8Flaw) (length : Nat)

/-- Reads `following` continuation bytes; `taken` bytes are read so far. -/
def continuation (taken : Nat) (acc : Nat) :
    (following : Nat) → (low high : Nat) → List UInt8 → Utf8Step
  | 0, _, _, _ => .char (Char.ofNat acc) (taken - 1)
  | _ + 1, _, _, [] => .fault .unexpectedEnd taken
  | following + 1, low, high, b :: rest =>
    if low ≤ b.toNat ∧ b.toNat ≤ high then
      continuation (taken + 1) (acc * 64 + b.toNat % 64) following 0x80 0xBF rest
    else .fault .invalidContinuation taken

/-- Reads one character after its first byte `b`. -/
def utf8Step (b : UInt8) (rest : List UInt8) : Utf8Step :=
  match sequenceAfter b with
  | none => .fault .invalidStart 1
  | some (following, low, high) => continuation 1 (firstBits b following) following low high rest

/-- Decodes strictly; `skip` bytes at the front belong to the character before. -/
def decodeFrom (offset : Nat) : Nat → List UInt8 → Except Utf8Error (List Char)
  | _, [] => .ok []
  | skip + 1, _ :: rest => decodeFrom (offset + 1) skip rest
  | 0, b :: rest =>
    match utf8Step b rest with
    | .char c following => (decodeFrom (offset + 1) following rest).map (c :: ·)
    | .fault flaw length => .error ⟨flaw, offset, b, length⟩

def decodeUtf8 (bytes : List UInt8) : Except Utf8Error (List Char) :=
  decodeFrom 0 0 bytes

/-- Decodes leniently; `skip` bytes at the front are already accounted for. -/
def decodeLenientFrom : Nat → List UInt8 → List Char
  | _, [] => []
  | skip + 1, _ :: rest => decodeLenientFrom skip rest
  | 0, b :: rest =>
    match utf8Step b rest with
    | .char c following => c :: decodeLenientFrom following rest
    | .fault _ length => '\uFFFD' :: decodeLenientFrom (length - 1) rest

/-- The text that bytes encode, with a replacement character for every faulty run. -/
def decodeLenient (bytes : List UInt8) : List Char :=
  decodeLenientFrom 0 bytes

def encodeChar (c : Char) : List UInt8 :=
  String.utf8EncodeChar c

def encodeUtf8 (s : String) : List UInt8 :=
  s.toList.flatMap encodeChar

/-- Line ends made uniform: a carriage return, alone or before a line feed, is a line feed. -/
def uniformLines : List Char → List Char
  | [] => []
  | '\r' :: '\n' :: rest => '\n' :: uniformLines rest
  | '\r' :: rest => '\n' :: uniformLines rest
  | c :: rest => c :: uniformLines rest

end LintBridge.Text

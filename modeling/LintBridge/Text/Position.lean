/-!
Positions in a text: a line and a character within it, both from zero, in code points. Lines end
at line feeds only.
-/
namespace LintBridge

structure Position where
  line : Nat
  character : Nat
  deriving DecidableEq, Repr, Inhabited

namespace Position

/-- The greatest line and character that can be told to an editor. -/
def limit : Nat := 2147483647

/-- The offset moved into the text. -/
def clamp (text : List Char) (offset : Int) : Nat :=
  min offset.toNat text.length

/-- The position after the first `k` characters. -/
def after (text : List Char) (k : Nat) : Position :=
  let before := text.take k
  ⟨before.count '\n', (before.reverse.takeWhile (· ≠ '\n')).length⟩

/-- The position of an offset; one outside the text counts as its nearer end. -/
def ofOffset (text : List Char) (offset : Int) : Position :=
  after text (clamp text offset)

end Position

end LintBridge

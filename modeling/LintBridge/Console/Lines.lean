import LintBridge.Text.Digit
import LintBridge.Text.Width

/-!
Breaking a text into lines of eighty columns: between words where that is possible, and between
clusters in a word that fits on no line. White space at a break stays on the line before it, and is
dropped or cut where it does not fit.
-/
namespace LintBridge.Console

def width : Nat := 80

/-- The number of columns between two stops of the tabulator. -/
def tabStop : Nat := 8

/-- Replaces the tabs between parts of a line by blanks up to the next stop: one at least, as wide
as it comes out after the part. -/
def expandTabsFrom (column : Nat) : List (List Char) → List Char
  | [] => []
  | [last] => last
  | part :: rest =>
    let reached := column + Text.columnsOf (part ++ [' '])
    let blanks := (tabStop - reached % tabStop) % tabStop
    part ++ ' ' :: List.replicate blanks ' ' ++ expandTabsFrom (reached + blanks) rest

def expandTabs (cs : List Char) : List Char :=
  expandTabsFrom 0 (cs.splitOn '\t')

/-! ### Words -/

/-- Splits a line into words; white space belongs to the word before it, and at the start of the
line to the first word. -/
def wordsFrom (fuel : Nat) (cs : List Char) : List (List Char) :=
  match fuel with
  | 0 => []
  | fuel + 1 =>
    let lead := cs.takeWhile Text.isSpace
    let body := (cs.drop lead.length).takeWhile (!Text.isSpace ·)
    let tail := (cs.drop (lead.length + body.length)).takeWhile Text.isSpace
    if body.isEmpty then []
    else
      let word := lead ++ body ++ tail
      word :: wordsFrom fuel (cs.drop word.length)

def words (cs : List Char) : List (List Char) :=
  wordsFrom cs.length cs

def trimEnd (cs : List Char) : List Char :=
  (cs.reverse.dropWhile Text.isSpace).reverse

/-- Puts clusters together to pieces that fit on a line. `room` columns are left and `run` holds the
piece so far. -/
def foldClusters (room : Nat) (run : List Char) : List Text.Cluster → List (List Char)
  | [] => [run]
  | k :: rest =>
    if room < k.columns then run :: foldClusters (width - k.columns) k.chars rest
    else foldClusters (room - k.columns) (run ++ k.chars) rest

def foldWord (word : List Char) : List (List Char) :=
  foldClusters width [] (Text.clusters word)

/-! ### Lines -/

/-- The lines that are full, the last one first, and the line that is being filled with the columns
that it takes. -/
structure Filling where
  lines : List (List Char)
  line : List Char
  used : Nat

/-- Begins a new line, unless nothing at all was placed so far. -/
def Filling.newLine (f : Filling) : Filling :=
  if f.lines.isEmpty && f.line.isEmpty then f else ⟨f.line :: f.lines, [], 0⟩

/-- Places a word: on the line if it fits, else on a new line, in pieces if it fits on none. -/
def Filling.place (f : Filling) (word : List Char) : Filling :=
  let size := Text.columnsOf (trimEnd word)
  if f.used + size ≤ width then
    { f with line := f.line ++ word, used := f.used + Text.columnsOf word }
  else if width < size then
    (foldWord word).foldl (fun f piece =>
      let f := f.newLine
      { f with line := piece, used := Text.columnsOf piece }) f
  else
    let f := f.newLine
    { f with line := f.line ++ word, used := Text.columnsOf word }

/-- Drops white space at the end of a line that has too many characters. -/
def dropExcess (cs : List Char) : List Char :=
  if cs.length ≤ width then cs
  else
    let blanks := (cs.reverse.takeWhile Text.isSpace).length
    cs.take (cs.length - min blanks (cs.length - width))

/-- What fits into `room` columns of clusters; half a wide one becomes a blank. -/
def cutClusters (room : Nat) : List Text.Cluster → List Char
  | [] => []
  | k :: rest =>
    if room = 0 then []
    else if room < k.columns then [' ']
    else k.chars ++ cutClusters (room - k.columns) rest

/-- Makes a line fit: white space at its end is dropped by its length in characters, and what is
still too wide is cut. -/
def fit (cs : List Char) : List Char :=
  let kept := dropExcess cs
  if Text.columnsOf kept ≤ width then kept else cutClusters width (Text.clusters kept)

def breakLine (cs : List Char) : List (List Char) :=
  let filled := (words cs).foldl Filling.place ⟨[], [], 0⟩
  let placed := (filled.line :: filled.lines).reverse
  let rest := cs.drop placed.flatten.length
  match placed.reverse with
  | last :: before => ((last ++ rest) :: before).reverse.map fit
  | [] => [fit rest]

def linesOf (cs : List Char) : List (List Char) :=
  (cs.splitOn '\n').flatMap fun line => breakLine (expandTabs line)

end LintBridge.Console

import LintBridge.Fault
import LintBridge.Text.Lower

/-!
Styles of shown text as tags name them: attributes that are set or cleared, a colour, a colour
behind, and a link. One style can be written in several ways, so tags are compared by a written form
that each style has once.
-/
namespace LintBridge.Console

/-! ### Colours -/

def colorNames : List String := [
  "black", "red", "green", "yellow", "blue", "magenta", "cyan", "white", "bright_black",
  "bright_red", "bright_green", "bright_yellow", "bright_blue", "bright_magenta", "bright_cyan",
  "bright_white", "grey0", "gray0", "navy_blue", "dark_blue", "blue3", "blue1", "dark_green",
  "deep_sky_blue4", "dodger_blue3", "dodger_blue2", "green4", "spring_green4", "turquoise4",
  "deep_sky_blue3", "dodger_blue1", "green3", "spring_green3", "dark_cyan", "light_sea_green",
  "deep_sky_blue2", "deep_sky_blue1", "spring_green2", "cyan3", "dark_turquoise", "turquoise2",
  "green1", "spring_green1", "medium_spring_green", "cyan2", "cyan1", "dark_red", "deep_pink4",
  "purple4", "purple3", "blue_violet", "orange4", "grey37", "gray37", "medium_purple4",
  "slate_blue3", "royal_blue1", "chartreuse4", "dark_sea_green4", "pale_turquoise4", "steel_blue",
  "steel_blue3", "cornflower_blue", "chartreuse3", "cadet_blue", "sky_blue3", "steel_blue1",
  "pale_green3", "sea_green3", "aquamarine3", "medium_turquoise", "chartreuse2", "sea_green2",
  "sea_green1", "aquamarine1", "dark_slate_gray2", "dark_magenta", "dark_violet", "purple",
  "light_pink4", "plum4", "medium_purple3", "slate_blue1", "yellow4", "wheat4", "grey53", "gray53",
  "light_slate_grey", "light_slate_gray", "medium_purple", "light_slate_blue", "dark_olive_green3",
  "dark_sea_green", "light_sky_blue3", "sky_blue2", "dark_sea_green3", "dark_slate_gray3",
  "sky_blue1", "chartreuse1", "light_green", "pale_green1", "dark_slate_gray1", "red3",
  "medium_violet_red", "magenta3", "dark_orange3", "indian_red", "hot_pink3", "medium_orchid3",
  "medium_orchid", "medium_purple2", "dark_goldenrod", "light_salmon3", "rosy_brown", "grey63",
  "gray63", "medium_purple1", "gold3", "dark_khaki", "navajo_white3", "grey69", "gray69",
  "light_steel_blue3", "light_steel_blue", "yellow3", "dark_sea_green2", "light_cyan3",
  "light_sky_blue1", "green_yellow", "dark_olive_green2", "dark_sea_green1", "pale_turquoise1",
  "deep_pink3", "magenta2", "hot_pink2", "orchid", "medium_orchid1", "orange3", "light_pink3",
  "pink3", "plum3", "violet", "light_goldenrod3", "tan", "misty_rose3", "thistle3", "plum2",
  "khaki3", "light_goldenrod2", "light_yellow3", "grey84", "gray84", "light_steel_blue1", "yellow2",
  "dark_olive_green1", "honeydew2", "light_cyan1", "red1", "deep_pink2", "deep_pink1", "magenta1",
  "orange_red1", "indian_red1", "hot_pink", "dark_orange", "salmon1", "light_coral",
  "pale_violet_red1", "orchid2", "orchid1", "orange1", "sandy_brown", "light_salmon1",
  "light_pink1", "pink1", "plum1", "gold1", "navajo_white1", "misty_rose1", "thistle1", "yellow1",
  "light_goldenrod1", "khaki1", "wheat1", "cornsilk1", "grey100", "gray100", "grey3", "gray3",
  "grey7", "gray7", "grey11", "gray11", "grey15", "gray15", "grey19", "gray19", "grey23", "gray23",
  "grey27", "gray27", "grey30", "gray30", "grey35", "gray35", "grey39", "gray39", "grey42",
  "gray42", "grey46", "gray46", "grey50", "gray50", "grey54", "gray54", "grey58", "gray58",
  "grey62", "gray62", "grey66", "gray66", "grey70", "gray70", "grey74", "gray74", "grey78",
  "gray78", "grey82", "gray82", "grey85", "gray85", "grey89", "gray89", "grey93", "gray93"]

/-- The greatest number of a colour, and of a part of one. -/
def colorLimit : Nat := 255

/-- What stands in brackets after `name`, if `cs` is just that. -/
def arguments? (name : String) (cs : List Char) : Option (List Char) :=
  let opening := name.toList ++ ['(']
  if opening.isPrefixOf cs && cs.getLast? == some ')' && opening.length < cs.length then
    some ((cs.drop opening.length).dropLast)
  else none

def colorPart (cs : List Char) : Except Fault Int :=
  match Text.readNumeral (String.ofList cs) with
  | .ok n => .ok n
  | .error .malformed => .error (.notNumeral (String.ofList cs))
  | .error (.tooLong digits) => .error (.hugeNumber digits)

def isMixture (cs : List Char) : Except Fault Bool := do
  if cs.isEmpty || !cs.all (fun c => c == ',' || (Text.digitValue? c).isSome) then return false
  let parts := cs.splitOn ','
  if parts.length ≠ 3 then return false
  let values ← parts.mapM colorPart
  return values.all (· ≤ colorLimit)

def isColorNumber (cs : List Char) : Bool :=
  1 ≤ cs.length && cs.length ≤ 3 && cs.all Char.isDigit &&
    (String.ofList cs).toNat?.any (· ≤ colorLimit)

def isHexDigit (c : Char) : Bool :=
  c.isDigit || ('a' ≤ c && c ≤ 'f')

def isColor (cs : List Char) : Except Fault Bool :=
  let name := String.ofList cs
  if name == "default" || colorNames.contains name then .ok true
  else
    match cs, arguments? "color" cs, arguments? "rgb" cs with
    | '#' :: digits, _, _ => .ok (digits.length == 6 && digits.all isHexDigit)
    | _, some number, _ => .ok (isColorNumber number)
    | _, _, some parts => isMixture parts
    | _, _, _ => .ok false

/-! ### Attributes -/

/-- A way in which text can be shown apart from its colours. -/
inductive Attribute where
  | bold
  | dim
  | italic
  | underline
  | blink
  | fastBlink
  | reversed
  | concealed
  | strike
  | doubleUnderline
  | framed
  | encircled
  | overline
  deriving DecidableEq, Repr

namespace Attribute

def all : List Attribute :=
  [bold, dim, italic, underline, blink, fastBlink, reversed, concealed, strike, doubleUnderline,
    framed, encircled, overline]

def word : Attribute → String
  | bold => "bold"
  | dim => "dim"
  | italic => "italic"
  | underline => "underline"
  | blink => "blink"
  | fastBlink => "blink2"
  | reversed => "reverse"
  | concealed => "conceal"
  | strike => "strike"
  | doubleUnderline => "underline2"
  | framed => "frame"
  | encircled => "encircle"
  | overline => "overline"

def shortWords : List (String × Attribute) :=
  [("b", bold), ("d", dim), ("i", italic), ("u", underline), ("r", reversed), ("c", concealed),
    ("s", strike), ("uu", doubleUnderline), ("o", overline)]

def ofWord? (w : String) : Option Attribute :=
  (shortWords.lookup w).or (all.find? (·.word == w))

end Attribute

/-! ### Styles -/

/-- A style. An attribute that is not mentioned stays as it is around. -/
structure Style where
  attributes : List (Attribute × Bool) := []
  color : Option String := none
  background : Option String := none
  link : Option String := none
  deriving DecidableEq, Repr

namespace Style

/-- Sets or clears an attribute; what comes last counts. -/
def set (s : Style) (a : Attribute) (value : Bool) : Style :=
  { s with attributes := (a, value) :: s.attributes }

/-- Reads words on top of a style; none where they name no style. -/
def readWords (s : Style) : List (List Char) → Except Fault (Option Style)
  | [] => .ok (some s)
  | given :: rest =>
    let lowered := Text.lower given
    let name := String.ofList lowered
    match name, rest with
    | "on", [] | "not", [] | "link", [] => .ok none
    | "on", given :: rest => do
      let lowered := Text.lower given
      if ← isColor lowered then
        readWords { s with background := some (String.ofList lowered) } rest
      else return none
    | "not", given :: rest =>
      match Attribute.ofWord? (String.ofList given) with
      | some a => readWords (s.set a false) rest
      | none => .ok none
    | "link", given :: rest => readWords { s with link := some (String.ofList given) } rest
    | _, rest =>
      match Attribute.ofWord? name with
      | some a => readWords (s.set a true) rest
      | none => do
        if ← isColor lowered then readWords { s with color := some name } rest
        else return none

def trim (cs : List Char) : List Char :=
  ((cs.dropWhile Text.isSpace).reverse.dropWhile Text.isSpace).reverse

def words (cs : List Char) : List (List Char) :=
  (cs.splitOnP Text.isSpace).filter (!·.isEmpty)

/-- The style that a text names; none where it names no style. -/
def read (cs : List Char) : Except Fault (Option Style) :=
  if trim cs == "none".toList then .ok (some {}) else readWords {} (words cs)

def attributeWords (s : Style) (a : Attribute) : List String :=
  match s.attributes.lookup a with
  | some true => [a.word]
  | some false => ["not", a.word]
  | none => []

/-- The words for what a style sets, in a settled order. -/
def settledWords (s : Style) : List String :=
  Attribute.all.flatMap s.attributeWords
    ++ s.color.toList
    ++ (s.background.map (["on", ·])).getD []
    ++ (s.link.map (["link", ·])).getD []

def written (s : Style) : String :=
  match s.settledWords with
  | [] => "none"
  | ws => String.intercalate " " ws

/-- The form in which names of styles are compared: the written form of the style, or the text in
lower case if it names none. -/
def nameOf (cs : List Char) : Except Fault String := do
  match ← read cs with
  | some s => return s.written
  | none => return String.ofList (Text.lower (trim cs))

end Style

end LintBridge.Console

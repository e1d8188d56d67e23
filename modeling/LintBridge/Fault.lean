import LintBridge.Json.Reader
import LintBridge.Literal.Token
import LintBridge.Raised
import LintBridge.Text.Template
import LintBridge.Text.Utf8

/-!
Everything that can go wrong, by its cause, and the one place where each cause is put into words.
-/
namespace LintBridge

/-- How a failure is classed for the user. -/
inductive ErrorType where
  | moduleMissing
  | moduleMalformed
  | manifestReadError
  | lintCallError
  deriving DecidableEq, Repr

namespace ErrorType

def all : List ErrorType :=
  [moduleMissing, moduleMalformed, manifestReadError, lintCallError]

def value : ErrorType → String
  | moduleMissing => "module_missing"
  | moduleMalformed => "module_malformed"
  | manifestReadError => "manifest_read_error"
  | lintCallError => "lint_call_error"

end ErrorType

inductive FileFlaw where
  | notFound
  | exists
  | notDirectory
  | isDirectory
  | nameTooLong
  | tooManyLinks
  /-- The path holds a character that no path can hold. -/
  | nullCharacter
  deriving DecidableEq, Repr

/-- The number and the wording of a file flaw; a character that no path can hold has no number. -/
def FileFlaw.describe : FileFlaw → Option Nat × String
  | .notFound => (some 2, "No such file or directory")
  | .exists => (some 17, "File exists")
  | .notDirectory => (some 20, "Not a directory")
  | .isDirectory => (some 21, "Is a directory")
  | .nameTooLong => (some 36, "File name too long")
  | .tooManyLinks => (some 40, "Too many levels of symbolic links")
  | .nullCharacter => (none, "embedded null byte")

inductive HostFlaw where
  | unbalancedBrackets
  | notAnAddress (host : String)
  | badFutureAddress
  | plainAddressInBrackets
  | foldsToSeparator (location : String)
  deriving DecidableEq, Repr

def HostFlaw.message : HostFlaw → String
  | unbalancedBrackets => "Invalid IPv6 URL"
  | notAnAddress host => s!"{Text.quoted host} does not appear to be an IPv4 or IPv6 address"
  | badFutureAddress => "IPvFuture address is invalid"
  | plainAddressInBrackets => "An IPv4 address cannot be in brackets"
  | foldsToSeparator location =>
    s!"netloc '{location}' contains invalid characters under NFKC normalization"

inductive Fault where
  /-- A value of this type has no such member. -/
  | noMember (typeName member : String)
  | notIterable (typeName : String)
  | notSubscriptable (typeName : String)
  | notMapping (typeName : String)
  | notPathText (typeName : String)
  | noJoin (typeName : String)
  | noKey (shown : String)
  /-- Two values of these types cannot be compared by this sign. -/
  | notOrdered (sign left right : String)
  | notAnOffset
  | notNumeral (text : String)
  | notNumber (typeName : String)
  | hugeNumber (digits : Nat)
  | infiniteNumber
  | undefinedNumber
  /-- A line or character that cannot be told to an editor. -/
  | outOfRange (field shown : String)
  /-- A part of a diagnostic or an edit that has to be text and is not. -/
  | notText
  | notSeverity (shown : String)
  | notErrorType (shown : String)
  | json (e : Json.ReadError)
  | encoding (e : Text.Utf8Error)
  | file (flaw : FileFlaw) (path : String)
  | missingFile (path : String)
  /-- The editor has not named its workspace. -/
  | noWorkspace
  | host (flaw : HostFlaw)
  /-- A configuration file that cannot be used. -/
  | config (path : String) (cause : Fault)
  | unknownSetting (group key : String)
  | manifestNotJson (path : String) (e : Json.ReadError)
  | manifestNotObject (path : String)
  | moduleMissing (name : String)
  | moduleMalformed (entryPoint : String)
  | unknownLevel (name : String)
  | negativeLevel (shown : String)
  | notLevel (typeName : String)
  | notFormat (typeName : String)
  /-- A line format whose tags or braces do not fit together. -/
  | badFormat
  /-- A path whose braces do not fit together. -/
  | badTemplate (flaw : Text.TemplateFlaw)
  | strayTag (tag : String) (offset : Nat)
  | nothingToClose (tag : String) (offset : Nat)
  /-- A tag whose parameters cannot be read. -/
  | badParameters (literal parameters : String) (flaw : Literal.Flaw)
  | noEnclosingPackage
  | noSubmodule (name : String)
  | noLabel (name : String) (file : Option String)
  | doesNotCompile (file : String) (line : Nat)
  | raised (r : Raised)
  /-- A message was to show a value that has no text. -/
  | unshown (flaw : Json.ShowFlaw)
  /-- The content of an editor's message lacks what its method asks for. -/
  | invalidParams
  deriving Repr, Inhabited

namespace Fault

/-- The text of a fault; none where it has no settled wording. -/
def message? : Fault → Option String
  | noMember typeName member => some s!"'{typeName}' object has no attribute '{member}'"
  | notIterable typeName => some s!"'{typeName}' object is not iterable"
  | notSubscriptable typeName => some s!"'{typeName}' object is not subscriptable"
  | notMapping typeName => some s!"'{typeName}' object is not a mapping"
  | notPathText typeName => some s!"expected str, bytes or os.PathLike object, not {typeName}"
  | noJoin typeName => some s!"unsupported operand type(s) for /: 'PosixPath' and '{typeName}'"
  | noKey shown => some shown
  | notOrdered sign left right =>
    some s!"'{sign}' not supported between instances of '{left}' and '{right}'"
  | notAnOffset => some "slice indices must be integers or None or have an __index__ method"
  | notNumeral text =>
    some ("invalid literal for int() with base 10: "
      ++ String.ofList ((Text.quoted text).toList.take 200))
  | notNumber typeName =>
    some ("int() argument must be a string, a bytes-like object or a real number, not "
      ++ s!"'{typeName}'")
  | hugeNumber digits => some (Text.tooManyDigits digits)
  | infiniteNumber => some "cannot convert float infinity to integer"
  | undefinedNumber => some "cannot convert float NaN to integer"
  | outOfRange field shown =>
    some s!"Position.{field} should be in range [0:2147483647], but was {shown}."
  | notText => none
  | notSeverity shown => some s!"{shown} is not a valid DiagnosticSeverity"
  | notErrorType shown => some s!"{shown} is not a valid LinterErrorType"
  | json e => some e.message
  | encoding e => some e.message
  | file flaw path =>
    match flaw.describe with
    | (some number, wording) => some s!"[Errno {number}] {wording}: {Text.quoted path}"
    | (none, wording) => some wording
  | missingFile path => some s!"File not found: {path}"
  | noWorkspace => some "The workspace is not available - has the server been initialized?"
  | host flaw => some flaw.message
  | config path cause =>
    some (s!"Failed to load config file {path}: " ++ (message? cause).getD "")
  | unknownSetting group key =>
    some (s!"{group}.__init__() got "
      ++ (if key == "self" then "multiple values for argument " else "an unexpected keyword argument ")
      ++ s!"'{key}'")
  | manifestNotJson path e => some s!"Failed to parse {path}: {e.message}"
  | manifestNotObject path => some s!"Failed to parse {path}: expected a JSON object"
  | moduleMissing name =>
    some (s!"Failed to load {name}. Make sure {name} is installed in your workspace folder "
      ++ "and then press Retry.")
  | moduleMalformed entryPoint => some s!"Marlint doesn't export a {entryPoint} function."
  | unknownLevel name => some s!"Level '{name}' does not exist"
  | negativeLevel shown =>
    some s!"Invalid level value, it should be a positive integer, not: {shown}"
  | notLevel typeName =>
    some s!"Invalid level, it should be an integer or a string, not: '{typeName}'"
  | notFormat typeName =>
    some s!"Invalid format, it should be a string or a function, not: '{typeName}'"
  | badFormat => some "Invalid format, color markups could not be parsed correctly"
  | badTemplate flaw => some flaw.message
  | strayTag tag offset =>
    some s!"closing tag '{tag}' at position {offset} doesn't match any open tag"
  | nothingToClose tag offset =>
    some s!"closing tag '{tag}' at position {offset} has nothing to close"
  | badParameters literal parameters flaw =>
    flaw.message?.map (s!"error parsing {Text.quoted literal} in {Text.quoted parameters}; " ++ ·)
  | noEnclosingPackage => some "attempted relative import with no known parent package"
  | noSubmodule name => some s!"No module named {Text.quoted name}"
  | noLabel name place =>
    some (s!"cannot import name 'LABEL' from {Text.quoted name}"
      ++ " (" ++ place.getD "unknown location" ++ ")")
  | doesNotCompile script line => some s!"invalid syntax ({script}, line {line})"
  | raised r => r.message.toOption
  | unshown flaw => some flaw.message
  | invalidParams => some "Invalid Params"

def message (f : Fault) : String :=
  f.message?.getD ""

/-- The text of a fault inside another message. An error from outside may have none. -/
def shown : Fault → Except Json.ShowFlaw String
  | raised r => r.message
  | f => .ok f.message

/-- A text that is needed; that there is none is a fault of its own. -/
def needText {α : Type} (text : Except Json.ShowFlaw α) : Except Fault α :=
  text.mapError unshown

/-- The fault whose wording shows a value, unless the value has no text. -/
def about (text : Except Json.ShowFlaw String) (f : String → Fault) : Fault :=
  match text with
  | .ok text => f text
  | .error flaw => unshown flaw

def kind : Fault → String
  | noMember .. => "AttributeError"
  | notIterable .. | notSubscriptable .. | notMapping .. | notPathText .. | noJoin ..
  | notOrdered .. | notAnOffset | notNumber .. | notText | unknownSetting .. | notLevel ..
  | notFormat .. => "TypeError"
  | noKey .. => "KeyError"
  | infiniteNumber => "OverflowError"
  | notNumeral .. | hugeNumber .. | undefinedNumber | outOfRange .. | host .. | config ..
  | manifestNotJson .. | manifestNotObject .. | unknownLevel .. | negativeLevel .. | notSeverity ..
  | notErrorType .. | badFormat | badTemplate .. => "ValueError"
  | json (.malformed ..) => "JSONDecodeError"
  | json (.hugeNumber ..) => "ValueError"
  | json (.tooDeep ..) => "RecursionError"
  | encoding .. => "UnicodeDecodeError"
  | file .notFound _ => "FileNotFoundError"
  | file .exists _ => "FileExistsError"
  | file .notDirectory _ => "NotADirectoryError"
  | file .isDirectory _ => "IsADirectoryError"
  | file .nullCharacter _ => "ValueError"
  | file .. => "OSError"
  | missingFile .. => "FileNotFoundError"
  | noWorkspace => "RuntimeError"
  | moduleMissing .. | moduleMalformed .. => "ModuleInitError"
  | strayTag .. | nothingToClose .. | badParameters .. => "MarkupError"
  | noEnclosingPackage | noLabel .. => "ImportError"
  | noSubmodule .. => "ModuleNotFoundError"
  | doesNotCompile .. => "SyntaxError"
  | raised r => r.kind
  | unshown .tooManyDigits => "ValueError"
  | unshown .tooDeep => "RecursionError"
  | invalidParams => "JsonRpcInvalidParams"

def errorType? : Fault → Option ErrorType
  | manifestNotJson _ _ => some .manifestReadError
  | manifestNotObject _ => some .manifestReadError
  | moduleMissing _ => some .moduleMissing
  | moduleMalformed _ => some .moduleMalformed
  | _ => none

/-- Whether trying again can help, where that is known. -/
def retry? : Fault → Option Bool
  | moduleMissing _ => some true
  | moduleMalformed _ => some false
  | _ => none

end Fault

/-- The values that a value runs through: the items of an array, the keys of an object, the
characters of a text. -/
def Json.items : Json → Except Fault (List Json)
  | .arr items => .ok items
  | .obj members => .ok (members.map fun p => .str p.1)
  | .str s => .ok (s.toList.map fun c => .str c.toString)
  | v => .error (.notIterable v.typeName)

end LintBridge

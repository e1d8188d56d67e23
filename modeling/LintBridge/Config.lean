import LintBridge.FileSystem.Basic

/-!
The configuration of the server: two sections of built-in defaults, each overlaid key by key with
the section of a file. A leading tilde in any text of a section stands for the home directory.
Values are kept as the file has them; only keys that no section knows are refused.
-/
namespace LintBridge

structure LoggingSection where
  level : Json
  format : Json
  directory : Json
  deriving Repr, Inhabited

structure LinterSection where
  moduleName : Json
  entryPoint : Json
  sourceName : Json
  manifestName : Json
  deriving Repr, Inhabited

/-- A configuration and the file it was read for. -/
structure Config where
  logging : LoggingSection
  linter : LinterSection
  file : String
  deriving Repr, Inhabited

namespace Config

def loggingDefaults : Members :=
  [("level", .str "INFO"),
    ("format", .str "\x7btime:YYYY-MM-DD HH:mm:ss\x7d | \x7blevel\x7d | \x7bmessage\x7d"),
    ("logs_dir", .str "~/.marlint/logs")]

def linterDefaults : Members :=
  [("module_name", .str "marlint"), ("entry_point", .str "lint_text"),
    ("source_name", .str "Marlint"), ("manifest_name", .str "package.json")]

def defaultFile : String := "~/.marlint/config/server.json"

/-- A text with a leading tilde and slash seen from the home directory. -/
def expandText (home s : String) : String :=
  match s.toList with
  | '~' :: '/' :: rest =>
    ((Path.ofString home).join (Path.ofString (String.ofList rest))).toString
  | _ => s

mutual

/-- Expands the texts of a value that are reached through objects. -/
def expand (home : String) : Json → Json
  | .str s => .str (expandText home s)
  | .obj members => .obj (expandMembers home members)
  | v => v

def expandMembers (home : String) : List (String × Json) → List (String × Json)
  | [] => []
  | (key, v) :: rest => (key, expand home v) :: expandMembers home rest

end

/-- The defaults overlaid with a section of the file. -/
def merged (defaults : Members) : Option Json → Except Fault Members
  | none => .ok defaults
  | some (.obj members) => .ok (defaults.overlay members)
  | some v => .error (.notMapping v.typeName)

/-- Refuses the first key that a group does not know. -/
def checkKeys (group : String) (known : List String) (members : Members) : Except Fault Unit :=
  match members.keys.find? (!known.contains ·) with
  | none => .ok ()
  | some key => .error (.unknownSetting group key)

/-- The value of a key, null where it is missing. -/
def valueOf (members : Members) (key : String) : Json :=
  .ofOption (members.get? key)

def loggingOf (members : Members) : LoggingSection :=
  ⟨valueOf members "level", valueOf members "format", valueOf members "logs_dir"⟩

def linterOf (members : Members) : LinterSection :=
  ⟨valueOf members "module_name", valueOf members "entry_point", valueOf members "source_name",
    valueOf members "manifest_name"⟩

def ofContent (home file : String) (content : Json) : Except Fault Config :=
  match content with
  | .obj sections => do
    let logging ← merged loggingDefaults (Members.get? sections "logging")
    let linter ← merged linterDefaults (Members.get? sections "linter")
    let logging := expandMembers home logging
    let linter := expandMembers home linter
    checkKeys "LoggingConfig" loggingDefaults.keys logging
    checkKeys "LinterConfig" linterDefaults.keys linter
    return ⟨loggingOf logging, linterOf linter, file⟩
  | v => .error (.noMember v.typeName "get")

/-- What a configuration file holds; nothing if it does not exist. -/
def content (fs : FileSystem) (file : String) : Except Fault Json :=
  if fs.reaches file then do
    let text ← fs.readText file
    match Json.read (String.ofList text) with
    | .ok v => .ok v
    | .error e => .error (.json e)
  else .ok (.obj [])

/-- Reads the configuration for a file. Whatever goes wrong is put down to the file. -/
def read (fs : FileSystem) (home file : String) : Except Fault Config :=
  match content fs file >>= ofContent home file with
  | .ok c => .ok c
  | .error e => .error (.config file e)

/-- The file to read: the one that is given, else the one that the environment names, else the
default one. -/
def fileFor (home : String) (given environment : Option String) : String :=
  let chosen := match given with
    | some path => if path.isEmpty then none else some path
    | none => none
  let chosen := match chosen with
    | some path => some path
    | none => match environment with
      | some path => if path.isEmpty then none else some path
      | none => none
  chosen.getD (Path.expandUser home defaultFile)

end Config

end LintBridge

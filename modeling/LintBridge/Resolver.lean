import LintBridge.Workspace

/-!
Finding the linting module of a workspace. A resolution is an attempt that is remembered for the
workspace until it is forgotten: whoever asks meanwhile shares it. An attempt goes through three
steps: it looks for the module's file, it executes the file unless a module of the same real file
is held already, and it settles. Attempts that were forgotten on the way still settle for those
who wait for them.
-/
namespace LintBridge

/-- An error that an attempt ended with. Whoever shares the attempt gets the same failure. -/
structure Failure where
  fault : Fault
  errorType : Option ErrorType
  retry : Bool
  /-- Has the user been told? -/
  surfaced : Bool
  deriving Repr, Inhabited

def Failure.of (e : Fault) : Failure :=
  ⟨e, e.errorType?, e.retry? == some true, false⟩

/-- What an attempt ends with: the number of a module, nothing, or the number of a failure. -/
inductive Outcome where
  | present (module : Nat)
  | absent
  | failed (failure : Nat)
  deriving DecidableEq, Repr

/-- How far an attempt has come. -/
inductive Phase where
  | begun
  /-- The file to execute, and the real file that it was when it was found. -/
  | found (f : LintModule.Found) (realFile : String)
  | executed (realFile : String) (result : Except Fault Nat)
  | settled (o : Outcome)
  deriving Repr

/-- An attempt to resolve the module of a workspace. -/
structure Attempt where
  root : String
  phase : Phase
  deriving Repr

/-- A resolver that never finds anything: every resolution fails at once, with one failure for all
or a new one for each. -/
structure Refusal where
  failure : Failure
  shared : Bool
  deriving Repr

structure Resolver where
  moduleName : String
  entryPoint : String
  modulePath : Option String
  /-- Are the machine's own directories searched when the workspace has no module? -/
  globalFallback : Bool
  /-- The attempt that is remembered for a workspace. -/
  memo : List (String × Nat)
  /-- The module that is held for a real file. -/
  handles : List (String × Nat)
  attempts : List Attempt
  failures : List Failure
  refusal : Option Refusal
  deriving Repr

/-- What the remembered attempt of a workspace has come to. -/
inductive ResolutionState where
  | unresolved
  | resolving
  | resolvedPresent
  | resolvedAbsent
  | failedFatal
  deriving DecidableEq, Repr

def ResolutionState.value : ResolutionState → String
  | unresolved => "unresolved"
  | resolving => "resolving"
  | resolvedPresent => "resolved_present"
  | resolvedAbsent => "resolved_absent"
  | failedFatal => "failed_fatal"

namespace Resolver

/-- A resolver for a module that has resolved nothing yet. -/
def fresh (moduleName entryPoint : String) (modulePath : Option String)
    (globalFallback : Bool) : Resolver :=
  ⟨moduleName, entryPoint, modulePath, globalFallback, [], [], [], [], none⟩

/-- A name that is given and not empty, else the configured one. -/
def nameOr (given : Option String) (configured : LinterSection → Json) (h : Host) :
    Except Fault String × Host :=
  match Workspace.nonempty given with
  | some name => (.ok name, h)
  | none =>
    let (linter, h) := h.linterConfig
    (linter >>= fun l => Fault.needText (configured l).display, h)

/-- A resolver for the names that are given, or those of the configuration. -/
def make (h : Host) (moduleName entryPoint modulePath : Option String) (globalFallback : Bool) :
    Except Fault Resolver × Host :=
  match nameOr moduleName LinterSection.moduleName h with
  | (.error e, h) => (.error e, h)
  | (.ok name, h) =>
    let (entry, h) := nameOr entryPoint LinterSection.entryPoint h
    (entry.map fun entry => fresh name entry modulePath globalFallback, h)

/-- The name under which a workspace is remembered. -/
def key (h : Host) (root : String) : String :=
  Path.absolute h.here root

def phase? (r : Resolver) (id : Nat) : Option Phase :=
  (r.attempts[id]?).map Attempt.phase

/-- The outcome of an attempt that has settled. -/
def outcome? (r : Resolver) (id : Nat) : Option Outcome :=
  match r.phase? id with
  | some (.settled o) => some o
  | _ => none

def advance (r : Resolver) (id : Nat) (p : Phase) : Resolver :=
  { r with attempts := r.attempts.modify id fun a => { a with phase := p } }

def fail (r : Resolver) (f : Failure) : Resolver × Nat :=
  ({ r with failures := r.failures ++ [f] }, r.failures.length)

def failure? (r : Resolver) (id : Nat) : Option Failure :=
  r.failures[id]?

def markSurfaced (r : Resolver) (id : Nat) : Resolver :=
  { r with failures := r.failures.modify id fun f => { f with surfaced := true } }

/-! ### Asking and forgetting -/

/-- Remembers a new attempt for a workspace. -/
def begin (r : Resolver) (key : String) : Resolver × Nat :=
  let id := r.attempts.length
  ({ r with
    attempts := r.attempts ++ [⟨key, .begun⟩]
    memo := (key, id) :: r.memo.filter fun p => p.1 != key }, id)

/-- The attempt for a workspace: the one that is remembered, else a new one; true if it is new. -/
def attemptFor (r : Resolver) (h : Host) (root : String) : (Nat × Bool) × Resolver × Host :=
  let key := key h root
  match r.memo.lookup key with
  | some id => ((id, false), r, h)
  | none =>
    let (r, id) := r.begin key
    ((id, true), r, h.note .debug s!"Resolving {r.moduleName} for workspace {key}")

def state (r : Resolver) (h : Host) (root : String) : ResolutionState :=
  match r.memo.lookup (key h root) with
  | none => .unresolved
  | some id =>
    match r.outcome? id with
    | none => .resolving
    | some (.present _) => .resolvedPresent
    | some .absent => .resolvedAbsent
    | some (.failed _) => .failedFatal

/-- Forgets the attempt of one workspace, or those of all. -/
def invalidate (r : Resolver) (h : Host) (root : Option String) : Resolver :=
  match root with
  | none => { r with memo := [] }
  | some root => { r with memo := r.memo.filter fun p => p.1 != key h root }

/-- Forgets all attempts and all modules. -/
def reset (r : Resolver) (h : Host) : Resolver × Host :=
  let h := h.note .debug s!"Resetting {r.moduleName} resolution state"
  ({ r with memo := [], handles := [] },
    { h with imports := h.imports.forget r.moduleName })

/-- Changes the directory that is searched first, from the next attempt on. -/
def setModulePath (r : Resolver) (path : Option String) : Resolver :=
  { r with modulePath := path }

/-! ### The steps of an attempt -/

def findInWorkspace (r : Resolver) (fs : FileSystem) (root : String) :
    Except Fault LintModule.Finding := do
  let paths ← LintModule.searchPaths fs r.modulePath root
  LintModule.find fs r.moduleName paths

def fileOf : LintModule.Finding → Option LintModule.Found
  | .file f => some f
  | _ => none

/-- Looks for the module of a workspace, there and then on the machine. -/
def find (r : Resolver) (h : Host) (root : String) :
    Except Fault (Option LintModule.Found) × Host :=
  match r.findInWorkspace h.files root with
  | .ok .nothing =>
    if r.globalFallback then
      ((LintModule.find h.files r.moduleName h.globalDirectories).map fileOf,
        h.note .debug s!"{r.moduleName} not found in workspace, trying sys.path")
    else (.ok none, h)
  | finding => (finding.map fileOf, h)

def settleFailed (r : Resolver) (id : Nat) (e : Fault) : Resolver :=
  let (r, f) := r.fail (Failure.of e)
  r.advance id (.settled (.failed f))

/-- Settles an attempt that found no module: a workspace that declares one has to have it. -/
def settleMissing (r : Resolver) (h : Host) (id : Nat) (root : String) : Resolver × Host :=
  match Workspace.declares h root r.moduleName with
  | (.error e, h) => (r.settleFailed id e, h)
  | (.ok true, h) => (r.settleFailed id (.moduleMissing r.moduleName), h)
  | (.ok false, h) =>
    (r.advance id (.settled .absent),
      h.note .debug
        s!"{r.moduleName} is not installed nor declared in {root}, linting disabled")

/-- The first step: looks for the file, and settles if there is none or its module is held. -/
def search (r : Resolver) (h : Host) (id : Nat) (root : String) : Resolver × Host :=
  match r.find h root with
  | (.error e, h) => (r.settleFailed id e, h)
  | (.ok none, h) => r.settleMissing h id root
  | (.ok (some f), h) =>
    let origin := h.files.realPath f.file
    match r.handles.lookup origin with
    | some m =>
      (r.advance id (.settled (.present m)),
        h.note .debug s!"Reusing {r.moduleName} loaded from {origin}")
    | none => (r.advance id (.found f origin), h)

/-- The second step: executes the file. -/
def execute (r : Resolver) (h : Host) (id : Nat) (f : LintModule.Found) (origin : String) :
    Resolver × Host :=
  let (result, imports) := LintModule.load h.files h.imports r.moduleName f
  (r.advance id (.executed origin result), { h with imports := imports })

/-- Holds a module for a real file, unless another one is held for it, which is then taken. -/
def hold (r : Resolver) (origin : String) (m : Nat) : Nat × Resolver :=
  match r.handles.lookup origin with
  | some other => (other, r)
  | none => (m, { r with handles := (origin, m) :: r.handles })

/-- The third step: a module without the entry point is an error, and one that failed counts as
missing, unless the text of its error cannot be made; any other is held, unless one of the same real
file is held by now. -/
def settle (r : Resolver) (h : Host) (id : Nat) (root origin : String)
    (result : Except Fault Nat) : Resolver × Host :=
  match result with
  | .error e =>
    match e.shown with
    | .error flaw => (r.settleFailed id (.unshown flaw), h)
    | .ok text =>
      r.settleMissing
        (h.note .warning s!"Failed to import {r.moduleName} from {origin}: {text}") id root
  | .ok m =>
    if LintModule.exports h.imports m r.entryPoint then
      let (held, r) := r.hold origin m
      (r.advance id (.settled (.present held)),
        h.note .info s!"Loaded {r.moduleName} from {origin}")
    else (r.settleFailed id (.moduleMalformed r.entryPoint), h)

def step (r : Resolver) (h : Host) (id : Nat) : Resolver × Host :=
  match r.attempts[id]? with
  | none => (r, h)
  | some a =>
    match a.phase with
    | .begun => r.search h id a.root
    | .found f origin => r.execute h id f origin
    | .executed origin result => r.settle h id a.root origin result
    | .settled _ => (r, h)

end Resolver

end LintBridge

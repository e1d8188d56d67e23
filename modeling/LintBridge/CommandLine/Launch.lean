import LintBridge.CommandLine.Arguments
import LintBridge.Console
import LintBridge.Host

/-!
Starting the server from the command line: what is written, what is logged, which transport is
started, and how the program ends. The start itself is outside and comes in as its outcome.
-/
namespace LintBridge.CommandLine

def programName : String := "marlint-server"

def version : String := "0.3.0"

def usage : String :=
  s!"usage: {programName} [-h] [--stdio | --tcp] [--host HOST] [--port PORT]\n" ++
  "                      [--log-level \x7bDEBUG,INFO,WARNING,ERROR\x7d] [--version]\n"

def helpText : String :=
  usage ++
  "\nLanguage server publishing marlint diagnostics\n" ++
  "\noptions:\n" ++
  "  -h, --help            show this help message and exit\n" ++
  "  --stdio               Communicate over stdin/stdout (default)\n" ++
  "  --tcp                 Listen on a TCP socket instead of stdio\n" ++
  "  --host HOST           Host to bind in TCP mode\n" ++
  "  --port PORT           Port to bind in TCP mode\n" ++
  "  --log-level \x7bDEBUG,INFO,WARNING,ERROR\x7d\n" ++
  "                        Set the logging level\n" ++
  "  --version             show program's version number and exit\n"

/-- What a program that stops at once writes, and its exit code. -/
structure Ending where
  code : Nat
  output : String
  errors : String
  deriving DecidableEq, Repr

/-- The arguments, or how the program ends because of them. -/
def parse (h : Host) (words : List String) : Except Fault (Except Ending Arguments) × Host :=
  match h.currentConfig with
  | (.error e, h) => (.error e, h)
  | (.ok (_, c), h) =>
    (.ok (match read c.logging.level words with
      | .arguments a => .ok a
      | .help => .error ⟨0, helpText, ""⟩
      | .version => .error ⟨0, s!"{programName} {version}\n", ""⟩
      | .mistake m => .error ⟨2, "", usage ++ s!"{programName}: error: {m.message}\n"⟩), h)

inductive Service where
  | finished
  | interrupted
  /-- Serving asked for the program's end, with a code or without. -/
  | stopped (code : Json)
  /-- Serving ended with an error that is no failure of the program. -/
  | abandoned (r : Raised)
  | crashed (r : Raised)
  deriving Repr

def Service.ofRaised (r : Raised) : Service :=
  match r.kind with
  | "KeyboardInterrupt" => interrupted
  | "SystemExit" => stopped (.ofOption r.arguments.head?)
  | "GeneratorExit" | "BaseException" => abandoned r
  | _ => crashed r

/-- What is done from outside: setting up logging and starting a transport. -/
inductive Call where
  | setupLogging (level : Json)
  | startIo
  | startTcp (host : String) (tcpPort : Int)
  deriving Repr

/-- A run of the program: what was called, written and logged, and how it ended. A run that
answers with a code came through its main function to the end. -/
structure Run where
  calls : List Call
  output : String
  errors : String
  log : List LogLine
  code : Json
  answered : Bool
  deriving Repr

def crash (r : Run) (message : String) : Except Fault Run := do
  let told ← Console.written .error s!"marlint-server stopped: {message}"
  return { r with
    errors := r.errors ++ told
    log := r.log ++ [⟨.error, s!"Server crashed: {message}"⟩]
    code := .int 1 }

def finish (r : Run) : Service → Except Fault Run
  | .finished => .ok r
  | .interrupted => do
    let told ← Console.written .info "Server stopped by user"
    return { r with errors := r.errors ++ told }
  | .stopped code => .ok { r with code := code, answered := false }
  | .abandoned raised => .error (.raised raised)
  | .crashed raised => do
    let message ← Fault.needText raised.message
    crash r message

def serve (a : Arguments) (service : Service) : Except Fault Run :=
  let r : Run := ⟨[.setupLogging a.logLevel], "", "", [], .int 0, true⟩
  if a.tcp then
    match Console.written .process
        s!"Starting marlint-server {version} on {a.host}:{a.tcpPort}" with
    | .error e => crash r e.message
    | .ok told =>
      finish { r with errors := told, calls := r.calls ++ [.startTcp a.host a.tcpPort] } service
  else
    finish { r with
      log := [⟨.info, s!"Starting marlint-server {version} over stdio"⟩]
      calls := r.calls ++ [.startIo] } service

def run (h : Host) (words : List String) (service : Service) : Except Fault Run :=
  match (parse h words).1 with
  | .error e => .error e
  | .ok (.error ending) => .ok ⟨[], ending.output, ending.errors, [], .int ending.code, false⟩
  | .ok (.ok a) => serve a service

end LintBridge.CommandLine

import LintBridge.Console.Lines
import LintBridge.Console.Markup

/-!
Messages on the terminal. A message of a kind begins with the kind's mark and is shown in its
style; what is written has no tags any more and is broken into lines.
-/
namespace LintBridge.Console

inductive Kind where
  | plain
  | error
  | info
  | process
  deriving DecidableEq, Repr

namespace Kind

def mark : Kind → String
  | plain => ""
  | error => "❌ "
  | info => "ℹ️  "
  | process => "🔄 "

def style? : Kind → Option (String × String)
  | plain => none
  | error => some ("error", "bold red")
  | info => some ("info", "bold blue")
  | process => some ("process", "bold cyan")

def styled : List Kind := [error, info, process]

def ofName (name : String) : Kind :=
  (styled.find? fun k => (k.style?.map Prod.fst) == some name).getD plain

end Kind

/-- Characters that a terminal would act upon. -/
def isControl (c : Char) : Bool :=
  c == '\x07' || c == '\x08' || c == '\x0b' || c == '\x0c' || c == '\r'

/-- The text that is written for a message with tags. -/
def layout (message : String) : Except Fault String := do
  let text := (← shown message).filter (!isControl ·)
  return String.join ((linesOf text).map fun line => String.ofList line ++ "\n")

def written (kind : Kind) (message : String) : Except Fault String :=
  layout (kind.mark ++ message)

end LintBridge.Console

import LintBridge.Json.Basic

/-!
The error messages of a batch, each told once. Messages keep the order in which they first came;
with each goes the answer to whether trying again can help, and an answer that counts as true stays.
-/
namespace LintBridge

/-- Messages in the order in which they first came, each with its retry answer. -/
structure ErrorBatch where
  messages : List (String × Json)
  deriving Repr, Inhabited

namespace ErrorBatch

def empty : ErrorBatch := ⟨[]⟩

def insert (message : String) (retry : Json) : List (String × Json) → List (String × Json)
  | [] => [(message, retry)]
  | (m, r) :: rest =>
    if m = message then (m, r.orElse retry) :: rest else (m, r) :: insert message retry rest

def add (b : ErrorBatch) (message : String) (retry : Json) : ErrorBatch :=
  ⟨insert message retry b.messages⟩

def size (b : ErrorBatch) : Nat :=
  b.messages.length

/-- What the user is told, in order. -/
def announcements (b : ErrorBatch) : List (String × Json) :=
  b.messages

end ErrorBatch

end LintBridge

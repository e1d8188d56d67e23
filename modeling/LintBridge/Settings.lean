import LintBridge.Fault
import LintBridge.Path

/-!
What an editor may set for a session: where to look for the linting module first, whether warnings
are shown, and options that are handed to the module untouched.
-/
namespace LintBridge

structure Settings where
  modulePath : Option String
  showWarnings : Bool
  options : Members
  deriving Repr, Inhabited

namespace Settings

/-- The settings of an editor that sends none. -/
def standard : Settings := ⟨none, true, []⟩

/-- The module path in a payload. Only a text will do, but anything that counts as false is none. -/
def modulePathOf (home : String) (value : Json) : Except Fault (Option String) :=
  if !value.truthy then .ok none
  else match value with
    | .str path => .ok (some (Path.expandUser home path))
    | v => .error (.notPathText v.typeName)

/-- The settings that an editor's payload describes. -/
def ofPayload (home : String) (payload : Json) : Except Fault Settings :=
  if !payload.truthy then .ok standard
  else match payload with
    | .obj members => do
      let modulePath ← modulePathOf home (.ofOption (Members.get? members "modulePath"))
      let showWarnings := (Members.get? members "showWarnings").getD (.bool true)
      let options := match Members.get? members "options" with
        | some (.obj options) => options
        | _ => []
      return ⟨modulePath, showWarnings.truthy, options⟩
    | v => .error (.noMember v.typeName "get")

end Settings

end LintBridge

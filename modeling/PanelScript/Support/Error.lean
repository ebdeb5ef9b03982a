import PanelScript.Script.Unit

/-!
# Refused calls of the script support

* `SupportError` lists what a caller can do wrong, `SupportError.message` gives the words.
-/

namespace PanelScript

/-- What a caller of the script support did wrong. -/
inductive SupportError where
  /-- There are not as many values as the unit has inputs. -/
  | inputCountMismatch (unit : String) (expected actual : Nat)
  /-- No interpreter of the unit's kind was registered. -/
  | backendUnavailable (backend : Backend)
  /-- The support was started where nothing can run. -/
  | noRuntime
  deriving DecidableEq

/-- The words for a refused call. -/
def SupportError.message : SupportError → String
  | .inputCountMismatch unit expected actual =>
    s!"{unit} declares {expected} inputs but {actual} values were supplied"
  | .backendUnavailable backend => s!"No {backend.name} backend is registered"
  | .noRuntime => "Script support must be started inside a Tokio runtime"

end PanelScript

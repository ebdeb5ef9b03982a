/-!
# Errors of a panel

What a panel refuses: a text that does not validate, or a write to a property that is not there or
may not be written.

* `PanelError` lists the causes, `PanelError.message` gives their words.
-/

namespace PanelScript

/-- What a panel refuses. -/
inductive PanelError where
  | validation (message : String)
  | unknownProperty (widget property : String)
  | readOnlyProperty (widget property : String)
  | internal (message : String)
  deriving DecidableEq

/-- The words for a refusal. -/
def PanelError.message : PanelError → String
  | .validation m => s!"Validation failed: {m}"
  | .unknownProperty widget property => s!"Unknown property '{property}' on widget '{widget}'"
  | .readOnlyProperty widget property =>
    s!"Property '{property}' on widget '{widget}' is read-only"
  | .internal m => s!"Internal error: {m}"

end PanelScript

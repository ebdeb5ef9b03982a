import PanelScript.Preferences.Basic

/-!
# Loading preferences

Preferences are loaded in the background. A later load takes the place of an earlier one at once.
Whoever asks for the preferences waits a bounded time for the load in progress, and gets the
defaults if it takes longer.

* `LoadSource` is how a source ends, `LoadSource.preferences?` what comes of it;
* `PreferenceService` is the service, with its loads and those who ask;
* `PreferenceService.load`, `finish`, `ask`, `answer` and `expire` are its steps.
-/

namespace PanelScript

/-- How the source of a load ends. -/
inductive LoadSource where
  | content (bytes : List UInt8)
  | unreadable
  | panicked
  deriving DecidableEq

/-- The source of a text. -/
def LoadSource.ofText (text : String) : LoadSource := .content text.toUTF8.toList

/-- The preferences that come of a source; none if it panicked. What is malformed counts as the
defaults as a whole. -/
def LoadSource.preferences? : LoadSource → Option Preferences
  | .content bytes =>
    match Preferences.parse bytes with
    | .ok p => some p
    | .error _ => some .default
  | .unreadable => some .default
  | .panicked => none

/-- Where a load stands. -/
inductive LoadState where
  | running
  | loaded (p : Preferences)
  /-- The load went away without a result. -/
  | vanished
  deriving DecidableEq

/-- The result of a load, if it has ended. -/
def LoadState.result? : LoadState → Option Preferences
  | .running => none
  | .loaded p => some p
  | .vanished => some .default

/-- Someone who asks for the preferences: the load waited for, none if there was no load, and the
answer if there is one. -/
structure Inquiry where
  load : Option Nat
  answer : Option Preferences
  deriving DecidableEq

/-- The service: its loads in the order in which they were started, and those who ask. -/
structure PreferenceService where
  loads : List LoadState := []
  inquiries : List Inquiry := []
  deriving DecidableEq

namespace PreferenceService

/-- The number of the load that counts: the last. -/
def current (s : PreferenceService) : Option Nat :=
  if s.loads.isEmpty then none else some (s.loads.length - 1)

/-- Start a load. -/
def load (s : PreferenceService) : PreferenceService := { s with loads := s.loads ++ [.running] }

/-- The source of a running load ends. -/
def finish (s : PreferenceService) (load : Nat) (source : LoadSource) : PreferenceService :=
  if s.loads[load]? = some .running then
    { s with loads := s.loads.set load (match source.preferences? with
      | some p => .loaded p
      | none => .vanished) }
  else s

/-- The result that an inquiry waits for, if it is there; without a load, the defaults. -/
def result? (s : PreferenceService) (load : Option Nat) : Option Preferences :=
  match load with
  | none => some .default
  | some k => (s.loads[k]?).bind LoadState.result?

/-- Someone asks: about the load that counts now. -/
def ask (s : PreferenceService) : PreferenceService :=
  { s with inquiries := s.inquiries ++ [⟨s.current, none⟩] }

/-- Settle an inquiry that has no answer. -/
def settle (s : PreferenceService) (inquiry : Nat) (p : Inquiry → Option Preferences) :
    PreferenceService :=
  match s.inquiries[inquiry]? with
  | some q =>
    if q.answer.isSome then s
    else { s with inquiries := s.inquiries.set inquiry { q with answer := p q } }
  | none => s

/-- An inquiry is answered with the result of its load, if the load has ended. -/
def answer (s : PreferenceService) (inquiry : Nat) : PreferenceService :=
  s.settle inquiry fun q => s.result? q.load

/-- An inquiry has waited long enough and gets the defaults. -/
def expire (s : PreferenceService) (inquiry : Nat) : PreferenceService :=
  s.settle inquiry fun q => some ((s.result? q.load).getD .default)

/-- What someone gets who asks now, if no load ends meanwhile. -/
def get (s : PreferenceService) : Preferences := (s.result? s.current).getD .default

@[simp] theorem result?_none (s : PreferenceService) : s.result? none = some .default := rfl

@[simp] theorem current_load (s : PreferenceService) : s.load.current = some s.loads.length := by
  simp [current, load]

end PreferenceService

end PanelScript

import PanelScript.Outcome

/-!
# Handles

A handle receives the one result of a scheduled execution. The result can be taken once. If the
execution goes away without a result, the handle reports it as cancelled.

* `Delivery` says where the result is;
* `Handle.deliver` and `Handle.abandon` are what the execution does;
* `Handle.tryResult`, `Handle.await` are what the holder does, and `Reading` what a wait can bring.
-/

namespace PanelScript

/-- Where the result of an execution is. -/
inductive Delivery where
  /-- It is still to come. -/
  | pending
  | ready (r : ScriptResult)
  /-- The execution went away without one. -/
  | lost
  /-- The handle is used up: a result was taken, or its loss was noticed. -/
  | spent
  deriving DecidableEq

/-- A handle, for an execution of the named unit. -/
structure Handle where
  unit : UnitId
  source : String
  delivery : Delivery
  deriving DecidableEq

/-- What a wait brings. -/
inductive Reading where
  /-- Nothing yet. -/
  | waiting
  | result (r : ScriptResult)
  /-- A handle that is used up cannot be waited for. -/
  | panic
  deriving DecidableEq

/-- The words with which a wait for a handle that is used up ends. -/
def Reading.panicMessage : String := "called after complete"

namespace Handle

/-- A handle whose result is still to come. -/
def new (unit : UnitId) (source : String) : Handle := ⟨unit, source, .pending⟩

/-- The result that is reported for an execution that went away. -/
def abandoned (h : Handle) : ScriptResult := .failed h.unit h.source .cancelled 0

/-- The execution sends its result. -/
def deliver (h : Handle) (r : ScriptResult) : Handle :=
  match h.delivery with
  | .pending => { h with delivery := .ready r }
  | _ => h

/-- The execution goes away. -/
def abandon (h : Handle) : Handle :=
  match h.delivery with
  | .pending => { h with delivery := .lost }
  | _ => h

/-- Take the result if it is there. -/
def tryResult (h : Handle) : Option ScriptResult × Handle :=
  match h.delivery with
  | .pending => (none, h)
  | .ready r => (some r, { h with delivery := .spent })
  | .lost | .spent => (some h.abandoned, { h with delivery := .spent })

/-- Look once while waiting. -/
def await (h : Handle) : Reading × Handle :=
  match h.delivery with
  | .pending => (.waiting, h)
  | .ready r => (.result r, { h with delivery := .spent })
  | .lost => (.result h.abandoned, { h with delivery := .spent })
  | .spent => (.panic, h)

@[simp] theorem await_deliver_new (unit : UnitId) (source : String) (r : ScriptResult) :
    (((new unit source).deliver r).await).1 = .result r := rfl

@[simp] theorem await_abandon_new (unit : UnitId) (source : String) :
    (((new unit source).abandon).await).1 = .result (.failed unit source .cancelled 0) := rfl

end Handle

end PanelScript

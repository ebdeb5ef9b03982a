/-!
# Machines

Several parties act on one state, in any order. A machine says what an action does in a state; an
action that cannot be taken there does nothing and is refused. A run is the list of actions that
were taken.

* `Machine.run` takes a list of actions;
* `Machine.Reaches` says that some list of actions leads from one state to another;
* `Machine.Reaches.invariant`: what holds at the start and is kept by every action holds always, and
  `invariant_between` looks only at the actions on the way;
* `Machine.Scheduler` chooses what happens next; `Scheduler.exhaust` lets it choose until nothing is
  left that it wishes for, which `Scheduler.step_exhaust` says.
-/

namespace PanelScript.Machine

variable {σ α : Type}

/-- Take actions in order; none if one of them cannot be taken. -/
def run (step : α → σ → Option σ) (actions : List α) (s : σ) : Option σ :=
  actions.foldlM (fun s a => step a s) s

/-- Some actions lead from one state to another. -/
def Reaches (step : α → σ → Option σ) (s t : σ) : Prop := ∃ actions, run step actions s = some t

@[simp] theorem run_nil (step : α → σ → Option σ) (s : σ) : run step [] s = some s := rfl

@[simp] theorem run_cons (step : α → σ → Option σ) (a : α) (actions : List α) (s : σ) :
    run step (a :: actions) s = (step a s).bind (run step actions) := rfl

theorem run_append (step : α → σ → Option σ) (first second : List α) (s : σ) :
    run step (first ++ second) s = (run step first s).bind (run step second) := by
  simp only [run, List.foldlM_append, Option.bind_eq_bind]
  rfl

/-- A run with one more action at its end. -/
theorem run_concat_eq_some_iff {step : α → σ → Option σ} {actions : List α} {a : α} {s t : σ} :
    run step (actions ++ [a]) s = some t ↔
      ∃ u, run step actions s = some u ∧ step a u = some t := by
  simp [run_append, Option.bind_eq_some_iff]

theorem run_invariant {step : α → σ → Option σ} {P : σ → Prop}
    (keep : ∀ a s t, step a s = some t → P s → P t) {actions : List α} {s t : σ}
    (h : run step actions s = some t) (hs : P s) : P t := by
  induction actions generalizing s with
  | nil => simpa using Option.some.inj h ▸ hs
  | cons a actions ih =>
    rw [run_cons, Option.bind_eq_some_iff] at h
    obtain ⟨u, ha, hu⟩ := h
    exact ih hu (keep a s u ha hs)

namespace Reaches

theorem refl (step : α → σ → Option σ) (s : σ) : Reaches step s s := ⟨[], rfl⟩

theorem trans {step : α → σ → Option σ} {s t u : σ} (h : Reaches step s t)
    (h' : Reaches step t u) : Reaches step s u := by
  obtain ⟨first, hf⟩ := h
  obtain ⟨second, hs⟩ := h'
  exact ⟨first ++ second, by simp [run_append, hf, hs]⟩

theorem single {step : α → σ → Option σ} {a : α} {s t : σ} (h : step a s = some t) :
    Reaches step s t := ⟨[a], by simp [h]⟩

theorem invariant {step : α → σ → Option σ} {P : σ → Prop} {s t : σ} (h : Reaches step s t)
    (keep : ∀ a s t, step a s = some t → P s → P t) (hs : P s) : P t := by
  obtain ⟨actions, hr⟩ := h
  exact run_invariant keep hr hs

/-- What holds at the start and is kept by every action on the way holds at the end. -/
theorem invariant_between {step : α → σ → Option σ} {P : σ → Prop} {s t : σ} (h : Reaches step s t)
    (keep : ∀ a u v, Reaches step s u → step a u = some v → Reaches step v t → P u → P v)
    (hs : P s) : P t := by
  obtain ⟨actions, hr⟩ := h
  induction actions generalizing s with
  | nil => simpa using Option.some.inj hr ▸ hs
  | cons a actions ih =>
    rw [run_cons, Option.bind_eq_some_iff] at hr
    obtain ⟨u, ha, hu⟩ := hr
    refine ih (fun b v w hv => keep b v w ((single ha).trans hv)) ?_ hu
    exact keep a s u (refl step s) ha ⟨actions, hu⟩ hs

end Reaches

/-- A scheduler: what it wishes for in a state, most wanted first, and a measure of what is left to
be done, which every step that it wishes for lowers. -/
structure Scheduler (step : α → σ → Option σ) (β : Type) [WellFoundedRelation β] where
  wishes : σ → List α
  left : σ → β
  lowers : ∀ {a : α} {s t : σ}, a ∈ wishes s → step a s = some t →
    WellFoundedRelation.rel (left t) (left s)

namespace Scheduler

variable {step : α → σ → Option σ} {β : Type} [WellFoundedRelation β] (m : Scheduler step β)
  {P : σ → Prop} {s t : σ}

/-- The state after the first wish that can be granted; none if no wish can be. -/
def next? (s : σ) : Option σ := (m.wishes s).findSome? (step · s)

theorem exists_wish (h : m.next? s = some t) : ∃ a ∈ m.wishes s, step a s = some t :=
  List.exists_of_findSome?_eq_some h

/-- Grant wishes one after the other, until none can be granted. -/
def exhaust (s : σ) : σ :=
  match _h : m.next? s with
  | some t => exhaust t
  | none => s
termination_by m.left s
decreasing_by
  obtain ⟨a, ha, stepped⟩ := m.exists_wish _h
  exact m.lowers ha stepped

theorem exhaust_of_next (h : m.next? s = some t) : m.exhaust s = m.exhaust t := by
  rw [exhaust]
  split
  · rename_i u h'
    rw [Option.some.inj (h.symm.trans h')]
  · rename_i h'
    exact nomatch h.symm.trans h'

/-- What holds at the start and is kept by all that is wished for holds at the end. -/
theorem exhaust_invariant (keep : ∀ a s t, a ∈ m.wishes s → step a s = some t → P s → P t)
    (hs : P s) : P (m.exhaust s) := by
  fun_induction exhaust m s with
  | case1 s t h ih =>
    obtain ⟨a, ha, stepped⟩ := m.exists_wish h
    exact ih (keep a s t ha stepped hs)
  | case2 => exact hs

/-- Only actions of the machine are taken. -/
theorem reaches_exhaust (s : σ) : Reaches step s (m.exhaust s) :=
  m.exhaust_invariant (P := Reaches step s)
    (fun _ _ _ _ stepped reached => reached.trans (.single stepped)) (.refl step s)

/-- At the end no wish can be granted. -/
theorem step_exhaust {a : α} (ha : a ∈ m.wishes (m.exhaust s)) : step a (m.exhaust s) = none := by
  fun_induction exhaust m s with
  | case1 s t h ih => exact ih ha
  | case2 s h => exact List.findSome?_eq_none_iff.1 h a ha

end Scheduler

end PanelScript.Machine

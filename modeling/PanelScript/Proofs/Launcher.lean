import PanelScript.Gateway.Launcher

/-!
# The processes of a launcher

A launcher starts a process only when the one that it holds has ended. So as long as it holds on to
a process until that has ended, none of all that it has started is alive but the one that it holds.

* `Launcher.Sole` says so, and `Sole.started`, `sole_exit` and `sole_shutdown` keep it;
* `Sole.alive_eq_zero`: if the held process has ended then, no process is alive;
* `Launcher.Change` is what can become of a launcher that others use as well, one thing at a time.
-/

namespace PanelScript.Launcher

variable {p p' : Launcher}

/-- No process is alive but the one that is held. -/
def Sole (p : Launcher) : Prop := ∀ k, p.isAlive k = true → p.held = some k

/-- What can become of a launcher: its process is seen to, a process ends, or the process that it
holds is taken out of it. -/
inductive Change (p : Launcher) : Launcher → Prop
  | ensure (spawn : Except String Unit) : Change p (p.ensure spawn).2
  | exit (k : Nat) : Change p (p.exit k)
  | release : Change p p.release

/-! ### Which processes are alive -/

theorem isAlive_iff {k : Nat} : p.isAlive k = true ↔ p.processes[k]? = some true := by
  unfold isAlive
  cases p.processes[k]? <;> simp

theorem isAlive_exit {j k : Nat} (h : (p.exit j).isAlive k = true) :
    k ≠ j ∧ p.isAlive k = true := by
  rw [isAlive_iff, exit] at h
  by_cases e : k = j
  · subst e
    rw [List.getElem?_set_self'] at h
    obtain ⟨_, -, e⟩ := Option.map_eq_some_iff.1 h
    cases e
  · rw [List.getElem?_set_ne (Ne.symm e)] at h
    exact ⟨e, isAlive_iff.2 h⟩

theorem isAlive_started {k : Nat} (h : p.started.isAlive k = true) :
    k = p.processes.length ∨ p.isAlive k = true := by
  rw [isAlive_iff, started] at h
  rcases Nat.lt_or_ge k p.processes.length with lt | ge
  · rw [List.getElem?_append_left lt] at h
    exact .inr (isAlive_iff.2 h)
  · have lt := (List.getElem?_eq_some_iff.1 h).1
    rw [List.length_append, List.length_singleton] at lt
    exact .inl (by omega)

theorem isAlive_shutdown {k : Nat} (h : p.shutdown.isAlive k = true) :
    p.held ≠ some k ∧ p.isAlive k = true := by
  unfold shutdown at h
  split at h
  · rename_i j held
    obtain ⟨ne, alive⟩ := isAlive_exit (p := p) (j := j) (k := k) h
    rw [held]
    exact ⟨fun e => ne (Option.some.inj e).symm, alive⟩
  · rename_i held
    rw [held]
    exact ⟨nofun, h⟩

/-- A launcher stays as it is, unless its process has ended and another one starts. -/
theorem ensure_cases (p : Launcher) (spawn : Except String Unit) :
    (p.ensure spawn).1 ≠ .ok true ∧ (p.ensure spawn).2 = p ∨
      p.isRunning = false ∧ spawn = .ok () ∧ p.ensure spawn = (.ok true, p.started) := by
  unfold ensure
  cases running : p.isRunning with
  | true => exact .inl ⟨nofun, rfl⟩
  | false =>
    cases spawn with
    | ok => exact .inr ⟨rfl, rfl, rfl⟩
    | error message => exact .inl ⟨nofun, rfl⟩

/-! ### The invariant -/

/-- If the held process has ended, no process is alive. -/
theorem Sole.alive_eq_zero (h : p.Sole) (ended : p.isRunning = false) : p.alive = 0 := by
  apply List.count_eq_zero.2
  intro mem
  obtain ⟨k, hk⟩ := List.mem_iff_getElem?.1 mem
  have alive : p.isAlive k = true := isAlive_iff.2 hk
  rw [isRunning, h k alive] at ended
  exact absurd alive (Bool.eq_false_iff.1 ended)

theorem held_of_ofCommand? {command : List String} {path : Option String} {delay : Nat}
    (made : ofCommand? command path delay = some p) : p.held = none := by
  unfold ofCommand? at made
  split at made <;> cases made
  rfl

/-- A new launcher has started no process. -/
theorem sole_of_ofCommand? {command : List String} {path : Option String} {delay : Nat}
    (made : ofCommand? command path delay = some p) : p.Sole := by
  unfold ofCommand? at made
  split at made
  · cases made
  · obtain rfl := Option.some.inj made
    intro k alive
    rw [isAlive_iff] at alive
    cases alive

theorem Sole.started (h : p.Sole) (ended : p.isRunning = false) : p.started.Sole := by
  intro k alive
  rcases isAlive_started alive with rfl | old
  · rfl
  · rw [isRunning, h k old] at ended
    exact absurd old (Bool.eq_false_iff.1 ended)

theorem sole_exit (h : p.Sole) (j : Nat) : (p.exit j).Sole :=
  fun k alive => h k (isAlive_exit alive).2

theorem sole_shutdown (h : p.Sole) : p.shutdown.Sole := by
  intro k alive
  obtain ⟨other, alive⟩ := isAlive_shutdown alive
  exact absurd (h k alive) other

/-- A launcher that was shut down has no process alive. -/
theorem Sole.alive_shutdown (h : p.Sole) : p.shutdown.alive = 0 :=
  (sole_shutdown h).alive_eq_zero p.isRunning_shutdown

/-! ### Processes that were started -/

theorem Change.length_le (ch : Change p p') : p.processes.length ≤ p'.processes.length := by
  cases ch with
  | ensure spawn =>
    rcases ensure_cases p spawn with ⟨-, same⟩ | ⟨-, -, start⟩
    · exact Nat.le_of_eq (congrArg (·.processes.length) same.symm)
    · rw [start]
      simp [Launcher.started]
  | exit j => exact Nat.le_of_eq List.length_set.symm
  | release => exact Nat.le_refl _

theorem Change.held_lt (ch : Change p p') (old : ∀ k, p.held = some k → k < p.processes.length)
    {k : Nat} (held : p'.held = some k) : k < p'.processes.length := by
  cases ch with
  | ensure spawn =>
    rcases ensure_cases p spawn with ⟨-, same⟩ | ⟨-, -, start⟩
    · rw [same] at held ⊢
      exact old k held
    · rw [start] at held ⊢
      obtain rfl := Option.some.inj held
      simp [Launcher.started]
  | exit j => exact Nat.lt_of_lt_of_eq (old k held) List.length_set.symm
  | release => cases held

end PanelScript.Launcher

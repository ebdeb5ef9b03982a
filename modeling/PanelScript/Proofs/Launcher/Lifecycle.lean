import PanelScript.Proofs.Launcher
import PanelScript.Proofs.Participants

/-!
# The life of a launcher

A launcher is asked to see to its process, to say whether it runs, and to end it, in any order; the
process ends by itself at any time, and whoever waits for a new one to come up may give up. A
process whose state cannot be told has ended.

* `Launcher.call` is a call that sees to the process, with all that may come between, and
  `Launcher.call_cases` what comes of it;
* `LauncherOp` is what happens to a launcher, `Launcher.after` the launcher after it;
* `Launcher.sole_after`: none but the held process is alive, whatever happens;
* `Launcher.alive_after_shutdown`: after an end no process is alive until the next call;
* `Launcher.one_process_at_most`: all of this for a whole life.
-/

namespace PanelScript

namespace Launcher

variable {p q : Launcher} {spawn : Except String Unit} {ended : List Nat} {givenUp : Bool}

/-- A call that sees to the process: its answer, none if it was given up. If it starts a process it
waits, and while it waits processes may end and it may be given up. -/
def call (p : Launcher) (spawn : Except String Unit) (ended : List Nat) (givenUp : Bool) :
    Option (Except GatewayError Bool) × Launcher :=
  match p.ensure spawn with
  | (.ok true, started) => (if givenUp then none else some (.ok true), ended.foldl exit started)
  | (answer, same) => (some answer, same)

end Launcher

/-- What happens to a launcher. -/
inductive LauncherOp where
  /-- Somebody has it see to its process. -/
  | ensure (spawn : Except String Unit) (ended : List Nat) (givenUp : Bool)
  /-- Somebody asks whether its process runs. -/
  | look
  /-- Somebody has it end its process. -/
  | shutdown
  /-- A process ends by itself. -/
  | exit (process : Nat)

namespace LauncherOp

/-- Whether somebody has the launcher see to its process. -/
def isEnsure : LauncherOp → Bool
  | .ensure _ _ _ => true
  | _ => false

/-- What it leaves behind. -/
def perform : LauncherOp → Launcher → Launcher
  | .ensure spawn ended givenUp, p => (p.call spawn ended givenUp).2
  | .look, p => p
  | .shutdown, p => p.shutdown
  | .exit k, p => p.exit k

end LauncherOp

namespace Launcher

variable {p q : Launcher} {spawn : Except String Unit} {ended : List Nat} {givenUp : Bool}

/-- A launcher after some things have happened to it. -/
def after (p : Launcher) (ops : List LauncherOp) : Launcher :=
  ops.foldl (fun p op => op.perform p) p

/-! ### Processes that end -/

theorem sole_exits (h : p.Sole) (ended : List Nat) : (ended.foldl exit p).Sole := by
  induction ended generalizing p with
  | nil => exact h
  | cons k ended ih => exact ih (sole_exit h k)

theorem held_exits (p : Launcher) (ended : List Nat) : (ended.foldl exit p).held = p.held := by
  induction ended generalizing p with
  | nil => rfl
  | cons k ended ih => exact ih (p.exit k)

theorem length_exits (p : Launcher) (ended : List Nat) :
    (ended.foldl exit p).processes.length = p.processes.length := by
  induction ended generalizing p with
  | nil => rfl
  | cons k ended ih => exact (ih (p.exit k)).trans List.length_set

/-- The processes that end are those that are not alive any more. -/
theorem isAlive_exits {k : Nat} :
    (ended.foldl exit p).isAlive k = true ↔ k ∉ ended ∧ p.isAlive k = true := by
  induction ended generalizing p with
  | nil => simp
  | cons j ended ih =>
    rw [List.foldl_cons, ih, List.mem_cons, not_or]
    constructor
    · rintro ⟨later, alive⟩
      obtain ⟨first, alive⟩ := isAlive_exit alive
      exact ⟨⟨first, later⟩, alive⟩
    · rintro ⟨⟨first, later⟩, alive⟩
      refine ⟨later, ?_⟩
      rw [isAlive_iff] at alive ⊢
      rw [exit, List.getElem?_set_ne (Ne.symm first), alive]

/-- The end of the held process is all that a shutdown does to the number of those alive. -/
theorem alive_shutdown_add (p : Launcher) : p.shutdown.alive + p.isRunning.toNat = p.alive := by
  unfold shutdown isRunning
  cases held : p.held with
  | none => rfl
  | some k =>
    show (p.processes.set k false).countP (· == true) + (p.isAlive k).toNat = p.processes.countP _
    unfold isAlive
    cases state : p.processes[k]? with
    | none => rw [List.set_eq_of_length_le (List.getElem?_eq_none_iff.1 state)]; rfl
    | some alive =>
      have change := countP_set_add state false (· == true)
      rw [Option.getD_some, ← beq_true alive]
      exact change

/-- At most one process is alive if none is but the one that is held. -/
theorem Sole.alive_le_one (h : p.Sole) : p.alive ≤ 1 := by
  rw [← p.alive_shutdown_add, h.alive_shutdown, Nat.zero_add]
  exact p.isRunning.toNat_le

theorem isRunning_iff : p.isRunning = true ↔ ∃ k, p.held = some k ∧ p.isAlive k = true := by
  unfold isRunning
  cases p.held with
  | none => simp
  | some k => simp

/-! ### What comes of a call -/

/-- A call finds the process alive, or cannot start one, and leaves all as it was; or it starts one,
which is held from then on. -/
theorem call_cases (p : Launcher) (spawn : Except String Unit) (ended : List Nat)
    (givenUp : Bool) :
    p.isRunning = true ∧ p.call spawn ended givenUp = (some (.ok false), p) ∨
      p.isRunning = false ∧
        (∃ message, spawn = .error message ∧
          p.call spawn ended givenUp = (some (.error (.launch s!"{p.program}: {message}")), p)) ∨
      p.isRunning = false ∧ spawn = .ok () ∧
        p.call spawn ended givenUp =
          (if givenUp then none else some (.ok true), ended.foldl exit p.started) := by
  unfold call ensure
  cases running : p.isRunning with
  | true => exact .inl ⟨rfl, rfl⟩
  | false =>
    cases spawn with
    | error message => exact .inr (.inl ⟨rfl, message, rfl, rfl⟩)
    | ok => exact .inr (.inr ⟨rfl, rfl, rfl⟩)

/-- What the answer to a call means, none if it was given up. -/
structure Tells (p : Launcher) (spawn : Except String Unit) (ended : List Nat) (givenUp : Bool)
    (answer : Option (Except GatewayError Bool)) (q : Launcher) : Prop where
  started : answer = some (.ok true) ↔
    q.processes.length = p.processes.length + 1 ∧ givenUp = false
  abandoned : answer = none ↔ q.processes.length = p.processes.length + 1 ∧ givenUp = true
  found : answer = some (.ok false) ↔ p.isRunning = true
  failed : ∀ e, answer = some (.error e) ↔
    p.isRunning = false ∧ ∃ message, spawn = .error message ∧ e = .launch s!"{p.program}: {message}"
  /-- A failure leaves no process behind. -/
  spent : ∀ e, answer = some (.error e) → q.alive = 0
  /-- A process that was started is the one that is held, and runs until it ends. -/
  holds : q.processes.length = p.processes.length + 1 →
    q.held = some p.processes.length ∧ (q.isRunning = true ↔ p.processes.length ∉ ended)
  /-- Else nothing has changed. -/
  stays : q.processes.length ≠ p.processes.length + 1 → q = p

theorem Sole.tells_call (h : p.Sole) (spawn : Except String Unit) (ended : List Nat)
    (givenUp : Bool) :
    Tells p spawn ended givenUp (p.call spawn ended givenUp).1 (p.call spawn ended givenUp).2 := by
  rcases p.call_cases spawn ended givenUp with
    ⟨running, found⟩ | ⟨stopped, message, rfl, failed⟩ | ⟨stopped, rfl, start⟩
  · rw [found]
    constructor <;> simp [running]
  · rw [failed]
    constructor <;> simp [stopped, eq_comm, h.alive_eq_zero stopped]
  · have length : (ended.foldl exit p.started).processes.length = p.processes.length + 1 := by
      rw [length_exits, Launcher.started, List.length_append, List.length_singleton]
    have held : (ended.foldl exit p.started).held = some p.processes.length := held_exits _ ended
    have alive : p.started.isAlive p.processes.length = true := p.isRunning_started
    have runs : (ended.foldl exit p.started).isRunning = true ↔ p.processes.length ∉ ended := by
      rw [isRunning, held]
      exact isAlive_exits.trans (and_iff_left alive)
    rw [start]
    cases givenUp <;> constructor <;> simp [stopped, length, held, runs]

/-- To bring the process up is a call that is not given up. -/
theorem call_eq_bringUp (p : Launcher) (start : Except String Nat) :
    ∃ ended, p.call (start.map fun _ => ()) ended false =
      (some (p.bringUp start).1, (p.bringUp start).2) := by
  unfold bringUp call ensure
  cases running : p.isRunning with
  | true => exact ⟨[], rfl⟩
  | false =>
    cases start with
    | error message => exact ⟨[], rfl⟩
    | ok lifetime =>
      refine ⟨if lifetime ≤ p.startupDelay then [p.processes.length] else [], ?_⟩
      simp only [Except.map, Bool.false_eq_true, if_false]
      split <;> rfl

/-! ### A whole life -/

theorem Sole.perform (h : p.Sole) (op : LauncherOp) : (op.perform p).Sole := by
  cases op with
  | ensure spawn ended givenUp =>
    show (p.call spawn ended givenUp).2.Sole
    rcases p.call_cases spawn ended givenUp with ⟨-, same⟩ | ⟨-, _, -, same⟩ | ⟨stopped, -, start⟩
    · rwa [same]
    · rwa [same]
    · rw [start]
      exact sole_exits (h.started stopped) ended
  | look => exact h
  | shutdown => exact sole_shutdown h
  | exit k => exact sole_exit h k

/-- None but the held process is alive, whatever happens. -/
theorem sole_after (h : p.Sole) (ops : List LauncherOp) : (p.after ops).Sole := by
  induction ops generalizing p with
  | nil => exact h
  | cons op ops ih => exact ih (h.perform op)

/-- A launcher whose process does not run starts none by itself. -/
theorem isRunning_perform {op : LauncherOp} (quiet : op.isEnsure = false)
    (stopped : p.isRunning = false) : (op.perform p).isRunning = false := by
  cases op with
  | ensure => cases quiet
  | look => exact stopped
  | shutdown => exact p.isRunning_shutdown
  | exit j =>
    rw [Bool.eq_false_iff, ne_eq, isRunning_iff] at stopped ⊢
    rintro ⟨k, held, alive⟩
    exact stopped ⟨k, held, (isAlive_exit alive).2⟩

/-- No process is alive after the end of the held one, until somebody has the launcher see to its
process again. -/
theorem alive_after_shutdown (h : p.Sole) {ops : List LauncherOp}
    (quiet : ∀ op ∈ ops, op.isEnsure = false) : (p.shutdown.after ops).alive = 0 := by
  have stopped : (p.shutdown.after ops).isRunning = false := by
    have start := p.isRunning_shutdown
    generalize p.shutdown = q at start
    induction ops generalizing q with
    | nil => exact start
    | cons op ops ih =>
      have first := isRunning_perform (quiet op List.mem_cons_self) start
      exact ih (fun op mem => quiet op (List.mem_cons_of_mem _ mem)) _ first
  exact (sole_after (sole_shutdown h) ops).alive_eq_zero stopped

/-- **A launcher has at most one process.** Whatever has happened to a launcher, no process is alive
but the one that it holds. A call that sees to the process says that it has started one exactly if
it has and was not given up, that there was one exactly if the held process was alive, and that it
failed exactly if the held process was not alive and no other could be started; then none is alive.
To bring the process up is such a call. Once a process was ended none is alive, until somebody has
the launcher see to its process again. To ask whether a process runs changes nothing, and the answer
is yes exactly if the held process is alive. -/
theorem one_process_at_most {command : List String} {path : Option String} {delay : Nat}
    {new p : Launcher} (made : ofCommand? command path delay = some new) (ops : List LauncherOp)
    (life : new.after ops = p) :
    (p.alive ≤ 1 ∧ ∀ k, p.isAlive k = true → p.held = some k) ∧
    (∀ spawn ended givenUp answer q, p.call spawn ended givenUp = (answer, q) →
      Tells p spawn ended givenUp answer q) ∧
    (∀ start : Except String Nat, ∃ ended, p.call (start.map fun _ => ()) ended false =
      (some (p.bringUp start).1, (p.bringUp start).2)) ∧
    (∀ later : List LauncherOp, (∀ op ∈ later, op.isEnsure = false) →
      (p.shutdown.after later).alive = 0) ∧
    LauncherOp.look.perform p = p ∧
    (p.isRunning = true ↔ ∃ k, p.held = some k ∧ p.isAlive k = true) := by
  have sole : p.Sole := life ▸ sole_after (sole_of_ofCommand? made) ops
  refine ⟨⟨sole.alive_le_one, sole⟩, fun spawn ended givenUp answer q called => ?_,
    p.call_eq_bringUp, fun later quiet => alive_after_shutdown sole quiet, rfl, isRunning_iff⟩
  have told := sole.tells_call spawn ended givenUp
  rwa [called] at told

/-- A command that cannot be started for the moment. -/
def busy : Except String Unit := .error "Text file busy (os error 26)"

/-- A call is given up whose process ends only then, the next finds none and cannot start one, and
the third starts one. -/
def sampleLife : List LauncherOp :=
  [.ensure (.ok ()) [] true, .exit 0, .ensure busy [] false, .ensure (.ok ()) [0] false]

/-- The new process is found as long as it runs, and when it has ended and no other can be started
none is alive; nor is one after it was ended. -/
theorem one_process_at_most_sample :
    ∃ new p q, ofCommand? ["sleep", "30"] none 10 = some new ∧ new.after sampleLife = p ∧
      p.processes = [false, true] ∧ p.held = some 1 ∧ p.alive ≤ 1 ∧
      p.call busy [] false = (some (.ok false), p) ∧
      p.isRunning = true ∧ (p.shutdown.after [.look, .exit 1]).alive = 0 ∧
      new.after (sampleLife ++ [.exit 1]) = q ∧
      q.call busy [] false =
        (some (.error (.launch "sleep: Text file busy (os error 26)")), q) ∧ q.alive = 0 := by
  obtain ⟨new, made⟩ : ∃ new, ofCommand? ["sleep", "30"] none 10 = some new := ⟨_, rfl⟩
  obtain rfl := Option.some.inj made
  obtain ⟨⟨few, -⟩, calls, -, quiet, -, -⟩ := one_process_at_most made sampleLife rfl
  obtain ⟨-, later, -, -, -, -⟩ := one_process_at_most made (sampleLife ++ [.exit 1]) rfl
  refine ⟨_, _, _, rfl, rfl, rfl, rfl, few, rfl, ?_, quiet _ (by decide), rfl, rfl, ?_⟩
  · exact (calls busy [] false _ _ rfl).found.1 rfl
  · exact (later busy [] false _ _ rfl).spent _ rfl

end Launcher

end PanelScript

import PanelScript.Machine
import PanelScript.Support.Handle

/-!
# What a handle reports

A job sends its result, or goes away, at some moment. Before and after that the holder of the handle
looks for the result, waits for it some time, or gives the handle away for it, as often as it likes.

* `HandleLife` is a handle with the job behind it and the holder in front of it, `HandleLife.step`
  says what either does;
* `HandleLife.due?` is what the job's end means for the holder;
* `HandleLife.Told`: readings are empty until one brings what is due, and useless after it;
* `reports_due_once`: a handle reports what is due, and reports it once.
-/

namespace PanelScript

/-- What has become of the job behind a handle. -/
inductive JobEnd where
  | working
  | sent (r : ScriptResult)
  /-- It went away without a result. -/
  | gone
  deriving DecidableEq

/-- How a holder asks for the result. -/
inductive Asking where
  /-- It takes the result if it is there. -/
  | glance
  /-- It waits for some time. -/
  | patience
  /-- It gives the handle away, and waits as long as it takes. -/
  | surrender
  deriving DecidableEq

/-- What the holder of a handle is doing. -/
inductive HolderStage where
  | idle
  | waiting (a : Asking)
  /-- The handle was given away. -/
  | parted
  deriving DecidableEq

/-- A handle, the job behind it and the holder in front of it. -/
structure HandleLife where
  handle : Handle
  job : JobEnd
  holder : HolderStage
  /-- What the holder asked and was told, in order. -/
  readings : List (Asking × Reading)
  deriving DecidableEq

/-- What happens to a handle. -/
inductive HandleAction where
  /-- The job sends its result. -/
  | send (r : ScriptResult)
  /-- The job goes away without one. -/
  | leave
  /-- The holder asks. -/
  | ask (a : Asking)
  /-- The holder looks again while it waits. -/
  | look
  /-- The time of a wait is over. -/
  | expire

/-- A result that was found there, or nothing yet. -/
def Reading.ofFound : Option ScriptResult → Reading
  | some r => .result r
  | none => .waiting

namespace HandleLife

/-- A handle whose job is working. -/
def new (unit : UnitId) (source : String) : HandleLife := ⟨.new unit source, .working, .idle, []⟩

/-- The holder is told something, and the handle changes by it. -/
def told (s : HandleLife) (a : Asking) (word : Reading × Handle) : HandleLife :=
  { s with
    handle := word.2
    holder := if a = .surrender then .parted else .idle
    readings := s.readings ++ [(a, word.1)] }

/-- The holder looks while it waits. -/
def look (s : HandleLife) (a : Asking) : HandleLife :=
  if s.handle.await.1 = .waiting then { s with holder := .waiting a } else s.told a s.handle.await

/-- The holder asks for the result. -/
def ask (s : HandleLife) : Asking → HandleLife
  | .glance => s.told .glance (.ofFound s.handle.tryResult.1, s.handle.tryResult.2)
  | a => s.look a

/-- What an action does; none if it cannot be taken. -/
def step (a : HandleAction) (s : HandleLife) : Option HandleLife :=
  match a, s.job, s.holder with
  | .send r, .working, _ => some { s with handle := s.handle.deliver r, job := .sent r }
  | .leave, .working, _ => some { s with handle := s.handle.abandon, job := .gone }
  | .ask a, _, .idle => some (s.ask a)
  | .look, _, .waiting a => some (s.look a)
  | .expire, _, .waiting .patience =>
    some { s with holder := .idle, readings := s.readings ++ [(.patience, .waiting)] }
  | _, _, _ => none

end HandleLife

/-- What the job's end means for the holder of a handle: its result, or that it was cancelled if
there is none; nothing while the job works. -/
def JobEnd.due? (unit : UnitId) (source : String) : JobEnd → Option ScriptResult
  | .working => none
  | .sent r => some r
  | .gone => some (.failed unit source .cancelled 0)

/-- A reading that brings nothing. -/
def IsVoid (x : Asking × Reading) : Prop := x.2 = .waiting

/-- A reading of a handle that is used up: a glance finds that the job was cancelled, whatever it
sent, and a wait panics. -/
def IsStale (unit : UnitId) (source : String) (x : Asking × Reading) : Prop :=
  x.2 = if x.1 = .glance then .result (.failed unit source .cancelled 0) else .panic

namespace HandleLife

variable {unit : UnitId} {source : String} {s t : HandleLife}

/-- The lives of a handle. -/
def Reachable (unit : UnitId) (source : String) (s : HandleLife) : Prop :=
  Machine.Reaches step (new unit source) s

/-- The readings brought nothing until one brought what is due, and were stale after it. -/
def Served (unit : UnitId) (source : String) (s : HandleLife) : Prop :=
  ∃ early a r late, s.readings = early ++ (a, .result r) :: late ∧ (∀ x ∈ early, IsVoid x) ∧
    s.job.due? unit source = some r ∧ ∀ x ∈ late, IsStale unit source x

/-- What is left in a handle, what its job has done and what was read go together. -/
inductive Kept (unit : UnitId) (source : String) (s : HandleLife) : Prop
  | working (h : s.handle = ⟨unit, source, .pending⟩) (j : s.job = .working)
      (void : ∀ x ∈ s.readings, IsVoid x)
  | full {r : ScriptResult} (h : s.handle = ⟨unit, source, .ready r⟩) (j : s.job = .sent r)
      (void : ∀ x ∈ s.readings, IsVoid x)
  | lost (h : s.handle = ⟨unit, source, .lost⟩) (j : s.job = .gone)
      (void : ∀ x ∈ s.readings, IsVoid x)
  | used (h : s.handle = ⟨unit, source, .spent⟩) (served : s.Served unit source)
      (still : ∀ a, s.holder ≠ .waiting a)

/-! ### What asking tells -/

theorem not_void_of_served (h : s.Served unit source) : ¬ ∀ x ∈ s.readings, IsVoid x := by
  obtain ⟨early, a, r, late, hr, -⟩ := h
  intro void
  have hit := void (a, .result r) (by simp [hr])
  cases hit

/-- Who looks at a handle from which nothing was read is told what is due. -/
theorem Kept.look_of_due (hs : s.Kept unit source) (void : ∀ x ∈ s.readings, IsVoid x)
    {r : ScriptResult} (due : s.job.due? unit source = some r) (a : Asking) :
    s.look a = s.told a (.result r, ⟨unit, source, .spent⟩) := by
  cases hs with
  | working _ j => simp [j, JobEnd.due?] at due
  | full h j | lost h j =>
    obtain rfl := Option.some.inj (j ▸ due)
    simp [look, h, Handle.await, Handle.abandoned]
  | used _ served => exact absurd void (not_void_of_served served)

/-- Who asks a handle from which nothing was read is told what is due. -/
theorem Kept.ask_of_due (hs : s.Kept unit source) (void : ∀ x ∈ s.readings, IsVoid x)
    {r : ScriptResult} (due : s.job.due? unit source = some r) (a : Asking) :
    s.ask a = s.told a (.result r, ⟨unit, source, .spent⟩) := by
  cases a with
  | patience | surrender => exact hs.look_of_due void due _
  | glance =>
    cases hs with
    | working _ j => simp [j, JobEnd.due?] at due
    | full h j | lost h j =>
      obtain rfl := Option.some.inj (j ▸ due)
      simp [ask, h, Handle.tryResult, Handle.abandoned, Reading.ofFound]
    | used _ served => exact absurd void (not_void_of_served served)

/-- Who asks a handle that is used up is told something stale. -/
theorem ask_of_spent (h : s.handle = ⟨unit, source, .spent⟩) (a : Asking) :
    ∃ word, s.ask a = s.told a (word, ⟨unit, source, .spent⟩) ∧ IsStale unit source (a, word) := by
  cases a with
  | glance =>
    refine ⟨.result (.failed unit source .cancelled 0), ?_, rfl⟩
    simp [ask, h, Handle.tryResult, Handle.abandoned, Reading.ofFound]
  | patience | surrender => exact ⟨.panic, by simp [ask, look, h, Handle.await], rfl⟩

/-! ### What a life keeps -/

theorem holder_told (a : Asking) (word : Reading × Handle) (b : Asking) :
    (s.told a word).holder ≠ .waiting b := by
  cases a <;> nofun

theorem Kept.tell_due {r : ScriptResult} (void : ∀ x ∈ s.readings, IsVoid x)
    (due : s.job.due? unit source = some r) (a : Asking) :
    (s.told a (.result r, ⟨unit, source, .spent⟩)).Kept unit source :=
  .used rfl ⟨s.readings, a, r, [], rfl, void, due, by simp⟩ (holder_told a _)

theorem Kept.tell_stale {word : Reading} (served : s.Served unit source) {a : Asking}
    (stale : IsStale unit source (a, word)) :
    (s.told a (word, ⟨unit, source, .spent⟩)).Kept unit source := by
  obtain ⟨early, b, r, late, hr, void, due, hl⟩ := served
  refine .used rfl ⟨early, b, r, late ++ [(a, word)], ?_, void, due, fun x hx => ?_⟩
    (holder_told a _)
  · simp [told, hr]
  · rcases List.mem_append.1 hx with hx | hx
    · exact hl x hx
    · obtain rfl := List.mem_singleton.1 hx
      exact stale

theorem void_concat (void : ∀ x ∈ s.readings, IsVoid x) (a : Asking) :
    ∀ x ∈ s.readings ++ [(a, .waiting)], IsVoid x := by
  intro x hx
  rcases List.mem_append.1 hx with hx | hx
  · exact void x hx
  · obtain rfl := List.mem_singleton.1 hx
    rfl

/-- Who looks while it waits leaves things in order. -/
theorem Kept.look (hs : s.Kept unit source) {a : Asking} (fresh : s.handle.delivery ≠ .spent) :
    (s.look a).Kept unit source := by
  cases hs with
  | working h j void =>
    have same : s.look a = { s with holder := .waiting a } := by
      simp [HandleLife.look, h, Handle.await]
    rw [same]
    exact .working h j void
  | full h j void =>
    rw [(Kept.full h j void).look_of_due void (congrArg _ j) a]
    exact tell_due void (congrArg _ j) a
  | lost h j void =>
    rw [(Kept.lost h j void).look_of_due void (congrArg _ j) a]
    exact tell_due void (congrArg _ j) a
  | used h => exact absurd (congrArg _ h) fresh

theorem Kept.ask (hs : s.Kept unit source) (a : Asking) : (s.ask a).Kept unit source := by
  cases hs with
  | working h j void =>
    cases a with
    | glance =>
      have same : s.ask .glance = s.told .glance (.waiting, s.handle) := by
        simp [HandleLife.ask, h, Handle.tryResult, Reading.ofFound]
      rw [same]
      exact .working h j (void_concat void _)
    | patience | surrender => exact (Kept.working h j void).look (by simp [h])
  | full h j void =>
    rw [(Kept.full h j void).ask_of_due void (congrArg _ j) a]
    exact tell_due void (congrArg _ j) a
  | lost h j void =>
    rw [(Kept.lost h j void).ask_of_due void (congrArg _ j) a]
    exact tell_due void (congrArg _ j) a
  | used h served =>
    obtain ⟨word, same, stale⟩ := ask_of_spent h a
    rw [same]
    exact tell_stale served stale

theorem Kept.step {a : HandleAction} (h : step a s = some t) (hs : s.Kept unit source) :
    t.Kept unit source := by
  unfold HandleLife.step at h
  split at h
  case h_1 _ _ _ j =>
    cases h
    cases hs with
    | working e _ void => exact .full (by rw [e]; rfl) rfl void
    | full _ j' | lost _ j' => exact absurd (j'.symm.trans j) nofun
    | used _ served =>
      obtain ⟨_, _, _, _, -, -, due, -⟩ := served
      simp [j, JobEnd.due?] at due
  case h_2 _ _ _ j =>
    cases h
    cases hs with
    | working e _ void => exact .lost (by rw [e]; rfl) rfl void
    | full _ j' | lost _ j' => exact absurd (j'.symm.trans j) nofun
    | used _ served =>
      obtain ⟨_, _, _, _, -, -, due, -⟩ := served
      simp [j, JobEnd.due?] at due
  case h_3 =>
    cases h
    exact hs.ask _
  case h_4 _ _ _ w =>
    cases h
    refine hs.look fun e => ?_
    cases hs with
    | working h | full h | lost h => simp [h] at e
    | used _ _ still => exact still _ w
  case h_5 _ _ _ w =>
    cases h
    cases hs with
    | working e j void => exact .working e j (void_concat void _)
    | full e j void => exact .full e j (void_concat void _)
    | lost e j void => exact .lost e j (void_concat void _)
    | used _ _ still => exact absurd w (still _)
  case h_6 => cases h

theorem kept (h : Reachable unit source s) : s.Kept unit source :=
  h.invariant (fun _ _ _ ha hs => hs.step ha) (.working rfl rfl (by simp [new]))

/-- **A handle reports what is due, and reports it once.** However asking and the job's end
interleave, the readings bring nothing until one of them brings the job's own result, or that it was
cancelled if the job went away without one; no reading up to that one is a panic. Who asks first
after the job's end is told what is due. Whatever is read after that is stale: a glance finds that
the job was cancelled, and a wait panics. -/
theorem reports_due_once (h : Reachable unit source s) :
    ((∀ x ∈ s.readings, IsVoid x) ∨ s.Served unit source) ∧
    (∀ a r, s.job.due? unit source = some r → (∀ x ∈ s.readings, IsVoid x) →
      (s.ask a).readings = s.readings ++ [(a, .result r)]) ∧
    (∀ a, s.Served unit source →
      ∃ word, (s.ask a).readings = s.readings ++ [(a, word)] ∧ IsStale unit source (a, word)) := by
  have hs := kept h
  refine ⟨?_, fun a r due void => ?_, fun a served => ?_⟩
  · cases hs with
    | working _ _ void | full _ _ void | lost _ _ void => exact .inl void
    | used _ served => exact .inr served
  · rw [hs.ask_of_due void due a]
    rfl
  · cases hs with
    | working _ _ void | full _ _ void | lost _ _ void =>
      exact absurd void (not_void_of_served served)
    | used e =>
      obtain ⟨word, same, stale⟩ := ask_of_spent e a
      exact ⟨word, by rw [same]; rfl, stale⟩

/-- What a job sends that ran to its end. -/
def sampleResult : ScriptResult := .completed 7 "clock" (some (.str "noon")) 3

/-- A wait ends before the job does, and two glances come after it. -/
def sampleReads : List HandleAction :=
  [.ask .patience, .expire, .send sampleResult, .ask .glance, .ask .glance]

theorem reports_due_once_sample :
    ∃ s, Machine.run step sampleReads (new 7 "clock") = some s ∧ s.Served 7 "clock" ∧
      ∃ word, (s.ask .surrender).readings = s.readings ++ [(.surrender, word)] ∧
        IsStale 7 "clock" (.surrender, word) := by
  have run : (Machine.run step sampleReads (new 7 "clock")).map HandleLife.readings =
      some [(.patience, .waiting), (.glance, .result sampleResult),
        (.glance, .result (.failed 7 "clock" .cancelled 0))] := by decide
  obtain ⟨s, hr, hs⟩ := Option.map_eq_some_iff.1 run
  obtain ⟨phase, -, stale⟩ := reports_due_once ⟨_, hr⟩
  have served : s.Served 7 "clock" := by
    refine phase.resolve_left fun void => ?_
    have hit := void (.glance, .result sampleResult) (by simp [hs])
    cases hit
  exact ⟨s, hr, served, stale .surrender served⟩

/-- A completed result turns into a cancelled one when it is looked at again, and a wait for it
panics. -/
theorem second_reading_is_stale :
    (Machine.run step [.send sampleResult, .ask .glance, .ask .glance, .ask .patience,
      .ask .surrender] (new 7 "clock")).map HandleLife.readings =
      some [(.glance, .result sampleResult), (.glance, .result (.failed 7 "clock" .cancelled 0)),
        (.patience, .panic), (.surrender, .panic)] ∧
    sampleResult.isCompleted = true ∧ sampleResult ≠ .failed 7 "clock" .cancelled 0 := by
  decide

end HandleLife

end PanelScript

import PanelScript.Proofs.Support.Execution

/-!
# Places

A job has a place while its unit runs. The place is given back when the job has an outcome or
notices that it was asked to stop; in the second case the script may go on on its thread without a
place.
Still no more scripts run than there are places, since no job gets a place once the jobs were asked
to stop.

* `placesTaken` and `placesGiven` count the places that a job takes and gives back in a run;
* `Job.Course` says how often the interpreter of a job was started, and what it returned, by stage;
* `Placed` counts the places, `Holding.run` keeps the account of one job;
* `places_conserved`: no place is lost or given back twice, and no more runs are underway than there
  are places.
-/

namespace PanelScript

/-- The interpreter of the job was started and has not returned: the job runs, or its script goes on
on its thread. -/
def Job.isUnderway (j : Job) : Bool := j.hasPlace || j.isExecuting

/-- How often the interpreter was started and what it returned, by stage: a job that has run began
once, and has taken over one outcome or none. -/
def Job.Course (j : Job) : Prop :=
  match j.stage with
  | .waiting => j.runs = 0 ∧ j.worker = .none ∧ j.returned = []
  | .running => j.runs = 1 ∧ j.returned = []
  | _ => j.runs ≤ 1 ∧ (j.returned = [] ∨ j.runs = 1 ∧ ∃ o, j.returned = [o])

namespace Job

theorem Course.runs_le {j : Job} (h : j.Course) : j.runs ≤ 1 := by
  unfold Course at h
  split at h <;> omega

/-- A job that has taken over an outcome has run once. -/
theorem Course.runs_eq {j : Job} (h : j.Course) {o : Outcome} (hr : j.returned = [o]) :
    j.runs = 1 := by
  unfold Course at h
  split at h <;> simp_all

end Job

namespace Support

variable {settings : SupportSettings} {engines : PerBackend (Option Engine)}
  {widgets : List Widget} {s t : Support} {a : SupportAction}

/-- What a measure of steps adds up to over the actions of one job in a run. -/
def total (measure : Support → Support → Nat) (job : Nat) : List SupportAction → Support → Nat
  | [], _ => 0
  | a :: actions, s =>
    match step a s with
    | some t => (if a.job? = some job then measure s t else 0) + total measure job actions t
    | none => 0

/-- How many places a job takes in a run. -/
def placesTaken : Nat → List SupportAction → Support → Nat := total fun s t => s.free - t.free

/-- How many places a job gives back in a run. -/
def placesGiven : Nat → List SupportAction → Support → Nat := total fun s t => t.free - s.free

/-! ### The course of a job -/

theorem JobMove.course {s s' : Support} {k : Nat} {j j' : Job} (m : JobMove k s j a j' s')
    (h : j.Course) : j'.Course := by
  have le := h.runs_le
  cases m with
  | write => exact h
  | start e =>
    simp only [Job.Course, e] at h
    exact ⟨congrArg (· + 1) h.1, h.2.2⟩
  | finish o x =>
    cases e : j.stage with
    | waiting =>
      simp only [Job.Course, e] at h
      simp [Job.isExecuting, h.2.1] at x
    | _ => simpa only [Job.Course, e] using h
  | conclude o _ e | reply o _ _ e =>
    simp only [Job.Course, e] at h
    exact ⟨le, .inr ⟨h.1, o, by rw [h.2, List.nil_append]⟩⟩
  | giveUp _ e | abandon _ e =>
    simp only [Job.Course, e] at h
    exact ⟨le, .inl (by simp [h])⟩
  | tell e | release e | deliver e | leave e =>
    simpa only [Job.Course, e] using h
  | vanish =>
    refine ⟨le, ?_⟩
    unfold Job.Course at h
    split at h
    · exact .inl h.2.2
    · exact .inl h.2
    · exact h.2

theorem Move.course (m : Move a s t) (hs : ∀ j ∈ s.jobs, j.Course) : ∀ j ∈ t.jobs, j.Course := by
  refine m.forall_jobs (fun u c stage waits => ?_) (fun _ _ _ _ own => own.course) hs
  rcases waits with rfl | ⟨rfl, -⟩
  · exact ⟨rfl, rfl, rfl⟩
  · exact ⟨Nat.zero_le 1, .inl rfl⟩

theorem course (h : Reachable settings engines widgets s) : ∀ j ∈ s.jobs, j.Course :=
  h.of_moves (P := fun s => ∀ j ∈ s.jobs, j.Course) (by simp [ofSettings]) fun _ _ _ m => m.course

/-! ### Places are neither lost nor made -/

/-- There are `n` places, free or had by a job. -/
def Placed (n : Nat) (s : Support) : Prop := s.free + s.jobs.countP Job.hasPlace = n

theorem SubmissionMove.free_eq {s s' : Support} {c c' : Submission} (m : SubmissionMove s c c' s') :
    s'.free = s.free := by
  cases m <;> rfl

theorem JobMove.placed {s s' : Support} {k : Nat} {j j' : Job} (m : JobMove k s j a j' s') :
    s'.free + j'.hasPlace.toNat = s.free + j.hasPlace.toNat := by
  cases m with
  | start e _ hf =>
    simp only [Job.hasPlace, e]
    show s.free - 1 + 1 = s.free + 0
    omega
  | conclude _ _ e | reply _ _ _ e | abandon _ e =>
    simp only [Job.hasPlace, e]
    rfl
  | giveUp _ e | tell e | release e | deliver e | leave e =>
    simp only [Job.hasPlace, e]
    rfl
  | write | finish => rfl
  | vanish => rfl

theorem Move.placed {n : Nat} (m : Move a s t) (hs : s.Placed n) : t.Placed n := by
  unfold Placed at *
  cases m with
  | submission _ m =>
    rw [← hs]
    rcases m.jobs_eq with ⟨stage, hj, waits, -⟩ | ⟨hj, -⟩
    · rename_i c _ _
      have none : Job.hasPlace { Job.new c.unit c.context with stage } = false := by
        rcases waits with rfl | ⟨rfl, -⟩ <;> rfl
      have added := countP_concat s.jobs { Job.new c.unit c.context with stage } Job.hasPlace
      rw [none, Bool.toNat_false, Nat.add_zero, ← hj] at added
      rw [← m.free_eq, ← added]
    · rw [← m.free_eq, ← hj]
  | job h m =>
    rename_i s' k j j'
    have moved := countP_set_add h j' Job.hasPlace
    have paid := m.placed
    show s'.free + (s.jobs.set k j').countP Job.hasPlace = n
    omega
  | shutdown _ m => cases m <;> exact hs
  | submit | beginShutdown | tearDown => exact hs

theorem placed (h : Reachable settings engines widgets s) : s.Placed settings.poolSize :=
  h.of_moves (P := Placed settings.poolSize) rfl fun _ _ _ m => m.placed

/-! ### The account of one job -/

/-- A job has taken a place if it was started, and given it back unless it has it still. -/
def Holding (k taken given : Nat) (s : Support) : Prop :=
  match s.jobs[k]? with
  | some j => taken = j.runs ∧ given + j.hasPlace.toNat = j.runs
  | none => taken = 0 ∧ given = 0

theorem Holding.of_eq {k taken given : Nat} (h : s.Holding k taken given)
    (e : t.jobs[k]? = s.jobs[k]?) : t.Holding k taken given := by
  unfold Holding at *
  rwa [e]

/-- One step of a job enters the place that it takes or gives back. -/
theorem JobMove.holding {s s' : Support} {k taken given : Nat} {j j' : Job}
    (m : JobMove k s j a j' s') (up : s.tornDown = false) (course : j.Course)
    (h : taken = j.runs ∧ given + j.hasPlace.toNat = j.runs) :
    taken + (s.free - s'.free) = j'.runs ∧
      given + (s'.free - s.free) + j'.hasPlace.toNat = j'.runs := by
  obtain ⟨ht, hg⟩ := h
  cases m with
  | start e _ hf =>
    simp only [Job.Course, e] at course
    simp only [Job.hasPlace, e] at hg ⊢
    show taken + (s.free - (s.free - 1)) = j.runs + 1 ∧
      given + (s.free - 1 - s.free) + 1 = j.runs + 1
    have : given + 0 = j.runs := hg
    omega
  | conclude _ _ e | reply _ _ _ e | abandon _ e =>
    simp only [Job.hasPlace, e] at hg ⊢
    show taken + (s.free - (s.free + 1)) = j.runs ∧ given + (s.free + 1 - s.free) + 0 = j.runs
    have : given + 1 = j.runs := hg
    omega
  | giveUp _ e | tell e | release e | deliver e | leave e =>
    simp only [Job.hasPlace, e] at hg ⊢
    show taken + (s.free - s.free) = j.runs ∧ given + (s.free - s.free) + 0 = j.runs
    have : given + 0 = j.runs := hg
    omega
  | write | finish =>
    show taken + (s.free - s.free) = j.runs ∧
      given + (s.free - s.free) + j.hasPlace.toNat = j.runs
    omega
  | vanish _ down => simp [up] at down

/-- One move enters in the account of a job what the job does by it. -/
theorem Move.holding {k taken given : Nat} (m : Move a s t) (up : t.tornDown = false)
    (course : ∀ j ∈ s.jobs, j.Course) (hs : s.Holding k taken given) :
    t.Holding k (taken + if a.job? = some k then s.free - t.free else 0)
      (given + if a.job? = some k then t.free - s.free else 0) := by
  have up' := m.tornDown up
  rcases m.job_cases k with ⟨other, same⟩ | ⟨other, fresh, u, c, stage, found, waits⟩ |
    ⟨j, j', s', hj, own, rfl⟩
  · rw [if_neg other, if_neg other]
    exact hs.of_eq same
  · obtain ⟨rfl, rfl⟩ : taken = 0 ∧ given = 0 := by simpa only [Holding, fresh] using hs
    obtain rfl : stage = .waiting := by
      refine waits.resolve_right fun lost => ?_
      rw [up'] at lost
      cases lost.2
    rw [if_neg other, if_neg other]
    simp only [Holding, found]
    exact ⟨rfl, rfl⟩
  · have act : a.job? = some k := by
      refine own.owner.resolve_right fun down => ?_
      rw [up'] at down
      cases down.2
    rw [if_pos act, if_pos act]
    simp only [Holding, hj] at hs
    simp only [Holding, List.getElem?_set_self (List.getElem?_eq_some_iff.1 hj).1]
    exact own.holding up' (course j (List.mem_of_getElem? hj)) hs

/-- In a run in which nothing is torn down the account of a job is kept. -/
theorem Holding.run {actions : List SupportAction} {s v : Support} {k taken given : Nat}
    (h : Machine.run step actions s = some v) (up : v.tornDown = false)
    (course : ∀ j ∈ s.jobs, j.Course) (hs : s.Holding k taken given) :
    v.Holding k (taken + placesTaken k actions s) (given + placesGiven k actions s) := by
  induction actions generalizing s taken given with
  | nil =>
    obtain rfl : s = v := Option.some.inj h
    exact hs
  | cons a actions ih =>
    rw [Machine.run_cons, Option.bind_eq_some_iff] at h
    obtain ⟨t, ha, ht⟩ := h
    have up' := not_tornDown_of_reaches ⟨actions, ht⟩ up
    have m := move_of_step_of_up ha up'
    have moved := m.holding up' course hs
    simp only [placesTaken, placesGiven, total, ha]
    rw [← Nat.add_assoc, ← Nat.add_assoc]
    exact ih ht (m.course course) moved

/-! ### Runs that are underway -/

/-- How many runs are underway. -/
def activeRuns (s : Support) : Nat := s.jobs.countP Job.isUnderway

/-- Only the start of a job brings a run about. -/
theorem JobMove.isUnderway {s s' : Support} {k : Nat} {j j' : Job} (m : JobMove k s j a j' s')
    (ha : a ≠ .start k) (h : j'.isUnderway = true) : j.isUnderway = true := by
  cases m with
  | start => exact absurd rfl ha
  | write => exact h
  | finish _ x => simp [Job.isUnderway, x]
  | conclude _ _ e | reply _ _ _ e | abandon _ e => simp [Job.isUnderway, Job.hasPlace, e]
  | giveUp _ e | tell e | release e | deliver e | leave e | vanish e =>
    have x : j.isExecuting = true := by
      simpa [Job.isUnderway, Job.hasPlace, Job.isExecuting] using h
    simp [Job.isUnderway, x]

theorem Move.activeRuns_le (m : Move a s t) (ha : ∀ k, a ≠ .start k) :
    t.activeRuns ≤ s.activeRuns := by
  cases m with
  | submission _ m =>
    rcases m.jobs_eq with ⟨stage, hj, waits, -⟩ | ⟨hj, -⟩
    · rename_i c _ _
      have none : Job.isUnderway { Job.new c.unit c.context with stage } = false := by
        rcases waits with rfl | ⟨rfl, -⟩ <;> rfl
      have added := countP_concat s.jobs { Job.new c.unit c.context with stage } Job.isUnderway
      rw [none, Bool.toNat_false, Nat.add_zero, ← hj] at added
      exact Nat.le_of_eq added
    · exact Nat.le_of_eq (congrArg (List.countP _) hj)
  | job h m =>
    rename_i s' k j j'
    have moved := countP_set_add h j' Job.isUnderway
    have le : j'.isUnderway.toNat ≤ j.isUnderway.toNat := by
      cases hj' : j'.isUnderway with
      | false => exact Nat.zero_le _
      | true => exact Nat.le_of_eq (congrArg Bool.toNat (m.isUnderway (ha k) hj')).symm
    show (s.jobs.set k j').countP Job.isUnderway ≤ s.jobs.countP Job.isUnderway
    omega
  | shutdown _ m => exact Nat.le_of_eq (congrArg (List.countP _) m.unchanged.2.1)
  | submit | beginShutdown | tearDown => exact Nat.le_refl _

/-- No action but the start of a job brings a run about. -/
theorem activeRuns_le_of_step (h : step a s = some t) (ha : ∀ k, a ≠ .start k) :
    t.activeRuns ≤ s.activeRuns :=
  kept_of_step (P := fun t => t.activeRuns ≤ s.activeRuns)
    (fun _ _ m le => Nat.le_trans (m.activeRuns_le ha) le) h (Nat.le_refl _)

theorem Move.outstanding_of_down (m : Move a s t) (down : s.tornDown = true)
    (none : s.outstanding = 0) : t.outstanding = 0 := by
  cases m with
  | submission _ m =>
    cases m with
    | spawn _ up => simp [up] at down
    | lose =>
      show (s.jobs ++ [_]).countP Job.isOutstanding = 0
      rw [countP_concat]
      exact none
    | _ => exact none
  | job h m =>
    rename_i s' k j j'
    have moved := countP_set_add h j' Job.isOutstanding
    have ended : j.isOutstanding = false :=
      Bool.eq_false_iff.2 (List.countP_eq_zero.1 none j (List.mem_of_getElem? h))
    have ended' : j'.isOutstanding = false :=
      Bool.eq_false_iff.2 fun out => by simp [m.outstanding out] at ended
    rw [ended, ended'] at moved
    exact (Nat.add_right_cancel moved).trans none
  | shutdown _ m => exact (congrArg (List.countP _) m.unchanged.2.1).trans none
  | submit | beginShutdown | tearDown => exact none

/-- After a teardown no job is outstanding. -/
theorem outstanding_of_tornDown (h : Reachable settings engines widgets s)
    (down : s.tornDown = true) : s.outstanding = 0 := by
  refine Machine.Reaches.invariant (P := fun s => s.tornDown = true → s.outstanding = 0) h
    (fun a s t hst hs down => ?_) nofun down
  by_cases ha : a = .tearDown
  · subst ha
    obtain rfl : s.tearDown = t := Option.some.inj hst
    exact (tearDown_jobs s).1
  · have m := move_of_step hst ha
    have before : s.tornDown = true := by
      cases m with
      | submission _ m => exact m.frame.tornDown.symm.trans down
      | job _ m => exact m.frame.tornDown.symm.trans down
      | shutdown _ m => cases m <;> exact down
      | submit | beginShutdown => exact down
      | tearDown => exact absurd rfl ha
    exact m.outstanding_of_down before (hs before)

/-- While nothing was asked to stop, the runs that are underway are those that have a place. -/
theorem Attached.activeRuns_eq (h : s.Attached) (hc : s.cancelled = false)
    (up : s.tornDown = false) : s.activeRuns = s.jobs.countP Job.hasPlace := by
  refine List.countP_congr fun j hj => ?_
  have running := h hc up j hj
  simp only [Job.isUnderway, Job.hasPlace, Bool.or_eq_true, decide_eq_true_eq]
  exact ⟨fun x => x.elim id running, .inl⟩

/-- A job that gets a place was not asked to stop, and nothing was torn down. -/
theorem unasked_of_start (h : Reachable settings engines widgets s) {k : Nat}
    (hst : step (.start k) s = some t) : t.cancelled = false ∧ t.tornDown = false := by
  cases move_of_start hst with
  | job hj m =>
    cases m with
    | start e hc _ =>
      refine ⟨hc, Bool.eq_false_iff.2 fun down => ?_⟩
      have ended := List.countP_eq_zero.1 (outstanding_of_tornDown h down) _
        (List.mem_of_getElem? hj)
      simp [Job.isOutstanding, e] at ended
  | shutdown _ m => cases m

/-- **No more runs are underway than there are places.** While the jobs were not asked to stop, each
run that is underway has a place; afterwards no run begins. -/
theorem activeRuns_le_poolSize (h : Reachable settings engines widgets s) :
    s.activeRuns ≤ settings.poolSize := by
  refine (Machine.Reaches.invariant
    (P := fun s => Reachable settings engines widgets s ∧ s.activeRuns ≤ settings.poolSize) h
    (fun a s t hst ⟨hs, le⟩ => ?_) ⟨.refl _ _, Nat.zero_le _⟩).2
  have ht : Reachable settings engines widgets t := hs.trans (.single hst)
  refine ⟨ht, ?_⟩
  by_cases start : ∃ k, a = .start k
  · obtain ⟨k, rfl⟩ := start
    obtain ⟨hc, up⟩ := unasked_of_start hs hst
    rw [(attached ht).activeRuns_eq hc up, ← placed ht]
    exact Nat.le_add_left _ _
  · exact Nat.le_trans (activeRuns_le_of_step hst fun k e => start ⟨k, e⟩) le

/-- **Places are conserved, given back once, and bound the runs that are underway.** In every state
the places that are free and those that jobs have are as many as the settings say, and no more runs
are underway, those counted that go on on their threads when their jobs were asked to stop. In a run
in which nothing is torn down each job takes a place at most once, just when its interpreter is
started, and has given it back, once, unless its unit still runs; so has every job that was started
and then ended, failed, panicked or was asked to stop. -/
theorem places_conserved {actions : List SupportAction}
    (h : Machine.run step actions (ofSettings settings engines widgets) = some s) :
    s.free + s.jobs.countP Job.hasPlace = settings.poolSize ∧
    s.jobs.countP Job.isUnderway ≤ settings.poolSize ∧
    (s.tornDown = false → ∀ (k : Nat) (j : Job), s.jobs[k]? = some j →
      placesTaken k actions (ofSettings settings engines widgets) = j.runs ∧ j.runs ≤ 1 ∧
      placesGiven k actions (ofSettings settings engines widgets) + j.hasPlace.toNat = j.runs ∧
      ∀ o, j.returned = [o] → j.runs = 1 ∧
        placesGiven k actions (ofSettings settings engines widgets) = 1) := by
  have reach : Reachable settings engines widgets s := ⟨actions, h⟩
  refine ⟨placed reach, activeRuns_le_poolSize reach, fun up k j hj => ?_⟩
  have start : (ofSettings settings engines widgets).Holding k 0 0 := by
    simp [Holding, ofSettings]
  have account := start.run h up (by simp [ofSettings])
  simp only [Holding, hj, Nat.zero_add] at account
  have run := course reach j (List.mem_of_getElem? hj)
  refine ⟨account.1, run.runs_le, account.2, fun o ho => ?_⟩
  have ran := run.runs_eq ho
  have free : j.hasPlace = false := by
    refine Bool.eq_false_iff.2 fun place => ?_
    have e : j.stage = .running := by simpa [Job.hasPlace] using place
    simp [Job.Course, e, ho] at run
  rw [free] at account
  exact ⟨ran, account.2.trans ran⟩

/-- A job runs to its end; a second one is asked to stop while its script runs, and gives its place
back while the script goes on. -/
def samplePlaces : List SupportAction :=
  sampleSubmit 0 ++ sampleRun 0 ++ sampleSubmit 1 ++ [.start 1, .shutdown .cancel,
    .proceedShutdown 0, .proceedShutdown 0, .proceedShutdown 0, .abandon 1 3]

theorem places_conserved_sample :
    ∃ s j j', Machine.run step samplePlaces sample = some s ∧ s.jobs[0]? = some j ∧
      s.jobs[1]? = some j' ∧ s.tornDown = false ∧ j.returned = [.ok none] ∧ j'.returned = [] ∧
      j'.isExecuting = true ∧ s.free + s.jobs.countP Job.hasPlace = 1 ∧
      s.jobs.countP Job.isUnderway ≤ 1 ∧
      placesGiven 0 samplePlaces sample = 1 ∧ placesTaken 1 samplePlaces sample = j'.runs ∧
      placesGiven 1 samplePlaces sample + j'.hasPlace.toNat = j'.runs := by
  have run : (Machine.run step samplePlaces sample).map (fun s =>
      (s.tornDown, (s.jobs[0]?).map Job.returned,
        (s.jobs[1]?).map fun j => (j.returned, j.isExecuting))) =
      some (false, some [.ok none], some ([], true)) := by decide +kernel
  obtain ⟨s, hr, hs⟩ := Option.map_eq_some_iff.1 run
  simp only [Prod.mk.injEq] at hs
  obtain ⟨up, first, second⟩ := hs
  obtain ⟨j, hj, ok⟩ := Option.map_eq_some_iff.1 first
  obtain ⟨j', hj', asked⟩ := Option.map_eq_some_iff.1 second
  obtain ⟨none, executing⟩ := Prod.mk.inj asked
  obtain ⟨places, bound, jobs⟩ := places_conserved hr
  obtain ⟨-, -, -, once⟩ := jobs up 0 j hj
  obtain ⟨taken, -, given, -⟩ := jobs up 1 j' hj'
  exact ⟨s, j, j', hr, hj, hj', up, ok, none, executing, places, bound, (once _ ok).2, taken,
    given⟩

end Support

end PanelScript

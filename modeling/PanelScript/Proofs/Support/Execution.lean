import PanelScript.Proofs.Support.Fence

/-!
# Scripts that run on their threads

A unit is pending, and its job outstanding, while its script runs, unless the support has asked its
jobs to stop or was torn down. A job that was asked to stop does not wait for its thread.

* `Attached`: jobs wait for the scripts that run, until they are asked to stop;
* `wind_down`: jobs that were asked to stop can all end while their scripts go on;
* `executing_is_pending`: when a script that runs is accounted for, and which reports of a shutdown
  say that no script runs.
-/

namespace PanelScript

/-- How many steps a job takes to its end once it was asked to stop. -/
def Job.stepsLeft (j : Job) : Nat :=
  match j.stage with
  | .waiting | .running => 5
  | .concluding _ _ => 4
  | .releasing _ _ => 3
  | .delivering _ _ => 2
  | .leaving => 1
  | .ended | .lost => 0

theorem Job.isOutstanding_lost (j : Job) :
    ({ j with stage := .lost } : Job).isOutstanding = false := rfl

/-- How many steps jobs take to their ends once they were asked to stop. -/
def Job.totalSteps : List Job → Nat
  | [] => 0
  | j :: jobs => j.stepsLeft + totalSteps jobs

theorem Job.totalSteps_set_lt {jobs : List Job} {k : Nat} {j j' : Job} (h : jobs[k]? = some j)
    (hj : j'.stepsLeft < j.stepsLeft) : totalSteps (jobs.set k j') < totalSteps jobs := by
  induction jobs generalizing k with
  | nil => simp at h
  | cons d jobs ih =>
    cases k with
    | zero =>
      obtain rfl : d = j := by simpa using h
      simpa [totalSteps] using hj
    | succ k =>
      have := ih (by simpa using h)
      simpa [totalSteps] using this

namespace Support

variable {settings : SupportSettings} {engines : PerBackend (Option Engine)}
  {widgets : List Widget} {s : Support}

/-! ### Jobs wait for their scripts -/

/-- Jobs that were not asked to stop wait for the scripts that run. -/
def Attached (s : Support) : Prop :=
  s.cancelled = false → s.tornDown = false →
    ∀ j ∈ s.jobs, j.isExecuting = true → j.stage = .running

theorem Move.cancelled {a : SupportAction} {s t : Support} (m : Move a s t)
    (h : t.cancelled = false) : s.cancelled = false := by
  cases m with
  | submission _ m => exact m.frame.cancelled.symm.trans h
  | job _ m => exact m.frame.cancelled.symm.trans h
  | shutdown _ m =>
    cases m with
    | signal => exact ((Bool.or_eq_false_iff).1 h).1
    | expire => cases h
    | _ => exact h
  | submit | beginShutdown | tearDown => exact h

theorem JobMove.attached {s s' : Support} {a : SupportAction} {k : Nat} {j j' : Job}
    (m : JobMove k s j a j' s') (hc : s.cancelled = false) (up : s.tornDown = false)
    (hs : j.isExecuting = true → j.stage = .running) (hx : j'.isExecuting = true) :
    j'.stage = .running := by
  cases m with
  | start => rfl
  | write => exact hs hx
  | finish => cases hx
  | conclude _ _ _ hw | reply _ _ _ _ hw => simp [Job.isExecuting, hw] at hx
  | giveUp _ _ h | abandon _ _ h => simp [hc] at h
  | tell e | release e | deliver e | leave e =>
    rw [hs hx] at e
    cases e
  | vanish _ down => simp [up] at down

theorem Move.attached {a : SupportAction} {s t : Support} (m : Move a s t) (hs : s.Attached) :
    t.Attached := by
  intro hc up
  have old := hs (m.cancelled hc) (m.tornDown up)
  cases m with
  | submission h m =>
    intro j hj hx
    rcases m.jobs_eq with ⟨stage, hj', -⟩ | ⟨hj', -⟩
    · rcases List.mem_append.1 (hj' ▸ hj : j ∈ s.jobs ++ [_]) with hj | hj
      · exact old j hj hx
      · rw [List.mem_singleton.1 hj] at hx
        cases hx
    · exact old j (hj' ▸ hj) hx
  | job h m =>
    intro d hd hx
    rcases List.mem_or_eq_of_mem_set hd with hd | rfl
    · exact old d hd hx
    · exact m.attached (m.frame.cancelled.symm.trans hc) (Move.tornDown (.job h m) up)
        (old _ (List.mem_of_getElem? h)) hx
  | shutdown h m => exact m.unchanged.2.1 ▸ old
  | submit | beginShutdown => exact old
  | tearDown => cases up

theorem attached (h : Reachable settings engines widgets s) :
    s.Attached :=
  h.of_moves (fun _ _ _ hj => by simp [ofSettings] at hj) fun _ _ _ m => m.attached

/-- The unit of a job that counts as pending is in its lane. -/
theorem LanesExact.isPending {s : Support} (h : s.LanesExact) {j : Job} (hj : j ∈ s.jobs)
    (hp : j.isPending = true) : s.isPending j.unit = true := by
  have some : 0 < s.jobs.countP (Job.holds j.unit.backend j.unit.id) :=
    List.countP_pos_iff.2 ⟨j, hj, by simp [Job.holds, hp]⟩
  have exact := h j.unit.backend j.unit.id
  unfold Support.isPending
  cases hc : (s.lanes.get j.unit.backend).contains j.unit.id with
  | true => rfl
  | false =>
    rw [hc, holders, census, Bool.toNat_false] at exact
    omega

/-! ### Jobs that were asked to stop -/

/-- A job that was asked to stop and has not ended takes a step towards its end, whatever its
thread does. -/
theorem wind_step {s : Support} {k : Nat} {j : Job} (hj : s.jobs[k]? = some j)
    (hc : s.cancelled = true) (ho : j.isOutstanding = true) :
    ∃ (a : SupportAction) (s' : Support) (j' : Job), step a s = some (s'.setJob k j') ∧
      s'.jobs = s.jobs ∧ s'.shutdowns = s.shutdowns ∧ j'.worker = j.worker ∧
      j'.stepsLeft < j.stepsLeft := by
  cases e : j.stage with
  | waiting =>
    refine ⟨.abandon k 0, s, { j with stage := .concluding (.error .cancelled) 0 }, ?_, rfl, rfl,
      rfl, ?_⟩
    · simp [step, abandon, hj, e, hc]
    · simp [Job.stepsLeft, e]
  | running =>
    refine ⟨.abandon k 0, { s with free := s.free + 1 },
      { j with stage := .concluding (.error .cancelled) 0 }, ?_, rfl, rfl, rfl, ?_⟩
    · simp [step, abandon, hj, e, hc]
    · simp [Job.stepsLeft, e]
  | concluding o elapsed =>
    refine ⟨.proceedJob k, s.tell (.ofOutcome j.unit.id j.unit.source j.context.widget.name o),
      { j with stage := .releasing o elapsed }, ?_, rfl, rfl, rfl, ?_⟩
    · simp [step, proceedJob, hj, e]
    · simp [Job.stepsLeft, e]
  | releasing o elapsed =>
    refine ⟨.proceedJob k, s.release j.unit, { j with stage := .delivering o elapsed }, ?_, rfl,
      rfl, rfl, ?_⟩
    · simp [step, proceedJob, hj, e]
    · simp [Job.stepsLeft, e]
  | delivering o elapsed =>
    refine ⟨.proceedJob k, s, { j with
      stage := .leaving
      sent := j.sent ++ [.ofOutcome j.unit.id j.unit.source elapsed o] }, ?_, rfl, rfl, rfl, ?_⟩
    · simp [step, proceedJob, hj, e]
    · simp [Job.stepsLeft, e]
  | leaving =>
    refine ⟨.proceedJob k, s, { j with stage := .ended }, ?_, rfl, rfl, rfl, ?_⟩
    · simp [step, proceedJob, hj, e]
    · simp [Job.stepsLeft, e]
  | ended | lost => simp [Job.isOutstanding, e] at ho

theorem exists_outstanding {s : Support} (h : s.outstanding ≠ 0) :
    ∃ (k : Nat) (j : Job), s.jobs[k]? = some j ∧ j.isOutstanding = true := by
  obtain ⟨j, hj, ho⟩ := List.countP_pos_iff.1 (Nat.pos_of_ne_zero h)
  obtain ⟨k, hk⟩ := List.getElem?_of_mem hj
  exact ⟨k, j, hk, ho⟩

theorem map_worker_set {jobs : List Job} {k : Nat} {j j' : Job} (hj : jobs[k]? = some j)
    (hw : j'.worker = j.worker) : (jobs.set k j').map Job.worker = jobs.map Job.worker := by
  obtain ⟨lt, rfl⟩ := List.getElem?_eq_some_iff.1 hj
  refine List.ext_getElem? fun n => ?_
  rw [List.map_set, List.getElem?_set]
  split
  · rename_i e
    subst e
    simp [hw, lt]
  · rfl

/-- **Jobs that were asked to stop can all end while their scripts go on.** -/
theorem wind_down {s : Support} (hc : s.cancelled = true) :
    ∃ t, Machine.Reaches step s t ∧ t.outstanding = 0 ∧
      t.jobs.map Job.worker = s.jobs.map Job.worker ∧ t.shutdowns = s.shutdowns := by
  -- Each step of a job that is outstanding leaves fewer steps to take.
  induction hn : Job.totalSteps s.jobs using Nat.strongRecOn generalizing s with
  | ind n ih =>
    by_cases ho : s.outstanding = 0
    · exact ⟨s, .refl step s, ho, rfl, rfl⟩
    · obtain ⟨k, j, hj, hk⟩ := exists_outstanding ho
      obtain ⟨a, s', j', ha, ht, hs, hw, hlt⟩ := wind_step hj hc hk
      have fewer : Job.totalSteps (s'.setJob k j').jobs < n := by
        rw [setJob, ht, ← hn]
        exact Job.totalSteps_set_lt hj hlt
      have hc' := true_of_reaches (f := cancelled) (fun _ _ _ m => m.cancelled) (.single ha) hc
      obtain ⟨v, hv, hv0, hvw, hvs⟩ := ih _ fewer hc' rfl
      refine ⟨v, (Machine.Reaches.single ha).trans hv, hv0, ?_, hvs.trans hs⟩
      rw [hvw, setJob, ht, map_worker_set hj hw]

/-- A shutdown that has nothing to wait for closes what is left and returns. -/
theorem close_down {s : Support} {i : Nat} {mode : ShutdownMode} {left : List Backend}
    {timedOut : Bool} (h : s.shutdowns[i]? = some ⟨mode, .closing left timedOut⟩) :
    ∃ t, Machine.Reaches step s t ∧ t.jobs = s.jobs ∧
      t.shutdowns[i]? = some ⟨mode, .returned ⟨timedOut, s.outstanding, false⟩⟩ := by
  have lt := (List.getElem?_eq_some_iff.1 h).1
  induction left generalizing s with
  | nil =>
    refine ⟨s.setShutdown i (.returned ⟨timedOut, s.outstanding, false⟩), .single
      (a := .proceedShutdown i) ?_, ?_, ?_⟩
    · simp [step, proceedShutdown, h]
    · rw [setShutdown_eq h]
    · rw [setShutdown_eq h]
      exact List.getElem?_set_self lt
  | cons b left ih =>
    have next : step (.proceedShutdown i) s =
        some ({ s with
          closings := s.closings.set b (s.closings.get b + 1)
          shutdowns := s.shutdowns.set i ⟨mode, .closing left timedOut⟩ }) := by
      simp [step, proceedShutdown, setShutdown, h]
    obtain ⟨t, ht, hj, hr⟩ := ih (s := { s with
      closings := s.closings.set b (s.closings.get b + 1)
      shutdowns := s.shutdowns.set i ⟨mode, .closing left timedOut⟩ })
      (List.getElem?_set_self lt) (by simpa using lt)
    exact ⟨t, (Machine.Reaches.single next).trans ht, hj, hr⟩

/-! ### Teardown -/

/-- A job that vanishes leaves the others as they are. -/
theorem getElem?_vanish (s : Support) (k n : Nat) :
    (s.vanish k).jobs[n]? = (s.jobs[n]?).map fun j =>
      if n = k ∧ j.isOutstanding = true then { j with stage := .lost } else j := by
  by_cases hn : n = k
  · subst hn
    cases h : s.jobs[n]? with
    | none => simp [vanish, h]
    | some j =>
      have lt := (List.getElem?_eq_some_iff.1 h).1
      cases ho : j.isOutstanding with
      | false => simp [vanish, h, ho]
      | true =>
        simp only [vanish, h, ho, if_true, setJob, Option.map_some]
        cases j.hasPlace <;> cases j.isPending <;> exact List.getElem?_set_self lt
  · simp only [hn, false_and, if_false, Option.map_id']
    unfold vanish
    split
    · split
      · rename_i j _ _
        simp only [setJob]
        cases j.hasPlace <;> cases j.isPending <;> exact List.getElem?_set_ne fun e => hn e.symm
      · rfl
    · rfl

theorem getElem?_foldl_vanish (ks : List Nat) (s : Support) (n : Nat) :
    (ks.foldl vanish s).jobs[n]? = (s.jobs[n]?).map fun j =>
      if n ∈ ks ∧ j.isOutstanding = true then { j with stage := .lost } else j := by
  induction ks generalizing s with
  | nil => simp
  | cons k ks ih =>
    rw [List.foldl_cons, ih, getElem?_vanish, Option.map_map]
    refine Option.map_congr fun j _ => ?_
    by_cases hn : n = k <;> by_cases hk : n ∈ ks <;> cases ho : j.isOutstanding <;>
      simp [hn, hk, ho, Job.isOutstanding_lost]

theorem getElem?_tearDown (s : Support) (n : Nat) :
    s.tearDown.jobs[n]? = (s.jobs[n]?).map fun j =>
      if j.isOutstanding = true then { j with stage := .lost } else j := by
  rw [tearDown, getElem?_foldl_vanish]
  refine Option.map_congr fun j hj => ?_
  have lt := (List.getElem?_eq_some_iff.1 hj).1
  simp [lt]

/-- **A teardown ends the jobs and not the scripts on their threads.** -/
theorem tearDown_jobs (s : Support) :
    s.tearDown.outstanding = 0 ∧ s.tearDown.jobs.map Job.worker = s.jobs.map Job.worker := by
  constructor
  · refine List.countP_eq_zero.2 fun d hd => ?_
    obtain ⟨n, hn⟩ := List.getElem?_of_mem hd
    rw [getElem?_tearDown, Option.map_eq_some_iff] at hn
    obtain ⟨j, -, rfl⟩ := hn
    cases ho : j.isOutstanding <;> simp [ho, Job.isOutstanding_lost]
  · refine List.ext_getElem? fun n => ?_
    rw [List.getElem?_map, getElem?_tearDown, List.getElem?_map, Option.map_map]
    refine Option.map_congr fun j _ => ?_
    cases ho : j.isOutstanding <;> simp [ho]

/-- The unit of a job that was pending by it is not pending after a teardown. -/
theorem not_isPending_tearDown {s : Support} (hl : s.LanesExact) {j : Job} (hj : j ∈ s.jobs)
    (hp : j.isPending = true) : s.tearDown.isPending j.unit = false := by
  have exact : s.tearDown.LanesExact :=
    kept_of_step (fun _ _ m => m.lanesExact) (a := .tearDown) rfl hl
  have one := hl.holders_le_one j.unit.backend j.unit.id
  have mine : 0 < s.jobs.countP (Job.holds j.unit.backend j.unit.id) :=
    List.countP_pos_iff.2 ⟨j, hj, by simp [Job.holds, hp]⟩
  have none : s.tearDown.jobs.countP (Job.holds j.unit.backend j.unit.id) = 0 := by
    refine List.countP_eq_zero.2 fun d hd hh => ?_
    have ended := List.countP_eq_zero.1 (tearDown_jobs s).1 d hd
    cases e : d.stage <;> simp_all [Job.holds, Job.isPending, Job.isOutstanding]
  have here := exact j.unit.backend j.unit.id
  unfold Support.isPending
  cases hc : (s.tearDown.lanes.get j.unit.backend).contains j.unit.id with
  | false => rfl
  | true =>
    rw [hc, holders, census, submissions_tearDown, none, Bool.toNat_true] at here
    rw [holders, census] at one
    omega

/-! ### Nothing runs any more -/

/-- Nothing is let in, no job is outstanding, and no script runs. -/
structure Still (s : Support) : Prop where
  calm : s.Calm
  outstanding : s.outstanding = 0
  scripts : ∀ j ∈ s.jobs, j.isExecuting = false

/-- A job moves only while it is outstanding or its script runs. -/
theorem JobMove.alive {s s' : Support} {a : SupportAction} {k : Nat} {j j' : Job}
    (m : JobMove k s j a j' s') : j.isOutstanding = true ∨ j.isExecuting = true := by
  cases m with
  | write _ _ hx | finish _ hx => exact .inr hx
  | vanish e => exact .inl e
  | start e | giveUp _ e | conclude _ _ e | reply _ _ _ e | abandon _ e | tell e | release e
  | deliver e | leave e => simp [Job.isOutstanding, e]

theorem Move.still {a : SupportAction} {s t : Support} (m : Move a s t) (hs : s.Still) :
    t.Still := by
  have calm := m.calm hs.calm
  have none : t.outstanding = 0 := by
    have := calm.2.outstanding
    have := hs.outstanding
    omega
  refine ⟨calm.1, none, ?_⟩
  cases m with
  | submission h m =>
    obtain ⟨-, rfl⟩ := m.rejects (hs.calm.submissions _ (List.mem_of_getElem? h))
    exact hs.scripts
  | job h m =>
    have hj := List.mem_of_getElem? h
    rcases m.alive with ho | hx
    · exact absurd ho (List.countP_eq_zero.1 hs.outstanding _ hj)
    · rw [hs.scripts _ hj] at hx
      cases hx
  | shutdown h m => exact m.unchanged.2.1 ▸ hs.scripts
  | submit | beginShutdown | tearDown => exact hs.scripts

/-- While nothing was asked to stop, no script runs without a job that is outstanding. -/
theorem Attached.still {s : Support} (h : s.Attached) (hs : s.Calm) (hc : s.cancelled = false)
    (up : s.tornDown = false) (ho : s.outstanding = 0) : s.Still := by
  refine ⟨hs, ho, fun j hj => ?_⟩
  cases hx : j.isExecuting with
  | false => rfl
  | true =>
    have ended := List.countP_eq_zero.1 ho j hj
    simp [Job.isOutstanding, h hc up j hj hx] at ended

/-! ### Scripts that run and what is said of them -/

/-- A shutdown that is not one of those that came too late leads. -/
theorem ledBy_of_leads (h : Reachable settings engines widgets s) {c : Shutdown}
    (hc : c ∈ s.shutdowns) (leads : c.leads = true) : s.Calm ∧ s.LedBy c := by
  rcases open_or_led h with hs | ⟨i, hs⟩
  · simp [Shutdown.leads, hs.shutdowns c hc] at leads
  · obtain ⟨n, hn⟩ := List.getElem?_of_mem hc
    obtain ⟨d, hd, led⟩ := hs.leader
    by_cases e : n = i
    · subst e
      obtain rfl : c = d := Option.some.inj (hn.symm.trans hd)
      exact ⟨hs.calm, led⟩
    · rw [hs.others n c e hn] at leads
      cases leads

/-- Behind a shutdown that waited for the jobs and was in time, nothing runs. -/
theorem still_of_drain (h : Reachable settings engines widgets s) {c : Shutdown}
    (hc : c ∈ s.shutdowns) (mode : c.mode = .drain) {report : ShutdownReport}
    (hr : c.stage = .returned report) (first : report.alreadyShutDown = false)
    (inTime : report.timedOut = false) (up : s.tornDown = false) : s.Still := by
  obtain ⟨calm, led⟩ := ledBy_of_leads h hc (by simp [Shutdown.leads, hr, first])
  have ho : s.outstanding = 0 := led.drained (by simp [Shutdown.hasDrained, hr, first, inTime])
  have hn : s.cancelled = false := by
    rw [led.asked]
    simp [Shutdown.hasAsked, hr, inTime, mode]
  exact (attached h).still calm hn up ho

/-- When the jobs were asked to stop, they can all end while their scripts go on, and then nothing
is pending. -/
theorem exists_wound_down (h : Reachable settings engines widgets s) (hc : s.cancelled = true) :
    ∃ t, Machine.Reaches step s t ∧ t.jobs.map Job.worker = s.jobs.map Job.worker ∧
      t.outstanding = 0 ∧ ∀ u, t.isPending u = false := by
  have calm : s.Calm := by
    rcases open_or_led h with hs | ⟨_, hs⟩
    · rw [hs.cancelled] at hc
      cases hc
    · exact hs.calm
  obtain ⟨t, hst, ho, hw, -⟩ := wind_down hc
  refine ⟨t, hst, hw, ho, fun u => ?_⟩
  have empty := (lanes_exact (h.trans hst)).empty (calm.reaches hst).1 ho u.backend
  simp [Support.isPending, Lane.contains, empty]

/-- A shutdown that asked the jobs to stop can return while their scripts go on. -/
theorem exists_returned (h : Reachable settings engines widgets s) {i : Nat}
    (hi : s.shutdowns[i]? = some ⟨.cancel, .draining⟩) :
    ∃ t, Machine.Reaches step s t ∧ t.jobs.map Job.worker = s.jobs.map Job.worker ∧
      t.shutdowns[i]? = some ⟨.cancel, .returned ⟨false, 0, false⟩⟩ := by
  have led := (ledBy_of_leads h (List.mem_of_getElem? hi) rfl).2
  obtain ⟨t, hst, ho, hw, hsd⟩ := wind_down (led.asked.trans rfl)
  have hi' : t.shutdowns[i]? = some ⟨.cancel, .draining⟩ := hsd ▸ hi
  have drained : step (.proceedShutdown i) t =
      some { t with shutdowns := t.shutdowns.set i ⟨.cancel, .closing t.backends false⟩ } := by
    simp [step, proceedShutdown, setShutdown, hi', ho]
  obtain ⟨v, htv, hj, hv⟩ := close_down
    (s := { t with shutdowns := t.shutdowns.set i ⟨.cancel, .closing t.backends false⟩ })
    (List.getElem?_set_self (List.getElem?_eq_some_iff.1 hi').1)
  refine ⟨v, hst.trans ((Machine.Reaches.single drained).trans htv), by rw [hj, hw], ?_⟩
  rw [hv]
  exact congrArg (fun n => some (Shutdown.mk .cancel (.returned ⟨false, n, false⟩))) ho

/-- **A unit is pending, and its job outstanding, while its script runs, if the jobs were not asked
to stop and the support was not torn down.** Jobs that were asked to stop can all end, and jobs that
are torn down do, while every script that runs goes on. So no script runs behind a shutdown that
waited for the jobs and was in time, and every script can still run behind one that asked them to
stop. -/
theorem executing_is_pending (h : Reachable settings engines widgets s) :
    (∀ j ∈ s.jobs, j.isExecuting = true → s.cancelled = false → s.tornDown = false →
      s.isPending j.unit = true ∧ j.isOutstanding = true) ∧
    (s.cancelled = true → ∃ t, Machine.Reaches step s t ∧
      t.jobs.map Job.worker = s.jobs.map Job.worker ∧ t.outstanding = 0 ∧
      ∀ u, t.isPending u = false) ∧
    (s.tearDown.jobs.map Job.worker = s.jobs.map Job.worker ∧ s.tearDown.outstanding = 0 ∧
      ∀ j ∈ s.jobs, j.isPending = true → s.tearDown.isPending j.unit = false) ∧
    (∀ c ∈ s.shutdowns, ∀ report, c.mode = .drain → c.stage = .returned report →
      report.alreadyShutDown = false → report.timedOut = false → s.tornDown = false →
      ∀ v, Machine.Reaches step s v → ∀ j ∈ v.jobs, j.isExecuting = false) ∧
    (∀ i : Nat, s.shutdowns[i]? = some ⟨.cancel, .draining⟩ → ∃ t, Machine.Reaches step s t ∧
      t.jobs.map Job.worker = s.jobs.map Job.worker ∧
      t.shutdowns[i]? = some ⟨.cancel, .returned ⟨false, 0, false⟩⟩) := by
  have lanes := lanes_exact h
  refine ⟨fun j hj hx hc up => ?_, exists_wound_down h, ?_,
    fun c hc report hm hr hf ht up v hv => ?_, fun i => exists_returned h⟩
  · have running := attached h hc up j hj hx
    exact ⟨lanes.isPending hj (by simp [Job.isPending, running]),
      by simp [Job.isOutstanding, running]⟩
  · obtain ⟨ho, hw⟩ := tearDown_jobs s
    exact ⟨hw, ho, fun j hj => not_isPending_tearDown lanes hj⟩
  · have still := still_of_drain h hc hm hr hf ht up
    exact (kept_of_reaches (fun _ _ _ m => m.still) hv still).scripts

/-- A script runs and its job is asked to stop. -/
def sampleCancel : List SupportAction :=
  sampleSubmit 0 ++ [.start 0, .shutdown .cancel, .proceedShutdown 0, .proceedShutdown 0,
    .proceedShutdown 0, .abandon 0 3, .proceedJob 0, .proceedJob 0, .proceedJob 0, .proceedJob 0,
    .proceedShutdown 0, .proceedShutdown 0, .proceedShutdown 0]

theorem executing_is_pending_sample :
    ∃ s, Machine.run step (sampleSubmit 0 ++ [.start 0]) sample = some s ∧
      ∀ j ∈ s.jobs, j.isExecuting = true → s.isPending j.unit = true ∧ j.isOutstanding = true := by
  have run : (Machine.run step (sampleSubmit 0 ++ [.start 0]) sample).map (fun s =>
      (s.cancelled, s.tornDown)) = some (false, false) := by decide +kernel
  obtain ⟨s, hr, hs⟩ := Option.map_eq_some_iff.1 run
  simp only [Prod.mk.injEq] at hs
  exact ⟨s, hr, fun j hj hx => (executing_is_pending ⟨_, hr⟩).1 j hj hx hs.1 hs.2⟩

/-- Behind a shutdown that reports that it was in time a script runs, and writes; and a script runs
after a teardown. -/
theorem not_pending_while_executing :
    (∃ s t, Machine.run step sampleCancel sample = some s ∧
      s.shutdowns.map Shutdown.stage = [.returned ⟨false, 0, false⟩] ∧
      s.jobs.map Job.isExecuting = [true] ∧ s.outstanding = 0 ∧ s.isPending sampleUnit = false ∧
      step (.write 0 "text" (.str "late")) s = some t ∧
      t.widgets.map (·.property? "text") = [some (.str "late")]) ∧
    ∃ s, Machine.run step (sampleSubmit 0 ++ [.start 0, .tearDown]) sample = some s ∧
      s.jobs.map Job.isExecuting = [true] ∧ s.outstanding = 0 ∧ s.isPending sampleUnit = false := by
  constructor
  · have run : (Machine.run step sampleCancel sample).map (fun s =>
        (s.shutdowns.map Shutdown.stage, s.jobs.map Job.isExecuting, s.outstanding,
          s.isPending sampleUnit)) =
        some ([.returned ⟨false, 0, false⟩], [true], 0, false) := by decide +kernel
    have write : ((Machine.run step sampleCancel sample).bind
        (step (.write 0 "text" (.str "late")))).map (fun t =>
          t.widgets.map (·.property? "text")) = some [some (.str "late")] := by decide +kernel
    obtain ⟨s, hr, hs⟩ := Option.map_eq_some_iff.1 run
    simp only [Prod.mk.injEq] at hs
    obtain ⟨stages, executing, outstanding, pending⟩ := hs
    rw [hr] at write
    obtain ⟨t, ht, text⟩ := Option.map_eq_some_iff.1 write
    exact ⟨s, t, hr, stages, executing, outstanding, pending, ht, text⟩
  · have run : (Machine.run step (sampleSubmit 0 ++ [.start 0, .tearDown]) sample).map (fun s =>
        (s.jobs.map Job.isExecuting, s.outstanding, s.isPending sampleUnit)) =
        some ([true], 0, false) := by decide +kernel
    obtain ⟨s, hr, hs⟩ := Option.map_eq_some_iff.1 run
    simp only [Prod.mk.injEq] at hs
    exact ⟨s, hr, hs⟩

end Support

end PanelScript

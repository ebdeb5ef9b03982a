import PanelScript.Proofs.Support.Places
import PanelScript.Proofs.Support.Report

/-!
# A shutdown that drains loses no result

A job sends what its interpreter yielded, unless the jobs were asked to stop. A shutdown that waits
for the jobs, and is in time, asks nobody to stop.

* `yields` are the outcomes that the interpreter of a job yields in a run;
* `Job.Served` compares them with what the job has taken over, and `Served.run` keeps it;
* `Job.Honest`: what a job is about to send or has sent is what it has taken over, unless the jobs
  were asked to stop;
* `AskedIn` is the place in a run where the jobs were asked to stop, and by whom;
* `drain_loses_nothing`: behind a shutdown that drained, each job has run once and sent its outcome.
-/

namespace PanelScript

/-- The outcome that the interpreter of a job yields by an action: its script ends on its thread, or
an interpreter within the job returns. -/
def SupportAction.yield? (job : Nat) : SupportAction → Option Outcome
  | .finish k o | .reply k o _ _ => if k = job then some o else none
  | _ => none

namespace Job

/-- The interpreter of a job has yielded `os`: nothing while it runs, and after that what the job
has taken over or can take over. -/
def Served (os : List Outcome) (j : Job) : Prop :=
  match j.worker with
  | .none => os = j.returned
  | .executing => os = [] ∧ j.returned = []
  | .done o => os = [o] ∧ (j.returned = [] ∨ j.returned = [o])

/-- The outcome that a job is about to tell and send. -/
def pending? (j : Job) : Option Outcome :=
  match j.stage with
  | .concluding o _ | .releasing o _ | .delivering o _ => some o
  | _ => none

/-- What a job is about to send or has sent is what it has taken over, unless it was asked to
stop. -/
def Honest (asked : Bool) (j : Job) : Prop :=
  (∀ o, j.pending? = some o → j.returned = [o] ∨ asked = true) ∧
    ∀ r ∈ j.sent, ∃ o elapsed, r = j.result o elapsed ∧ (j.returned = [o] ∨ asked = true)

theorem Honest.mono {asked asked' : Bool} {j : Job} (h : j.Honest asked)
    (le : asked = true → asked' = true) : j.Honest asked' := by
  refine ⟨fun o ho => (h.1 o ho).imp_right le, fun r hr => ?_⟩
  obtain ⟨o, elapsed, e, own⟩ := h.2 r hr
  exact ⟨o, elapsed, e, own.imp_right le⟩

theorem Served.of_returned {os : List Outcome} {o : Outcome} {j : Job} (h : j.Served os)
    (hr : j.returned = [o]) : os = [o] := by
  unfold Served at h
  split at h <;> simp_all

/-- The failure of a result is that of the outcome. -/
theorem eq_cancelled_of_result {j : Job} {o : Outcome} {elapsed : Nat}
    (h : (j.result o elapsed).failure = some .cancelled) : o = .error .cancelled := by
  cases o with
  | ok => cases h
  | error f => exact congrArg Except.error (Option.some.inj h)

end Job

namespace Support

variable {settings : SupportSettings} {engines : PerBackend (Option Engine)}
  {widgets : List Widget} {s t : Support} {a : SupportAction}

/-- The outcomes that the interpreter of a job yields in a run. -/
def yields (job : Nat) (actions : List SupportAction) : List Outcome :=
  actions.filterMap (SupportAction.yield? job)

/-! ### What an interpreter yields -/

/-- The interpreter of a job, if there is such a job, has yielded `os`. -/
def Served (k : Nat) (os : List Outcome) (s : Support) : Prop :=
  match s.jobs[k]? with
  | some j => j.Served os
  | none => os = []

theorem Served.of_eq {k : Nat} {os : List Outcome} (h : s.Served k os)
    (e : t.jobs[k]? = s.jobs[k]?) : t.Served k os := by
  unfold Served at *
  rwa [e]

theorem yield?_eq_none {job : Nat} (h : a.job? ≠ some job) : a.yield? job = none := by
  cases a <;> simp_all [SupportAction.yield?, SupportAction.job?]

theorem JobMove.served {s s' : Support} {k : Nat} {j j' : Job} {os : List Outcome}
    (m : JobMove k s j a j' s') (course : j.Course) (h : j.Served os) :
    j'.Served (os ++ (a.yield? k).toList) := by
  have none : os ++ (Option.none : Option Outcome).toList = os := List.append_nil os
  cases m with
  | start e =>
    simp only [Job.Course, e] at course
    simp only [Job.Served, course.2.1, course.2.2] at h
    simp only [SupportAction.yield?, none, Job.Served]
    by_cases thread : s.engines.get j.unit.backend = some Engine.worker
    · rw [if_pos thread]
      exact ⟨h, course.2.2⟩
    · rw [if_neg thread]
      exact h.trans course.2.2.symm
  | write | giveUp | abandon | tell | release | deliver | leave | vanish =>
    simp only [SupportAction.yield?, none]
    exact h
  | finish o x =>
    have x : j.worker = .executing := by simpa [Job.isExecuting] using x
    simp only [Job.Served, x] at h
    obtain ⟨rfl, hr⟩ := h
    simp only [SupportAction.yield?, if_true]
    exact ⟨rfl, .inl hr⟩
  | conclude o _ e hw =>
    simp only [Job.Course, e] at course
    simp only [Job.Served, hw] at h
    simp only [SupportAction.yield?, none, Job.Served, hw, course.2, List.nil_append, or_true,
      and_true]
    exact h.1
  | reply o _ _ _ hw =>
    simp only [Job.Served, hw] at h
    simp only [SupportAction.yield?, if_true, Job.Served, hw, h]
    rfl

theorem Move.served {k : Nat} {os : List Outcome} (m : Move a s t)
    (course : ∀ j ∈ s.jobs, j.Course) (hs : s.Served k os) :
    t.Served k (os ++ (a.yield? k).toList) := by
  rcases m.job_cases k with ⟨other, same⟩ | ⟨other, fresh, u, c, stage, found, -⟩ |
    ⟨j, j', s', hj, own, rfl⟩
  · rw [yield?_eq_none other, Option.toList_none, List.append_nil]
    exact hs.of_eq same
  · obtain rfl : os = [] := by simpa only [Served, fresh] using hs
    rw [yield?_eq_none other]
    simp only [Served, found]
    rfl
  · simp only [Served, hj] at hs
    simp only [Served, List.getElem?_set_self (List.getElem?_eq_some_iff.1 hj).1]
    exact own.served (course j (List.mem_of_getElem? hj)) hs

theorem served_of_step {k : Nat} {os : List Outcome} (h : step a s = some t)
    (course : ∀ j ∈ s.jobs, j.Course) (hs : s.Served k os) :
    t.Served k (os ++ (a.yield? k).toList) := by
  by_cases ha : a = .tearDown
  · -- A teardown is several moves, and nothing is yielded by any of them.
    subst ha
    have none : os ++ (SupportAction.tearDown.yield? k).toList = os := List.append_nil os
    rw [none]
    refine (kept_of_step (P := fun t => (∀ j ∈ t.jobs, j.Course) ∧ t.Served k os)
      (fun u v m ⟨hc, hu⟩ => ⟨m.course hc, ?_⟩) h ⟨course, hs⟩).2
    have := m.served hc hu
    rwa [none] at this
  · exact (move_of_step h ha).served course hs

theorem course_of_step (h : step a s = some t) (hs : ∀ j ∈ s.jobs, j.Course) :
    ∀ j ∈ t.jobs, j.Course :=
  kept_of_step (P := fun s => ∀ j ∈ s.jobs, j.Course) (fun _ _ m => m.course) h hs

/-- In a run the account of what an interpreter yields is kept. -/
theorem Served.run {actions : List SupportAction} {s v : Support} {k : Nat} {os : List Outcome}
    (h : Machine.run step actions s = some v) (course : ∀ j ∈ s.jobs, j.Course)
    (hs : s.Served k os) : v.Served k (os ++ yields k actions) := by
  induction actions generalizing s os with
  | nil =>
    obtain rfl : s = v := Option.some.inj h
    rwa [yields, List.filterMap_nil, List.append_nil]
  | cons a actions ih =>
    rw [Machine.run_cons, Option.bind_eq_some_iff] at h
    obtain ⟨t, ha, ht⟩ := h
    have := ih ht (course_of_step ha course) (served_of_step ha course hs)
    have split : yields k (a :: actions) = (a.yield? k).toList ++ yields k actions := by
      unfold yields
      rw [List.filterMap_cons]
      split <;> rename_i e <;> rw [e] <;> rfl
    rwa [split, ← List.append_assoc]

/-- What the interpreter of a job has yielded since the support was new. -/
theorem served {actions : List SupportAction}
    (h : Machine.run step actions (ofSettings settings engines widgets) = some s) {k : Nat}
    {j : Job} (hj : s.jobs[k]? = some j) : j.Served (yields k actions) := by
  have start : (ofSettings settings engines widgets).Served k [] := by
    simp [Served, ofSettings]
  have := start.run h (by simp [ofSettings])
  simpa only [Served, hj, List.nil_append] using this

/-! ### What a job sends -/

theorem JobMove.honest {s s' : Support} {k : Nat} {j j' : Job} (m : JobMove k s j a j' s')
    (course : j.Course) (h : j.Honest s.cancelled) : j'.Honest s.cancelled := by
  obtain ⟨about, sent⟩ := h
  cases m with
  | write => exact ⟨about, sent⟩
  | finish => exact ⟨about, sent⟩
  | start | leave | vanish =>
    refine ⟨fun o ho => ?_, sent⟩
    cases ho
  | conclude o _ e | reply o _ _ e =>
    simp only [Job.Course, e] at course
    simp only [course.2] at sent
    refine ⟨fun o' ho => .inl ?_, fun r hr => ?_⟩
    · obtain rfl : o = o' := Option.some.inj ho
      rw [course.2, List.nil_append]
    · obtain ⟨o', elapsed, er, own⟩ := sent r hr
      refine ⟨o', elapsed, er, own.imp_left fun none => ?_⟩
      cases none
  | giveUp _ _ hc | abandon _ _ hc => exact ⟨fun _ _ => .inr hc, sent⟩
  | tell e | release e =>
    exact ⟨fun o' ho => about o' (by simpa only [Job.pending?, e] using ho), sent⟩
  | deliver e =>
    refine ⟨fun o ho => ?_, fun r hr => ?_⟩
    · cases ho
    · rcases List.mem_append.1 hr with hr | hr
      · exact sent r hr
      · obtain rfl := List.mem_singleton.1 hr
        exact ⟨_, _, rfl, about _ (by simp only [Job.pending?, e])⟩

theorem Move.honest (m : Move a s t) (course : ∀ j ∈ s.jobs, j.Course)
    (hs : ∀ j ∈ s.jobs, j.Honest s.cancelled) : ∀ j ∈ t.jobs, j.Honest t.cancelled := by
  have le : s.cancelled = true → t.cancelled = true := fun asked => by
    cases ht : t.cancelled with
    | true => rfl
    | false =>
      rw [m.cancelled ht] at asked
      cases asked
  intro j hj
  obtain ⟨k, hk⟩ := List.getElem?_of_mem hj
  rcases m.job_cases k with
    ⟨-, same⟩ | ⟨-, -, u, c, stage, found, waits⟩ | ⟨d, d', s', hd, own, rfl⟩
  · exact (hs j (List.mem_of_getElem? (same.symm.trans hk))).mono le
  · obtain rfl := Option.some.inj (found.symm.trans hk)
    refine ⟨fun o ho => ?_, nofun⟩
    rcases waits with rfl | ⟨rfl, -⟩ <;> cases ho
  · obtain rfl := Option.some.inj
      ((List.getElem?_set_self (List.getElem?_eq_some_iff.1 hd).1).symm.trans hk)
    have hd := List.mem_of_getElem? hd
    exact (own.honest (course d hd) (hs d hd)).mono le

theorem honest (h : Reachable settings engines widgets s) : ∀ j ∈ s.jobs, j.Honest s.cancelled :=
  (h.of_moves
    (P := fun s => (∀ j ∈ s.jobs, j.Course) ∧ ∀ j ∈ s.jobs, j.Honest s.cancelled)
    (by simp [ofSettings])
    fun _ _ _ m hs => ⟨m.course hs.1, m.honest hs.1 hs.2⟩).2

/-! ### Who asks the jobs to stop -/

/-- By this action the jobs are asked to stop: a shutdown of the mode for it says so, or one has
waited for jobs that are outstanding as long as it may. -/
def Asks (s : Support) : SupportAction → Prop
  | .proceedShutdown i => s.shutdowns[i]? = some ⟨.cancel, .signalling⟩
  | .expire i => (∃ mode, s.shutdowns[i]? = some ⟨mode, .draining⟩) ∧ s.outstanding ≠ 0
  | _ => False

/-- The jobs were asked to stop at some place of a run. -/
def AskedIn (actions : List SupportAction) (first : Support) : Prop :=
  ∃ before a after u, actions = before ++ a :: after ∧
    Machine.run step before first = some u ∧ u.cancelled = false ∧ u.Asks a

theorem Move.asks (m : Move a s t) (hs : s.cancelled = false) (ht : t.cancelled = true) :
    s.Asks a := by
  have absurd {c : Bool} (e : c = s.cancelled) (hc : c = true) : s.Asks a := by
    rw [e, hs] at hc
    cases hc
  cases m with
  | submission _ m => exact absurd m.frame.cancelled ht
  | job _ m => exact absurd m.frame.cancelled ht
  | shutdown h m =>
    rename_i i c c'
    cases m with
    | signal e =>
      have mode : c.mode = .cancel := by simpa [hs] using ht
      obtain ⟨mode, stage⟩ := c
      subst e
      subst mode
      exact h
    | expire e ho =>
      obtain ⟨mode, stage⟩ := c
      subst e
      exact ⟨⟨mode, h⟩, ho⟩
    | _ => exact absurd rfl ht
  | submit | beginShutdown | tearDown => exact absurd rfl ht

theorem asks_of_step (h : step a s = some t) (hs : s.cancelled = false) (ht : t.cancelled = true) :
    s.Asks a := by
  by_cases ha : a = .tearDown
  · subst ha
    have same : t.cancelled = s.cancelled := by
      refine kept_of_step (P := fun t => t.cancelled = s.cancelled) (a := .tearDown)
        (fun u v m hu => ?_) h rfl
      cases m with
      | job _ m => exact m.frame.cancelled.trans hu
      | shutdown _ m => cases m
      | tearDown => exact hu
    rw [same, hs] at ht
    cases ht
  · exact (move_of_step h ha).asks hs ht

/-- The jobs that were asked to stop in the end were asked in the run. -/
theorem askedIn_of_run {actions : List SupportAction} {s v : Support}
    (h : Machine.run step actions s = some v) (hs : s.cancelled = false) (hv : v.cancelled = true) :
    AskedIn actions s := by
  induction actions generalizing s with
  | nil =>
    obtain rfl := Option.some.inj h
    rw [hs] at hv
    cases hv
  | cons a actions ih =>
    rw [Machine.run_cons, Option.bind_eq_some_iff] at h
    obtain ⟨t, ha, ht⟩ := h
    cases asked : t.cancelled with
    | true => exact ⟨[], a, actions, s, rfl, rfl, hs, asks_of_step ha hs asked⟩
    | false =>
      obtain ⟨before, b, after, u, rfl, hu, rest⟩ := ih ht asked
      exact ⟨a :: before, b, after, u, rfl, by rw [Machine.run_cons, ha]; exact hu, rest⟩

/-- A shutdown that waited for the jobs, and was in time, has asked nobody to stop. -/
theorem not_cancelled_of_drain (h : Reachable settings engines widgets s) {c : Shutdown}
    (hc : c ∈ s.shutdowns) (mode : c.mode = .drain) {report : ShutdownReport}
    (hr : c.stage = .returned report) (first : report.alreadyShutDown = false)
    (inTime : report.timedOut = false) : s.cancelled = false := by
  obtain ⟨-, led⟩ := ledBy_of_leads h hc (by simp [Shutdown.leads, hr, first])
  rw [led.asked]
  simp [Shutdown.hasAsked, hr, inTime, mode]

/-- A job that ended, and was not asked to stop, has run once and has sent what its interpreter
yielded, once. -/
theorem result_of_ended {actions : List SupportAction}
    (h : Machine.run step actions (ofSettings settings engines widgets) = some s)
    (up : s.tornDown = false) (hc : s.cancelled = false) {k : Nat} {j : Job}
    (hj : s.jobs[k]? = some j) (finished : j.isOutstanding = false) :
    j.stage = .ended ∧ j.runs = 1 ∧
      ∃ o elapsed, yields k actions = [o] ∧ j.sent = [j.result o elapsed] := by
  have reach : Reachable settings engines widgets s := ⟨actions, h⟩
  have mem := List.mem_of_getElem? hj
  have record : j.Record (told k actions (ofSettings settings engines widgets)) := by
    have start : (ofSettings settings engines widgets).Recorded k [] := by
      simp [Recorded, ofSettings]
    simpa only [List.nil_append] using (start.run h up).record hj
  unfold Job.Record at record
  cases e : j.stage with
  | ended =>
    simp only [e] at record
    obtain ⟨o, elapsed, -, sent, yielded⟩ := record
    -- What was sent is what was taken over, so it is no cancellation of the support.
    obtain ⟨o', elapsed', same, own⟩ := (honest reach j mem).2 (j.result o elapsed) (by simp [sent])
    have own : j.returned = [o'] := own.resolve_right (by simp [hc])
    have returned : j.returned = [o] := by
      rcases yielded with returned | ⟨none, -⟩
      · exact returned
      · rw [own] at none
        cases none
    exact ⟨rfl, (course reach j mem).runs_eq returned, o, elapsed,
      (served h hj).of_returned returned, sent⟩
  | lost => simp only [e] at record
  | _ => simp [Job.isOutstanding, e] at finished

/-- A cancellation that a job is about to send, or has sent, was yielded by its interpreter, unless
the jobs were asked to stop. -/
theorem mem_yields_of_cancelled {actions : List SupportAction}
    (h : Machine.run step actions (ofSettings settings engines widgets) = some s)
    (hc : s.cancelled = false) {k : Nat} {j : Job} (hj : s.jobs[k]? = some j)
    (sends : (∃ elapsed, j.stage = .delivering (.error .cancelled) elapsed) ∨
      ∃ r ∈ j.sent, r.failure = some .cancelled) :
    .error .cancelled ∈ yields k actions := by
  have own : j.returned = [.error .cancelled] := by
    have honest := honest ⟨actions, h⟩ j (List.mem_of_getElem? hj)
    rcases sends with ⟨elapsed, e⟩ | ⟨r, hr, failed⟩
    · exact (honest.1 _ (by simp only [Job.pending?, e])).resolve_right (by simp [hc])
    · obtain ⟨o, elapsed, rfl, own⟩ := honest.2 r hr
      obtain rfl := Job.eq_cancelled_of_result failed
      exact own.resolve_right (by simp [hc])
  rw [(served h hj).of_returned own]
  exact List.mem_singleton_self _

/-- **A shutdown that drains loses no result.** In a run in which nothing is torn down and a
shutdown that lets the jobs end came in first and reports that it was in time, each submission that
was scheduled has a job that was started once, whose interpreter yielded one outcome, a value, a
failure or a panic, and that has sent this outcome and nothing else. In every run, a job that is
about to send, or has sent, that it was cancelled, though its interpreter yielded no such thing, was
asked to stop before: by a shutdown of the mode for it, or by one that had waited long enough. -/
theorem drain_loses_nothing {actions : List SupportAction}
    (h : Machine.run step actions (ofSettings settings engines widgets) = some s) :
    (s.tornDown = false → ∀ c ∈ s.shutdowns, ∀ report, c.mode = .drain →
      c.stage = .returned report → report.alreadyShutDown = false → report.timedOut = false →
      ∀ d ∈ s.submissions, ∀ k, d.stage = .returned (.scheduled k) →
        ∃ j o elapsed, s.jobs[k]? = some j ∧ j.unit = d.unit ∧ j.context = d.context ∧
          j.stage = .ended ∧ j.runs = 1 ∧ yields k actions = [o] ∧
          j.sent = [.ofOutcome d.unit.id d.unit.source elapsed o]) ∧
    (∀ (k : Nat) (j : Job), s.jobs[k]? = some j →
      (∃ elapsed, j.stage = .delivering (.error .cancelled) elapsed) ∨
        (∃ r ∈ j.sent, r.failure = some .cancelled) →
      .error .cancelled ∉ yields k actions →
        AskedIn actions (ofSettings settings engines widgets)) := by
  have reach : Reachable settings engines widgets s := ⟨actions, h⟩
  refine ⟨fun up c hc report hm hr first inTime d hd k hk => ?_, fun k j hj sends other => ?_⟩
  · have still := still_of_drain reach hc hm hr first inTime up
    have unasked := not_cancelled_of_drain reach hc hm hr first inTime
    obtain ⟨i, hi⟩ := List.getElem?_of_mem hd
    obtain ⟨j, hj, hu, hx⟩ := (origins reach).job i d k hi hk
    have finished : j.isOutstanding = false :=
      Bool.eq_false_iff.2 (List.countP_eq_zero.1 still.outstanding j (List.mem_of_getElem? hj))
    obtain ⟨ended, runs, o, elapsed, yielded, sent⟩ := result_of_ended h up unasked hj finished
    exact ⟨j, o, elapsed, hj, hu, hx, ended, runs, yielded, hu ▸ sent⟩
  · cases asked : s.cancelled with
    | true => exact askedIn_of_run h rfl asked
    | false => exact absurd (mem_yields_of_cancelled h asked hj sends) other

/-- One script runs and another one waits for its place when a shutdown begins; the shutdown lets
both end. -/
def sampleDrain : List SupportAction :=
  sampleSubmit 0 ++ [.start 0, .submit { sampleUnit with id := 8 } sampleContext,
    .proceedSubmission 1, .proceedSubmission 1, .proceedSubmission 1, .shutdown .drain,
    .proceedShutdown 0, .proceedShutdown 0, .proceedShutdown 0] ++ (sampleRun 0).drop 1 ++
    [.start 1, .finish 1 (.error (.panicked "late")), .conclude 1 2, .proceedJob 1, .proceedJob 1,
      .proceedJob 1, .proceedJob 1, .proceedShutdown 0, .proceedShutdown 0, .proceedShutdown 0]

theorem drain_loses_nothing_sample :
    (∃ s c j o elapsed, Machine.run step sampleDrain sample = some s ∧ s.tornDown = false ∧
      s.shutdowns = [⟨.drain, .returned ⟨false, 0, false⟩⟩] ∧ s.submissions[1]? = some c ∧
      c.stage = .returned (.scheduled 1) ∧ s.jobs[1]? = some j ∧ j.runs = 1 ∧
      yields 1 sampleDrain = [o] ∧ j.sent = [.ofOutcome c.unit.id c.unit.source elapsed o]) ∧
    ∃ s j r, Machine.run step sampleCancel sample = some s ∧ s.jobs[0]? = some j ∧ r ∈ j.sent ∧
      r.failure = some .cancelled ∧ .error .cancelled ∉ yields 0 sampleCancel ∧
      AskedIn sampleCancel sample := by
  constructor
  · have run : (Machine.run step sampleDrain sample).map (fun s =>
        (s.tornDown, s.shutdowns, (s.submissions[1]?).map Submission.stage)) =
        some (false, [⟨.drain, .returned ⟨false, 0, false⟩⟩],
          some (.returned (.scheduled 1))) := by decide +kernel
    obtain ⟨s, hr, hs⟩ := Option.map_eq_some_iff.1 run
    simp only [Prod.mk.injEq] at hs
    obtain ⟨up, shutdowns, scheduled⟩ := hs
    obtain ⟨c, hc, hk⟩ := Option.map_eq_some_iff.1 scheduled
    obtain ⟨j, o, elapsed, hj, -, -, -, runs, yielded, sent⟩ :=
      (drain_loses_nothing hr).1 up _ (by rw [shutdowns]; exact List.mem_singleton_self _) _ rfl
        rfl rfl rfl c (List.mem_of_getElem? hc) 1 hk
    exact ⟨s, c, j, o, elapsed, hr, up, shutdowns, hc, hk, hj, runs, yielded, sent⟩
  · have run : (Machine.run step sampleCancel sample).map (fun s => (s.jobs[0]?).map Job.sent) =
        some (some [.failed 7 "clock" .cancelled 3]) := by decide +kernel
    have other : .error .cancelled ∉ yields 0 sampleCancel := by decide +kernel
    obtain ⟨s, hr, hs⟩ := Option.map_eq_some_iff.1 run
    obtain ⟨j, hj, sent⟩ := Option.map_eq_some_iff.1 hs
    have mem : ScriptResult.failed 7 "clock" .cancelled 3 ∈ j.sent := by simp [sent]
    exact ⟨s, j, _, hr, hj, mem, rfl, other,
      (drain_loses_nothing hr).2 0 j hj (.inr ⟨_, mem, rfl⟩) other⟩

end Support

end PanelScript

import PanelScript.Proofs.Session.Answer
import PanelScript.Proofs.Session.Handles

/-!
# What a submission leaves behind

A submission that is refused, rejected or skipped changes nothing but the record of submissions: no
lane, no execution, no handle, no permit. One report says that it was rejected or skipped. A
submission that is scheduled adds its unit to one lane and one execution, and nothing else.

* `Support.Due` is the answer that a submission is due, `Support.Due.unique` says that it is one;
* `Session.submitAtOnce` is a submission from its first step to its last;
* `Session.Leaves` is what it leaves behind, and `Session.Footprint` what callers see of that;
* `Session.submission_leaves`: in every session a submission gets the answer that it is due, and
  leaves behind what goes with it;
* `Session.scheduled_when_tornDown`: when all was torn down, what is scheduled is not added.
-/

namespace PanelScript

namespace Support

variable {s : Support} {u : ScriptUnit} {c : Context} {answer : SubmitAnswer}

/-! ### The steps of one submission -/

/-- The support with one more submission on record. -/
def record (s : Support) (d : Submission) : Support :=
  { s with submissions := s.submissions ++ [d] }

theorem submissions_record (s : Support) (d : Submission) :
    (s.record d).submissions[s.submissions.length]? = some d :=
  List.getElem?_concat_length

theorem setSubmission_record (s : Support) (d : Submission) (stage : SubmitStage) :
    (s.record d).setSubmission s.submissions.length stage = s.record { d with stage } := by
  rw [setSubmission_eq (s.submissions_record d)]
  simp [record]

theorem proceed_returned (s : Support) (u : ScriptUnit) (c : Context) (answer : SubmitAnswer) :
    (s.record ⟨u, c, .returned answer⟩).proceedSubmission s.submissions.length = none := by
  simp [proceedSubmission, submissions_record]

theorem proceed_rejecting (s : Support) (u : ScriptUnit) (c : Context) :
    (s.record ⟨u, c, .rejecting⟩).proceedSubmission s.submissions.length =
      some ((s.tell (eventOf .rejected u c)).record ⟨u, c, .returned .rejected⟩) := by
  simp only [proceedSubmission, submissions_record]
  exact congrArg some ((s.tell _).setSubmission_record _ _)

theorem proceed_entering_pending (h : s.isPending u = true) (c : Context) :
    (s.record ⟨u, c, .entering⟩).proceedSubmission s.submissions.length =
      some (s.record ⟨u, c, .skipping⟩) := by
  have held : ((s.record ⟨u, c, .entering⟩).lanes.get u.backend).enter? u.id = none :=
    Lane.enter?_eq_none_iff.2 h
  simp only [proceedSubmission, submissions_record, held]
  exact congrArg some (s.setSubmission_record _ _)

/-- The lanes with a unit behind those that are pending. -/
def lanesWith (s : Support) (u : ScriptUnit) : PerBackend Lane :=
  s.lanes.set u.backend ⟨(s.lanes.get u.backend).pending ++ [u.id]⟩

theorem proceed_entering_free (h : s.isPending u = false) (c : Context) :
    (s.record ⟨u, c, .entering⟩).proceedSubmission s.submissions.length =
      some (({ s with lanes := s.lanesWith u } : Support).record ⟨u, c, .announcing⟩) := by
  have admits : ((s.record ⟨u, c, .entering⟩).lanes.get u.backend).enter? u.id =
      some ⟨(s.lanes.get u.backend).pending ++ [u.id]⟩ :=
    if_neg (Bool.eq_false_iff.1 h)
  simp only [proceedSubmission, submissions_record, admits]
  exact congrArg some (({ s with lanes := s.lanesWith u } : Support).setSubmission_record _ _)

theorem proceed_skipping (s : Support) (u : ScriptUnit) (c : Context) :
    (s.record ⟨u, c, .skipping⟩).proceedSubmission s.submissions.length =
      some ((s.tell (eventOf .skipped u c)).record
        ⟨u, c, .returned (.skipped (.skipped u.id u.source))⟩) := by
  simp only [proceedSubmission, submissions_record]
  exact congrArg some ((s.tell _).setSubmission_record _ _)

theorem proceed_announcing (s : Support) (u : ScriptUnit) (c : Context) :
    (s.record ⟨u, c, .announcing⟩).proceedSubmission s.submissions.length =
      some ((s.tell (eventOf .scheduled u c)).record ⟨u, c, .spawning⟩) := by
  simp only [proceedSubmission, submissions_record]
  exact congrArg some ((s.tell _).setSubmission_record _ _)

theorem proceed_spawning (s : Support) (u : ScriptUnit) (c : Context) :
    (s.record ⟨u, c, .spawning⟩).proceedSubmission s.submissions.length =
      some ((s.spawn u c).record ⟨u, c, .returned (.scheduled s.jobs.length)⟩) := by
  have same : (s.spawn u c).submissions = s.submissions := by
    unfold spawn
    split <;> rfl
  have commutes (d : Submission) : (s.record d).spawn u c = (s.spawn u c).record d := by
    unfold spawn record
    split <;> simp_all [release, setLane]
  simp only [proceedSubmission, submissions_record, commutes]
  rw [← same]
  exact congrArg some ((s.spawn u c).setSubmission_record _ _)

/-- The support once a submission was admitted and has said so. -/
def announced (s : Support) (u : ScriptUnit) (c : Context) : Support :=
  { s.tell (eventOf .scheduled u c) with lanes := s.lanesWith u }

/-- A job that is added while nothing was torn down. -/
theorem spawn_announced_of_up (h : s.tornDown = false) (u : ScriptUnit) (c : Context) :
    (s.announced u c).spawn u c = { s.announced u c with jobs := s.jobs ++ [.new u c] } := by
  have up : ¬ (s.announced u c).tornDown = true := Bool.eq_false_iff.1 h
  rw [spawn, if_neg up]
  rfl

/-- A unit that is taken out of the lane that it was put in leaves the lanes as they were. -/
theorem release_lanesWith (free : s.isPending u = false) :
    ({ s with lanes := s.lanesWith u } : Support).release u = s := by
  have absent : u.id ∉ (s.lanes.get u.backend).pending := by
    simpa [isPending, Lane.contains] using free
  have lane : Lane.release ⟨(s.lanes.get u.backend).pending ++ [u.id]⟩ u.id =
      s.lanes.get u.backend := by
    have others : (s.lanes.get u.backend).pending.filter (· ≠ u.id) =
        (s.lanes.get u.backend).pending :=
      List.filter_eq_self.2 fun id hid => decide_eq_true fun same => absent (same ▸ hid)
    rw [Lane.release, List.filter_append, others]
    simp
  have lanes : (s.lanesWith u).set u.backend (((s.lanesWith u).get u.backend).release u.id) =
      s.lanes := by
    rw [lanesWith, PerBackend.get_set_self, lane]
    cases u.backend <;> rfl
  rw [release, setLane, lanes]

/-- A job that is added when all was torn down is gone, and its unit is not pending. -/
theorem spawn_announced_of_down (h : s.tornDown = true) (free : s.isPending u = false)
    (c : Context) :
    (s.announced u c).spawn u c =
      { s.tell (eventOf .scheduled u c) with
        jobs := s.jobs ++ [{ Job.new u c with stage := .lost }] } := by
  have down : (s.announced u c).tornDown = true := h
  have free : ({ s.tell (eventOf .scheduled u c) with
      jobs := s.jobs ++ [{ Job.new u c with stage := .lost }] } : Support).isPending u = false :=
    free
  rw [spawn, if_pos down]
  exact release_lanesWith free

/-! ### What a submission is due -/

/-- Some shutdown has come in. -/
def HasShutDown (s : Support) : Prop := ∃ c ∈ s.shutdowns, c.stage ≠ .entering

/-- Once a shutdown has come in the support lets nothing in, and not before. -/
theorem accepting_eq_false_iff {settings : SupportSettings} {engines : PerBackend (Option Engine)}
    {widgets : List Widget} (h : Reachable settings engines widgets s) :
    s.accepting = false ↔ s.HasShutDown := by
  rcases open_or_led h with hopen | ⟨i, led⟩
  · have none : ¬ s.HasShutDown := fun ⟨c, hc, came⟩ => came (hopen.shutdowns c hc)
    simp [hopen.accepting, none]
  · obtain ⟨c, hc, led'⟩ := led.leader
    have came : s.HasShutDown := by
      refine ⟨c, List.mem_of_getElem? hc, fun entering => ?_⟩
      have leads := led'.leads
      simp [Shutdown.leads, entering] at leads
    simp [led.calm.closed, came]

/-- What a submission is to be answered, by the first of the reasons against it. -/
inductive Due (s : Support) (u : ScriptUnit) (c : Context) : SubmitAnswer → Prop
  | rejected (down : s.HasShutDown) : Due s u c .rejected
  | miscounted (up : ¬ s.HasShutDown) (count : c.values.length ≠ u.inputs.length) :
      Due s u c
        (.refused (.inputCountMismatch u.source u.inputs.length c.values.length))
  | unavailable (up : ¬ s.HasShutDown) (count : c.values.length = u.inputs.length)
      (missing : u.backend ∉ s.backends) : Due s u c (.refused (.backendUnavailable u.backend))
  | skipped (up : ¬ s.HasShutDown) (count : c.values.length = u.inputs.length)
      (registered : u.backend ∈ s.backends) (pending : s.isPending u = true) :
      Due s u c (.skipped (.skipped u.id u.source))
  | scheduled (up : ¬ s.HasShutDown) (count : c.values.length = u.inputs.length)
      (registered : u.backend ∈ s.backends) (free : s.isPending u = false) :
      Due s u c (.scheduled s.jobs.length)

theorem mem_backends_iff {b : Backend} : b ∈ s.backends ↔ (s.engines.get b).isSome = true := by
  cases b <;> simp [backends]

/-- The first step of a submission looks at all reasons but the last. -/
theorem admission_eq (h : s.accepting = false ↔ s.HasShutDown) (due : s.Due u c answer) :
    s.admission u c =
      match answer with
      | .rejected => .rejecting
      | .refused e => .returned (.refused e)
      | .skipped _ | .scheduled _ => .entering := by
  have isOpen (up : ¬ s.HasShutDown) : s.accepting = true := by
    cases e : s.accepting with
    | true => rfl
    | false => exact absurd (h.1 e) up
  have engine (registered : u.backend ∈ s.backends) : (s.engines.get u.backend).isNone = false := by
    rw [Option.isNone_eq_false_iff]
    exact mem_backends_iff.1 registered
  cases due with
  | rejected down => simp [admission, h.2 down]
  | miscounted up count => simp [admission, isOpen up, count]
  | unavailable up count missing =>
    have none : s.engines.get u.backend = none := by simpa [mem_backends_iff] using missing
    simp [admission, isOpen up, count, none]
  | skipped up count registered | scheduled up count registered =>
    simp only [admission, isOpen up, count, engine registered, Bool.not_true, Bool.false_eq_true,
      if_false, ne_eq, not_true]

theorem Due.unique {answer' : SubmitAnswer} (due : s.Due u c answer) (due' : s.Due u c answer') :
    answer = answer' := by
  cases due <;> cases due' <;> simp_all

theorem exists_due (s : Support) (u : ScriptUnit) (c : Context) : ∃ answer, s.Due u c answer := by
  by_cases up : s.HasShutDown
  · exact ⟨_, .rejected up⟩
  by_cases count : c.values.length = u.inputs.length
  · by_cases registered : u.backend ∈ s.backends
    · cases e : s.isPending u with
      | true => exact ⟨_, .skipped up count registered e⟩
      | false => exact ⟨_, .scheduled up count registered e⟩
    · exact ⟨_, .unavailable up count registered⟩
  · exact ⟨_, .miscounted up count⟩

end Support

/-- What is told to observers about a submission, by its answer. -/
def SubmitAnswer.reports (u : ScriptUnit) (c : Context) : SubmitAnswer → List Event
  | .scheduled _ => [Support.eventOf .scheduled u c]
  | .skipped _ => [Support.eventOf .skipped u c]
  | .rejected => [Support.eventOf .rejected u c]
  | .refused _ => []

namespace Session

open Support (eventOf)

variable {o : Outside} {s t : Session} {u : ScriptUnit} {c : Context} {answer : SubmitAnswer}
  {told told' : List Event}

/-- A submission takes its next steps while nothing else happens, at most `limit` of them. -/
def carryOn (o : Outside) (n : Nat) : (limit : Nat) → Session → Session
  | 0, s => s
  | limit + 1, s =>
    match step o (.proceedSubmission n) s with
    | some t => carryOn o n limit t
    | none => s

/-- A unit is submitted, and the submission is taken to its end while nothing else happens; it has
three steps at most. -/
def submitAtOnce (o : Outside) (s : Session) (u : ScriptUnit) (c : Context) : Session :=
  carryOn o s.support.submissions.length 3 (s.withSupport (s.support.submit u c))

/-- The session in which the support is `q`, with one more submission on record, and with some
reports to observers. -/
def having (s : Session) (q : Support) (d : Submission) (told : List Event) : Session :=
  { s with support := q.record d, log := s.log ++ told }

/-- What a submission leaves behind, by its answer: a support that is as before but for one report,
or that has one more job, whose unit is pending in the lane of its kind. A job that is added when
all was torn down is gone at once, and its handle knows. -/
inductive Leaves (s : Session) (u : ScriptUnit) (c : Context) : SubmitAnswer → Session → Prop
  | refused (e : SupportError) :
      Leaves s u c (.refused e) (s.having s.support ⟨u, c, .returned (.refused e)⟩ [])
  | rejected :
      Leaves s u c .rejected
        (s.having (s.support.tell (eventOf .rejected u c)) ⟨u, c, .returned .rejected⟩
          [eventOf .rejected u c])
  | skipped (r : ScriptResult) :
      Leaves s u c (.skipped r)
        (s.having (s.support.tell (eventOf .skipped u c)) ⟨u, c, .returned (.skipped r)⟩
          [eventOf .skipped u c])
  | scheduled (up : s.support.tornDown = false) :
      Leaves s u c (.scheduled s.support.jobs.length)
        { s.having
            { s.support.tell (eventOf .scheduled u c) with
              lanes := s.support.lanesWith u
              jobs := s.support.jobs ++ [.new u c] }
            ⟨u, c, .returned (.scheduled s.support.jobs.length)⟩ [eventOf .scheduled u c] with
          runs := s.runs ++ [.new (.new u c)] }
  | lost (down : s.support.tornDown = true) :
      Leaves s u c (.scheduled s.support.jobs.length)
        { s.having
            { s.support.tell (eventOf .scheduled u c) with
              jobs := s.support.jobs ++ [{ Job.new u c with stage := .lost }] }
            ⟨u, c, .returned (.scheduled s.support.jobs.length)⟩ [eventOf .scheduled u c] with
          runs := s.runs ++ [⟨some (Handle.new u.id u.source).abandon, none, none⟩] }

/-- What callers see of the session before and after a submission. -/
structure Footprint (s : Session) (u : ScriptUnit) (c : Context) (answer : SubmitAnswer)
    (t : Session) : Prop where
  free : t.support.free = s.support.free
  accepting : t.support.accepting = s.support.accepting
  told : t.log = s.log ++ answer.reports u c
  /-- Without a job no execution and no handle is changed. -/
  refused : (∀ k, answer ≠ .scheduled k) → t.support.jobs = s.support.jobs ∧ t.runs = s.runs
  stays : s.support.tornDown = true ∨ (∀ k, answer ≠ .scheduled k) →
    t.support.lanes = s.support.lanes ∧ t.support.outstanding = s.support.outstanding
  grows : s.support.tornDown = false → ∀ k, answer = .scheduled k →
    t.support.lanes = s.support.lanesWith u ∧
      t.support.outstanding = s.support.outstanding + 1
  jobs : s.support.jobs <+: t.support.jobs
  runs : s.runs <+: t.runs

/-! ### One step after the other -/

theorem carryOn_succ {n limit : Nat} (h : step o (.proceedSubmission n) s = some t) :
    carryOn o n (limit + 1) s = carryOn o n limit t := by
  rw [carryOn, h]

theorem carryOn_of_none {n : Nat} (limit : Nat) (h : step o (.proceedSubmission n) s = none) :
    carryOn o n limit s = s := by
  cases limit with
  | zero => rfl
  | succ => rw [carryOn, h]

/-- The first step puts the submission on record. -/
theorem withSupport_submit (h : s.Heard) (u : ScriptUnit) (c : Context) :
    s.withSupport (s.support.submit u c) =
      s.having s.support ⟨u, c, s.support.admission u c⟩ [] := by
  have jobs : (s.support.submit u c).jobs = s.support.jobs := rfl
  rw [withSupport_of_jobs_eq h jobs]
  simp [Support.submit, Support.record, having]

section Having

variable {q q' : Support} {d d' : Submission} {n : Nat}

/-- A step of the submission that adds no job. -/
theorem step_having (h : s.Heard)
    (hq : (q.record d).proceedSubmission n = some (q'.record d')) (same : q.jobs = s.support.jobs)
    (jobs : q'.jobs = q.jobs) (events : q'.events = q.events ++ told') :
    step o (.proceedSubmission n) (s.having q d told) = some (s.having q' d' (told ++ told')) := by
  have heard : (s.having q d told).Heard := h.of_eq rfl same
  show ((q.record d).proceedSubmission n).map (s.having q d told).withSupport = _
  have jobs : (q'.record d').jobs = (s.having q d told).support.jobs := jobs
  have events : (q'.record d').events = (s.having q d told).support.events ++ told' := events
  rw [hq, Option.map_some, withSupport_of_jobs_eq heard jobs, events, List.drop_left]
  simp [having]

/-- The step of the submission that adds a job. -/
theorem step_having_job (h : s.Heard) {j : Job}
    (hq : (q.record d).proceedSubmission n = some (q'.record d')) (same : q.jobs = s.support.jobs)
    (jobs : q'.jobs = q.jobs ++ [j]) (events : q'.events = q.events) :
    step o (.proceedSubmission n) (s.having q d told) =
      some { s.having q' d' told with runs := s.runs ++ [(Run.new j).hear j] } := by
  have heard : (s.having q d told).Heard := h.of_eq rfl same
  show ((q.record d).proceedSubmission n).map (s.having q d told).withSupport = _
  have jobs : (q'.record d').jobs = (s.having q d told).support.jobs ++ [j] := jobs
  have events : (q'.record d').events = (s.having q d told).support.events := events
  rw [hq, Option.map_some, withSupport_of_new_job heard jobs, events, List.drop_length]
  simp [having]

/-- A submission that has returned takes no step. -/
theorem carryOn_returned {limit : Nat} (hn : q.submissions.length = n) :
    carryOn o n limit (s.having q ⟨u, c, .returned answer⟩ told) =
      s.having q ⟨u, c, .returned answer⟩ told := by
  subst hn
  refine carryOn_of_none limit ?_
  show (Support.proceedSubmission _ _).map _ = none
  rw [show (s.having q _ told).support = q.record _ from rfl, q.proceed_returned u c answer]
  rfl

end Having

/-! ### The whole submission -/

/-- The whole submission leaves behind what its answer says. -/
theorem leaves_submitAtOnce (h : s.Heard)
    (closed : s.support.accepting = false ↔ s.support.HasShutDown)
    (due : s.support.Due u c answer) : s.Leaves u c answer (s.submitAtOnce o u c) := by
  rw [submitAtOnce, withSupport_submit h, Support.admission_eq closed due]
  cases due with
  | rejected =>
    have run : carryOn o s.support.submissions.length 3
        (s.having s.support ⟨u, c, .rejecting⟩ []) =
        s.having (s.support.tell (eventOf .rejected u c)) ⟨u, c, .returned .rejected⟩
          [eventOf .rejected u c] :=
      (carryOn_succ (step_having h (s.support.proceed_rejecting u c) rfl rfl rfl)).trans
        (carryOn_returned rfl)
    rw [run]
    exact .rejected
  | miscounted =>
    rw [carryOn_returned rfl]
    exact .refused _
  | unavailable =>
    rw [carryOn_returned rfl]
    exact .refused _
  | skipped _ _ _ pending =>
    have run : carryOn o s.support.submissions.length 3
        (s.having s.support ⟨u, c, .entering⟩ []) =
        s.having (s.support.tell (eventOf .skipped u c))
          ⟨u, c, .returned (.skipped (.skipped u.id u.source))⟩ [eventOf .skipped u c] :=
      (carryOn_succ (step_having h (Support.proceed_entering_pending pending c) rfl rfl
        (List.append_nil _).symm)).trans <|
      (carryOn_succ (step_having h (s.support.proceed_skipping u c) rfl rfl rfl)).trans
        (carryOn_returned rfl)
    rw [run]
    exact .skipped _
  | scheduled _ _ _ free =>
    have announced : carryOn o s.support.submissions.length 3
        (s.having s.support ⟨u, c, .entering⟩ []) =
        carryOn o s.support.submissions.length 1
          (s.having (s.support.announced u c) ⟨u, c, .spawning⟩ [eventOf .scheduled u c]) :=
      (carryOn_succ (step_having h (Support.proceed_entering_free free c) rfl rfl
        (List.append_nil _).symm)).trans <|
      carryOn_succ (step_having h (Support.proceed_announcing _ u c) rfl rfl rfl)
    have added := (s.support.announced u c).proceed_spawning u c
    have same : s.support.submissions.length = (s.support.announced u c).submissions.length := rfl
    rw [announced, same]
    cases torn : s.support.tornDown with
    | false =>
      rw [Support.spawn_announced_of_up torn] at added
      rw [carryOn_succ (step_having_job h added rfl rfl rfl)]
      exact .scheduled torn
    | true =>
      rw [Support.spawn_announced_of_down torn free] at added
      rw [carryOn_succ (step_having_job h added rfl rfl rfl)]
      exact .lost torn

theorem Comes.reachable (h : Comes o s) :
    ∃ settings engines widgets, Support.Reachable settings engines widgets s.support := by
  induction h with
  | start settings gateway interpreters widgets => exact ⟨settings, _, widgets, .refl _ _⟩
  | act _ ha ih =>
    obtain ⟨settings, engines, widgets, reach⟩ := ih
    refine ⟨settings, engines, widgets, ?_⟩
    rcases (move_of_step ha).support with ⟨b, -, hb⟩ | ⟨-, same⟩
    · exact reach.trans (.single hb)
    · rwa [same]
  | @use s _ job x ih =>
    rcases s.use_eq job x with same | changed
    · rwa [same]
    · rwa [changed, support_setRun]

theorem Leaves.submitAnswer? (h : s.Leaves u c answer t) :
    t.submitAnswer? s.support.submissions.length = some answer := by
  cases h <;> simp [Session.submitAnswer?, having, Support.record, Support.tell]

theorem Leaves.footprint (h : s.Leaves u c answer t) : s.Footprint u c answer t := by
  cases h with
  | refused | rejected | skipped =>
    exact
      { free := rfl
        accepting := rfl
        told := rfl
        refused := fun _ => ⟨rfl, rfl⟩
        stays := fun _ => ⟨rfl, rfl⟩
        grows := fun _ _ e => nomatch e
        jobs := List.prefix_rfl
        runs := List.prefix_rfl }
  | scheduled up =>
    have one : (s.support.jobs ++ [Job.new u c]).countP Job.isOutstanding =
        s.support.outstanding + 1 := by
      rw [List.countP_append]
      rfl
    exact
      { free := rfl
        accepting := rfl
        told := rfl
        refused := fun none => absurd rfl (none _)
        stays := fun why => by
          rcases why with down | none
          · rw [up] at down
            cases down
          · exact absurd rfl (none _)
        grows := fun _ _ _ => ⟨rfl, one⟩
        jobs := List.prefix_append _ _
        runs := List.prefix_append _ _ }
  | lost down =>
    have none : (s.support.jobs ++ [{ Job.new u c with stage := .lost }]).countP
        Job.isOutstanding = s.support.outstanding := by
      rw [List.countP_append]
      rfl
    exact
      { free := rfl
        accepting := rfl
        told := rfl
        refused := fun none => absurd rfl (none _)
        stays := fun _ => ⟨rfl, none⟩
        grows := fun up => by
          rw [down] at up
          cases up
        jobs := List.prefix_append _ _
        runs := List.prefix_append _ _ }

/-- **A submission that is refused leaves no trace.** In every session, whatever goes on in it, a
submission is given the one answer that is due: it is rejected if a shutdown has come in; otherwise
refused if the number of values is wrong, or if its kind of interpreter was not registered;
otherwise skipped if the unit is pending; otherwise scheduled. Nothing is left behind but one report
if it was rejected or skipped, and nothing at all if it was refused. If it was scheduled, its unit
is added to the lane of its kind, and one execution to those that are outstanding, unless all was
torn down: then the execution is gone at once, and its handle knows. -/
theorem submission_leaves (h : Comes o s) (u : ScriptUnit) (c : Context) :
    ∃ answer, (s.submitAtOnce o u c).submitAnswer? s.support.submissions.length = some answer ∧
      (∀ answer', s.support.Due u c answer' ↔ answer' = answer) ∧
      s.Leaves u c answer (s.submitAtOnce o u c) ∧
      s.Footprint u c answer (s.submitAtOnce o u c) := by
  obtain ⟨settings, engines, widgets, reach⟩ := h.reachable
  obtain ⟨answer, due⟩ := s.support.exists_due u c
  have leaves : s.Leaves u c answer (s.submitAtOnce o u c) :=
    leaves_submitAtOnce h.heard (Support.accepting_eq_false_iff reach) due
  refine ⟨answer, leaves.submitAnswer?, fun answer' => ⟨fun due' => due'.unique due, ?_⟩, leaves,
    leaves.footprint⟩
  rintro rfl
  exact due

theorem Comes.run {actions : List SessionAction} (h : Comes o s)
    (hr : Machine.run (step o) actions s = some t) : Comes o t :=
  Machine.run_invariant (fun _ _ _ ha hs => hs.act ha) hr h

/-- A session with one place, for units inside the program. -/
def sampleIdle : Session :=
  start { poolSize := 1 } {} [.embedded] [⟨"clock", "label", [("text", .str "")]⟩]

theorem comes_sampleIdle (o : Outside) : Comes o sampleIdle :=
  .start { poolSize := 1 } {} [.embedded] [⟨"clock", "label", [("text", .str "")]⟩] []

/-- A unit is submitted and scheduled. -/
def sampleScheduling : List SessionAction :=
  .submit Support.sampleUnit Support.sampleContext :: List.replicate 3 (.proceedSubmission 0)

/-- While its job waits the unit is submitted again, and that is skipped. -/
theorem submission_leaves_sample :
    ∃ s t, Machine.run (step sampleOutside) sampleScheduling sampleIdle = some s ∧
      Comes sampleOutside s ∧ s.support.outstanding = 1 ∧
      t = s.submitAtOnce sampleOutside Support.sampleUnit Support.sampleContext ∧
      t.submitAnswer? 1 = some (.skipped (.skipped 7 "clock")) ∧
      s.Leaves Support.sampleUnit Support.sampleContext (.skipped (.skipped 7 "clock")) t := by
  have run : (Machine.run (step sampleOutside) sampleScheduling sampleIdle).map (fun s =>
      (s.support.submissions.length, s.support.outstanding,
        (s.submitAtOnce sampleOutside Support.sampleUnit Support.sampleContext).submitAnswer? 1)) =
      some (1, 1, some (.skipped (.skipped 7 "clock"))) := by decide +kernel
  obtain ⟨s, hs, facts⟩ := Option.map_eq_some_iff.1 run
  simp only [Prod.mk.injEq] at facts
  obtain ⟨length, one, given⟩ := facts
  have comes : Comes sampleOutside s := (comes_sampleIdle _).run hs
  obtain ⟨answer, answered, -, leaves, -⟩ :=
    submission_leaves comes Support.sampleUnit Support.sampleContext
  rw [length, given] at answered
  obtain rfl := Option.some.inj answered
  exact ⟨s, _, hs, comes, one, rfl, given, leaves⟩

/-- When all was torn down a submission is scheduled, but nothing is outstanding or pending. -/
theorem scheduled_when_tornDown :
    ∃ s, Comes sampleOutside s ∧ s.support.tornDown = true ∧
      (s.submitAtOnce sampleOutside Support.sampleUnit Support.sampleContext).submitAnswer? 0 =
        some (.scheduled 0) ∧
      (s.submitAtOnce sampleOutside Support.sampleUnit Support.sampleContext).support.outstanding =
        s.support.outstanding ∧
      (s.submitAtOnce sampleOutside Support.sampleUnit Support.sampleContext).support.isPending
        Support.sampleUnit = false :=
  ⟨sampleIdle.withSupport sampleIdle.support.tearDown,
    (comes_sampleIdle _).act (a := .tearDown) rfl, rfl, rfl, rfl, rfl⟩

end Session

end PanelScript

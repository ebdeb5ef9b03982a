import PanelScript.Proofs.Link.Effort
import PanelScript.Proofs.Session.Move

/-!
# What is left to be done in a session

A submission becomes one job at most, a job gives rise to one script or one call, and a shutdown to
one attempt to close the link. Each takes a bounded number of steps, apart from requests that the
gateway does something about and what is read.

* `Support.effort` bounds the steps that submissions, jobs and shutdowns have left, with what they
  give rise to;
* `Session.left` is the measure of a session: its effort, the requests that the gateway has done
  nothing about, and what there is to read;
* `Session.Nears` says that a step lowers it; `nears_of_proceedCall` and its like say which do.
-/

namespace PanelScript

-- The zero of a sum is that of the core library.
attribute [local instance (2000)] Zero.ofOfNat0

/-- How many steps a unit takes on a thread. -/
def ScriptUnit.length (u : ScriptUnit) : Nat :=
  match u.payload with
  | .program p => p.length + 1
  | .file _ => 0

/-- How many steps a job has left at most, apart from its script or its call. -/
def JobStage.rank : JobStage → Nat
  | .waiting => 6
  | .running => 5
  | .concluding _ _ => 4
  | .releasing _ _ => 3
  | .delivering _ _ => 2
  | .leaving => 1
  | .ended | .lost => 0

/-- How many steps a job has left at most, those included that its interpreter has not begun. -/
def Job.effort (size : Nat) (j : Job) : Nat :=
  j.stage.rank +
    if j.stage = .waiting then j.unit.length + 2 * CallStage.launching.rank size else 0

/-- How many steps a submission has left at most, those of its job included. -/
def Submission.effort (size : Nat) (c : Submission) : Nat :=
  match c.stage with
  | .entering => 3 + (Job.new c.unit c.context).effort size
  | .announcing => 2 + (Job.new c.unit c.context).effort size
  | .spawning => 1 + (Job.new c.unit c.context).effort size
  | .rejecting | .skipping => 1
  | .returned _ => 0

/-- How many steps a shutdown has left at most. -/
def Shutdown.rank (c : Shutdown) : Nat :=
  match c.stage with
  | .entering => 7
  | .flipped => 6
  | .signalling => 5
  | .draining => 4
  | .closing left _ => left.length + 1
  | .returned _ => 0

/-- How many steps the script of a job has left at most. -/
def Run.effort (r : Run) : Nat :=
  match r.thread with
  | some thread => thread.rest.length + 1
  | none => 0

/-- An action brings a job nearer to its end. -/
def SupportAction.concludes : SupportAction → Bool
  | .conclude _ _ | .reply _ _ _ _ | .abandon _ _ | .proceedJob _ => true
  | _ => false

namespace Support

variable {s t : Support} {a : SupportAction} {k i size : Nat}

/-- How many steps submissions, jobs and shutdowns have left at most, beside a link with so many
slots. -/
def effort (size : Nat) (s : Support) : Nat :=
  (s.submissions.map (Submission.effort size)).sum + (s.jobs.map (Job.effort size)).sum +
    (s.shutdowns.map Shutdown.rank).sum

theorem backends_length_le (s : Support) : s.backends.length ≤ 2 := List.length_filter_le _ _

/-- A step of a submission. -/
theorem effort_of_submission (h : s.proceedSubmission i = some t) (size : Nat) :
    t.effort size < s.effort size := by
  cases move_of_proceedSubmission h with
  | job _ m => cases m
  | shutdown _ m => cases m
  | @submission _ s' _ c c' found m =>
    have moved := sum_map_set_add found c' (Submission.effort size)
    cases m with
    | spawn e | lose e =>
      simp only [effort, release, setLane, List.map_append, List.map_singleton, List.sum_append,
        List.sum_singleton, Submission.effort, e] at moved ⊢
      simp only [Job.effort, JobStage.rank] at moved ⊢
      simp at moved ⊢
      omega
    | reject e | enter e | refuse e | skip e | announce e =>
      simp only [effort, tell, setLane, Submission.effort, e] at moved ⊢
      omega

/-- A job whose outcome is known by then. -/
theorem effort_of_concludes (h : step a s = some t) (concludes : a.concludes = true) (size : Nat) :
    t.effort size < s.effort size := by
  cases move_of_step h (by rintro rfl; cases concludes) with
  | @job _ _ s' k j j' found m =>
    have moved := sum_map_set_add found j' (Job.effort size)
    cases m with
    | conclude _ _ e | reply _ _ _ e | giveUp _ e | abandon _ e | tell e | release e | deliver e
    | leave e =>
      simp only [effort, Support.tell, Support.release, setLane, Job.effort, JobStage.rank, e]
        at moved ⊢
      simp at moved ⊢
      omega
    | _ => cases concludes
  | shutdown _ m => cases m <;> cases concludes
  | _ => cases concludes

/-- A job that gets a place pays for its script or its call. -/
theorem effort_of_start (h : s.start k = some t) (size : Nat) :
    ∃ j, s.jobs[k]? = some j ∧
      t.effort size + (j.unit.length + 2 * CallStage.launching.rank size) < s.effort size := by
  have m : Move (.start k) s t := move_of_start h
  cases m with
  | shutdown _ m => cases m
  | @job _ _ s' k j j' found m =>
    refine ⟨j, ?_, ?_⟩
    · cases m
      exact found
    have moved := sum_map_set_add found j' (Job.effort size)
    cases m with
    | start e =>
      simp only [effort, Job.effort, JobStage.rank, e] at moved ⊢
      simp at moved ⊢
      omega

/-- What a script writes, and its end, are counted with its thread. -/
theorem same_of_write {name : String} {value : Json} (h : s.write k name value = some t) :
    t.effort size = s.effort size ∧ t.jobs.length = s.jobs.length := by
  unfold write at h
  split at h
  · split at h <;> cases h
    rw [writeWidget_eq]
    exact ⟨rfl, rfl⟩
  · cases h

theorem same_of_finish {o : Outcome} (h : s.finish k o = some t) :
    t.effort size = s.effort size ∧ t.jobs.length = s.jobs.length := by
  unfold finish at h
  split at h
  · rename_i j found
    split at h <;> cases h
    have moved := sum_map_set_add found { j with worker := .done o } (Job.effort size)
    refine ⟨?_, List.length_set⟩
    simp only [effort, setJob, Job.effort] at moved ⊢
    omega
  · cases h

/-- A step of a shutdown. -/
theorem effort_of_shutdown (h : s.proceedShutdown i = some t) (size : Nat) :
    t.effort size < s.effort size := by
  cases move_of_proceedShutdown h with
  | job _ m => cases m
  | @shutdown _ _ s' _ c c' found m =>
    have moved := sum_map_set_add found c' Shutdown.rank
    have few := s.backends_length_le
    cases m with
    | flip e | decline e | closeTracker e | signal e | drain e | close e | finish e =>
      simp only [effort, Shutdown.rank, e, List.length_cons] at moved ⊢
      omega

end Support

namespace Session

variable {o : Outside} {s t : Session}

/-- How many steps a session has left at most, apart from what the gateway does and what is read. A
shutdown may yet begin to close the link. -/
def effort (s : Session) : Nat :=
  s.support.effort s.link.size + (s.runs.map Run.effort).sum + s.link.effort +
    s.closer.elim (CloserStage.entering.rank s.link.size + 1) fun _ => 0

/-- How many requests the gateway has done nothing about. -/
def unanswered (s : Session) : Nat := s.requests.countP fun r => !r.answered

/-- What is left to be done. -/
def left (s : Session) : Nat × Nat × Nat := (s.effort, s.unanswered, s.link.unread)

/-- Less is left to be done. -/
def Nears (s t : Session) : Prop := WellFoundedRelation.rel t.left s.left

theorem nears_of_effort (less : t.effort < s.effort) : Nears s t := Prod.Lex.left _ _ less

theorem nears_of_unanswered (le : t.effort ≤ s.effort) (less : t.unanswered < s.unanswered) :
    Nears s t :=
  Prod.Lex.right' _ le (Prod.Lex.left _ _ less)

theorem nears_of_unread (le : t.effort ≤ s.effort) (le' : t.unanswered ≤ s.unanswered)
    (less : t.link.unread < s.link.unread) : Nears s t :=
  Prod.Lex.right' _ le (Prod.Lex.right' _ le' less)

/-! ### What the parts contribute -/

theorem sum_zipWith_hear_le (runs : List Run) (jobs : List Job) :
    ((List.zipWith Run.hear runs jobs).map Run.effort).sum ≤ (runs.map Run.effort).sum := by
  induction runs generalizing jobs with
  | nil => exact Nat.le_refl _
  | cons r runs ih =>
    cases jobs with
    | nil => exact Nat.zero_le _
    | cons j jobs =>
      have same : (r.hear j).effort = r.effort := by
        unfold Run.hear
        split <;> rfl
      simp only [List.zipWith_cons_cons, List.map_cons, List.sum_cons, same]
      exact Nat.add_le_add_left (ih jobs) _

/-- The support moves. -/
theorem effort_withSupport_le (s : Session) (p : Support) :
    (s.withSupport p).effort + s.support.effort s.link.size ≤
      s.effort + p.effort s.link.size := by
  have runs := sum_zipWith_hear_le (s.runs ++ (p.jobs.drop s.runs.length).map Run.new) p.jobs
  have new (jobs : List Job) : ((jobs.map Run.new).map Run.effort).sum = 0 := by
    induction jobs with
    | nil => rfl
    | cons j jobs ih =>
      simp only [List.map_cons, List.sum_cons, ih]
      rfl
  rw [List.map_append, List.sum_append, new] at runs
  simp only [effort, withSupport]
  omega

/-- The link moves. -/
theorem effort_withLink (s : Session) {l : Link} (size : l.size = s.link.size) :
    (s.withLink l).effort + s.link.effort = s.effort + l.effort := by
  simp only [effort, withLink, size]
  omega

/-- The run of a job is changed. -/
theorem effort_setRun {job : Nat} {r : Run} (found : s.runs[job]? = some r) (f : Run → Run) :
    (s.setRun job f).effort + r.effort = s.effort + (f r).effort := by
  have moved := sum_map_set_add found (f r) Run.effort
  simp only [effort, setRun, found]
  omega

theorem effort_setRun_le {f : Run → Run} {n : Nat} (few : ∀ r, (f r).effort ≤ r.effort + n)
    (s : Session) (job : Nat) : (s.setRun job f).effort ≤ s.effort + n := by
  cases found : s.runs[job]? with
  | none =>
    simp only [setRun, found]
    exact Nat.le_add_right _ _
  | some r =>
    have moved := effort_setRun found f
    have := few r
    omega

/-! ### Steps -/

/-- Somebody in the support comes nearer to an end. -/
theorem nears_withSupport {p : Support}
    (less : p.effort s.link.size < s.support.effort s.link.size) : Nears s (s.withSupport p) := by
  refine nears_of_effort ?_
  have := s.effort_withSupport_le p
  omega

theorem nears_of_support {f : Option Support} (h : f.map s.withSupport = some t)
    (less : ∀ p, f = some p → p.effort s.link.size < s.support.effort s.link.size) :
    Nears s t := by
  obtain ⟨p, hp, rfl⟩ := Option.map_eq_some_iff.1 h
  exact nears_withSupport (less p hp)

theorem nears_of_begin {job : Nat} (h : s.begin job = some t) : Nears s t := by
  refine nears_of_effort ?_
  unfold begin at h
  simp only [Option.bind_eq_bind, Option.bind_eq_some_iff] at h
  obtain ⟨p, hp, j, hj, h⟩ := h
  obtain ⟨j', hj', paid⟩ := Support.effort_of_start hp s.link.size
  obtain rfl := Option.some.inj (hj.symm.trans hj')
  have moved := s.effort_withSupport_le p
  split at h
  · rename_i script _ program
    obtain rfl := Option.some.inj h
    have script' : j.unit.length = script.length + 1 := by rw [ScriptUnit.length, program]
    have few := effort_setRun_le (n := script.length + 1)
      (f := fun r => { r with thread := some ⟨script, none⟩ })
      (fun r => Nat.le_add_left _ _) (s.withSupport p) job
    omega
  · rename_i path _ file
    obtain rfl := Option.some.inj h
    generalize s.requestFor path (s.bindings j.unit j.context) = request
    have begun := s.link.effort_invoke request
    have linked : _ + s.link.effort = _ :=
      (s.withSupport p).effort_withLink (l := s.link.invoke request) rfl
    have few := effort_setRun_le (n := 0)
      (f := fun r => { r with call := some s.link.calls.length })
      (fun r => Nat.le_refl _) ((s.withSupport p).withLink (s.link.invoke request)) job
    omega
  · obtain rfl := Option.some.inj h
    omega

/-- A script goes on from there. -/
theorem nears_goOn {job : Nat} {r : Run} {thread : Thread} {u : Session}
    (found : u.runs[job]? = some r) (at_ : r.thread = some thread) (le : u.effort ≤ s.effort)
    {next : Option Thread} (less : ∀ x ∈ next, x.rest.length < thread.rest.length) :
    Nears s (u.setRun job fun r => { r with thread := next }) := by
  refine nears_of_effort ?_
  have moved := effort_setRun found fun r => { r with thread := next }
  have before : r.effort = thread.rest.length + 1 := by rw [Run.effort, at_]
  have after : ({ r with thread := next } : Run).effort ≤ thread.rest.length := by
    cases next with
    | none => exact Nat.zero_le _
    | some x => exact less x rfl
  omega

theorem nears_of_act {job : Nat} (h : s.act job = some t) : Nears s t := by
  unfold act at h
  simp only [Option.bind_eq_bind, Option.bind_eq_some_iff] at h
  obtain ⟨j, hj, thread, hthread, h⟩ := h
  obtain ⟨r, hr, at_⟩ := hthread
  -- The run is in its place when the support has moved, with the same thread.
  have stays {p : Support} (same : p.effort s.link.size = s.support.effort s.link.size ∧
      p.jobs.length = s.support.jobs.length) :
      ∃ r, (s.withSupport p).runs[job]? = some r ∧ r.thread = some thread ∧
        (s.withSupport p).effort ≤ s.effort := by
    have lt : job < p.jobs.length := same.2 ▸ (List.getElem?_eq_some_iff.1 hj).1
    refine ⟨r.hear p.jobs[job], ?_, ?_, ?_⟩
    · rw [withSupport, List.getElem?_zipWith_eq_some]
      refine ⟨r, p.jobs[job], ?_, List.getElem?_eq_getElem lt, rfl⟩
      rw [List.getElem?_append_left (List.getElem?_eq_some_iff.1 hr).1, hr]
    · unfold Run.hear
      split <;> exact at_
    · have := s.effort_withSupport_le p
      omega
  split at h
  · obtain ⟨p, hp, rfl⟩ := Option.map_eq_some_iff.1 h
    obtain ⟨r, hr, at_, le⟩ := stays (Support.same_of_finish hp)
    exact nears_goOn hr at_ le nofun
  · rename_i action rest next
    have shorter : ∀ value, ∀ x ∈ some (⟨rest, value⟩ : Thread),
        x.rest.length < thread.rest.length := by
      rintro value x ⟨⟩
      rw [next]
      exact Nat.lt_succ_self _
    split at h
    · obtain rfl := Option.some.inj h
      exact nears_goOn hr at_ (Nat.le_refl _) (shorter _)
    · obtain ⟨p, hp, rfl⟩ := Option.map_eq_some_iff.1 h
      obtain ⟨r, hr, at_, le⟩ := stays (Support.same_of_write hp)
      exact nears_goOn hr at_ le (shorter _)
    · cases h
    · obtain ⟨p, hp, rfl⟩ := Option.map_eq_some_iff.1 h
      obtain ⟨r, hr, at_, le⟩ := stays (Support.same_of_finish hp)
      exact nears_goOn hr at_ le nofun

theorem nears_of_answer {job : Nat} (h : s.answer job = some t) : Nears s t := by
  unfold answer at h
  simp only [Option.bind_eq_bind, Option.bind_eq_some_iff] at h
  obtain ⟨⟨outcome, updates⟩, -, p, hp, h⟩ := h
  obtain rfl := Option.some.inj h
  exact nears_withSupport
    (Support.effort_of_concludes (a := .reply job outcome updates 0) hp rfl _)

theorem nears_of_abandon {job : Nat} (h : s.abandon job = some t) : Nears s t := by
  unfold abandon at h
  simp only [Option.bind_eq_bind, Option.bind_eq_some_iff] at h
  obtain ⟨p, hp, h⟩ := h
  have less := Support.effort_of_concludes (a := .abandon job 0) hp rfl s.link.size
  split at h
  · obtain rfl := Option.some.inj h
    exact nears_withSupport less
  · split at h
    · obtain rfl := Option.some.inj h
      exact nears_withSupport less
    · rename_i call _ _
      obtain ⟨l, hl, rfl⟩ := Option.map_eq_some_iff.1 h
      have given : Link.step (.abandon call none) s.link = some l := hl
      have le := Link.effort_le_of_call given rfl
      have linked : _ + s.link.effort = _ :=
        (s.withSupport p).effort_withLink (Link.move_of_step given).size
      have moved := s.effort_withSupport_le p
      exact nears_of_effort (by omega)

theorem nears_of_proceedShutdown {shutdown : Nat} (h : s.proceedShutdown shutdown = some t) :
    Nears s t := by
  have proceeds (h : (s.support.proceedShutdown shutdown).map s.withSupport = some t) :
      Nears s t :=
    nears_of_support h fun _ hp => Support.effort_of_shutdown hp _
  unfold proceedShutdown at h
  split at h
  · split at h
    · rename_i none
      obtain rfl := Option.some.inj h
      have begun := s.link.effort_beginClose
      have size : s.link.beginClose.size = s.link.size := rfl
      refine nears_of_effort ?_
      simp only [effort, withLink, none, size, begun, Option.elim_none, Option.elim_some]
      omega
    · split at h
      · exact proceeds h
      · cases h
  · exact proceeds h

theorem nears_of_sweep {closer : Nat} (h : (s.link.sweep closer).map s.withLink = some t) :
    Nears s t := by
  obtain ⟨l, hl, rfl⟩ := Option.map_eq_some_iff.1 h
  have less := Link.effort_of_sweep hl
  have linked := s.effort_withLink (Link.Move.size (Link.move_of_sweep hl))
  exact nears_of_effort (by omega)

/-- A call takes a step. -/
theorem Advances.nears (adv : Advances s t) : Nears s t := by
  obtain ⟨b, l, n, hl, own, -, link, requests⟩ := adv.step
  have size := (Link.move_of_step hl).size
  obtain ⟨size', effort', unread'⟩ : t.link.size = l.size ∧ t.link.effort = l.effort ∧
      t.link.unread = l.unread := by
    rcases link with link | ⟨process, ends⟩
    · rw [link]
      exact ⟨rfl, rfl, rfl⟩
    · exact Link.exit_same ends
  have same : t.effort + s.link.effort = s.effort + t.link.effort := by
    simp only [effort, adv.support, adv.runs, adv.closer, size', size]
    omega
  rcases Link.effort_of_call hl own with less | ⟨stays, less, rfl⟩
  · exact nears_of_effort (by omega)
  · refine nears_of_unread (by omega) ?_ (by omega)
    rcases requests with kept | ⟨written, -⟩
    · exact Nat.le_of_eq (by rw [unanswered, unanswered, kept])
    · cases written

theorem arrivals_same (connection : Nat) (arrivals : List Arrival) (l : Link) :
    let l' := arrivals.foldl (fun l a => (l.arrive connection a).getD l) l
    l'.size = l.size ∧ l'.effort = l.effort := by
  induction arrivals generalizing l with
  | nil => exact ⟨rfl, rfl⟩
  | cons a arrivals ih =>
    obtain ⟨size, effort⟩ : ((l.arrive connection a).getD l).size = l.size ∧
        ((l.arrive connection a).getD l).effort = l.effort := by
      cases h : l.arrive connection a with
      | none => exact ⟨rfl, rfl⟩
      | some l' => exact Link.arrive_same h
    obtain ⟨size', effort'⟩ := ih ((l.arrive connection a).getD l)
    exact ⟨size'.trans size, effort'.trans effort⟩

theorem nears_of_serve {request : Nat} (h : serve o s request = some t) : Nears s t := by
  unfold serve at h
  simp only [Option.bind_eq_bind, Option.bind_eq_some_iff] at h
  obtain ⟨r, found, h⟩ := h
  split at h
  · cases h
  rename_i free
  obtain rfl := Option.some.inj h
  obtain ⟨size, effort'⟩ := arrivals_same r.connection (o.reply request r.request).arrivals s.link
  have linked := s.effort_withLink size
  have waits : r.answered = false := Bool.eq_false_iff.2 fun e => free (.inl e)
  have fewer := countP_set_add found { r with answered := true } fun r => !r.answered
  simp only [waits, Bool.not_false, Bool.not_true, Bool.toNat_true, Bool.toNat_false] at fewer
  refine nears_of_unanswered (Nat.le_of_eq ?_) ?_
  · exact Nat.add_right_cancel (linked.trans (congrArg (s.effort + ·) effort'))
  · show (s.requests.set request _).countP _ < s.requests.countP _
    omega

end Session

end PanelScript

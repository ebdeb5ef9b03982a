import PanelScript.Proofs.Support.Admission

/-!
# One outcome for each admission

A job tells observers how it ended, and sends a result, once each. Both say the same, and what the
interpreter returned. Submissions are answered as observers are told.

* `told` are the events that a job publishes in a run;
* `Record` is what a job has told and sent at each of its stages, and `Recorded.run` keeps it;
* `Agrees` compares an event with a result, and `agrees_ofOutcome` those that a job makes;
* `one_outcome_per_admission`: event and result of a job that ended are one each, and agree.
-/

namespace PanelScript

/-- The event by which a job tells how it ended. -/
def Job.ending (j : Job) (o : Outcome) : Event :=
  .ofOutcome j.unit.id j.unit.source j.context.widget.name o

/-- The result that a job sends. -/
def Job.result (j : Job) (o : Outcome) (elapsed : Nat) : ScriptResult :=
  .ofOutcome j.unit.id j.unit.source elapsed o

/-- The outcome of a job is what its interpreter returned, or that it was asked to stop. -/
def Job.Yields (j : Job) (o : Outcome) : Prop :=
  j.returned = [o] ∨ j.returned = [] ∧ o = .error .cancelled

/-- What a job has told and sent at each of its stages. -/
def Job.Record (told : List Event) (j : Job) : Prop :=
  match j.stage with
  | .waiting | .running => told = [] ∧ j.sent = [] ∧ j.returned = []
  | .concluding o _ => told = [] ∧ j.sent = [] ∧ j.Yields o
  | .releasing o _ | .delivering o _ => told = [j.ending o] ∧ j.sent = [] ∧ j.Yields o
  | .leaving | .ended =>
    ∃ o elapsed, told = [j.ending o] ∧ j.sent = [j.result o elapsed] ∧ j.Yields o
  | .lost => False

/-- The answer is told by an event of this kind. -/
def SubmitAnswer.kind? : SubmitAnswer → Option EventKind
  | .scheduled _ => some .scheduled
  | .skipped _ => some .skipped
  | .rejected => some .rejected
  | .refused _ => none

/-- Whether a submission was answered by an answer of a kind. -/
def Submission.isAnswered (kind : EventKind) (c : Submission) : Bool :=
  match c.stage with
  | .returned answer => answer.kind? = some kind
  | _ => false

/-- Whether a submission has told an event of a kind. -/
def Submission.hasTold (kind : EventKind) (c : Submission) : Bool :=
  match c.stage with
  | .returned answer => answer.kind? = some kind
  | .spawning => .scheduled = kind
  | _ => false

/-- The event and the result of a unit say the same: that it completed, with the value that its
interpreter returned, or that it failed, and how. -/
structure Agrees (u : ScriptUnit) (returned : List Outcome) (e : Event) (r : ScriptResult) :
    Prop where
  event : e.unit = some u.id ∧ e.source = some u.source ∧ e.kind.isTerminal = true
  result : r.unit = u.id ∧ r.source = u.source
  completed : e.kind = .completed ↔ r.status = .completed
  failed : e.kind = .failed ↔ r.status = .failed
  value : r.status = .completed → r.failure = none ∧ returned = [.ok r.value] ∧ e.error = none
  failure : r.status = .failed → r.value = none ∧ ∃ f, r.failure = some f ∧
    e.error = some f.message ∧ e.transport = f.isTransport ∧
    (returned = [.error f] ∨ returned = [] ∧ f = .cancelled)

/-- **The event and the result that a job makes of its outcome agree.** -/
theorem agrees_ofOutcome {j : Job} {o : Outcome} (h : j.Yields o) (elapsed : Nat) :
    Agrees j.unit j.returned (j.ending o) (j.result o elapsed) := by
  cases o with
  | ok value =>
    rcases h with h | ⟨-, h⟩
    · exact ⟨⟨rfl, rfl, rfl⟩, ⟨rfl, rfl⟩, ⟨fun _ => rfl, fun _ => rfl⟩, ⟨nofun, nofun⟩,
        fun _ => ⟨rfl, h, rfl⟩, nofun⟩
    · cases h
  | error f =>
    refine ⟨⟨rfl, rfl, rfl⟩, ⟨rfl, rfl⟩, ⟨nofun, nofun⟩, ⟨fun _ => rfl, fun _ => rfl⟩, nofun,
      fun _ => ⟨rfl, f, rfl, rfl, rfl, ?_⟩⟩
    rcases h with h | ⟨h, hf⟩
    · exact .inl h
    · exact .inr ⟨h, Except.error.inj hf⟩

/-- What a job has told and sent is at most one of each, and one of each when it has ended. -/
theorem Job.Record.outcome {j : Job} {es : List Event} (h : j.Record es) :
    es.length ≤ 1 ∧ j.sent.length ≤ 1 ∧
      (j.isOutstanding = false → ∃ e r, es = [e] ∧ j.sent = [r] ∧
        Agrees j.unit j.returned e r) := by
  unfold Job.Record at h
  cases e : j.stage with
  | waiting | running | concluding | releasing | delivering =>
    simp only [e] at h
    obtain ⟨rfl, hs, -⟩ := h
    exact ⟨by simp, by simp [hs], by simp [Job.isOutstanding, e]⟩
  | leaving | ended =>
    simp only [e] at h
    obtain ⟨o, elapsed, rfl, hs, hy⟩ := h
    exact ⟨by simp, by simp [hs], fun _ => ⟨_, _, rfl, hs, agrees_ofOutcome hy elapsed⟩⟩
  | lost => simp only [e] at h

namespace Support

variable {settings : SupportSettings} {engines : PerBackend (Option Engine)}
  {widgets : List Widget} {s : Support}

/-- The events that a job publishes in a run. -/
def told (job : Nat) : List SupportAction → Support → List Event
  | [], _ => []
  | a :: actions, s =>
    match step a s with
    | some t => (if a.job? = some job then t.events.drop s.events.length else []) ++
        told job actions t
    | none => []

/-! ### What a job tells and sends -/

/-- A job that has told and sent what is due at its stage, if there is such a job. -/
def Recorded (k : Nat) (told : List Event) (s : Support) : Prop :=
  match s.jobs[k]? with
  | some j => j.Record told
  | none => told = []

theorem Recorded.of_eq {k : Nat} {es : List Event} {s t : Support} (h : s.Recorded k es)
    (e : t.jobs[k]? = s.jobs[k]?) : t.Recorded k es := by
  unfold Recorded at *
  rwa [e]

theorem Recorded.record {k : Nat} {es : List Event} {s : Support} {j : Job} (h : s.Recorded k es)
    (hj : s.jobs[k]? = some j) : j.Record es := by
  unfold Recorded at h
  rwa [hj] at h

/-- One step of a job adds to the record what the next stage asks for. -/
theorem JobMove.record {s s' : Support} {a : SupportAction} {k : Nat} {j j' : Job}
    {es : List Event} (m : JobMove k s j a j' s') (up : s.tornDown = false) (h : j.Record es) :
    j'.Record (es ++ s'.events.drop s.events.length) := by
  have quiet : es ++ s.events.drop s.events.length = es := by simp
  cases m with
  | start e =>
    simp only [Job.Record, e] at h
    rw [quiet]
    exact h
  | write | finish =>
    rw [quiet]
    exact h
  | conclude o elapsed e | reply o _ elapsed e =>
    simp only [Job.Record, e] at h
    obtain ⟨rfl, hs, hr⟩ := h
    exact ⟨quiet, hs, .inl (by rw [hr, List.nil_append])⟩
  | giveUp _ e | abandon _ e =>
    simp only [Job.Record, e] at h
    obtain ⟨rfl, hs, hr⟩ := h
    exact ⟨quiet, hs, .inr ⟨hr, rfl⟩⟩
  | tell e =>
    simp only [Job.Record, e] at h
    obtain ⟨rfl, hs, hy⟩ := h
    exact ⟨List.drop_left, hs, hy⟩
  | release e =>
    simp only [Job.Record, e] at h
    obtain ⟨rfl, hs, hy⟩ := h
    exact ⟨quiet, hs, hy⟩
  | deliver e =>
    simp only [Job.Record, e] at h
    obtain ⟨rfl, hs, hy⟩ := h
    exact ⟨_, _, quiet, by rw [hs]; rfl, hy⟩
  | leave e =>
    simp only [Job.Record, e] at h
    rw [quiet]
    exact h
  | vanish _ down => simp [up] at down

/-- One move adds to the record of a job what the job tells by it. -/
theorem Move.recorded {a : SupportAction} {s t : Support} {k : Nat} {es : List Event}
    (m : Move a s t) (up : t.tornDown = false) (hs : s.Recorded k es) :
    t.Recorded k (es ++ if a.job? = some k then t.events.drop s.events.length else []) := by
  have up' := m.tornDown up
  rcases m.job_cases k with ⟨other, same⟩ | ⟨other, fresh, u, c, stage, found, waits⟩ |
    ⟨j, j', s', hj, own, rfl⟩
  · rw [if_neg other, List.append_nil]
    exact hs.of_eq same
  · have none : es = [] := by
      simpa only [Recorded, fresh] using hs
    obtain rfl : stage = .waiting := by
      refine waits.resolve_right fun lost => ?_
      rw [up'] at lost
      cases lost.2
    rw [if_neg other, none]
    simp only [Recorded, found]
    exact ⟨rfl, rfl, rfl⟩
  · have act : a.job? = some k := by
      refine own.owner.resolve_right fun down => ?_
      rw [up'] at down
      cases down.2
    rw [if_pos act]
    simp only [Recorded, List.getElem?_set_self (List.getElem?_eq_some_iff.1 hj).1]
    exact own.record up' (hs.record hj)

/-- In a run in which nothing is torn down a job keeps its record. -/
theorem Recorded.run {actions : List SupportAction} {s v : Support} {k : Nat} {es : List Event}
    (h : Machine.run step actions s = some v) (up : v.tornDown = false) (hs : s.Recorded k es) :
    v.Recorded k (es ++ told k actions s) := by
  induction actions generalizing s es with
  | nil =>
    obtain rfl : s = v := Option.some.inj h
    rwa [told, List.append_nil]
  | cons a actions ih =>
    rw [Machine.run_cons, Option.bind_eq_some_iff] at h
    obtain ⟨t, ha, ht⟩ := h
    -- A teardown is not undone, so none of the actions is one.
    have up' := not_tornDown_of_reaches ⟨actions, ht⟩ up
    simp only [told, ha]
    rw [← List.append_assoc]
    exact ih ht ((move_of_step_of_up ha up').recorded up' hs)

/-! ### What submissions tell and answer -/

/-- Of a kind of event as many were told as submissions have told one. -/
def Counted (kind : EventKind) (s : Support) : Prop :=
  s.submissions.countP (Submission.hasTold kind) = s.events.countP fun e => e.kind = kind

theorem countP_kind_tell (s : Support) (e : Event) (kind : EventKind) :
    ((s.tell e).events.countP fun e => e.kind = kind) =
      (s.events.countP fun e => e.kind = kind) + (decide (e.kind = kind)).toNat :=
  countP_concat s.events e _

theorem SubmissionMove.counted {s s' : Support} {i : Nat} {c c' : Submission} {kind : EventKind}
    (h : s.submissions[i]? = some c) (m : SubmissionMove s c c' s') (hs : s.Counted kind) :
    ({ s' with submissions := s.submissions.set i c' } : Support).Counted kind := by
  have key := countP_set_add h c' (Submission.hasTold kind)
  unfold Counted at *
  cases m with
  | reject e | skip e | announce e =>
    simp only [Submission.hasTold, SubmitAnswer.kind?, e, Bool.toNat_false, Nat.add_zero,
      Option.some.injEq] at key
    rw [hs] at key
    exact key.trans (countP_kind_tell s (eventOf _ c.unit c.context) kind).symm
  | enter e | refuse e =>
    simp only [Submission.hasTold, e, Bool.toNat_false, Nat.add_zero] at key
    exact key.trans hs
  | spawn e | lose e =>
    simp only [Submission.hasTold, SubmitAnswer.kind?, e, Option.some.injEq,
      Nat.add_right_cancel_iff] at key
    exact key.trans hs

theorem JobMove.counted {s s' : Support} {a : SupportAction} {k : Nat} {j j' : Job}
    {kind : EventKind} (m : JobMove k s j a j' s') (hk : kind.isTerminal = false)
    (hs : s.Counted kind) : ({ s' with jobs := s.jobs.set k j' } : Support).Counted kind := by
  cases m with
  | tell e =>
    rename_i o _
    have other : (j.ending o).kind ≠ kind := by
      rintro rfl
      simp [Job.ending] at hk
    unfold Counted at *
    have key := countP_kind_tell s (j.ending o) kind
    rw [decide_eq_false other, Bool.toNat_false, Nat.add_zero] at key
    exact hs.trans key.symm
  | _ => exact hs

theorem Move.counted {a : SupportAction} {s t : Support} {kind : EventKind} (m : Move a s t)
    (hk : kind.isTerminal = false) (hs : s.Counted kind) : t.Counted kind := by
  cases m with
  | submit u c =>
    have none : (s.submit u c).submissions.countP (Submission.hasTold kind) =
        s.submissions.countP (Submission.hasTold kind) := by
      rcases s.admission_cases u c with e | e | ⟨_, e⟩ <;>
        simp [Support.submit, Submission.hasTold, SubmitAnswer.kind?, e]
    exact none.trans hs
  | submission h m => exact m.counted h hs
  | job h m => exact m.counted hk hs
  | shutdown h m => cases m <;> exact hs
  | beginShutdown | tearDown => exact hs

theorem counted (h : Reachable settings engines widgets s) {kind : EventKind}
    (hk : kind.isTerminal = false) : s.Counted kind :=
  h.of_moves (P := fun s => s.Counted kind) rfl fun _ _ _ m => m.counted hk

/-- While no submission is in progress, those that have told something have answered so. -/
theorem isAnswered_eq_hasTold {s : Support} (h : s.isQuiet = true) {c : Submission}
    (hc : c ∈ s.submissions) (kind : EventKind) : c.isAnswered kind = c.hasTold kind := by
  have idle := List.all_eq_true.1 h c hc
  cases e : c.stage <;> simp_all [Submission.isActive, Submission.isAnswered, Submission.hasTold]

/-! ### Outcomes and admissions -/

/-- **One outcome for each admission, told and sent alike.** In a run in which nothing is torn down,
each submission that was scheduled has a job of its own. It publishes no second event and sends no
second result; when it has ended it has published one and sent one, both about the unit, and they
agree. While no submission is in progress, as many schedules, skips and rejections were answered as
were published. -/
theorem one_outcome_per_admission {actions : List SupportAction}
    (h : Machine.run step actions (ofSettings settings engines widgets) = some s)
    (up : s.tornDown = false) :
    (∀ (i : Nat) (c : Submission) (k : Nat), s.submissions[i]? = some c →
      c.stage = .returned (.scheduled k) →
      (∀ (i' : Nat) (c' : Submission), s.submissions[i']? = some c' →
        c'.stage = .returned (.scheduled k) → i' = i) ∧
      ∃ j, s.jobs[k]? = some j ∧
        (told k actions (ofSettings settings engines widgets)).length ≤ 1 ∧ j.sent.length ≤ 1 ∧
        (j.isOutstanding = false → ∃ e r,
          told k actions (ofSettings settings engines widgets) = [e] ∧ j.sent = [r] ∧
            Agrees c.unit j.returned e r)) ∧
    (s.isQuiet = true → ∀ kind ∈ [EventKind.scheduled, .skipped, .rejected],
      s.submissions.countP (Submission.isAnswered kind) =
        s.events.countP fun e => e.kind = kind) := by
  have reach : Reachable settings engines widgets s := ⟨actions, h⟩
  refine ⟨fun i c k hc hk => ⟨fun i' c' hc' hk' => ?_, ?_⟩, fun quiet kind hkind => ?_⟩
  · exact (origins reach).own i' i c' c k hc' hk' hc hk
  · obtain ⟨j, hj, hu, -⟩ := (origins reach).job i c k hc hk
    have start : (ofSettings settings engines widgets).Recorded k [] := by
      simp [Recorded, ofSettings]
    have record := (start.run h up).record hj
    rw [List.nil_append] at record
    rw [← hu]
    exact ⟨j, hj, record.outcome⟩
  · have hterm : kind.isTerminal = false := by
      simp only [List.mem_cons, List.not_mem_nil, or_false] at hkind
      rcases hkind with rfl | rfl | rfl <;> rfl
    rw [← counted reach hterm]
    exact List.countP_congr fun c hc => by rw [isAnswered_eq_hasTold quiet hc]

/-- A unit is submitted twice, the second time while it is pending, and runs to its end. -/
def sampleOutcome : List SupportAction :=
  sampleSubmit 0 ++ (sampleSubmit 1).take 3 ++ sampleRun 0

theorem one_outcome_per_admission_sample :
    ∃ s c j e r, Machine.run step sampleOutcome sample = some s ∧ s.submissions[0]? = some c ∧
      c.stage = .returned (.scheduled 0) ∧ s.jobs[0]? = some j ∧
      told 0 sampleOutcome sample = [e] ∧ j.sent = [r] ∧ Agrees c.unit j.returned e r ∧
      s.submissions.countP (Submission.isAnswered .skipped) =
        s.events.countP fun e => e.kind = .skipped := by
  have run : (Machine.run step sampleOutcome sample).map (fun s =>
      (s.tornDown, (s.submissions[0]?).map Submission.stage, s.jobs.map Job.isOutstanding,
        s.isQuiet)) =
      some (false, some (.returned (.scheduled 0)), [false], true) := by decide +kernel
  obtain ⟨s, hr, hs⟩ := Option.map_eq_some_iff.1 run
  simp only [Prod.mk.injEq] at hs
  obtain ⟨up, hc, ended, quiet⟩ := hs
  obtain ⟨c, hc, hk⟩ := Option.map_eq_some_iff.1 hc
  obtain ⟨outcome, counts⟩ := one_outcome_per_admission hr up
  obtain ⟨-, j, hj, -, -, last⟩ := outcome 0 c 0 hc hk
  have hended : j.isOutstanding = false := by
    have := List.mem_map_of_mem (f := Job.isOutstanding) (List.mem_of_getElem? hj)
    rw [ended] at this
    simpa using this
  obtain ⟨e, r, he, hsent, agree⟩ := last hended
  exact ⟨s, c, j, e, r, hr, hc, hk, hj, he, hsent, agree, counts quiet .skipped (by simp)⟩

end Support

end PanelScript

import PanelScript.Proofs.Support.Fence
import PanelScript.Proofs.Support.Report

/-!
# Release before delivery

A job lets its unit be admitted again before it sends its result. So whoever has the result can
submit the unit once more, and is not turned away unless others submit it too.

* `Job.Becomes` and `Submission.Becomes` say what a run makes of a job and of a submission;
* `Job.Unsent`: a job that has not let its unit go has sent nothing;
* `LanesExact.exists_holder`: what is pending is held by one submission or one job;
* `Submission.Entitled` says why a submission got as far as it did, `Sourced` that each job comes
  from a submission that was told so;
* `not_contains_of_answered`: the unit of a job that has let it go is free, if nobody else asks;
* `released_before_delivery`: the entry of an execution is gone before its result is there.
-/

namespace PanelScript

namespace Job

variable {j j' j'' : Job}

/-- The job has let its unit go before it sends a result. -/
def Unsent (j : Job) : Prop :=
  match j.stage with
  | .leaving | .ended | .lost => True
  | _ => j.sent = []

/-- A job keeps its unit, is not pending again, and takes nothing back that it has sent. -/
structure Becomes (j j' : Job) : Prop where
  unit : j'.unit = j.unit
  pending : j'.isPending = true → j.isPending = true
  sent : j.sent <+: j'.sent

theorem Becomes.refl (j : Job) : j.Becomes j := ⟨rfl, id, List.prefix_rfl⟩

theorem Becomes.trans (h : j.Becomes j') (h' : j'.Becomes j'') : j.Becomes j'' :=
  ⟨h'.unit.trans h.unit, h.pending ∘ h'.pending, h.sent.trans h'.sent⟩

theorem isOutstanding_of_isPending (h : j.isPending = true) : j.isOutstanding = true := by
  unfold isPending at h
  split at h <;> rename_i e <;> simp_all [isOutstanding]

/-- A pending job has sent nothing. -/
theorem Unsent.sent_nil (h : j.Unsent) (pending : j.isPending = true) : j.sent = [] := by
  unfold isPending at pending
  unfold Unsent at h
  split at pending <;> rename_i e <;> simp_all

end Job

namespace Submission

/-- A submission keeps its unit and its context, and its answer once it has one. -/
structure Becomes (c c' : Submission) : Prop where
  unit : c'.unit = c.unit
  context : c'.context = c.context
  answered : ∀ answer, c.stage = .returned answer → c' = c

theorem Becomes.refl (c : Submission) : c.Becomes c := ⟨rfl, rfl, fun _ _ => rfl⟩

theorem Becomes.trans {c c' c'' : Submission} (h : c.Becomes c') (h' : c'.Becomes c'') :
    c.Becomes c'' := by
  refine ⟨h'.unit.trans h.unit, h'.context.trans h.context, fun answer e => ?_⟩
  obtain rfl := h.answered answer e
  exact h'.answered answer e

/-- The submission was not admitted since its unit was pending. -/
def isTurnedAway (c : Submission) : Bool :=
  match c.stage with
  | .skipping | .returned (.skipped _) => true
  | _ => false

/-- A submission is refused for the number of its values or for want of an interpreter, and what
gets further fits in both. -/
def Entitled (engines : PerBackend (Option Engine)) (c : Submission) : Prop :=
  match c.stage with
  | .rejecting | .returned .rejected => True
  | .returned (.refused _) =>
    c.context.values.length ≠ c.unit.inputs.length ∨
      (engines.get c.unit.backend).isSome = false
  | _ =>
    c.context.values.length = c.unit.inputs.length ∧ (engines.get c.unit.backend).isSome = true

end Submission

namespace Support

variable {settings : SupportSettings} {engines : PerBackend (Option Engine)}
  {widgets : List Widget} {r s s' t v : Support} {a : SupportAction} {i k : Nat} {j j' : Job}
  {c c' : Submission} {u : ScriptUnit}

/-! ### What becomes of a job -/

theorem JobMove.becomes (m : JobMove k s j a j' s') : j.Becomes j' := by
  refine ⟨m.unit_eq.1, ?_, ?_⟩
  · cases m with
    | write | finish => exact id
    | vanish =>
      intro h
      cases h
    | start e | giveUp _ e | conclude _ _ e | reply _ _ _ e | abandon _ e | tell e | release e
    | deliver e | leave e => simp [Job.isPending, e]
  · cases m with
    | deliver => exact List.prefix_append _ _
    | _ => exact List.prefix_rfl

theorem Move.job_becomes (m : Move a s t) (hj : s.jobs[k]? = some j) :
    ∃ j', t.jobs[k]? = some j' ∧ j.Becomes j' := by
  rcases m.job_cases k with ⟨-, same⟩ | ⟨-, fresh, -⟩ | ⟨d, d', s', hd, own, rfl⟩
  · exact ⟨j, same.trans hj, .refl j⟩
  · rw [fresh] at hj
    cases hj
  · obtain rfl := Option.some.inj (hd.symm.trans hj)
    exact ⟨d', List.getElem?_set_self (List.getElem?_eq_some_iff.1 hd).1, own.becomes⟩

theorem job_becomes (h : Machine.Reaches step s t) (hj : s.jobs[k]? = some j) :
    ∃ j', t.jobs[k]? = some j' ∧ j.Becomes j' := by
  refine kept_of_reaches (P := fun t => ∃ j', t.jobs[k]? = some j' ∧ j.Becomes j') ?_ h
    ⟨j, hj, .refl j⟩
  rintro a u v m ⟨d, hd, old⟩
  obtain ⟨d', hd', new⟩ := m.job_becomes hd
  exact ⟨d', hd', old.trans new⟩

theorem JobMove.unsent (m : JobMove k s j a j' s') (h : j.Unsent) : j'.Unsent := by
  cases m with
  | start e | giveUp _ e | conclude _ _ e | reply _ _ _ e | abandon _ e | tell e | release e =>
    simpa only [Job.Unsent, e] using h
  | write | finish => exact h
  | deliver | leave | vanish => trivial

theorem unsent (h : Reachable settings engines widgets s) : ∀ j ∈ s.jobs, j.Unsent := by
  refine h.of_moves (P := fun s => ∀ j ∈ s.jobs, j.Unsent) (by simp [ofSettings]) ?_
  intro a s t m
  refine m.forall_jobs ?_ fun _ _ _ _ => JobMove.unsent
  rintro u c stage (rfl | ⟨rfl, -⟩)
  · rfl
  · trivial

/-- A job that has a result sent, or is about to send it by this step, has let its unit go. -/
theorem JobMove.released (m : JobMove k s j a j' s') (h : j.Unsent) (sent : j'.sent ≠ []) :
    j.isPending = false := by
  cases pending : j.isPending with
  | false => rfl
  | true =>
    have none := h.sent_nil pending
    cases m with
    | deliver e => simp [Job.isPending, e] at pending
    | _ => exact absurd none sent

theorem released_of_step (h : Reachable settings engines widgets s) (ha : step a s = some t)
    (hj : s.jobs[k]? = some j) (hj' : t.jobs[k]? = some j') (sent : j'.sent ≠ []) :
    j.isPending = false := by
  have own := unsent h j (List.mem_of_getElem? hj)
  have held : j.sent ≠ [] → j.isPending = false := by
    intro some
    refine Bool.eq_false_iff.2 fun pending => some (own.sent_nil pending)
  by_cases down : a = .tearDown
  · -- Nothing is sent by a teardown, which is several moves.
    subst down
    refine held ?_
    have same : ∃ d, t.jobs[k]? = some d ∧ d.sent = j.sent := by
      refine kept_of_step (P := fun t => ∃ d, t.jobs[k]? = some d ∧ d.sent = j.sent) ?_ ha
        ⟨j, hj, rfl⟩
      rintro u v m ⟨d, hd, e⟩
      rcases m.job_cases k with ⟨-, same⟩ | ⟨-, fresh, -⟩ | ⟨d₀, d', s', hd₀, own, rfl⟩
      · exact ⟨d, same.trans hd, e⟩
      · rw [fresh] at hd
        cases hd
      · obtain rfl := Option.some.inj (hd₀.symm.trans hd)
        cases own
        exact ⟨_, List.getElem?_set_self (List.getElem?_eq_some_iff.1 hd).1, e⟩
    obtain ⟨d, hd, e⟩ := same
    obtain rfl := Option.some.inj (hd.symm.trans hj')
    rwa [e] at sent
  · rcases (move_of_step ha down).job_cases k with ⟨-, same⟩ | ⟨-, fresh, -⟩ |
      ⟨d, d', s', hd, m, rfl⟩
    · obtain rfl := Option.some.inj (hj'.symm.trans (same.trans hj))
      exact held sent
    · rw [fresh] at hj
      cases hj
    · obtain rfl := Option.some.inj (hd.symm.trans hj)
      obtain rfl := Option.some.inj
        ((List.getElem?_set_self (List.getElem?_eq_some_iff.1 hd).1).symm.trans hj')
      exact m.released own sent

/-! ### What becomes of a submission -/

/-- A submission that was answered moves no more. -/
theorem SubmissionMove.becomes (m : SubmissionMove s c c' s') : c.Becomes c' := by
  refine ⟨m.unit_eq.1, m.unit_eq.2, fun answer e => ?_⟩
  cases m with
  | reject e' | enter e' | refuse e' | skip e' | announce e' | spawn e' | lose e' =>
    rw [e] at e'
    cases e'

/-- A move leaves a submission as it is, or is a step of it. -/
theorem Move.submission_cases (m : Move a s t) (hc : s.submissions[i]? = some c) :
    t.submissions[i]? = some c ∨
      ∃ c' s', SubmissionMove s c c' s' ∧ t.submissions[i]? = some c' := by
  have lt := (List.getElem?_eq_some_iff.1 hc).1
  cases m with
  | submit => exact .inl ((List.getElem?_append_left lt).trans hc)
  | @submission _ s' i' d d' h m =>
    by_cases e : i = i'
    · subst e
      obtain rfl := Option.some.inj (h.symm.trans hc)
      exact .inr ⟨d', s', m, List.getElem?_set_self lt⟩
    · exact .inl ((List.getElem?_set_ne fun e' => e e'.symm).trans hc)
  | job _ m => exact .inl ((congrArg (·[i]?) m.submissions_eq).trans hc)
  | shutdown _ m => exact .inl ((congrArg (·[i]?) m.unchanged.1).trans hc)
  | beginShutdown | tearDown => exact .inl hc

theorem Move.submission_becomes (m : Move a s t) (hc : s.submissions[i]? = some c) :
    ∃ c', t.submissions[i]? = some c' ∧ c.Becomes c' := by
  rcases m.submission_cases hc with same | ⟨c', _, own, hc'⟩
  · exact ⟨c, same, .refl c⟩
  · exact ⟨c', hc', own.becomes⟩

theorem submission_becomes (h : Machine.Reaches step s t) (hc : s.submissions[i]? = some c) :
    ∃ c', t.submissions[i]? = some c' ∧ c.Becomes c' := by
  refine kept_of_reaches (P := fun t => ∃ c', t.submissions[i]? = some c' ∧ c.Becomes c') ?_ h
    ⟨c, hc, .refl c⟩
  rintro a u v m ⟨d, hd, old⟩
  obtain ⟨d', hd', new⟩ := m.submission_becomes hd
  exact ⟨d', hd', old.trans new⟩

/-- What every submission has when it is new, and keeps by each of its steps, all submissions
have. -/
theorem Move.forall_submissions {P : Submission → Prop} (m : Move a s t)
    (new : ∀ u c, P ⟨u, c, s.admission u c⟩)
    (keep : ∀ c c' s', SubmissionMove s c c' s' → P c → P c') (hs : ∀ c ∈ s.submissions, P c) :
    ∀ c ∈ t.submissions, P c := by
  intro c hc
  cases m with
  | submit u x =>
    rcases List.mem_append.1 hc with hc | hc
    · exact hs c hc
    · rw [List.mem_singleton.1 hc]
      exact new u x
  | submission h m =>
    rcases List.mem_or_eq_of_mem_set hc with hc | rfl
    · exact hs c hc
    · exact keep _ _ _ m (hs _ (List.mem_of_getElem? h))
  | job _ m => exact hs c (m.submissions_eq ▸ hc)
  | shutdown _ m => exact hs c (m.unchanged.1 ▸ hc)
  | beginShutdown | tearDown => exact hs c hc

theorem entitled_admission (s : Support) (u : ScriptUnit) (x : Context) :
    (Submission.mk u x (s.admission u x)).Entitled s.engines := by
  unfold admission
  split_ifs with closed count registered
  · trivial
  · exact .inl count
  · exact .inr (by simpa using registered)
  · exact ⟨by simpa using count, by simpa [Option.isSome_iff_ne_none] using registered⟩

theorem SubmissionMove.entitled (m : SubmissionMove s c c' s') (h : c.Entitled engines) :
    c'.Entitled engines := by
  cases m with
  | reject => trivial
  | enter e | refuse e | skip e | announce e | spawn e | lose e =>
    simpa only [Submission.Entitled, e] using h

theorem entitled (h : Reachable settings engines widgets s) :
    ∀ c ∈ s.submissions, c.Entitled s.engines := by
  refine h.of_moves (P := fun s => ∀ c ∈ s.submissions, c.Entitled s.engines)
    (by simp [ofSettings]) ?_
  intro a s t m hs
  rw [m.engines_eq]
  exact m.forall_submissions s.entitled_admission (fun _ _ _ m => m.entitled) hs

/-- Each job comes from a submission that was told so. -/
def Sourced (s : Support) : Prop :=
  ∀ k < s.jobs.length, ∃ (i : Nat) (c : Submission), s.submissions[i]? = some c ∧
    c.stage = .returned (.scheduled k)

theorem Move.sourced (m : Move a s t) (hs : s.Sourced) : t.Sourced := by
  intro k lt
  by_cases old : k < s.jobs.length
  · obtain ⟨i, c, hc, e⟩ := hs k old
    obtain ⟨c', hc', becomes⟩ := m.submission_becomes hc
    obtain rfl := becomes.answered _ e
    exact ⟨i, c', hc', e⟩
  · cases m with
    | @submission _ _ i c c' h m =>
      rcases m.jobs_eq with ⟨stage, jobs, -, told⟩ | ⟨jobs, -⟩
      · refine ⟨i, c', List.getElem?_set_self (List.getElem?_eq_some_iff.1 h).1, ?_⟩
        have lt : k < (s.jobs ++ [_]).length := jobs ▸ lt
        rw [List.length_append, List.length_singleton] at lt
        obtain rfl : k = s.jobs.length := by omega
        exact told
      · exact absurd (jobs ▸ lt) old
    | job => exact absurd (by simpa using lt) old
    | shutdown _ m => exact absurd (m.unchanged.2.1 ▸ lt) old
    | submit | beginShutdown | tearDown => exact absurd lt old

theorem sourced (h : Reachable settings engines widgets s) : s.Sourced := by
  refine h.of_moves (P := Sourced) ?_ fun _ _ _ m => m.sourced
  intro k lt
  cases lt

/-! ### Who holds a unit -/

/-- What is pending is held once, by a submission or by a job. -/
theorem LanesExact.exists_holder (h : s.LanesExact) {b : Backend} {id : UnitId}
    (pending : (s.lanes.get b).contains id = true) :
    s.holders b id = 1 ∧
      ((∃ (i : Nat) (c : Submission), s.submissions[i]? = some c ∧ c.holds b id = true) ∨
        ∃ (k : Nat) (j : Job), s.jobs[k]? = some j ∧ j.holds b id = true) := by
  have one : s.holders b id = 1 := by
    rw [h b id, pending]
    rfl
  refine ⟨one, ?_⟩
  unfold holders census at one
  by_cases some : 0 < s.submissions.countP (Submission.holds b id)
  · obtain ⟨c, hc, holds⟩ := List.countP_pos_iff.1 some
    obtain ⟨i, hi⟩ := List.getElem?_of_mem hc
    exact .inl ⟨i, c, hi, holds⟩
  · have some : 0 < s.jobs.countP (Job.holds b id) := by omega
    obtain ⟨j, hj, holds⟩ := List.countP_pos_iff.1 some
    obtain ⟨k, hk⟩ := List.getElem?_of_mem hj
    exact .inr ⟨k, j, hk, holds⟩

/-- No two jobs hold a unit. -/
theorem LanesExact.job_unique (h : s.LanesExact) {b : Backend} {id : UnitId} {k k' : Nat}
    (hj : s.jobs[k]? = some j) (hj' : s.jobs[k']? = some j') (holds : j.holds b id = true)
    (holds' : j'.holds b id = true) : k = k' := by
  refine Decidable.byContradiction fun ne => ?_
  have two := two_le_countP hj hj' ne holds holds'
  have one := h.holders_le_one b id
  unfold holders census at one
  omega

/-- Of all that was ever submitted of a unit in `t`, all but the submission with the number `i` had
been answered in `r`. -/
def AnsweredBut (u : ScriptUnit) (i : Nat) (r t : Support) : Prop :=
  ∀ (n : Nat) (d : Submission), n ≠ i → t.submissions[n]? = some d →
    d.unit.isNamed u.backend u.id = true →
      ∃ d₀ answer, r.submissions[n]? = some d₀ ∧ d₀.stage = .returned answer

/-- A submission that had been answered keeps its answer. -/
theorem AnsweredBut.stage (alone : AnsweredBut u i r t) (rv : Machine.Reaches step r v)
    (vt : Machine.Reaches step v t) {n : Nat} (ne : n ≠ i) (hc : v.submissions[n]? = some c)
    (named : c.unit.isNamed u.backend u.id = true) :
    r.submissions[n]? = some c ∧ ∃ answer, c.stage = .returned answer := by
  obtain ⟨c', hc', becomes⟩ := submission_becomes vt hc
  obtain ⟨d, answer, hd, e⟩ := alone n c' ne hc' (by rwa [becomes.unit])
  obtain ⟨d', hd', kept⟩ := submission_becomes rv hd
  obtain rfl := kept.answered answer e
  obtain rfl := Option.some.inj (hd'.symm.trans hc)
  exact ⟨hd, answer, e⟩

/-- The unit of a job is free when the job has let it go, if all other submissions of the unit had
been answered while it was pending, but for one that has not been let in. -/
theorem not_contains_of_answered (hr : Reachable settings engines widgets r)
    (rv : Machine.Reaches step r v) (vt : Machine.Reaches step v t)
    (hj : r.jobs[k]? = some j) (pending : j.isPending = true) (hj' : v.jobs[k]? = some j')
    (released : j'.isPending = false) (alone : AnsweredBut j.unit i r t)
    (asking : ∀ c, v.submissions[i]? = some c → c.stage = .entering) :
    (v.lanes.get j.unit.backend).contains j.unit.id = false := by
  have hv : Reachable settings engines widgets v := Machine.Reaches.trans hr rv
  refine Bool.eq_false_iff.2 fun contains => ?_
  rcases ((lanes_exact hv).exists_holder contains).2 with ⟨n, c, hc, holds⟩ | ⟨k', d, hd, holds⟩
  · -- A submission that holds the unit is neither answered nor about to ask.
    have named : c.unit.isNamed j.unit.backend j.unit.id = true := by
      unfold Submission.holds at holds
      split at holds
      · exact holds
      · exact holds
      · cases holds
    have answered : ∃ answer, c.stage = .entering ∨ c.stage = .returned answer := by
      by_cases ne : n = i
      · subst ne
        exact ⟨.rejected, .inl (asking c hc)⟩
      · obtain ⟨-, answer, e⟩ := alone.stage rv vt ne hc named
        exact ⟨answer, .inr e⟩
    obtain ⟨answer, e | e⟩ := answered <;> simp [Submission.holds, e] at holds
  · -- A job that holds the unit was there already, beside the first one.
    simp only [Job.holds, Bool.and_eq_true] at holds
    obtain ⟨n, c, hc, e⟩ := sourced hv k' (List.getElem?_eq_some_iff.1 hd).1
    obtain ⟨d', hd', unit, -⟩ := (origins hv).job n c k' hc e
    obtain rfl := Option.some.inj (hd'.symm.trans hd)
    have ne : n ≠ i := by
      rintro rfl
      rw [asking c hc] at e
      cases e
    obtain ⟨old, -⟩ := alone.stage rv vt ne hc (by rw [← unit]; exact holds.2)
    obtain ⟨d₀, hd₀, unit₀, -⟩ := (origins hr).job n c k' old e
    obtain ⟨d₁, hd₁, becomes⟩ := job_becomes rv hd₀
    obtain rfl := Option.some.inj (hd₁.symm.trans hd)
    have held : j.holds j.unit.backend j.unit.id = true := by simp [Job.holds, pending]
    have held₀ : d₀.holds j.unit.backend j.unit.id = true := by
      simp only [Job.holds, becomes.pending holds.1, ← becomes.unit, holds.2, Bool.and_self]
    obtain rfl := (lanes_exact hr).job_unique hj hd₀ held held₀
    obtain rfl := Option.some.inj (hj'.symm.trans hd)
    rw [released] at holds
    cases holds.1

/-! ### A unit that is submitted again -/

/-- A submission of a unit that is free whenever it asks is not turned away by a move. -/
theorem Move.not_isTurnedAway (m : Move a s t)
    (free : ∀ c, s.submissions[i]? = some c → c.stage = .entering →
      (s.lanes.get c.unit.backend).contains c.unit.id = false)
    (hs : ∀ c, s.submissions[i]? = some c → c.isTurnedAway = false) :
    ∀ c, t.submissions[i]? = some c → c.isTurnedAway = false := by
  intro c hc
  cases m with
  | submit u x =>
    have hc : (s.submissions ++ [⟨u, x, s.admission u x⟩])[i]? = some c := hc
    rw [getElem?_concat_ite] at hc
    split_ifs at hc
    · obtain rfl := Option.some.inj hc
      rcases s.admission_cases u x with e | e | ⟨_, e⟩ <;> simp [Submission.isTurnedAway, e]
    · exact hs c hc
  | submission h m =>
    rcases getElem?_set_eq_some hc with ⟨rfl, rfl⟩ | ⟨-, hc⟩
    · cases m with
      | refuse e held =>
        rw [Lane.enter?_eq_none_iff, free _ h e] at held
        cases held
      | skip e =>
        have := hs _ h
        simp [Submission.isTurnedAway, e] at this
      | reject | enter | announce | spawn | lose => rfl
    · exact hs c hc
  | job _ m => exact hs c (m.submissions_eq ▸ hc)
  | shutdown _ m => exact hs c (m.unchanged.1 ▸ hc)
  | beginShutdown | tearDown => exact hs c hc

/-- The first submission of a unit after a job of it has let it go is not turned away. -/
theorem not_isTurnedAway (hr : Reachable settings engines widgets r)
    (rs : Machine.Reaches step r s) (st : Machine.Reaches step s t)
    (hj : r.jobs[k]? = some j) (pending : j.isPending = true) (hj' : s.jobs[k]? = some j')
    (released : j'.isPending = false) (after : s.submissions.length ≤ i)
    (named : ∀ c, t.submissions[i]? = some c →
      c.unit.isNamed j.unit.backend j.unit.id = true)
    (alone : AnsweredBut j.unit i r t) :
    ∀ c, t.submissions[i]? = some c → c.isTurnedAway = false := by
  refine st.invariant_between
    (P := fun v => ∀ c, v.submissions[i]? = some c → c.isTurnedAway = false) ?_ ?_
  · intro a u v su ha vt hu
    by_cases down : a = .tearDown
    · subst down
      obtain rfl : u.tearDown = v := Option.some.inj ha
      rwa [submissions_tearDown]
    refine (move_of_step ha down).not_isTurnedAway ?_ hu
    intro c hc entering
    have ut : Machine.Reaches step u t := (Machine.Reaches.single ha).trans vt
    obtain ⟨c', hc', becomes⟩ := submission_becomes ut hc
    obtain ⟨d, hd, same⟩ := job_becomes su hj'
    have free := not_contains_of_answered hr (rs.trans su) ut hj pending hd
      (Bool.eq_false_iff.2 fun h => Bool.eq_false_iff.1 released (same.pending h)) alone
      (fun d hd => by rwa [Option.some.inj (hd.symm.trans hc)])
    have unit := named c' hc'
    simp only [ScriptUnit.isNamed, becomes.unit, Bool.and_eq_true, decide_eq_true_eq,
      beq_iff_eq] at unit
    rwa [unit.1, unit.2] at free
  · intro c hc
    rw [List.getElem?_eq_none after] at hc
    cases hc

/-- While no shutdown has come in, nothing was rejected. -/
theorem stage_ne_rejected (h : Reachable settings engines widgets s) (up : s.accepting = true)
    (hc : c ∈ s.submissions) : c.stage ≠ .returned .rejected := by
  rcases open_or_led h with free | ⟨i, led⟩
  · intro e
    have none : (s.events.countP fun e => e.kind = .rejected) = 0 :=
      List.countP_eq_zero.2 fun e he => by simpa using free.events e he
    have told : s.Counted .rejected := counted h rfl
    rw [Counted, none, List.countP_eq_zero] at told
    exact told c hc (by simp [Submission.hasTold, SubmitAnswer.kind?, e])
  · rw [led.calm.closed] at up
    cases up

/-- **A unit is released before its result is sent.**

In every state, and after every next step, a job that has sent its result is not pending. What is
pending has one holder: a submission that was admitted and is not yet a job, or a job that is
outstanding and has sent nothing.

So let a job be pending in `r` and have sent its result in `s`. If the unit is submitted after `s`,
and all other submissions of it were answered in `r`, then it is not skipped; while no shutdown has
come in it is scheduled when it is answered, if as many values came with it as the unit takes. -/
theorem released_before_delivery (h : Reachable settings engines widgets s) :
    (∀ (k : Nat) (j : Job), s.jobs[k]? = some j →
      (j.sent ≠ [] → j.isPending = false) ∧
      ∀ a t j', step a s = some t → t.jobs[k]? = some j' → j'.sent ≠ [] → j.isPending = false) ∧
    (∀ b id, (s.lanes.get b).contains id = true →
      s.holders b id = 1 ∧
        ((∃ c ∈ s.submissions, c.holds b id = true) ∨
          ∃ j ∈ s.jobs, j.holds b id = true ∧ j.isOutstanding = true ∧ j.sent = [])) ∧
    ∀ (k : Nat) (j j' : Job) (r t : Support) (i : Nat) (c : Submission),
      Reachable settings engines widgets r → r.jobs[k]? = some j → j.isPending = true →
      Machine.Reaches step r s → s.jobs[k]? = some j' → j'.sent ≠ [] →
      Machine.Reaches step s t → s.submissions.length ≤ i → t.submissions[i]? = some c →
      c.unit.isNamed j.unit.backend j.unit.id = true → AnsweredBut j.unit i r t →
        c.isTurnedAway = false ∧
        (t.accepting = true → c.context.values.length = c.unit.inputs.length →
          ∀ answer, c.stage = .returned answer → ∃ k', answer = .scheduled k') := by
  have unsent := unsent h
  refine ⟨?_, ?_, ?_⟩
  · intro k j hj
    have own := unsent j (List.mem_of_getElem? hj)
    refine ⟨fun sent => ?_, fun a t j' ha hj' sent => released_of_step h ha hj hj' sent⟩
    exact Bool.eq_false_iff.2 fun pending => sent (own.sent_nil pending)
  · intro b id pending
    obtain ⟨one, holder⟩ := (lanes_exact h).exists_holder pending
    refine ⟨one, ?_⟩
    rcases holder with ⟨i, c, hc, holds⟩ | ⟨k, j, hj, holds⟩
    · exact .inl ⟨c, List.mem_of_getElem? hc, holds⟩
    · have hj := List.mem_of_getElem? hj
      have pending : j.isPending = true := (Bool.and_eq_true_iff.1 holds).1
      exact .inr ⟨j, hj, holds, Job.isOutstanding_of_isPending pending,
        (unsent j hj).sent_nil pending⟩
  · intro k j j' r t i c hr hj pending rs hj' sent st after hc named alone
    have released : j'.isPending = false :=
      Bool.eq_false_iff.2 fun p => sent ((unsent j' (List.mem_of_getElem? hj')).sent_nil p)
    have turned : c.isTurnedAway = false := by
      refine not_isTurnedAway hr rs st hj pending hj' released after ?_ alone c hc
      intro d hd
      rwa [Option.some.inj (hd.symm.trans hc)]
    refine ⟨turned, fun up count answer e => ?_⟩
    have ht : Reachable settings engines widgets t := (Machine.Reaches.trans h st)
    cases answer with
    | scheduled k' => exact ⟨k', rfl⟩
    | skipped => simp [Submission.isTurnedAway, e] at turned
    | rejected => exact absurd e (stage_ne_rejected ht up (List.mem_of_getElem? hc))
    | refused =>
      -- An interpreter of this kind is there, since it was asked to run the first job.
      have engines : t.engines = r.engines :=
        kept_of_reaches (P := fun t => t.engines = r.engines)
          (fun _ _ _ m e => m.engines_eq.trans e) (rs.trans st) rfl
      obtain ⟨n, d, hd, told⟩ := sourced hr k (List.getElem?_eq_some_iff.1 hj).1
      obtain ⟨d', hd', unit, -⟩ := (origins hr).job n d k hd told
      obtain rfl := Option.some.inj (hd'.symm.trans hj)
      have first := entitled hr d (List.mem_of_getElem? hd)
      have second := entitled ht c (List.mem_of_getElem? hc)
      simp only [Submission.Entitled, told, ← unit] at first
      simp only [ScriptUnit.isNamed, Bool.and_eq_true, decide_eq_true_eq] at named
      simp [Submission.Entitled, e, engines, ← named.1, first.2, count] at second

/-- A unit runs until its result is there, and is submitted once more. -/
def sampleRelease : List SupportAction :=
  sampleSubmit 0 ++ ((sampleRun 0).take 6 ++ sampleSubmit 1)

theorem released_before_delivery_sample :
    ∃ s t j c, Machine.run step (sampleSubmit 0 ++ (sampleRun 0).take 6) sample = some s ∧
      Machine.run step (sampleSubmit 1) s = some t ∧ s.jobs[0]? = some j ∧ j.sent.length = 1 ∧
      j.isPending = false ∧ j.isOutstanding = true ∧ t.submissions[1]? = some c ∧
      ∃ k, c.stage = .returned (.scheduled k) := by
  have first : (Machine.run step (sampleSubmit 0) sample).map (fun r =>
      (r.jobs.map fun j => (j.isPending, j.unit.backend, j.unit.id),
        r.submissions.map Submission.stage)) =
      some ([(true, .inProcess, 7)], [.returned (.scheduled 0)]) := by decide +kernel
  have second : (Machine.run step (sampleSubmit 0 ++ (sampleRun 0).take 6) sample).map (fun s =>
      (s.jobs.map fun j => (j.isOutstanding, j.sent.length), s.submissions.length)) =
      some ([(true, 1)], 1) := by decide +kernel
  have third : (Machine.run step sampleRelease sample).map (fun t =>
      (t.accepting, t.submissions.length, (t.submissions[1]?).map fun c =>
        (c.context.values.length == c.unit.inputs.length, c.unit.isNamed .inProcess 7, c.stage))) =
      some (true, 2, some (true, true, .returned (.scheduled 1))) := by decide +kernel
  obtain ⟨r, hr, first⟩ := Option.map_eq_some_iff.1 first
  obtain ⟨s, hs, second⟩ := Option.map_eq_some_iff.1 second
  obtain ⟨t, ht, third⟩ := Option.map_eq_some_iff.1 third
  have rs : Machine.run step ((sampleRun 0).take 6) r = some s := by
    simpa [Machine.run_append, hr] using hs
  have st : Machine.run step (sampleSubmit 1) s = some t := by
    simpa [sampleRelease, Machine.run_append, hr, rs] using ht
  simp only [Prod.mk.injEq, List.map_eq_singleton_iff, Option.map_eq_some_iff, beq_iff_eq]
    at first second third
  obtain ⟨⟨j, jobs, pending, backend, id⟩, ⟨c₀, submissions, answered⟩⟩ := first
  obtain ⟨⟨j', jobs', outstanding, sent⟩, before⟩ := second
  obtain ⟨up, after, c, hc, count, named, answer⟩ := third
  have hj : r.jobs[0]? = some j := by simp [jobs]
  have hj' : s.jobs[0]? = some j' := by simp [jobs']
  have told : j'.sent ≠ [] := by
    rintro e
    simp [e] at sent
  obtain ⟨one, -, again⟩ := released_before_delivery ⟨_, hs⟩
  have released := (one 0 j' hj').1 told
  rw [← backend, ← id] at named
  have alone : AnsweredBut j.unit 1 r t := by
    intro n d ne hd _
    have lt := (List.getElem?_eq_some_iff.1 hd).1
    obtain rfl : n = 0 := by omega
    exact ⟨c₀, _, by simp [submissions], answered⟩
  obtain ⟨-, scheduled⟩ := again 0 j j' r t 1 c ⟨_, hr⟩ hj pending ⟨_, rs⟩ hj' told ⟨_, st⟩
    (Nat.le_of_eq before) hc named alone
  obtain ⟨k, e⟩ := scheduled up count _ answer
  exact ⟨s, t, j', c, hs, st, hj', sent, released, outstanding, hc, k, by rw [answer, e]⟩

end Support

end PanelScript

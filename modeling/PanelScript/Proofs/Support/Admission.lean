import Mathlib.Tactic.SplitIfs
import PanelScript.Proofs.Participants
import PanelScript.Proofs.Support.Move

/-!
# Admission

A unit is pending exactly as long as one submission that was admitted, or one job, holds it. Jobs
come from submissions, one from each that was scheduled.

* `census` counts submissions and jobs of given kinds, and moves change it by one participant;
* `holders` are the executions of a unit that were admitted and not released;
* `lanes_exact`: a lane contains a unit just when the unit has a holder, and it has no second;
* `Move.job_cases`: a move leaves a job as it is, or adds it, or is a step of it; `Move.forall_jobs`
  is what follows for all jobs;
* `Origins` says which submission a job comes from.
-/

namespace PanelScript

/-- A unit of a kind with a number. -/
def ScriptUnit.isNamed (b : Backend) (id : UnitId) (u : ScriptUnit) : Bool :=
  b = u.backend && id == u.id

@[simp] theorem ScriptUnit.isNamed_self (u : ScriptUnit) : u.isNamed u.backend u.id = true := by
  simp [isNamed]

/-- A submission holds its unit from admission until its job does. -/
def Submission.holds (b : Backend) (id : UnitId) (c : Submission) : Bool :=
  match c.stage with
  | .announcing | .spawning => c.unit.isNamed b id
  | _ => false

/-- A job holds its unit until it releases it. -/
def Job.holds (b : Backend) (id : UnitId) (j : Job) : Bool := j.isPending && j.unit.isNamed b id

namespace Support

variable {settings : SupportSettings} {engines : PerBackend (Option Engine)}
  {widgets : List Widget} {s : Support}

/-- A submission that begins is rejected, refused, or goes on to ask for admission. -/
theorem admission_cases (s : Support) (u : ScriptUnit) (c : Context) :
    s.admission u c = .rejecting ∨ s.admission u c = .entering ∨
      ∃ e, s.admission u c = .returned (.refused e) := by
  unfold admission
  split_ifs <;> simp

/-- How many submissions and jobs are of given kinds. -/
def census (p : Submission → Bool) (q : Job → Bool) (s : Support) : Nat :=
  s.submissions.countP p + s.jobs.countP q

section Census

variable {p : Submission → Bool} {q : Job → Bool} {s : Support}

theorem census_submit (u : ScriptUnit) (c : Context) :
    (s.submit u c).census p q = s.census p q + (p ⟨u, c, s.admission u c⟩).toNat := by
  simp only [census, submit, countP_concat]
  omega

/-- A submission is counted as what it has become. -/
theorem census_submission {i : Nat} {c : Submission} (h : s.submissions[i]? = some c)
    (c' : Submission) (s' : Support) :
    ({ s' with submissions := s.submissions.set i c' } : Support).census p q + (p c).toNat =
      ({ s' with submissions := s.submissions } : Support).census p q + (p c').toNat := by
  have := countP_set_add h c' p
  simp only [census]
  omega

/-- A job is counted as what it has become. -/
theorem census_job {k : Nat} {j : Job} (h : s.jobs[k]? = some j) (j' : Job) (s' : Support) :
    ({ s' with jobs := s.jobs.set k j' } : Support).census p q + (q j).toNat =
      ({ s' with jobs := s.jobs } : Support).census p q + (q j').toNat := by
  have := countP_set_add h j' q
  simp only [census]
  omega

theorem census_spawn (j : Job) :
    ({ s with jobs := s.jobs ++ [j] } : Support).census p q = s.census p q + (q j).toNat := by
  simp only [census, countP_concat]
  omega

end Census

/-! ### Lanes -/

/-- The executions of a unit that were admitted and not released. -/
def holders (s : Support) (b : Backend) (id : UnitId) : Nat :=
  s.census (Submission.holds b id) (Job.holds b id)

/-- A lane contains what is held, and nothing is held twice. -/
def LanesExact (s : Support) : Prop :=
  ∀ b id, s.holders b id = ((s.lanes.get b).contains id).toNat

theorem contains_setLane {s : Support} {u : ScriptUnit} {l : Lane}
    (h : (s.lanes.get u.backend).enter? u.id = some l) (b : Backend) (id : UnitId) :
    ((s.setLane u.backend l).lanes.get b).contains id =
      ((s.lanes.get b).contains id || u.isNamed b id) := by
  by_cases e : b = u.backend
  · subst e
    simp [setLane, ScriptUnit.isNamed, Lane.contains_of_enter? h]
  · simp [setLane, ScriptUnit.isNamed, PerBackend.get_set_of_ne e, e]

theorem contains_release (s : Support) (u : ScriptUnit) (b : Backend) (id : UnitId) :
    ((s.release u).lanes.get b).contains id =
      ((s.lanes.get b).contains id && !u.isNamed b id) := by
  by_cases e : b = u.backend
  · subst e
    simp [release, setLane, ScriptUnit.isNamed, bne]
  · simp [release, setLane, ScriptUnit.isNamed, PerBackend.get_set_of_ne e, e]

theorem not_contains_of_enter? {s : Support} {u : ScriptUnit} {l : Lane}
    (h : (s.lanes.get u.backend).enter? u.id = some l) {b : Backend} {id : UnitId}
    (hu : u.isNamed b id = true) : (s.lanes.get b).contains id = false := by
  obtain ⟨rfl, rfl⟩ : b = u.backend ∧ id = u.id := by simpa [ScriptUnit.isNamed] using hu
  refine Bool.eq_false_iff.2 fun hc => ?_
  rw [Lane.enter?_eq_none_iff.2 hc] at h
  cases h

/-- Admission of a unit that was not pending. -/
theorem toNat_enter {n : Nat} {pending named : Bool} (h : n = pending.toNat + named.toNat)
    (free : named = true → pending = false) : n = (pending || named).toNat := by
  cases named <;> cases pending <;> simp_all

/-- Release by the one holder. -/
theorem toNat_release {n : Nat} {pending named : Bool} (h : n + named.toNat = pending.toNat) :
    n = (pending && !named).toNat := by
  cases named <;> cases pending <;> simp_all

theorem lanesExact_ofSettings (settings : SupportSettings) (engines : PerBackend (Option Engine))
    (widgets : List Widget) : (ofSettings settings engines widgets).LanesExact := by
  intro b id
  cases b <;> rfl

theorem SubmissionMove.lanesExact {s s' : Support} {i : Nat} {c c' : Submission}
    (h : s.submissions[i]? = some c) (m : SubmissionMove s c c' s') (hs : s.LanesExact) :
    ({ s' with submissions := s.submissions.set i c' } : Support).LanesExact := by
  intro b id
  have before : s.census _ _ = _ := hs b id
  have key := census_submission (p := Submission.holds b id) (q := Job.holds b id) h c' s'
  cases m with
  | reject e | refuse e | skip e =>
    simp only [Submission.holds, e, Bool.toNat_false, Nat.add_zero] at key
    exact key.trans before
  | announce e =>
    simp only [Submission.holds, e, Nat.add_right_cancel_iff] at key
    exact key.trans before
  | enter e hl =>
    simp only [Submission.holds, e, Bool.toNat_false, Nat.add_zero] at key
    rw [contains_setLane hl]
    exact toNat_enter (key.trans (congrArg (· + _) before)) (not_contains_of_enter? hl)
  | spawn e up =>
    have new := census_spawn (p := Submission.holds b id) (q := Job.holds b id) (s := s)
      (.new c.unit c.context)
    simp only [Submission.holds, e, Bool.toNat_false, Nat.add_zero] at key
    simp only [Job.holds, Job.isPending, Job.new, Bool.true_and] at new
    exact (Nat.add_right_cancel (key.trans new)).trans before
  | lose e down =>
    have new := census_spawn (p := Submission.holds b id) (q := Job.holds b id) (s := s)
      { Job.new c.unit c.context with stage := .lost }
    simp only [Submission.holds, e, Bool.toNat_false, Nat.add_zero] at key
    simp only [Job.holds, Job.isPending, Bool.false_and, Bool.toNat_false, Nat.add_zero] at new
    rw [contains_release]
    exact toNat_release ((key.trans new).trans before)

theorem JobMove.lanesExact {s s' : Support} {a : SupportAction} {k : Nat} {j j' : Job}
    (h : s.jobs[k]? = some j) (m : JobMove k s j a j' s') (hs : s.LanesExact) :
    ({ s' with jobs := s.jobs.set k j' } : Support).LanesExact := by
  intro b id
  have before : s.census _ _ = _ := hs b id
  have key := census_job (p := Submission.holds b id) (q := Job.holds b id) h j' s'
  cases m with
  | start e | giveUp _ e | conclude _ _ e | reply _ _ _ e | abandon _ e | tell e | deliver e
  | leave e =>
    simp only [Job.holds, Job.isPending, e, Nat.add_right_cancel_iff] at key
    exact key.trans before
  | write | finish =>
    exact (Nat.add_right_cancel key).trans before
  | release e =>
    simp only [Job.holds, Job.isPending, e, Bool.false_and, Bool.true_and, Bool.toNat_false,
      Nat.add_zero] at key
    rw [contains_release]
    exact toNat_release (key.trans before)
  | vanish e down =>
    have gone : Job.holds b id { j with stage := .lost } = false := rfl
    rw [gone, Bool.toNat_false, Nat.add_zero] at key
    cases hp : j.isPending with
    | false =>
      simp only [Job.holds, hp, Bool.false_and, Bool.toNat_false, Nat.add_zero] at key
      exact key.trans before
    | true =>
      simp only [Job.holds, hp, Bool.true_and] at key
      simp only [if_true]
      rw [contains_release]
      exact toNat_release (key.trans before)

theorem Move.lanesExact {a : SupportAction} {s t : Support} (m : Move a s t)
    (hs : s.LanesExact) : t.LanesExact := by
  cases m with
  | submit u c =>
    intro b id
    have none : Submission.holds b id ⟨u, c, s.admission u c⟩ = false := by
      rcases s.admission_cases u c with e | e | ⟨_, e⟩ <;> simp [Submission.holds, e]
    have key := census_submit (p := Submission.holds b id) (q := Job.holds b id) (s := s) u c
    rw [none, Bool.toNat_false, Nat.add_zero] at key
    exact key.trans (hs b id)
  | submission h m => exact m.lanesExact h hs
  | job h m => exact m.lanesExact h hs
  | shutdown h m => cases m <;> exact hs
  | beginShutdown | tearDown => exact hs

/-- **A lane contains a unit just when one execution of it was admitted and not released.** -/
theorem lanes_exact (h : Reachable settings engines widgets s) :
    s.LanesExact :=
  h.of_moves (lanesExact_ofSettings settings engines widgets) fun _ _ _ m => m.lanesExact

theorem LanesExact.holders_le_one {s : Support} (h : s.LanesExact) (b : Backend) (id : UnitId) :
    s.holders b id ≤ 1 := by
  rw [h b id]
  exact Bool.toNat_le _

/-! ### Where jobs come from -/

theorem SubmissionMove.unit_eq {s s' : Support} {c c' : Submission}
    (m : SubmissionMove s c c' s') : c'.unit = c.unit ∧ c'.context = c.context := by
  cases m <;> exact ⟨rfl, rfl⟩

theorem JobMove.unit_eq {s s' : Support} {a : SupportAction} {k : Nat} {j j' : Job}
    (m : JobMove k s j a j' s') : j'.unit = j.unit ∧ j'.context = j.context := by
  cases m <;> exact ⟨rfl, rfl⟩

theorem JobMove.submissions_eq {s s' : Support} {a : SupportAction} {k : Nat} {j j' : Job}
    (m : JobMove k s j a j' s') : s'.submissions = s.submissions := by
  cases m <;> rfl

theorem ShutdownMove.unchanged {s s' : Support} {a : SupportAction} {i : Nat} {c c' : Shutdown}
    (m : ShutdownMove i s c a c' s') :
    s'.submissions = s.submissions ∧ s'.jobs = s.jobs ∧ s'.events = s.events := by
  cases m <;> exact ⟨rfl, rfl, rfl⟩

theorem submissions_tearDown (s : Support) : s.tearDown.submissions = s.submissions := by
  refine kept_of_step (P := fun t => t.submissions = s.submissions) (a := .tearDown)
    (fun t v m ht => ?_) rfl rfl
  cases m with
  | job _ m => exact m.submissions_eq.trans ht
  | shutdown _ m => cases m
  | tearDown => exact ht

/-- What submissions and jobs leave as it is. -/
structure Frame (s t : Support) : Prop where
  engines : t.engines = s.engines
  accepting : t.accepting = s.accepting
  cancelled : t.cancelled = s.cancelled
  tornDown : t.tornDown = s.tornDown
  shutdowns : t.shutdowns = s.shutdowns
  closings : t.closings = s.closings

theorem Frame.setSubmissions {s t : Support} (h : s.Frame t) (cs : List Submission) :
    s.Frame { t with submissions := cs } :=
  ⟨h.engines, h.accepting, h.cancelled, h.tornDown, h.shutdowns, h.closings⟩

theorem Frame.setJobs {s t : Support} (h : s.Frame t) (js : List Job) :
    s.Frame { t with jobs := js } :=
  ⟨h.engines, h.accepting, h.cancelled, h.tornDown, h.shutdowns, h.closings⟩

theorem SubmissionMove.frame {s s' : Support} {c c' : Submission} (m : SubmissionMove s c c' s') :
    s.Frame s' := by
  cases m <;> exact ⟨rfl, rfl, rfl, rfl, rfl, rfl⟩

theorem JobMove.frame {s s' : Support} {a : SupportAction} {k : Nat} {j j' : Job}
    (m : JobMove k s j a j' s') : s.Frame s' := by
  cases m <;> exact ⟨rfl, rfl, rfl, rfl, rfl, rfl⟩

theorem Move.tornDown {a : SupportAction} {s t : Support} (m : Move a s t)
    (up : t.tornDown = false) : s.tornDown = false := by
  cases m with
  | submission _ m => exact m.frame.tornDown.symm.trans up
  | job _ m => exact m.frame.tornDown.symm.trans up
  | shutdown _ m => cases m <;> exact up
  | submit | beginShutdown => exact up
  | tearDown => cases up

theorem not_tornDown_of_reaches {s t : Support} (h : Machine.Reaches step s t)
    (up : t.tornDown = false) : s.tornDown = false := by
  cases hs : s.tornDown with
  | false => rfl
  | true =>
    rw [true_of_reaches (f := Support.tornDown) (fun _ _ _ m => m.tornDown) h hs] at up
    cases up

/-- An action that does not leave the support torn down is no teardown, so it is one move. -/
theorem move_of_step_of_up {a : SupportAction} {s t : Support} (h : step a s = some t)
    (up : t.tornDown = false) : Move a s t := by
  refine move_of_step h ?_
  rintro rfl
  obtain rfl : s.tearDown = t := Option.some.inj h
  rw [tornDown_tearDown] at up
  cases up

theorem exists_mem_set {cs : List Submission} {i : Nat} {c c' : Submission} (h : cs[i]? = some c)
    (e : c'.unit = c.unit) {d : Submission} (hd : d ∈ cs) :
    ∃ d' ∈ cs.set i c', d'.unit = d.unit := by
  obtain ⟨n, hn⟩ := List.getElem?_of_mem hd
  by_cases hni : n = i
  · subst hni
    obtain rfl : c = d := Option.some.inj (h.symm.trans hn)
    exact ⟨c', List.mem_set (List.getElem?_eq_some_iff.1 h).1 c', e⟩
  · refine ⟨d, List.mem_of_getElem? (i := n) ?_, rfl⟩
    rw [List.getElem?_set_ne (fun e' => hni e'.symm), hn]

/-- A submission that returns a job has added it; no other adds one. -/
theorem SubmissionMove.jobs_eq {s s' : Support} {c c' : Submission} (m : SubmissionMove s c c' s') :
    (∃ stage, s'.jobs = s.jobs ++ [{ Job.new c.unit c.context with stage }] ∧
      (stage = .waiting ∨ stage = .lost ∧ s.tornDown = true) ∧
      c'.stage = .returned (.scheduled s.jobs.length)) ∨
    (s'.jobs = s.jobs ∧ ∀ k, c'.stage ≠ .returned (.scheduled k)) := by
  cases m with
  | spawn => exact .inl ⟨.waiting, rfl, .inl rfl, rfl⟩
  | lose _ down => exact .inl ⟨.lost, rfl, .inr ⟨rfl, down⟩, rfl⟩
  | reject | enter | refuse | skip | announce => exact .inr ⟨rfl, by simp⟩

/-- A job stays as it is, or it is new, or it takes a step. -/
theorem Move.job_cases {a : SupportAction} {s t : Support} (m : Move a s t) (k : Nat) :
    (a.job? ≠ some k ∧ t.jobs[k]? = s.jobs[k]?) ∨
    (a.job? ≠ some k ∧ s.jobs[k]? = none ∧ ∃ u c stage,
      t.jobs[k]? = some { Job.new u c with stage } ∧
        (stage = .waiting ∨ stage = .lost ∧ s.tornDown = true)) ∨
    ∃ j j' s', s.jobs[k]? = some j ∧ JobMove k s j a j' s' ∧
      t = { s' with jobs := s.jobs.set k j' } := by
  cases m with
  | submit | beginShutdown | tearDown => exact .inl ⟨nofun, rfl⟩
  | shutdown _ m =>
    refine .inl ⟨?_, congrArg (·[k]?) m.unchanged.2.1⟩
    cases m <;> exact nofun
  | @submission _ s' _ c _ _ m =>
    rcases m.jobs_eq with ⟨stage, jobs, waits, -⟩ | ⟨jobs, -⟩
    · have found : s'.jobs[k]? = if k = s.jobs.length then
          some { Job.new c.unit c.context with stage } else s.jobs[k]? := by
        rw [jobs]
        exact getElem?_concat_ite _ _ k
      by_cases new : k = s.jobs.length
      · rw [if_pos new] at found
        refine .inr (.inl ⟨nofun, ?_, c.unit, c.context, stage, found, waits⟩)
        exact List.getElem?_eq_none (Nat.le_of_eq new.symm)
      · rw [if_neg new] at found
        exact .inl ⟨nofun, found⟩
    · exact .inl ⟨nofun, congrArg (·[k]?) jobs⟩
  | @job _ _ s' k' j j' hj m =>
    by_cases e : k' = k
    · subst e
      exact .inr (.inr ⟨j, j', s', hj, m, rfl⟩)
    · refine .inl ⟨?_, List.getElem?_set_ne e⟩
      rcases m.owner with own | ⟨rfl, -⟩
      · rw [own]
        exact fun same => e (Option.some.inj same)
      · exact nofun

/-- What every job has when it is new, and keeps by each of its steps, all jobs have. -/
theorem Move.forall_jobs {P : Job → Prop} {a : SupportAction} {s t : Support} (m : Move a s t)
    (new : ∀ u c stage, (stage = .waiting ∨ stage = .lost ∧ s.tornDown = true) →
      P { Job.new u c with stage })
    (keep : ∀ k j j' s', JobMove k s j a j' s' → P j → P j') (hs : ∀ j ∈ s.jobs, P j) :
    ∀ j ∈ t.jobs, P j := by
  intro j hj
  obtain ⟨k, hk⟩ := List.getElem?_of_mem hj
  rcases m.job_cases k with
    ⟨-, same⟩ | ⟨-, -, u, c, stage, found, waits⟩ | ⟨d, d', s', hd, own, rfl⟩
  · exact hs j (List.mem_of_getElem? (same.symm.trans hk))
  · obtain rfl := Option.some.inj (found.symm.trans hk)
    exact new u c stage waits
  · obtain rfl := Option.some.inj
      ((List.getElem?_set_self (List.getElem?_eq_some_iff.1 hd).1).symm.trans hk)
    exact keep k d d' s' own (hs d (List.mem_of_getElem? hd))

/-- Each scheduled submission has a job of its own, and each job is some submission's. -/
structure Origins (s : Support) : Prop where
  job : ∀ (i : Nat) (c : Submission) (k : Nat), s.submissions[i]? = some c →
    c.stage = .returned (.scheduled k) →
    ∃ j, s.jobs[k]? = some j ∧ j.unit = c.unit ∧ j.context = c.context
  own : ∀ (i i' : Nat) (c c' : Submission) (k : Nat), s.submissions[i]? = some c →
    c.stage = .returned (.scheduled k) → s.submissions[i']? = some c' →
    c'.stage = .returned (.scheduled k) → i = i'
  submission : ∀ j ∈ s.jobs, ∃ c ∈ s.submissions, c.unit = j.unit

theorem origins_submit {s : Support} (hs : s.Origins) (u : ScriptUnit) (c : Context) :
    (s.submit u c).Origins := by
  have new : ∀ k, s.admission u c ≠ .returned (.scheduled k) := by
    rcases s.admission_cases u c with e | e | ⟨_, e⟩ <;> simp [e]
  have old : ∀ (i : Nat) (d : Submission) (k : Nat), (s.submit u c).submissions[i]? = some d →
      d.stage = .returned (.scheduled k) → s.submissions[i]? = some d := by
    intro i d k h hk
    rcases getElem?_concat h with h | ⟨-, rfl⟩
    · exact h
    · exact absurd hk (new k)
  refine ⟨fun i d k h hk => hs.job i d k (old i d k h hk) hk, fun i i' d d' k h hk h' hk' => ?_,
    fun j hj => ?_⟩
  · exact hs.own i i' d d' k (old i d k h hk) hk (old i' d' k h' hk') hk'
  · obtain ⟨d, hd, e⟩ := hs.submission j hj
    exact ⟨d, List.mem_append_left _ hd, e⟩

theorem SubmissionMove.origins {s s' : Support} {i : Nat} {c c' : Submission}
    (h : s.submissions[i]? = some c) (m : SubmissionMove s c c' s') (hs : s.Origins) :
    ({ s' with submissions := s.submissions.set i c' } : Support).Origins := by
  rcases m.jobs_eq with ⟨stage, hj, -, hk⟩ | ⟨hj, hk⟩
  · -- The new job has a number that no earlier submission can have been given.
    have fresh : ∀ (n : Nat) (d : Submission), s.submissions[n]? = some d →
        d.stage ≠ .returned (.scheduled s.jobs.length) := by
      intro n d hd hn
      obtain ⟨j₀, hj₀, -⟩ := hs.job n d _ hd hn
      simp at hj₀
    refine ⟨fun n d k hd hdk => ?_, fun n n' d d' k hd hdk hd' hdk' => ?_, fun j₀ hj₀ => ?_⟩
    · simp only [hj]
      rcases getElem?_set_eq_some hd with ⟨-, rfl⟩ | ⟨-, hd⟩
      · obtain rfl : s.jobs.length = k := by simpa [hk] using hdk
        exact ⟨_, List.getElem?_concat_length, m.unit_eq.1.symm, m.unit_eq.2.symm⟩
      · obtain ⟨j₀, hj₀, e⟩ := hs.job n d k hd hdk
        have hlt := (List.getElem?_eq_some_iff.1 hj₀).1
        exact ⟨j₀, by rw [List.getElem?_append_left hlt, hj₀], e⟩
    · rcases getElem?_set_eq_some hd with ⟨hn, e⟩ | ⟨-, old⟩ <;>
        rcases getElem?_set_eq_some hd' with ⟨hn', e'⟩ | ⟨-, old'⟩
      · rw [hn, hn']
      · exact absurd (hdk'.trans (hdk.symm.trans (e ▸ hk))) (fresh n' d' old')
      · exact absurd (hdk.trans (hdk'.symm.trans (e' ▸ hk))) (fresh n d old)
      · exact hs.own n n' d d' k old hdk old' hdk'
    · rcases List.mem_append.1 (hj ▸ hj₀ : j₀ ∈ s.jobs ++ [_]) with hj₀ | hj₀
      · obtain ⟨d, hd, e⟩ := hs.submission j₀ hj₀
        obtain ⟨d', hd', e'⟩ := exists_mem_set h m.unit_eq.1 hd
        exact ⟨d', hd', e'.trans e⟩
      · obtain ⟨d', hd', e'⟩ := exists_mem_set h m.unit_eq.1 (List.mem_of_getElem? h)
        rw [List.mem_singleton.1 hj₀]
        exact ⟨d', hd', e'⟩
  · have old : ∀ (n : Nat) (d : Submission) (k : Nat), (s.submissions.set i c')[n]? = some d →
        d.stage = .returned (.scheduled k) → s.submissions[n]? = some d := by
      intro n d k hd hdk
      rcases getElem?_set_eq_some hd with ⟨-, rfl⟩ | ⟨-, hd⟩
      · exact absurd hdk (hk k)
      · exact hd
    refine ⟨fun n d k hd hdk => ?_, fun n n' d d' k hd hdk hd' hdk' => ?_, fun j₀ hj₀ => ?_⟩
    · simp only [hj]
      exact hs.job n d k (old n d k hd hdk) hdk
    · exact hs.own n n' d d' k (old n d k hd hdk) hdk (old n' d' k hd' hdk') hdk'
    · rw [show ({ s' with submissions := s.submissions.set i c' } : Support).jobs = s.jobs
        from hj] at hj₀
      obtain ⟨d, hd, e⟩ := hs.submission j₀ hj₀
      obtain ⟨d', hd', e'⟩ := exists_mem_set h m.unit_eq.1 hd
      exact ⟨d', hd', e'.trans e⟩

theorem JobMove.origins {s s' : Support} {a : SupportAction} {k : Nat} {j j' : Job}
    (h : s.jobs[k]? = some j) (m : JobMove k s j a j' s') (hs : s.Origins) :
    ({ s' with jobs := s.jobs.set k j' } : Support).Origins := by
  have hsub := m.submissions_eq
  refine ⟨fun n d l hd hdl => ?_, fun n n' d d' l hd hdl hd' hdl' => ?_, fun j₀ hj₀ => ?_⟩
  · obtain ⟨j₀, hj₀, hu, hc⟩ := hs.job n d l (hsub ▸ hd) hdl
    by_cases e : l = k
    · subst e
      obtain rfl : j = j₀ := Option.some.inj (h.symm.trans hj₀)
      exact ⟨j', List.getElem?_set_self (List.getElem?_eq_some_iff.1 h).1,
        m.unit_eq.1.trans hu, m.unit_eq.2.trans hc⟩
    · exact ⟨j₀, by rw [List.getElem?_set_ne (fun e' => e e'.symm), hj₀], hu, hc⟩
  · exact hs.own n n' d d' l (hsub ▸ hd) hdl (hsub ▸ hd') hdl'
  · obtain ⟨n, hn⟩ := List.getElem?_of_mem hj₀
    have : ∃ j₁ ∈ s.jobs, j₁.unit = j₀.unit := by
      rcases getElem?_set_eq_some hn with ⟨-, rfl⟩ | ⟨-, hn⟩
      · exact ⟨j, List.mem_of_getElem? h, m.unit_eq.1.symm⟩
      · exact ⟨j₀, List.mem_of_getElem? hn, rfl⟩
    obtain ⟨j₁, hj₁, e₁⟩ := this
    obtain ⟨d, hd, e⟩ := hs.submission j₁ hj₁
    exact ⟨d, by rw [show ({ s' with jobs := s.jobs.set k j' } : Support).submissions =
      s.submissions from hsub]; exact hd, e.trans e₁⟩

theorem Move.origins {a : SupportAction} {s t : Support} (m : Move a s t) (hs : s.Origins) :
    t.Origins := by
  cases m with
  | submit u c => exact origins_submit hs u c
  | submission h m => exact m.origins h hs
  | job h m => exact m.origins h hs
  | shutdown h m => cases m <;> exact ⟨hs.job, hs.own, hs.submission⟩
  | beginShutdown | tearDown => exact ⟨hs.job, hs.own, hs.submission⟩

theorem origins_ofSettings (settings : SupportSettings) (engines : PerBackend (Option Engine))
    (widgets : List Widget) : (ofSettings settings engines widgets).Origins :=
  ⟨fun _ _ _ h => by simp [ofSettings] at h, fun _ _ _ _ _ h => by simp [ofSettings] at h,
    fun _ h => by simp [ofSettings] at h⟩

theorem origins (h : Reachable settings engines widgets s) :
    s.Origins :=
  h.of_moves (origins_ofSettings settings engines widgets) fun _ _ _ m => m.origins

end Support

end PanelScript

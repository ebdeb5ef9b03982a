import PanelScript.Proofs.Support.Admission

/-!
# The lifecycle of a unit

Observers are told when an execution of a unit is scheduled and when it ends. Of one unit these
reports take turns in the order of their publication, whatever the other submissions, jobs and
shutdowns do meanwhile.

* `lifecycle` are the reports of a unit, and `Alternates` says that they take turns;
* `openCount` and `underway` count the executions whose end was not told, and are at most one;
* `Turns` and `Accounted` are what a move keeps;
* `one_execution_at_a_time`: executions of a unit come one after the other.
-/

namespace PanelScript

/-- The event reports that an execution of a unit was scheduled or has ended. -/
def Event.concerns (id : UnitId) (e : Event) : Bool :=
  e.unit = some id && (e.kind = .scheduled || e.kind.isTerminal)

/-- A submission of a unit whose schedule was told and that has no job yet. -/
def Submission.isSpawning (id : UnitId) (c : Submission) : Bool :=
  match c.stage with
  | .spawning => c.unit.id = id
  | _ => false

/-- A submission of a unit that was admitted and has no job yet. -/
def Submission.isAhead (id : UnitId) (c : Submission) : Bool :=
  match c.stage with
  | .announcing | .spawning => c.unit.id = id
  | _ => false

/-- A submission of a unit that was admitted. -/
def Submission.wasAdmitted (id : UnitId) (c : Submission) : Bool :=
  match c.stage with
  | .announcing | .spawning | .returned (.scheduled _) => c.unit.id = id
  | _ => false

/-- A job of a unit whose end was not told. -/
def Job.isUntold (id : UnitId) (j : Job) : Bool :=
  match j.stage with
  | .waiting | .running | .concluding _ _ => j.unit.id = id
  | _ => false

namespace Support

variable {settings : SupportSettings} {engines : PerBackend (Option Engine)}
  {widgets : List Widget} {s : Support}

/-- The starts and ends of the executions of a unit, in the order of their publication. -/
def lifecycle (s : Support) (id : UnitId) : List Event := s.events.filter (Event.concerns id)

/-- Starts and ends take turns, and the first is a start. -/
def Alternates (es : List Event) : Prop :=
  ∀ (i : Nat) (e : Event), es[i]? = some e → (e.kind = .scheduled ↔ i % 2 = 0)

/-- The ends of executions that were told. -/
def ends (s : Support) (id : UnitId) : Nat := (s.lifecycle id).countP fun e => e.kind.isTerminal

/-- The executions of a unit whose start was told and whose end was not. -/
def openCount (s : Support) (id : UnitId) : Nat :=
  s.census (Submission.isSpawning id) (Job.isUntold id)

/-- The executions of a unit that were admitted and whose end was not told. -/
def underway (s : Support) (id : UnitId) : Nat :=
  s.census (Submission.isAhead id) (Job.isUntold id)

/-- The admissions of a unit. -/
def admissions (s : Support) (id : UnitId) : Nat := s.submissions.countP (Submission.wasAdmitted id)

/-- What was submitted under the number of a unit goes to the lane of the unit, since a number is
given to one unit only. -/
def InOneLane (s : Support) (u : ScriptUnit) : Prop :=
  ∀ c ∈ s.submissions, c.unit.id = u.id → c.unit.backend = u.backend

instance (s : Support) (u : ScriptUnit) : Decidable (s.InOneLane u) :=
  inferInstanceAs
    (Decidable (∀ c ∈ s.submissions, c.unit.id = u.id → c.unit.backend = u.backend))

/-! ### What is told -/

@[simp] theorem concerns_rejected (u : ScriptUnit) (c : Context) (id : UnitId) :
    (eventOf .rejected u c).concerns id = false := by
  simp [Event.concerns, eventOf, Event.ofKind, Event.withUnit, Event.withWidget,
    EventKind.isTerminal]

@[simp] theorem concerns_skipped (u : ScriptUnit) (c : Context) (id : UnitId) :
    (eventOf .skipped u c).concerns id = false := by
  simp [Event.concerns, eventOf, Event.ofKind, Event.withUnit, Event.withWidget,
    EventKind.isTerminal]

@[simp] theorem concerns_scheduled (u : ScriptUnit) (c : Context) (id : UnitId) :
    (eventOf .scheduled u c).concerns id = decide (u.id = id) := by
  simp [Event.concerns, eventOf, Event.ofKind, Event.withUnit, Event.withWidget]

@[simp] theorem concerns_ofOutcome (unit : UnitId) (source widget : String) (o : Outcome)
    (id : UnitId) : (Event.ofOutcome unit source widget o).concerns id = decide (unit = id) := by
  have : (Event.ofOutcome unit source widget o).unit = some unit := by cases o <;> rfl
  simp [Event.concerns, this]

theorem kind_ofOutcome_ne (unit : UnitId) (source widget : String) (o : Outcome) :
    (Event.ofOutcome unit source widget o).kind ≠ .scheduled := by
  cases o <;> exact nofun

theorem lifecycle_tell {s : Support} {e : Event} {id : UnitId} (h : e.concerns id = true) :
    (s.tell e).lifecycle id = s.lifecycle id ++ [e] := by
  simp [lifecycle, tell, h]

theorem lifecycle_tell_other {s : Support} {e : Event} {id : UnitId} (h : e.concerns id = false) :
    (s.tell e).lifecycle id = s.lifecycle id := by
  simp [lifecycle, tell, h]

theorem Alternates.concat {es : List Event} {e : Event} (h : Alternates es)
    (he : e.kind = .scheduled ↔ es.length % 2 = 0) : Alternates (es ++ [e]) := by
  intro i d hd
  rcases getElem?_concat hd with hd | ⟨rfl, rfl⟩
  · exact h i d hd
  · exact he

/-! ### One at a time -/

theorem openCount_le_underway (s : Support) (id : UnitId) : s.openCount id ≤ s.underway id := by
  refine Nat.add_le_add_right (List.countP_mono_left fun c _ h => ?_) _
  unfold Submission.isSpawning at h
  split at h
  · rename_i e
    simpa [Submission.isAhead, e] using h
  · cases h

/-- What is underway of a unit is held in its lane. -/
theorem underway_le_holders {s : Support} {u : ScriptUnit} (ho : s.Origins)
    (lane : s.InOneLane u) : s.underway u.id ≤ s.holders u.backend u.id := by
  refine Nat.add_le_add (List.countP_mono_left fun c hc h => ?_)
    (List.countP_mono_left fun j hj h => ?_)
  · unfold Submission.isAhead at h
    split at h
    all_goals first
      | cases h
      | rename_i e
        have hid : c.unit.id = u.id := by simpa using h
        simp [Submission.holds, ScriptUnit.isNamed, e, hid, lane c hc hid]
  · unfold Job.isUntold at h
    obtain ⟨c, hc, hu⟩ := ho.submission j hj
    split at h
    all_goals first
      | cases h
      | rename_i e
        have hid : j.unit.id = u.id := by simpa using h
        have hb : j.unit.backend = u.backend := by
          rw [← hu]
          exact lane c hc (by rw [hu, hid])
        simp [Job.holds, Job.isPending, ScriptUnit.isNamed, e, hid, hb]

theorem underway_le_one {s : Support} {u : ScriptUnit} (hl : s.LanesExact) (ho : s.Origins)
    (lane : s.InOneLane u) : s.underway u.id ≤ 1 :=
  Nat.le_trans (underway_le_holders ho lane) (hl.holders_le_one u.backend u.id)

theorem openCount_le_one {s : Support} {u : ScriptUnit} (hl : s.LanesExact) (ho : s.Origins)
    (lane : s.InOneLane u) : s.openCount u.id ≤ 1 :=
  Nat.le_trans (s.openCount_le_underway u.id) (underway_le_one hl ho lane)

/-! ### Taking turns -/

/-- Starts and ends take turns, and a start came last just when an execution is open. -/
structure Turns (s : Support) (id : UnitId) : Prop where
  alternates : Alternates (s.lifecycle id)
  parity : (s.lifecycle id).length % 2 = s.openCount id

theorem Turns.of_eq {s t : Support} {id : UnitId} (hs : s.Turns id)
    (hl : t.lifecycle id = s.lifecycle id) (ho : t.openCount id = s.openCount id) : t.Turns id :=
  ⟨hl ▸ hs.alternates, by rw [hl, ho, hs.parity]⟩

/-- A start is told while nothing is open. -/
theorem Turns.start {s t : Support} {id : UnitId} {e : Event} (hs : s.Turns id)
    (hl : t.lifecycle id = s.lifecycle id ++ [e]) (he : e.kind = .scheduled)
    (ho : t.openCount id = s.openCount id + 1) (hb : t.openCount id ≤ 1) : t.Turns id := by
  have even : (s.lifecycle id).length % 2 = 0 := by rw [hs.parity]; omega
  refine ⟨?_, ?_⟩
  · rw [hl]
    exact hs.alternates.concat (by simp [he, even])
  · rw [hl, List.length_append, List.length_singleton]
    omega

/-- An end is told while one execution is open. -/
theorem Turns.finish {s t : Support} {id : UnitId} {e : Event} (hs : s.Turns id)
    (hl : t.lifecycle id = s.lifecycle id ++ [e]) (he : e.kind ≠ .scheduled)
    (ho : t.openCount id + 1 = s.openCount id) (hb : s.openCount id ≤ 1) : t.Turns id := by
  have odd : (s.lifecycle id).length % 2 = 1 := by rw [hs.parity]; omega
  refine ⟨?_, ?_⟩
  · rw [hl]
    exact hs.alternates.concat (by simp [he, odd])
  · rw [hl, List.length_append, List.length_singleton]
    omega

theorem SubmissionMove.turns {s s' : Support} {i : Nat} {c c' : Submission} {id : UnitId}
    (h : s.submissions[i]? = some c) (m : SubmissionMove s c c' s') (up : s.tornDown = false)
    (hb : ({ s' with submissions := s.submissions.set i c' } : Support).openCount id ≤ 1)
    (hs : s.Turns id) :
    ({ s' with submissions := s.submissions.set i c' } : Support).Turns id := by
  have key := census_submission (p := Submission.isSpawning id) (q := Job.isUntold id) h c' s'
  cases m with
  | reject e =>
    simp only [Submission.isSpawning, e, Bool.toNat_false, Nat.add_zero] at key
    exact hs.of_eq (lifecycle_tell_other (by simp)) key
  | skip e =>
    simp only [Submission.isSpawning, e, Bool.toNat_false, Nat.add_zero] at key
    exact hs.of_eq (lifecycle_tell_other (by simp)) key
  | enter e | refuse e =>
    simp only [Submission.isSpawning, e, Bool.toNat_false, Nat.add_zero] at key
    exact hs.of_eq rfl key
  | announce e =>
    simp only [Submission.isSpawning, e, Bool.toNat_false, Nat.add_zero] at key
    by_cases hid : c.unit.id = id
    · simp only [hid, decide_true, Bool.toNat_true] at key
      exact hs.start (lifecycle_tell (by simp [hid])) rfl key hb
    · simp only [hid, decide_false, Bool.toNat_false, Nat.add_zero] at key
      exact hs.of_eq (lifecycle_tell_other (by simp [hid])) key
  | spawn e =>
    have new := census_spawn (p := Submission.isSpawning id) (q := Job.isUntold id) (s := s)
      (.new c.unit c.context)
    simp only [Submission.isSpawning, e, Bool.toNat_false, Nat.add_zero] at key
    exact hs.of_eq rfl (Nat.add_right_cancel (key.trans new))
  | lose e down => simp [up] at down

theorem JobMove.turns {s s' : Support} {a : SupportAction} {k : Nat} {j j' : Job} {id : UnitId}
    (h : s.jobs[k]? = some j) (m : JobMove k s j a j' s') (up : s.tornDown = false)
    (hb : s.openCount id ≤ 1) (hs : s.Turns id) :
    ({ s' with jobs := s.jobs.set k j' } : Support).Turns id := by
  have key := census_job (p := Submission.isSpawning id) (q := Job.isUntold id) h j' s'
  cases m with
  | start e | giveUp _ e | conclude _ _ e | reply _ _ _ e | abandon _ e | release e | deliver e
  | leave e =>
    simp only [Job.isUntold, e, Nat.add_right_cancel_iff] at key
    exact hs.of_eq rfl key
  | write | finish => exact hs.of_eq rfl (Nat.add_right_cancel key)
  | tell e =>
    simp only [Job.isUntold, e, Bool.toNat_false, Nat.add_zero] at key
    by_cases hid : j.unit.id = id
    · simp only [hid, decide_true, Bool.toNat_true] at key
      exact hs.finish (lifecycle_tell (by simp [hid])) (kind_ofOutcome_ne _ _ _ _) key hb
    · simp only [hid, decide_false, Bool.toNat_false, Nat.add_zero] at key
      exact hs.of_eq (lifecycle_tell_other (by simp [hid])) key
  | vanish e down => simp [up] at down

/-- What was submitted before was submitted. -/
theorem Move.submitted {a : SupportAction} {s t : Support} (m : Move a s t) {c : Submission}
    (hc : c ∈ s.submissions) : ∃ c' ∈ t.submissions, c'.unit = c.unit := by
  cases m with
  | submit => exact ⟨c, List.mem_append_left _ hc, rfl⟩
  | submission h m => exact exists_mem_set h m.unit_eq.1 hc
  | job h m => exact ⟨c, m.submissions_eq ▸ hc, rfl⟩
  | shutdown h m => exact ⟨c, m.unchanged.1 ▸ hc, rfl⟩
  | beginShutdown | tearDown => exact ⟨c, hc, rfl⟩

theorem InOneLane.of_move {a : SupportAction} {s t : Support} {u : ScriptUnit} (m : Move a s t)
    (lane : t.InOneLane u) : s.InOneLane u := by
  intro c hc hid
  obtain ⟨c', hc', e⟩ := m.submitted hc
  rw [← e]
  exact lane c' hc' (by rw [e, hid])

theorem Move.turns {a : SupportAction} {s t : Support} {u : ScriptUnit} (m : Move a s t)
    (up : t.tornDown = false) (hl : s.LanesExact) (ho : s.Origins) (lane : t.InOneLane u)
    (hs : s.Turns u.id) : t.Turns u.id := by
  have up' := m.tornDown up
  -- A start needs that nothing is open before it, an end that no more than one execution is.
  have before := openCount_le_one hl ho (lane.of_move m)
  have after := openCount_le_one (m.lanesExact hl) (m.origins ho) lane
  cases m with
  | submit v c =>
    have none : Submission.isSpawning u.id ⟨v, c, s.admission v c⟩ = false := by
      rcases s.admission_cases v c with e | e | ⟨_, e⟩ <;> simp [Submission.isSpawning, e]
    have key := census_submit (p := Submission.isSpawning u.id) (q := Job.isUntold u.id) (s := s)
      v c
    rw [none, Bool.toNat_false, Nat.add_zero] at key
    exact hs.of_eq rfl key
  | submission h m => exact m.turns h up' after hs
  | job h m => exact m.turns h up' before hs
  | shutdown h m => cases m <;> exact ⟨hs.alternates, hs.parity⟩
  | beginShutdown => exact ⟨hs.alternates, hs.parity⟩
  | tearDown => cases up

/-! ### One end for each admission -/

/-- Of each admission the end was told, or it is still underway. -/
def Accounted (s : Support) (id : UnitId) : Prop := s.ends id + s.underway id = s.admissions id

/-- What is added to the account on one side is added on the other. -/
theorem Accounted.balance {s t : Support} {id : UnitId} {n v w x y : Nat}
    (hs : s.Accounted id) (he : t.ends id = s.ends id + n)
    (hu : t.underway id + v = s.underway id + w)
    (ha : t.admissions id + x = s.admissions id + y) (h : n + w + x = v + y) :
    t.Accounted id := by
  unfold Accounted at *
  omega

theorem ends_tell (s : Support) (e : Event) (id : UnitId) :
    (s.tell e).ends id = s.ends id + (e.concerns id && e.kind.isTerminal).toNat := by
  cases h : e.concerns id
  · simp [ends, lifecycle_tell_other h]
  · rw [ends, lifecycle_tell h]
    cases ht : e.kind.isTerminal <;> simp [ends, ht]

theorem SubmissionMove.accounted {s s' : Support} {i : Nat} {c c' : Submission} {id : UnitId}
    (h : s.submissions[i]? = some c) (m : SubmissionMove s c c' s') (up : s.tornDown = false)
    (hs : s.Accounted id) :
    ({ s' with submissions := s.submissions.set i c' } : Support).Accounted id := by
  have ahead := census_submission (p := Submission.isAhead id) (q := Job.isUntold id) h c' s'
  have admitted := countP_set_add h c' (Submission.wasAdmitted id)
  cases m with
  | reject e | skip e =>
    refine hs.balance (ends_tell ..) ahead admitted ?_
    simp [Submission.isAhead, Submission.wasAdmitted, e]
  | enter e | refuse e =>
    refine hs.balance (n := 0) rfl ahead admitted ?_
    simp [Submission.isAhead, Submission.wasAdmitted, e]
  | announce e =>
    refine hs.balance (ends_tell ..) ahead admitted ?_
    simp [Submission.isAhead, Submission.wasAdmitted, e, eventOf, Event.ofKind, Event.withUnit,
      Event.withWidget, EventKind.isTerminal]
  | spawn e =>
    have new := census_spawn (p := Submission.isAhead id) (q := Job.isUntold id) (s := s)
      (.new c.unit c.context)
    refine hs.balance (n := 0) rfl
      ((ahead.trans (congrArg (· + _) new)).trans (Nat.add_assoc ..)) admitted ?_
    simp [Submission.isAhead, Submission.wasAdmitted, Job.isUntold, Job.new, e]
    rfl
  | lose e down => simp [up] at down

theorem JobMove.accounted {s s' : Support} {a : SupportAction} {k : Nat} {j j' : Job} {id : UnitId}
    (h : s.jobs[k]? = some j) (m : JobMove k s j a j' s') (up : s.tornDown = false)
    (hs : s.Accounted id) :
    ({ s' with jobs := s.jobs.set k j' } : Support).Accounted id := by
  have ahead := census_job (p := Submission.isAhead id) (q := Job.isUntold id) h j' s'
  cases m with
  | start e | giveUp _ e | conclude _ _ e | reply _ _ _ e | abandon _ e | release e | deliver e
  | leave e =>
    refine hs.balance (n := 0) (x := 0) rfl ahead rfl ?_
    simp [Job.isUntold, e]
  | write | finish =>
    exact hs.balance (n := 0) (x := 0) rfl ahead rfl (Nat.zero_add _)
  | tell e =>
    refine hs.balance (x := 0) (ends_tell ..) ahead rfl ?_
    simp [Job.isUntold, e]
  | vanish e down => simp [up] at down

theorem Move.accounted {a : SupportAction} {s t : Support} {id : UnitId} (m : Move a s t)
    (up : t.tornDown = false) (hs : s.Accounted id) : t.Accounted id := by
  have up' := m.tornDown up
  cases m with
  | submit v c =>
    have ahead := census_submit (p := Submission.isAhead id) (q := Job.isUntold id) (s := s) v c
    have admitted : (s.submit v c).admissions id = s.admissions id := by
      rcases s.admission_cases v c with e | e | ⟨_, e⟩ <;>
        simp [admissions, Support.submit, Submission.wasAdmitted, e]
    refine hs.balance (n := 0) (v := 0) (x := 0) (y := 0) rfl ahead admitted ?_
    rcases s.admission_cases v c with e | e | ⟨_, e⟩ <;> simp [Submission.isAhead, e]
  | submission h m => exact m.accounted h up' hs
  | job h m => exact m.accounted h up' hs
  | shutdown h m => cases m <;> exact hs
  | beginShutdown => exact hs
  | tearDown => cases up

/-! ### The lifecycle of a unit in a run -/

theorem turns (h : Reachable settings engines widgets s) {u : ScriptUnit}
    (up : s.tornDown = false) (lane : s.InOneLane u) : s.Turns u.id := by
  have all : s.LanesExact ∧ s.Origins ∧
      (s.tornDown = false → s.InOneLane u → s.Turns u.id) := by
    refine h.of_moves (P := fun s => s.LanesExact ∧ s.Origins ∧
      (s.tornDown = false → s.InOneLane u → s.Turns u.id)) ?_ ?_
    · refine ⟨lanesExact_ofSettings _ _ _, origins_ofSettings _ _ _, fun _ _ => ⟨?_, rfl⟩⟩
      intro i e he
      simp [lifecycle, ofSettings] at he
    · rintro a s t m ⟨hl, ho, hs⟩
      exact ⟨m.lanesExact hl, m.origins ho, fun up lane =>
        m.turns up hl ho lane (hs (m.tornDown up) (lane.of_move m))⟩
  exact all.2.2 up lane

theorem accounted (h : Reachable settings engines widgets s) (up : s.tornDown = false)
    (id : UnitId) : s.Accounted id :=
  h.of_moves (P := fun s => s.tornDown = false → s.Accounted id) (fun _ => rfl)
    (fun _ _ _ m hs up => m.accounted up (hs (m.tornDown up))) up

/-- **Executions of a unit come one after the other.** However submissions, jobs and shutdowns take
turns, at most one execution of a unit was admitted and not released; its starts and ends alternate
in the order in which they are told, beginning with a start; and each admission has one end that was
told, except one that may still be underway. -/
theorem one_execution_at_a_time (h : Reachable settings engines widgets s) (u : ScriptUnit) :
    s.holders u.backend u.id ≤ 1 ∧
      (s.tornDown = false → s.InOneLane u →
        Alternates (s.lifecycle u.id) ∧
          s.ends u.id + s.underway u.id = s.admissions u.id ∧ s.underway u.id ≤ 1) :=
  ⟨(lanes_exact h).holders_le_one u.backend u.id, fun up lane =>
    ⟨(turns h up lane).alternates, accounted h up u.id,
      underway_le_one (lanes_exact h) (origins h) lane⟩⟩

/-- A unit is submitted again after its end was told, and skipped; it is submitted once more after
it was released, and admitted. -/
def sampleAgain : List SupportAction :=
  sampleSubmit 0 ++ (sampleRun 0).take 4 ++ (sampleSubmit 1).take 3 ++ (sampleRun 0).drop 4 ++
    sampleSubmit 2 ++ [.start 1]

theorem one_execution_at_a_time_sample :
    ∃ s, Machine.run step sampleAgain sample = some s ∧ s.holders .inProcess 7 ≤ 1 ∧
      Alternates (s.lifecycle 7) ∧ s.ends 7 + s.underway 7 = s.admissions 7 ∧ s.underway 7 ≤ 1 ∧
      (s.lifecycle 7).map Event.kind = [.scheduled, .completed, .scheduled] := by
  have run : (Machine.run step sampleAgain sample).map (fun s =>
      (s.tornDown, decide (s.InOneLane sampleUnit), (s.lifecycle 7).map Event.kind)) =
      some (false, true, [.scheduled, .completed, .scheduled]) := by decide +kernel
  obtain ⟨s, hr, hs⟩ := Option.map_eq_some_iff.1 run
  simp only [Prod.mk.injEq, decide_eq_true_eq] at hs
  obtain ⟨up, lane, kinds⟩ := hs
  obtain ⟨one, rest⟩ := one_execution_at_a_time ⟨_, hr⟩ sampleUnit
  obtain ⟨alternate, account, underway⟩ := rest up lane
  exact ⟨s, hr, one, alternate, account, underway, kinds⟩

end Support

end PanelScript

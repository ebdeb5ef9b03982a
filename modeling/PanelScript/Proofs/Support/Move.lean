import PanelScript.Support.Step

/-!
# Moves of the script support

An action of the support is one move, and a teardown is a chain of them. A move takes one
participant, a submission, a job or a shutdown, from its stage to the next one, and says what
becomes of everything else. The properties of the support are shown for moves.

* `SubmissionMove`, `JobMove` and `ShutdownMove` are the steps of the three kinds of participants;
* `Move` puts the participant back in its place;
* `move_of_step` and `moves_tearDown`: an action does no more than its moves;
* `Reachable.of_moves`: what holds of a new support and is kept by moves holds always.
-/

namespace PanelScript

/-- The job that an action is a step of. -/
def SupportAction.job? : SupportAction → Option Nat
  | .start job | .write job _ _ | .finish job _ | .conclude job _ | .reply job _ _ _
  | .abandon job _ | .proceedJob job => some job
  | _ => none

namespace Support

/-- A submission goes from `c` to `c'`, and everything else from `s` to `s'`. -/
inductive SubmissionMove (s : Support) (c : Submission) : Submission → Support → Prop
  | reject (h : c.stage = .rejecting) :
      SubmissionMove s c { c with stage := .returned .rejected }
        (s.tell (eventOf .rejected c.unit c.context))
  | enter {l : Lane} (h : c.stage = .entering)
      (hl : (s.lanes.get c.unit.backend).enter? c.unit.id = some l) :
      SubmissionMove s c { c with stage := .announcing } (s.setLane c.unit.backend l)
  | refuse (h : c.stage = .entering)
      (hl : (s.lanes.get c.unit.backend).enter? c.unit.id = none) :
      SubmissionMove s c { c with stage := .skipping } s
  | skip (h : c.stage = .skipping) :
      SubmissionMove s c
        { c with stage := .returned (.skipped (.skipped c.unit.id c.unit.source)) }
        (s.tell (eventOf .skipped c.unit c.context))
  | announce (h : c.stage = .announcing) :
      SubmissionMove s c { c with stage := .spawning }
        (s.tell (eventOf .scheduled c.unit c.context))
  | spawn (h : c.stage = .spawning) (up : s.tornDown = false) :
      SubmissionMove s c { c with stage := .returned (.scheduled s.jobs.length) }
        { s with jobs := s.jobs ++ [.new c.unit c.context] }
  | lose (h : c.stage = .spawning) (down : s.tornDown = true) :
      SubmissionMove s c { c with stage := .returned (.scheduled s.jobs.length) }
        (({ s with jobs := s.jobs ++ [{ Job.new c.unit c.context with stage := .lost }] } :
          Support).release c.unit)

/-- A job with the number `k` goes from `j` to `j'` by an action, and everything else from `s` to
`s'`. -/
inductive JobMove (k : Nat) (s : Support) (j : Job) : SupportAction → Job → Support → Prop
  | start (h : j.stage = .waiting) (hc : s.cancelled = false) (hf : 0 < s.free) :
      JobMove k s j (.start k)
        { j with
          stage := .running
          runs := j.runs + 1
          worker := if s.engines.get j.unit.backend = some Engine.worker then .executing
            else .none }
        { s with free := s.free - 1 }
  | write (name : String) (value : Json) (h : j.isExecuting = true) :
      JobMove k s j (.write k name value) j
        { s with widgets := (s.writeWidget j.context.widget.slot name value).widgets }
  | finish (o : Outcome) (h : j.isExecuting = true) :
      JobMove k s j (.finish k o) { j with worker := .done o } s
  | conclude (o : Outcome) (elapsed : Nat) (h : j.stage = .running) (hw : j.worker = .done o)
      (hc : s.cancelled = false) :
      JobMove k s j (.conclude k elapsed)
        { j with stage := .concluding o elapsed, returned := j.returned ++ [o] }
        { s with free := s.free + 1 }
  | reply (o : Outcome) (updates : List (String × Json)) (elapsed : Nat)
      (h : j.stage = .running) (hw : j.worker = .none) (hc : s.cancelled = false) :
      JobMove k s j (.reply k o updates elapsed)
        { j with stage := .concluding o elapsed, returned := j.returned ++ [o] }
        { s with
          free := s.free + 1
          widgets := (s.writeWidgets j.context.widget.slot updates).widgets }
  | giveUp (elapsed : Nat) (h : j.stage = .waiting) (hc : s.cancelled = true) :
      JobMove k s j (.abandon k elapsed)
        { j with stage := .concluding (.error .cancelled) elapsed } s
  | abandon (elapsed : Nat) (h : j.stage = .running) (hc : s.cancelled = true) :
      JobMove k s j (.abandon k elapsed)
        { j with stage := .concluding (.error .cancelled) elapsed }
        { s with free := s.free + 1 }
  | tell {o : Outcome} {elapsed : Nat} (h : j.stage = .concluding o elapsed) :
      JobMove k s j (.proceedJob k) { j with stage := .releasing o elapsed }
        (s.tell (.ofOutcome j.unit.id j.unit.source j.context.widget.name o))
  | release {o : Outcome} {elapsed : Nat} (h : j.stage = .releasing o elapsed) :
      JobMove k s j (.proceedJob k) { j with stage := .delivering o elapsed } (s.release j.unit)
  | deliver {o : Outcome} {elapsed : Nat} (h : j.stage = .delivering o elapsed) :
      JobMove k s j (.proceedJob k)
        { j with
          stage := .leaving
          sent := j.sent ++ [.ofOutcome j.unit.id j.unit.source elapsed o] } s
  | leave (h : j.stage = .leaving) : JobMove k s j (.proceedJob k) { j with stage := .ended } s
  | vanish (h : j.isOutstanding = true) (down : s.tornDown = true) :
      JobMove k s j .tearDown { j with stage := .lost }
        { s with
          free := s.free + j.hasPlace.toNat
          lanes := if j.isPending then (s.release j.unit).lanes else s.lanes }

/-- A job moves by an action of its own, or vanishes. -/
theorem JobMove.owner {k : Nat} {s s' : Support} {j j' : Job} {a : SupportAction}
    (m : JobMove k s j a j' s') : a.job? = some k ∨ a = .tearDown ∧ s.tornDown = true := by
  cases m with
  | vanish _ down => exact .inr ⟨rfl, down⟩
  | _ => exact .inl rfl

/-- A shutdown with the number `i` goes from `c` to `c'` by an action, and everything else from `s`
to `s'`. -/
inductive ShutdownMove (i : Nat) (s : Support) (c : Shutdown) :
    SupportAction → Shutdown → Support → Prop
  | flip (h : c.stage = .entering) (hq : s.isQuiet = true) (ha : s.accepting = true) :
      ShutdownMove i s c (.proceedShutdown i) { c with stage := .flipped }
        { s with accepting := false }
  | decline (h : c.stage = .entering) (hq : s.isQuiet = true) (ha : s.accepting = false) :
      ShutdownMove i s c (.proceedShutdown i)
        { c with stage := .returned ⟨false, s.outstanding, true⟩ } s
  | closeTracker (h : c.stage = .flipped) :
      ShutdownMove i s c (.proceedShutdown i) { c with stage := .signalling }
        { s with trackerClosed := true }
  | signal (h : c.stage = .signalling) :
      ShutdownMove i s c (.proceedShutdown i) { c with stage := .draining }
        { s with cancelled := s.cancelled || decide (c.mode = ShutdownMode.cancel) }
  | drain (h : c.stage = .draining) (ho : s.outstanding = 0) :
      ShutdownMove i s c (.proceedShutdown i) { c with stage := .closing s.backends false } s
  | expire (h : c.stage = .draining) (ho : s.outstanding ≠ 0) :
      ShutdownMove i s c (.expire i) { c with stage := .closing s.backends true }
        { s with cancelled := true }
  | close {b : Backend} {left : List Backend} {timedOut : Bool}
      (h : c.stage = .closing (b :: left) timedOut) :
      ShutdownMove i s c (.proceedShutdown i) { c with stage := .closing left timedOut }
        { s with closings := s.closings.set b (s.closings.get b + 1) }
  | finish {timedOut : Bool} (h : c.stage = .closing [] timedOut) :
      ShutdownMove i s c (.proceedShutdown i)
        { c with stage := .returned ⟨timedOut, s.outstanding, false⟩ } s

/-- What one move of an action does. -/
inductive Move : SupportAction → Support → Support → Prop
  | submit {s : Support} (u : ScriptUnit) (c : Context) : Move (.submit u c) s (s.submit u c)
  | submission {s s' : Support} {i : Nat} {c c' : Submission} (h : s.submissions[i]? = some c)
      (m : SubmissionMove s c c' s') :
      Move (.proceedSubmission i) s { s' with submissions := s.submissions.set i c' }
  | job {a : SupportAction} {s s' : Support} {k : Nat} {j j' : Job} (h : s.jobs[k]? = some j)
      (m : JobMove k s j a j' s') : Move a s { s' with jobs := s.jobs.set k j' }
  | beginShutdown {s : Support} (mode : ShutdownMode) :
      Move (.shutdown mode) s (s.beginShutdown mode)
  | shutdown {a : SupportAction} {s s' : Support} {i : Nat} {c c' : Shutdown}
      (h : s.shutdowns[i]? = some c) (m : ShutdownMove i s c a c' s') :
      Move a s { s' with shutdowns := s.shutdowns.set i c' }
  | tearDown {s : Support} : Move .tearDown s { s with tornDown := true }

/-! ### An action is its moves -/

theorem setSubmission_eq {s : Support} {i : Nat} {c : Submission}
    (h : s.submissions[i]? = some c) (stage : SubmitStage) :
    s.setSubmission i stage = { s with submissions := s.submissions.set i { c with stage } } := by
  simp only [setSubmission, h]

theorem setShutdown_eq {s : Support} {i : Nat} {c : Shutdown}
    (h : s.shutdowns[i]? = some c) (stage : ShutdownStage) :
    s.setShutdown i stage = { s with shutdowns := s.shutdowns.set i { c with stage } } := by
  simp only [setShutdown, h]

theorem writeWidget_eq (s : Support) (slot : Nat) (name : String) (value : Json) :
    s.writeWidget slot name value =
      { s with widgets := (s.writeWidget slot name value).widgets } := by
  unfold writeWidget
  split <;> rfl

theorem writeWidgets_eq (s : Support) (slot : Nat) (updates : List (String × Json)) :
    s.writeWidgets slot updates =
      { s with widgets := (s.writeWidgets slot updates).widgets } := by
  unfold writeWidgets
  split <;> rfl

/-- A submission is put back after everything else has moved. -/
theorem move_setSubmission {s s' : Support} {i : Nat} {c : Submission} {stage : SubmitStage}
    (h : s.submissions[i]? = some c) (hs : s'.submissions = s.submissions)
    (m : SubmissionMove s c { c with stage } s') :
    Move (.proceedSubmission i) s (s'.setSubmission i stage) := by
  rw [setSubmission_eq (c := c) (by rw [hs]; exact h), hs]
  exact .submission h m

theorem move_of_proceedSubmission {s t : Support} {i : Nat}
    (h : s.proceedSubmission i = some t) : Move (.proceedSubmission i) s t := by
  unfold proceedSubmission at h
  split at h
  · cases h
    rename_i hc
    exact move_setSubmission hc rfl (.reject rfl)
  · rename_i u c hc
    split at h <;> cases h
    · rename_i l hl
      exact move_setSubmission hc rfl (.enter rfl hl)
    · rename_i hl
      exact move_setSubmission hc rfl (.refuse rfl hl)
  · cases h
    rename_i hc
    exact move_setSubmission hc rfl (.skip rfl)
  · cases h
    rename_i hc
    exact move_setSubmission hc rfl (.announce rfl)
  · cases h
    rename_i hc
    unfold spawn
    split
    · rename_i down
      exact move_setSubmission hc rfl (.lose rfl down)
    · rename_i up
      exact move_setSubmission hc rfl (.spawn rfl (by simpa using up))
  · cases h

theorem move_of_start {s t : Support} {k : Nat} (h : s.start k = some t) : Move (.start k) s t := by
  unfold start at h
  split at h
  · rename_i j hj
    split at h
    · rename_i hw
      obtain ⟨hw, hc, hf⟩ := hw
      cases h
      exact .job hj (.start hw (by simpa using hc) hf)
    · cases h
  · cases h

theorem move_of_write {s t : Support} {k : Nat} {name : String} {value : Json}
    (h : s.write k name value = some t) : Move (.write k name value) s t := by
  unfold write at h
  split at h
  · rename_i j hj
    split at h
    · rename_i he
      cases h
      have m := Move.job hj (.write name value he)
      obtain ⟨hk, rfl⟩ := List.getElem?_eq_some_iff.1 hj
      rw [writeWidget_eq]
      rwa [List.set_getElem_self] at m
    · cases h
  · cases h

theorem move_of_finish {s t : Support} {k : Nat} {o : Outcome} (h : s.finish k o = some t) :
    Move (.finish k o) s t := by
  unfold finish at h
  split at h
  · rename_i j hj
    split at h
    · rename_i he
      cases h
      exact .job hj (.finish o he)
    · cases h
  · cases h

theorem move_of_conclude {s t : Support} {k elapsed : Nat} (h : s.conclude k elapsed = some t) :
    Move (.conclude k elapsed) s t := by
  unfold conclude at h
  split at h
  · rename_i j hj
    split at h
    · rename_i hr hw hc
      cases h
      exact .job hj (.conclude _ elapsed hr hw hc)
    · cases h
  · cases h

theorem move_of_reply {s t : Support} {k elapsed : Nat} {o : Outcome}
    {updates : List (String × Json)} (h : s.reply k o updates elapsed = some t) :
    Move (.reply k o updates elapsed) s t := by
  unfold reply at h
  split at h
  · rename_i j hj
    split at h
    · rename_i hr hw hc
      cases h
      rw [writeWidgets_eq]
      exact .job hj (.reply o updates elapsed hr hw hc)
    · cases h
  · cases h

theorem move_of_abandon {s t : Support} {k elapsed : Nat} (h : s.abandon k elapsed = some t) :
    Move (.abandon k elapsed) s t := by
  unfold abandon at h
  split at h
  · rename_i j hj
    split at h
    · rename_i hw hc
      cases h
      exact .job hj (.giveUp elapsed hw hc)
    · rename_i hr hc
      cases h
      exact .job hj (.abandon elapsed hr hc)
    · cases h
  · cases h

theorem move_of_proceedJob {s t : Support} {k : Nat} (h : s.proceedJob k = some t) :
    Move (.proceedJob k) s t := by
  unfold proceedJob at h
  split at h
  · rename_i j hj
    split at h
    · rename_i hs
      cases h
      exact .job hj (.tell hs)
    · rename_i hs
      cases h
      exact .job hj (.release hs)
    · rename_i hs
      cases h
      exact .job hj (.deliver hs)
    · rename_i hs
      cases h
      exact .job hj (.leave hs)
    · cases h
  · cases h

/-- A shutdown is put back after everything else has moved. -/
theorem move_setShutdown {a : SupportAction} {s s' : Support} {i : Nat} {c : Shutdown}
    {stage : ShutdownStage} (h : s.shutdowns[i]? = some c) (hs : s'.shutdowns = s.shutdowns)
    (m : ShutdownMove i s c a { c with stage } s') : Move a s (s'.setShutdown i stage) := by
  rw [setShutdown_eq (c := c) (by rw [hs]; exact h), hs]
  exact .shutdown h m

theorem move_of_proceedShutdown {s t : Support} {i : Nat}
    (h : s.proceedShutdown i = some t) : Move (.proceedShutdown i) s t := by
  unfold proceedShutdown at h
  split at h
  · rename_i hc
    split at h
    · cases h
    · rename_i hq
      have hq : s.isQuiet = true := by simpa using hq
      split at h <;> cases h
      · rename_i ha
        exact move_setShutdown hc rfl (.flip rfl hq ha)
      · rename_i ha
        exact move_setShutdown hc rfl (.decline rfl hq (by simpa using ha))
  · cases h
    rename_i hc
    exact move_setShutdown hc rfl (.closeTracker rfl)
  · cases h
    rename_i hc
    exact move_setShutdown hc rfl (.signal rfl)
  · rename_i hc
    split at h
    · rename_i ho
      cases h
      exact move_setShutdown hc rfl (.drain rfl ho)
    · cases h
  · cases h
    rename_i hc
    exact move_setShutdown hc rfl (.close rfl)
  · cases h
    rename_i hc
    exact move_setShutdown hc rfl (.finish rfl)
  · cases h

theorem move_of_expire {s t : Support} {i : Nat} (h : s.expire i = some t) :
    Move (.expire i) s t := by
  unfold expire at h
  split at h
  · rename_i hc
    split at h
    · cases h
    · rename_i ho
      cases h
      exact move_setShutdown hc rfl (.expire rfl ho)
  · cases h

/-- Every action but a teardown is one move. -/
theorem move_of_step {a : SupportAction} {s t : Support} (h : step a s = some t)
    (ha : a ≠ .tearDown) : Move a s t := by
  cases a with
  | submit u c => cases h; exact .submit u c
  | proceedSubmission i => exact move_of_proceedSubmission h
  | start k => exact move_of_start h
  | write k name value => exact move_of_write h
  | finish k o => exact move_of_finish h
  | conclude k elapsed => exact move_of_conclude h
  | reply k o updates elapsed => exact move_of_reply h
  | abandon k elapsed => exact move_of_abandon h
  | proceedJob k => exact move_of_proceedJob h
  | shutdown mode => cases h; exact .beginShutdown mode
  | proceedShutdown i => exact move_of_proceedShutdown h
  | expire i => exact move_of_expire h
  | tearDown => exact absurd rfl ha

/-! ### Teardown -/

/-- A job that vanishes moves, if it was outstanding. -/
theorem move_vanish {s : Support} {k : Nat} (down : s.tornDown = true) :
    s.vanish k = s ∨ Move .tearDown s (s.vanish k) := by
  unfold vanish
  split
  · rename_i j hj
    split
    · rename_i ho
      right
      have m := Move.job hj (.vanish ho down)
      cases hp : j.hasPlace <;> cases hq : j.isPending <;> simp only [hp, hq] at m ⊢ <;> exact m
    · exact .inl rfl
  · exact .inl rfl

theorem tornDown_vanish (s : Support) (k : Nat) : (s.vanish k).tornDown = s.tornDown := by
  unfold vanish
  split
  · split
    · cases Job.hasPlace _ <;> cases Job.isPending _ <;> rfl
    · rfl
  · rfl

theorem tornDown_tearDown (s : Support) : s.tearDown.tornDown = true := by
  have same (jobs : List Nat) (s : Support) : (jobs.foldl vanish s).tornDown = s.tornDown := by
    induction jobs generalizing s with
    | nil => rfl
    | cons k jobs ih => rw [List.foldl_cons, ih, tornDown_vanish]
  exact same _ _

theorem moves_vanish (jobs : List Nat) {s t : Support} (down : t.tornDown = true)
    (moves : Relation.TransGen (Move .tearDown) s t) :
    Relation.TransGen (Move .tearDown) s (jobs.foldl vanish t) := by
  induction jobs generalizing t with
  | nil => exact moves
  | cons k jobs ih =>
    refine ih (by rw [tornDown_vanish, down]) ?_
    rcases move_vanish (k := k) down with e | m
    · rwa [e]
    · exact moves.tail m

/-- A teardown is a chain of moves. -/
theorem moves_tearDown (s : Support) : Relation.TransGen (Move .tearDown) s s.tearDown :=
  moves_vanish _ rfl (.single .tearDown)

/-- An action is a chain of its moves. -/
theorem moves_of_step {a : SupportAction} {s t : Support} (h : step a s = some t) :
    Relation.TransGen (Move a) s t := by
  by_cases ha : a = .tearDown
  · subst ha
    obtain rfl : s.tearDown = t := Option.some.inj h
    exact moves_tearDown s
  · exact .single (move_of_step h ha)

/-- What every move of an action keeps is kept by the action. -/
theorem kept_of_step {P : Support → Prop} {a : SupportAction} {s t : Support}
    (keep : ∀ s t, Move a s t → P s → P t) (h : step a s = some t) (hs : P s) : P t := by
  have chain := moves_of_step h
  clear h
  induction chain with
  | single m => exact keep _ _ m hs
  | tail _ m ih => exact keep _ _ m ih

/-- What every move keeps is kept by every run. -/
theorem kept_of_reaches {P : Support → Prop} (keep : ∀ a s t, Move a s t → P s → P t)
    {s t : Support} (h : Machine.Reaches step s t) (hs : P s) : P t :=
  h.invariant (fun a _ _ hst => kept_of_step (keep a) hst) hs

/-- What no move takes back stays. -/
theorem true_of_reaches {f : Support → Bool}
    (back : ∀ a s t, Move a s t → f t = false → f s = false) {s t : Support}
    (h : Machine.Reaches step s t) (hs : f s = true) : f t = true := by
  refine kept_of_reaches (P := fun s => f s = true) (fun a s t m hs => ?_) h hs
  cases ht : f t with
  | true => rfl
  | false =>
    rw [back a s t m ht] at hs
    cases hs

/-- What holds of a new support and is kept by every move holds always. -/
theorem Reachable.of_moves {settings : SupportSettings} {engines : PerBackend (Option Engine)}
    {widgets : List Widget} {s : Support} (h : Reachable settings engines widgets s)
    {P : Support → Prop} (start : P (ofSettings settings engines widgets))
    (keep : ∀ a s t, Move a s t → P s → P t) : P s :=
  kept_of_reaches keep h start

/-! ### A small support -/

/-- A unit without inputs that runs inside the program. -/
def sampleUnit : ScriptUnit := .ofProgram 7 "clock" [] []

/-- A submission for the first widget. -/
def sampleContext : Context := ⟨⟨0, "clock", "label"⟩, [], .explicit⟩

/-- A support with one place, for units inside the program. -/
def sample : Support :=
  ofSettings { poolSize := 1 } ⟨some .worker, none⟩ [⟨"clock", "label", [("text", .str "")]⟩]

/-- A submission with the given number is admitted and becomes the job with the same number. -/
def sampleSubmit (i : Nat) : List SupportAction :=
  [.submit sampleUnit sampleContext, .proceedSubmission i, .proceedSubmission i,
    .proceedSubmission i]

/-- A job with the given number runs to its end and yields nothing. -/
def sampleRun (k : Nat) : List SupportAction :=
  [.start k, .finish k (.ok none), .conclude k 3, .proceedJob k, .proceedJob k, .proceedJob k,
    .proceedJob k]

end Support

end PanelScript

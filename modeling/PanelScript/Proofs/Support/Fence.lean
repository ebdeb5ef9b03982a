import PanelScript.Proofs.Support.Admission

/-!
# Shutdown is a fence

One shutdown, the first that comes in, closes the support. It comes in while no submission is in
progress, so nothing is let in behind it, and it alone closes the interpreters.

* `Open` and `Calm` are what holds before and after; `Calm.follows`: nothing is let in any more;
* `LedBy` says how far the shutdown that closes the support has come, and `Led` which it is;
* `shutdown_is_fence`: every run in which a shutdown came in has one place where it did.
-/

namespace PanelScript

namespace Shutdown

/-- Whether a shutdown has returned. -/
def hasReturned (c : Shutdown) : Bool :=
  match c.stage with
  | .returned _ => true
  | _ => false

/-- Whether a shutdown is the one that closes the support. -/
def leads (c : Shutdown) : Bool :=
  match c.stage with
  | .entering => false
  | .returned report => !report.alreadyShutDown
  | _ => true

/-- The interpreters that a shutdown has not closed. -/
def toClose (backends : List Backend) (c : Shutdown) : List Backend :=
  match c.stage with
  | .closing left _ => left
  | .returned _ => []
  | _ => backends

/-- Whether a shutdown has seen all jobs end. -/
def hasDrained (c : Shutdown) : Bool :=
  match c.stage with
  | .closing _ timedOut => !timedOut
  | .returned report => !report.timedOut && !report.alreadyShutDown
  | _ => false

/-- Whether a shutdown has asked the jobs to stop. -/
def hasAsked (c : Shutdown) : Bool :=
  match c.stage with
  | .draining => c.mode = .cancel
  | .closing _ timedOut => timedOut || c.mode = .cancel
  | .returned report => report.timedOut || c.mode = .cancel
  | _ => false

end Shutdown

namespace Support

variable {settings : SupportSettings} {engines : PerBackend (Option Engine)}
  {widgets : List Widget} {s : Support}

/-- No shutdown has come in. -/
structure Open (s : Support) : Prop where
  accepting : s.accepting = true
  shutdowns : ∀ c ∈ s.shutdowns, c.stage = .entering
  submissions : ∀ c ∈ s.submissions, c.stage ≠ .rejecting
  events : ∀ e ∈ s.events, e.kind ≠ .rejected
  cancelled : s.cancelled = false
  closings : ∀ b, s.closings.get b = 0

/-- A shutdown has come in, and what is submitted is on its way to be rejected. -/
structure Calm (s : Support) : Prop where
  closed : s.accepting = false
  submissions : ∀ c ∈ s.submissions, c.isActive = true → c.stage = .rejecting

/-- From one state to another nothing was let in. -/
structure Follows (s t : Support) : Prop where
  jobs : t.jobs.length = s.jobs.length
  events : ∃ told, t.events = s.events ++ told ∧
    ∀ e ∈ told, e.kind ≠ .scheduled ∧ e.kind ≠ .skipped
  outstanding : t.outstanding ≤ s.outstanding

/-- The shutdown that closes the support has come as far as `c`. -/
structure LedBy (s : Support) (c : Shutdown) : Prop where
  leads : c.leads = true
  closings : ∀ b, s.closings.get b + (c.toClose s.backends).count b = s.backends.count b
  drained : c.hasDrained = true → s.outstanding = 0
  asked : s.cancelled = c.hasAsked
  report : ∀ report, c.stage = .returned report → report.timedOut = false → report.outstanding = 0

/-- The shutdown with the number `i` is the one that closes the support. -/
structure Led (i : Nat) (s : Support) : Prop where
  calm : s.Calm
  leader : ∃ c, s.shutdowns[i]? = some c ∧ s.LedBy c
  others : ∀ (i' : Nat) (c : Shutdown), i' ≠ i → s.shutdowns[i']? = some c → c.leads = false

/-! ### Nothing is let in any more -/

theorem Follows.refl (s : Support) : s.Follows s :=
  ⟨rfl, ⟨[], by simp, by simp⟩, Nat.le_refl _⟩

theorem Follows.trans {s t v : Support} (h : s.Follows t) (h' : t.Follows v) : s.Follows v := by
  obtain ⟨told, ht, hk⟩ := h.events
  obtain ⟨told', ht', hk'⟩ := h'.events
  refine ⟨h'.jobs.trans h.jobs, ⟨told ++ told', by rw [ht', ht, List.append_assoc], ?_⟩,
    Nat.le_trans h'.outstanding h.outstanding⟩
  intro e he
  rcases List.mem_append.1 he with he | he
  · exact hk e he
  · exact hk' e he

theorem Follows.of_eq {s t : Support} (hj : t.jobs = s.jobs) (he : t.events = s.events) :
    s.Follows t :=
  ⟨by rw [hj], ⟨[], by simp [he], by simp⟩, Nat.le_of_eq (congrArg (List.countP _) hj)⟩

/-- A submission that moves after a shutdown has come in is rejected. -/
theorem SubmissionMove.rejects {s s' : Support} {c c' : Submission} (m : SubmissionMove s c c' s')
    (h : c.isActive = true → c.stage = .rejecting) :
    c'.isActive = false ∧ s' = s.tell (eventOf .rejected c.unit c.context) := by
  cases m with
  | reject => exact ⟨rfl, rfl⟩
  | enter e | refuse e | skip e | announce e | spawn e | lose e =>
    have := h (by simp [Submission.isActive, e])
    rw [e] at this
    cases this

/-- A job tells no more than its end. -/
theorem JobMove.events {s s' : Support} {a : SupportAction} {k : Nat} {j j' : Job}
    (m : JobMove k s j a j' s') :
    s'.events = s.events ∨ ∃ o,
      s'.events = s.events ++ [.ofOutcome j.unit.id j.unit.source j.context.widget.name o] := by
  cases m with
  | tell => exact .inr ⟨_, rfl⟩
  | _ => exact .inl rfl

/-- A job that has ended stays so. -/
theorem JobMove.outstanding {s s' : Support} {a : SupportAction} {k : Nat} {j j' : Job}
    (m : JobMove k s j a j' s') (h : j'.isOutstanding = true) : j.isOutstanding = true := by
  cases m with
  | write | finish => exact h
  | vanish e => exact e
  | start e | giveUp _ e | conclude _ _ e | reply _ _ _ e | abandon _ e | tell e | release e
  | deliver e | leave e => simp [Job.isOutstanding, e]

theorem Calm.submit {s : Support} (hs : s.Calm) (u : ScriptUnit) (c : Context) :
    (s.submit u c).Calm ∧ s.Follows (s.submit u c) := by
  refine ⟨⟨hs.closed, fun d hd => ?_⟩, .of_eq rfl rfl⟩
  rcases List.mem_append.1 hd with hd | hd
  · exact hs.submissions d hd
  · obtain rfl := List.mem_singleton.1 hd
    intro _
    simp [admission, hs.closed]

theorem SubmissionMove.calm {s s' : Support} {i : Nat} {c c' : Submission}
    (h : s.submissions[i]? = some c) (m : SubmissionMove s c c' s') (hs : s.Calm) :
    ({ s' with submissions := s.submissions.set i c' } : Support).Calm ∧
      s.Follows { s' with submissions := s.submissions.set i c' } := by
  obtain ⟨idle, rfl⟩ := m.rejects (hs.submissions c (List.mem_of_getElem? h))
  refine ⟨⟨hs.closed, fun d hd ha => ?_⟩, rfl, ⟨_, rfl, ?_⟩, Nat.le_refl _⟩
  · rcases List.mem_or_eq_of_mem_set hd with hd | rfl
    · exact hs.submissions d hd ha
    · rw [idle] at ha
      cases ha
  · intro e he
    obtain rfl := List.mem_singleton.1 he
    exact ⟨nofun, nofun⟩

theorem JobMove.calm {s s' : Support} {a : SupportAction} {k : Nat} {j j' : Job}
    (h : s.jobs[k]? = some j) (m : JobMove k s j a j' s') (hs : s.Calm) :
    ({ s' with jobs := s.jobs.set k j' } : Support).Calm ∧
      s.Follows { s' with jobs := s.jobs.set k j' } := by
  refine ⟨⟨m.frame.accepting.trans hs.closed, ?_⟩, List.length_set, ?_, ?_⟩
  · intro d hd
    exact hs.submissions d (m.submissions_eq ▸ hd)
  · rcases m.events with e | ⟨o, e⟩
    · exact ⟨[], by simpa using e, by simp⟩
    · refine ⟨_, e, fun d hd => ?_⟩
      obtain rfl := List.mem_singleton.1 hd
      cases o <;> exact ⟨nofun, nofun⟩
  · have key := countP_set_add h j' Job.isOutstanding
    have le : j'.isOutstanding.toNat ≤ j.isOutstanding.toNat := by
      cases hj' : j'.isOutstanding with
      | false => exact Nat.zero_le _
      | true => exact Nat.le_of_eq (congrArg Bool.toNat (m.outstanding hj').symm)
    show (s.jobs.set k j').countP Job.isOutstanding ≤ s.jobs.countP Job.isOutstanding
    omega

/-- **Behind a shutdown nothing is let in**: no job is added, nothing is scheduled or skipped, and
the jobs only become fewer. -/
theorem Move.calm {a : SupportAction} {s t : Support} (m : Move a s t) (hs : s.Calm) :
    t.Calm ∧ s.Follows t := by
  cases m with
  | submit u c => exact hs.submit u c
  | submission h m => exact m.calm h hs
  | job h m => exact m.calm h hs
  | shutdown h m =>
    obtain ⟨hsub, hjobs, hev⟩ := m.unchanged
    refine ⟨⟨?_, fun c hc => hs.submissions c (hsub ▸ hc)⟩, .of_eq hjobs hev⟩
    cases m <;> first | exact hs.closed | rfl
  | beginShutdown | tearDown => exact ⟨⟨hs.closed, hs.submissions⟩, .of_eq rfl rfl⟩

theorem Calm.reaches {s t : Support} (h : Machine.Reaches step s t) (hs : s.Calm) :
    t.Calm ∧ s.Follows t :=
  kept_of_reaches (P := fun t => t.Calm ∧ s.Follows t)
    (fun _ _ _ m ht => ⟨(m.calm ht.1).1, ht.2.trans (m.calm ht.1).2⟩) h ⟨hs, .refl s⟩

/-- When nothing is let in and no job is outstanding, the lanes are empty. -/
theorem LanesExact.empty {s : Support} (h : s.LanesExact) (hs : s.Calm) (ho : s.outstanding = 0)
    (b : Backend) : (s.lanes.get b).pending = [] := by
  have none (id : UnitId) : s.holders b id = 0 := by
    have subs : s.submissions.countP (Submission.holds b id) = 0 := by
      refine List.countP_eq_zero.2 fun c hc hh => ?_
      unfold Submission.holds at hh
      have idle := hs.submissions c hc
      cases e : c.stage <;> simp_all [Submission.isActive]
    have jobs : s.jobs.countP (Job.holds b id) = 0 := by
      refine List.countP_eq_zero.2 fun j hj hh => ?_
      have ended := List.countP_eq_zero.1 ho j hj
      cases e : j.stage <;> simp_all [Job.holds, Job.isPending, Job.isOutstanding]
    rw [holders, census, subs, jobs]
  refine List.eq_nil_iff_forall_not_mem.2 fun id hid => ?_
  have := (h b id).symm.trans (none id)
  simp [Lane.contains, hid] at this

/-! ### The shutdown that closes the support -/

theorem LedBy.of_eq {s t : Support} {c : Shutdown} (h : s.LedBy c)
    (closings : t.closings = s.closings) (cancelled : t.cancelled = s.cancelled)
    (engines : t.engines = s.engines) (ho : t.outstanding ≤ s.outstanding) : t.LedBy c := by
  have hb : t.backends = s.backends := by rw [backends, backends, engines]
  refine ⟨h.leads, fun b => ?_, fun hd => ?_, cancelled.trans h.asked, h.report⟩
  · rw [closings, hb]
    exact h.closings b
  · have := h.drained hd
    omega

/-- Submissions and jobs do not change who leads. -/
theorem Led.of_frame {i : Nat} {s t : Support} (hs : s.Led i) (frame : s.Frame t) (calm : t.Calm)
    (ho : t.outstanding ≤ s.outstanding) : t.Led i := by
  obtain ⟨-, ⟨c, hc, led⟩, others⟩ := hs
  refine ⟨calm, ⟨c, by rw [frame.shutdowns, hc], ?_⟩, fun n d hn hd => ?_⟩
  · exact led.of_eq frame.closings frame.cancelled frame.engines ho
  · rw [frame.shutdowns] at hd
    exact others n d hn hd

/-- Each interpreter that a shutdown closes is one it has not closed. -/
theorem ShutdownMove.ledBy {s s' : Support} {a : SupportAction} {i : Nat} {c c' : Shutdown}
    (m : ShutdownMove i s c a c' s') (hs : s.LedBy c) :
    ({ s' with shutdowns := s.shutdowns.set i c' } : Support).LedBy c' := by
  obtain ⟨leads, closings, drained, asked, -⟩ := hs
  cases m with
  | flip e | decline e => simp [Shutdown.leads, e] at leads
  | closeTracker e =>
    simp only [Shutdown.toClose, e] at closings
    simp only [Shutdown.hasAsked, e] at asked
    exact ⟨rfl, closings, nofun, asked, nofun⟩
  | signal e =>
    simp only [Shutdown.toClose, e] at closings
    simp only [Shutdown.hasAsked, e] at asked
    refine ⟨rfl, closings, nofun, ?_, nofun⟩
    show (s.cancelled || _) = _
    rw [asked, Bool.false_or]
    rfl
  | expire e =>
    simp only [Shutdown.toClose, e] at closings
    exact ⟨rfl, closings, nofun, rfl, nofun⟩
  | drain e ho =>
    simp only [Shutdown.toClose, e] at closings
    simp only [Shutdown.hasAsked, e] at asked
    exact ⟨rfl, closings, fun _ => ho, by simpa [Shutdown.hasAsked] using asked, nofun⟩
  | close e =>
    rename_i b left timedOut
    simp only [Shutdown.toClose, e] at closings
    simp only [Shutdown.hasDrained, e] at drained
    simp only [Shutdown.hasAsked, e] at asked
    refine ⟨rfl, fun b' => ?_, drained, asked, nofun⟩
    have := closings b'
    by_cases hb : b' = b
    · subst hb
      rw [List.count_cons_self] at this
      simp only [PerBackend.get_set_self, Shutdown.toClose]
      show s.closings.get b' + 1 + left.count b' = s.backends.count b'
      omega
    · rw [List.count_cons_of_ne fun e => hb e.symm] at this
      simp only [PerBackend.get_set_of_ne hb, Shutdown.toClose]
      exact this
  | finish e =>
    rename_i timedOut
    simp only [Shutdown.toClose, e] at closings
    simp only [Shutdown.hasDrained, e] at drained
    simp only [Shutdown.hasAsked, e] at asked
    refine ⟨rfl, closings, fun hd => drained (by simpa [Shutdown.hasDrained] using hd), asked, ?_⟩
    intro report er ht
    obtain rfl := ShutdownStage.returned.inj er
    exact drained (by simpa using ht)

/-- A shutdown that does not lead comes too late. -/
theorem ShutdownMove.declines {s s' : Support} {a : SupportAction} {i : Nat} {c c' : Shutdown}
    (m : ShutdownMove i s c a c' s') (hc : c.leads = false) (closed : s.accepting = false) :
    c'.leads = false ∧ s' = s := by
  cases m with
  | flip e _ ha => simp [closed] at ha
  | decline => exact ⟨rfl, rfl⟩
  | closeTracker e | signal e | drain e | expire e | close e | finish e =>
    simp [Shutdown.leads, e] at hc

/-- A new shutdown does not change who leads. -/
theorem Led.beginShutdown {i : Nat} {s : Support} (hs : s.Led i) (mode : ShutdownMode) :
    (s.beginShutdown mode).Led i := by
  obtain ⟨calm, ⟨c, hc, led⟩, others⟩ := hs
  have lt := (List.getElem?_eq_some_iff.1 hc).1
  refine ⟨⟨calm.closed, calm.submissions⟩, ⟨c, ?_, led.of_eq rfl rfl rfl (Nat.le_refl _)⟩, ?_⟩
  · show (s.shutdowns ++ [_])[i]? = some c
    rw [List.getElem?_append_left lt, hc]
  · intro i' d hi hd
    rcases getElem?_concat hd with hd | ⟨-, rfl⟩
    · exact others i' d hi hd
    · rfl

theorem ShutdownMove.led {s s' : Support} {a : SupportAction} {i i' : Nat} {c c' : Shutdown}
    (h : s.shutdowns[i']? = some c) (m : ShutdownMove i' s c a c' s') (hs : s.Led i) :
    ({ s' with shutdowns := s.shutdowns.set i' c' } : Support).Led i := by
  obtain ⟨before, ⟨d, hd, led⟩, others⟩ := hs
  have calm := (Move.shutdown h m).calm before
  have lt := (List.getElem?_eq_some_iff.1 h).1
  by_cases hi : i' = i
  · subst hi
    obtain rfl : c = d := Option.some.inj (h.symm.trans hd)
    refine ⟨calm.1, ⟨c', List.getElem?_set_self lt, m.ledBy led⟩, fun n e hn he => ?_⟩
    rcases getElem?_set_eq_some he with ⟨rfl, -⟩ | ⟨-, he⟩
    · exact absurd rfl hn
    · exact others n e hn he
  · obtain ⟨follower, rfl⟩ := m.declines (others i' c hi h) before.closed
    refine ⟨calm.1, ⟨d, ?_, led.of_eq rfl rfl rfl (Nat.le_refl _)⟩, fun n e hn he => ?_⟩
    · show (s'.shutdowns.set i' c')[i]? = some d
      rw [List.getElem?_set_ne hi, hd]
    · rcases getElem?_set_eq_some he with ⟨-, rfl⟩ | ⟨-, he⟩
      · exact follower
      · exact others n e hn he

theorem Move.led {a : SupportAction} {s t : Support} {i : Nat} (m : Move a s t) (hs : s.Led i) :
    t.Led i := by
  have calm := m.calm hs.calm
  obtain ⟨c, hc, led⟩ := hs.leader
  cases m with
  | submit u d => exact ⟨calm.1, ⟨c, hc, led.of_eq rfl rfl rfl calm.2.outstanding⟩, hs.others⟩
  | submission h m =>
    exact hs.of_frame (m.frame.setSubmissions _) calm.1 calm.2.outstanding
  | job h m =>
    exact hs.of_frame (m.frame.setJobs _) calm.1 calm.2.outstanding
  | shutdown h m => exact m.led h hs
  | beginShutdown mode => exact hs.beginShutdown mode
  | tearDown => exact ⟨calm.1, ⟨c, hc, led.of_eq rfl rfl rfl calm.2.outstanding⟩, hs.others⟩

/-! ### The place where a shutdown comes in -/

theorem SubmissionMove.open {s s' : Support} {i : Nat} {c c' : Submission}
    (h : s.submissions[i]? = some c) (m : SubmissionMove s c c' s') (hs : s.Open) :
    ({ s' with submissions := s.submissions.set i c' } : Support).Open := by
  have frame := m.frame
  have hc : c.stage ≠ .rejecting := hs.submissions c (List.mem_of_getElem? h)
  refine ⟨frame.accepting.trans hs.accepting, fun d hd => hs.shutdowns d (frame.shutdowns ▸ hd),
    fun d hd => ?_, fun e he => ?_, frame.cancelled.trans hs.cancelled,
    fun b => frame.closings ▸ hs.closings b⟩
  · rcases List.mem_or_eq_of_mem_set hd with hd | rfl
    · exact hs.submissions d hd
    · cases m <;> exact nofun
  · cases m with
    | reject e => exact absurd e hc
    | skip | announce =>
      rcases List.mem_append.1 he with he | he
      · exact hs.events e he
      · obtain rfl := List.mem_singleton.1 he
        exact nofun
    | _ => exact hs.events e he

theorem JobMove.open {s s' : Support} {a : SupportAction} {k : Nat} {j j' : Job}
    (m : JobMove k s j a j' s') (hs : s.Open) :
    ({ s' with jobs := s.jobs.set k j' } : Support).Open := by
  have frame := m.frame
  refine ⟨frame.accepting.trans hs.accepting, fun d hd => hs.shutdowns d (frame.shutdowns ▸ hd),
    fun d hd => hs.submissions d (m.submissions_eq ▸ hd), fun e he => ?_,
    frame.cancelled.trans hs.cancelled, fun b => frame.closings ▸ hs.closings b⟩
  rcases m.events with hev | ⟨o, hev⟩
  · exact hs.events e (hev ▸ he)
  · rcases List.mem_append.1 (hev ▸ he) with he | he
    · exact hs.events e he
    · obtain rfl := List.mem_singleton.1 he
      cases o <;> exact nofun

/-- A shutdown comes in while no submission is in progress. -/
theorem calm_of_isQuiet {s s' : Support} (hq : s.isQuiet = true)
    (hsub : s'.submissions = s.submissions) (ha : s'.accepting = false) : s'.Calm := by
  refine ⟨ha, fun c hc active => ?_⟩
  have := List.all_eq_true.1 hq c (hsub ▸ hc)
  simp [active] at this

/-- A move keeps the support open, or it is the one by which a shutdown comes in. -/
theorem Move.open_or_led {a : SupportAction} {s t : Support} (m : Move a s t) (hs : s.Open) :
    t.Open ∨ ∃ i, a = .proceedShutdown i ∧ t.Led i ∧ s.Follows t := by
  cases m with
  | submit u c =>
    refine .inl ⟨hs.accepting, hs.shutdowns, fun d hd => ?_, hs.events, hs.cancelled,
      hs.closings⟩
    rcases List.mem_append.1 hd with hd | hd
    · exact hs.submissions d hd
    · obtain rfl := List.mem_singleton.1 hd
      simp only [admission, hs.accepting]
      split_ifs <;> simp_all
  | submission h m => exact .inl (m.open h hs)
  | job h m => exact .inl (m.open hs)
  | beginShutdown mode =>
    refine .inl ⟨hs.accepting, fun c hc => ?_, hs.submissions, hs.events, hs.cancelled,
      hs.closings⟩
    rcases List.mem_append.1 hc with hc | hc
    · exact hs.shutdowns c hc
    · rw [List.mem_singleton.1 hc]
  | shutdown h m =>
    rename_i i c c'
    have lt := (List.getElem?_eq_some_iff.1 h).1
    have entering := hs.shutdowns c (List.mem_of_getElem? h)
    cases m with
    | flip _ hq =>
      refine .inr ⟨i, rfl, ⟨calm_of_isQuiet hq rfl rfl, ⟨_, List.getElem?_set_self lt, ?_⟩, ?_⟩,
        .of_eq rfl rfl⟩
      · refine ⟨rfl, fun b => ?_, nofun, hs.cancelled, nofun⟩
        show s.closings.get b + s.backends.count b = s.backends.count b
        rw [hs.closings b, Nat.zero_add]
      · intro n d hn hd
        rcases getElem?_set_eq_some hd with ⟨e, -⟩ | ⟨-, hd⟩
        · exact absurd e hn
        · simp [Shutdown.leads, hs.shutdowns d (List.mem_of_getElem? hd)]
    | decline _ _ ha => simp [hs.accepting] at ha
    | closeTracker e | signal e | drain e | expire e | close e | finish e =>
      rw [entering] at e
      cases e
  | tearDown => exact .inl ⟨hs.accepting, hs.shutdowns, hs.submissions, hs.events, hs.cancelled,
      hs.closings⟩

theorem open_or_led_of_step {a : SupportAction} {s t : Support} (h : step a s = some t)
    (hs : s.Open) : t.Open ∨ ∃ i, a = .proceedShutdown i ∧ t.Led i ∧ s.Follows t := by
  by_cases ha : a = .tearDown
  · subst ha
    refine .inl (kept_of_step (fun s t m hs => ?_) h hs)
    rcases m.open_or_led hs with ht | ⟨i, e, -⟩
    · exact ht
    · cases e
  · exact (move_of_step h ha).open_or_led hs

/-- Somewhere in a run the shutdown with the number `i` came in, and it took the support from `s` to
`t`. -/
def ComesIn (actions : List SupportAction) (first last : Support) (i : Nat) (s t : Support) :
    Prop :=
  ∃ before after, actions = before ++ .proceedShutdown i :: after ∧
    Machine.run step before first = some s ∧ step (.proceedShutdown i) s = some t ∧
    Machine.run step after t = some last

theorem ComesIn.cons {actions : List SupportAction} {a : SupportAction}
    {first next last s t : Support} {i : Nat} (ha : step a first = some next)
    (h : ComesIn actions next last i s t) : ComesIn (a :: actions) first last i s t := by
  obtain ⟨before, after, rfl, hb, hs, hl⟩ := h
  exact ⟨a :: before, after, rfl, by rw [Machine.run_cons, ha]; exact hb, hs, hl⟩

/-- After a run the support is open, or there is one place where a shutdown came in. -/
theorem open_or_comesIn {actions : List SupportAction} {s v : Support}
    (h : Machine.run step actions s = some v) (hs : s.Open) :
    v.Open ∨ ∃ i s₁ t₁, ComesIn actions s v i s₁ t₁ ∧ s₁.Open ∧ t₁.Led i ∧ s₁.Follows t₁ := by
  induction actions generalizing s with
  | nil =>
    obtain rfl : s = v := Option.some.inj h
    exact .inl hs
  | cons a actions ih =>
    rw [Machine.run_cons, Option.bind_eq_some_iff] at h
    obtain ⟨t, ha, ht⟩ := h
    -- The shutdown comes in by this action, or somewhere in the rest of the run.
    rcases open_or_led_of_step ha hs with hopen | ⟨i, rfl, hled, hfol⟩
    · rcases ih ht hopen with hv | ⟨i, s₁, t₁, hin, rest⟩
      · exact .inl hv
      · exact .inr ⟨i, s₁, t₁, hin.cons ha, rest⟩
    · exact .inr ⟨i, s, t, ⟨[], actions, rfl, rfl, ha, ht⟩, hs, hled, hfol⟩

theorem open_ofSettings (settings : SupportSettings) (engines : PerBackend (Option Engine))
    (widgets : List Widget) : (ofSettings settings engines widgets).Open := by
  refine ⟨rfl, ?_, ?_, ?_, rfl, fun b => ?_⟩
  · simp [ofSettings]
  · simp [ofSettings]
  · simp [ofSettings]
  · cases b <;> rfl

theorem open_or_led (h : Reachable settings engines widgets s) :
    s.Open ∨ ∃ i, s.Led i := by
  refine h.of_moves (P := fun s => s.Open ∨ ∃ i, s.Led i)
    (.inl (open_ofSettings settings engines widgets)) ?_
  rintro a s t m (hs | ⟨i, hs⟩)
  · rcases m.open_or_led hs with ht | ⟨i, -, ht, -⟩
    · exact .inl ht
    · exact .inr ⟨i, ht⟩
  · exact .inr ⟨i, m.led hs⟩

/-! ### The fence -/

theorem Move.engines_eq {a : SupportAction} {s t : Support} (m : Move a s t) :
    t.engines = s.engines := by
  cases m with
  | submission _ m => exact m.frame.engines
  | job _ m => exact m.frame.engines
  | shutdown _ m => cases m <;> rfl
  | submit | beginShutdown | tearDown => rfl

theorem count_backends (s : Support) (b : Backend) :
    s.backends.count b = if (s.engines.get b).isSome then 1 else 0 := by
  cases hi : (s.engines.get .inProcess).isSome <;> cases hg : (s.engines.get .gateway).isSome <;>
    cases b <;> simp [backends, hi, hg]

/-- Reports of rejections come after all reports of schedules and skips. -/
theorem Follows.rejections_last {s v : Support} (hs : s.Open) (h : s.Follows v) :
    v.events.Pairwise fun e e' =>
      e.kind = .rejected → e'.kind ≠ .scheduled ∧ e'.kind ≠ .skipped := by
  obtain ⟨told, hv, hk⟩ := h.events
  rw [hv, List.pairwise_append]
  refine ⟨List.pairwise_of_forall_mem_list fun e he _ _ hr => absurd hr (hs.events e he),
    List.pairwise_of_forall_mem_list fun _ _ e he _ => hk e he, fun _ _ e he _ => hk e he⟩

/-- What holds of `v` when the shutdown with the number `i` has come in at `s`. -/
structure Fenced (i : Nat) (s v : Support) : Prop where
  /-- No job was added, and nothing was scheduled or skipped. -/
  follows : s.Follows v
  /-- Every other shutdown reports that it came too late. -/
  others : ∀ (n : Nat) (c : Shutdown) (report : ShutdownReport), n ≠ i →
    v.shutdowns[n]? = some c → c.stage = .returned report → report.alreadyShutDown = true
  /-- When the shutdowns have returned, this one reports that it was first, and each interpreter
  that is registered was closed once. -/
  returned : (∀ c ∈ v.shutdowns, c.hasReturned = true) →
    (∃ c report, v.shutdowns[i]? = some c ∧ c.stage = .returned report ∧
      report.alreadyShutDown = false) ∧
    ∀ b, v.closings.get b = if (v.engines.get b).isSome then 1 else 0
  /-- When it reports that it was in time, nothing is outstanding or pending any more. -/
  drained : ∀ (c : Shutdown) (report : ShutdownReport), v.shutdowns[i]? = some c →
    c.stage = .returned report → report.timedOut = false →
    report.outstanding = 0 ∧ ∀ w, Machine.Reaches step v w →
      w.outstanding = 0 ∧ ∀ b, (w.lanes.get b).pending = []

theorem Led.fenced {i : Nat} {s v : Support} (h : v.Led i) (hf : s.Follows v)
    (hl : v.LanesExact) : Fenced i s v := by
  obtain ⟨calm, ⟨c, hc, led⟩, others⟩ := h
  refine ⟨hf, fun n d report hn hd hr => ?_, fun all => ?_, fun d report hd hr ht => ?_⟩
  · simpa [Shutdown.leads, hr] using others n d hn hd
  · have returned := all c (List.mem_of_getElem? hc)
    obtain ⟨leads, closings, -⟩ := led
    cases hr : c.stage with
    | returned report =>
      refine ⟨⟨c, report, hc, hr, by simpa [Shutdown.leads, hr] using leads⟩, fun b => ?_⟩
      rw [← count_backends, ← closings b]
      simp [Shutdown.toClose, hr]
    | _ => simp [Shutdown.hasReturned, hr] at returned
  · obtain rfl : c = d := Option.some.inj (hc.symm.trans hd)
    have leads := led.leads
    have none : v.outstanding = 0 := led.drained (by
      simp only [Shutdown.leads, hr] at leads
      simp [Shutdown.hasDrained, hr, ht, leads])
    refine ⟨led.report report hr ht, fun w hw => ?_⟩
    obtain ⟨calm', follows⟩ := calm.reaches hw
    have none' : w.outstanding = 0 := by
      have := follows.outstanding
      omega
    exact ⟨none', (kept_of_reaches (fun _ _ _ m => m.lanesExact) hw hl).empty calm' none'⟩

/-- **Shutdown is a fence.** After a rejection nothing is scheduled or skipped. In every run in
which the support was closed, or in which some shutdown has returned, there is one action by which
one shutdown came in, and behind it no job is added; that shutdown and no other reports that it was
first, each interpreter is closed once, and if it was in time nothing is outstanding or pending
afterwards. -/
theorem shutdown_is_fence {actions : List SupportAction} {v : Support}
    (h : Machine.run step actions (ofSettings settings engines widgets) = some v) :
    (v.events.Pairwise fun e e' =>
      e.kind = .rejected → e'.kind ≠ .scheduled ∧ e'.kind ≠ .skipped) ∧
    (v.accepting = false ∨ (∃ c ∈ v.shutdowns, c.hasReturned = true) →
      ∃ i s t, ComesIn actions (ofSettings settings engines widgets) v i s t ∧
        s.accepting = true ∧ t.accepting = false ∧ Fenced i s v) ∧
    v.engines = engines := by
  have reach : Reachable settings engines widgets v := ⟨actions, h⟩
  have same : v.engines = engines :=
    kept_of_reaches (P := fun v => v.engines = engines) (fun _ _ _ m e => m.engines_eq.trans e)
      reach rfl
  rcases open_or_comesIn h (open_ofSettings settings engines widgets) with
    hv | ⟨i, s, t, hin, hs, led, follows⟩
  · refine ⟨(Follows.refl v).rejections_last hv, ?_, same⟩
    rintro (closed | ⟨c, hc, hr⟩)
    · rw [hv.accepting] at closed
      cases closed
    · simp [Shutdown.hasReturned, hv.shutdowns c hc] at hr
  · have reach' : Machine.Reaches step t v := by
      obtain ⟨before, after, -, -, -, hl⟩ := hin
      exact ⟨after, hl⟩
    have all : s.Follows v := follows.trans (led.calm.reaches reach').2
    have led' : v.Led i := kept_of_reaches (fun _ _ _ m => m.led) reach' led
    exact ⟨all.rejections_last hs, fun _ => ⟨i, s, t, hin, hs.accepting, led.calm.closed,
      led'.fenced all (lanes_exact reach)⟩, same⟩

/-- A job runs while two shutdowns begin; the second comes in first, and a submission behind it is
rejected. -/
def sampleShutdown : List SupportAction :=
  sampleSubmit 0 ++ [.shutdown .cancel, .shutdown .drain, .start 0, .proceedShutdown 1,
    .proceedShutdown 0, .submit sampleUnit sampleContext, .proceedShutdown 1] ++
    (sampleRun 0).drop 1 ++
    [.proceedShutdown 1, .proceedShutdown 1, .proceedSubmission 1, .proceedShutdown 1,
      .proceedShutdown 1]

theorem shutdown_is_fence_sample :
    ∃ v, Machine.run step sampleShutdown sample = some v ∧
      v.shutdowns.map Shutdown.stage =
        [.returned ⟨false, 1, true⟩, .returned ⟨false, 0, false⟩] ∧
      v.events.map Event.kind = [.scheduled, .completed, .rejected] ∧
      (v.events.Pairwise fun e e' =>
        e.kind = .rejected → e'.kind ≠ .scheduled ∧ e'.kind ≠ .skipped) ∧
      (∃ i s t, ComesIn sampleShutdown sample v i s t ∧ s.accepting = true ∧
        t.accepting = false ∧ Fenced i s v) ∧
      v.closings = ⟨1, 0⟩ := by
  have run : (Machine.run step sampleShutdown sample).map (fun v =>
      (v.shutdowns.map Shutdown.stage, v.events.map Event.kind, v.accepting, v.closings)) =
      some ([.returned ⟨false, 1, true⟩, .returned ⟨false, 0, false⟩],
        [.scheduled, .completed, .rejected], false, ⟨1, 0⟩) := by decide +kernel
  obtain ⟨v, hr, hv⟩ := Option.map_eq_some_iff.1 run
  simp only [Prod.mk.injEq] at hv
  obtain ⟨stages, kinds, closed, closings⟩ := hv
  obtain ⟨last, fence, -⟩ := shutdown_is_fence hr
  exact ⟨v, hr, stages, kinds, last, fence (.inl closed), closings⟩

end Support

end PanelScript

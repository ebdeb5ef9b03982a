import PanelScript.Proofs.Link.Move
import PanelScript.Proofs.Support.Move
import PanelScript.Session.Step

/-!
# Moves of a session

An action of a session does one thing to the support at most, moves the link on, and may give the
run of a job its call. The properties of sessions are shown for such moves.

* `Session.supportAction?` is what an action of a session does to the support;
* `Link.Onward`: calls keep their requests;
* `Session.Advances` is what is done when a call takes a step, or its time goes by;
* `Session.Move` says what an action does, and `Session.move_of_step` that it does no more.
-/

namespace PanelScript

namespace Link

variable {l l' l'' : Link}

/-- No call is forgotten, and calls keep their requests. -/
def Onward (l l' : Link) : Prop :=
  ∀ (n : Nat) (c : LinkCall), l.calls[n]? = some c →
    ∃ c', l'.calls[n]? = some c' ∧ c'.request = c.request

theorem Onward.of_eq (h : l'.calls = l.calls) : l.Onward l' := by
  intro n c hc
  exact ⟨c, by rw [h]; exact hc, rfl⟩

theorem Onward.trans (h : l.Onward l') (h' : l'.Onward l'') : l.Onward l'' := by
  intro n c hc
  obtain ⟨c', hc', same⟩ := h n c hc
  obtain ⟨c'', hc'', same'⟩ := h' n c' hc'
  exact ⟨c'', hc'', same'.trans same⟩

theorem CallMove.request {n : Nat} {a : LinkAction} {c c' : LinkCall} (m : CallMove n l c a c' l') :
    c'.request = c.request := by
  cases m <;> rfl

theorem Move.onward {a : LinkAction} (m : Move a l l') : l.Onward l' := by
  cases m with
  | invoke request =>
    intro n c hc
    refine ⟨c, ?_, rfl⟩
    rw [Link.invoke, List.getElem?_append_left (List.getElem?_eq_some_iff.1 hc).1]
    exact hc
  | @call _ _ _ k c₀ c' h m =>
    intro n c hc
    by_cases e : k = n
    · subst e
      obtain rfl := Option.some.inj (h.symm.trans hc)
      exact ⟨c', List.getElem?_set_self (List.getElem?_eq_some_iff.1 h).1, m.request⟩
    · exact ⟨c, (List.getElem?_set_ne e).trans hc, rfl⟩
  | arrive => exact .of_eq (by rw [setConnection_eq])
  | closer _ m => exact .of_eq m.calls
  | close | exit => exact .of_eq rfl

theorem onward_of_step {a : LinkAction} (h : step a l = some l') : l.Onward l' :=
  (move_of_step h).onward

end Link

/-- An action asks no watcher for values and submits none that were taken. -/
def SessionAction.isApart : SessionAction → Bool
  | .change _ _ _ _ | .request _ _ | .handIn _ => false
  | _ => true

namespace Session

variable {o : Outside} {a : SessionAction} {s t : Session}

/-- What an action of a session does to the support, if anything. -/
def supportAction? (a : SessionAction) (s : Session) : Option SupportAction :=
  match a with
  | .submit unit context => some (.submit unit context)
  | .handIn index => (s.taken[index]?).map fun (unit, context) => .submit unit context
  | .proceedSubmission submission => some (.proceedSubmission submission)
  | .begin job => some (.start job)
  | .act job => do
    let j ← s.support.jobs[job]?
    let thread ← (s.runs[job]?).bind Run.thread
    match thread.rest with
    | [] => some (.finish job (.ok thread.value))
    | action :: _ =>
      match Program.move s.isOpen (s.bindings j.unit j.context) (s.widget j.context.widget)
          thread.value action with
      | .writes name value => some (.write job name value)
      | .ends ending => some (.finish job ending.outcome)
      | .yields _ | .waits => none
  | .conclude job => some (.conclude job 0)
  | .answer job => (s.answer? job).map fun (outcome, updates) => .reply job outcome updates 0
  | .abandon job => some (.abandon job 0)
  | .proceedJob job => some (.proceedJob job)
  | .shutdown mode => some (.shutdown mode)
  | .proceedShutdown shutdown =>
    match s.support.shutdowns[shutdown]?, s.closer with
    | some ⟨_, .closing (.gateway :: _) _⟩, none => none
    | _, _ => some (.proceedShutdown shutdown)
  | .expire shutdown => some (.expire shutdown)
  | .tearDown => some .tearDown
  | _ => none

/-- The support takes the step that an action asks for. -/
def Follows (a : SessionAction) (s t : Session) : Prop :=
  (∃ b, s.supportAction? a = some b ∧ Support.step b s.support = some t.support) ∨
    s.supportAction? a = none ∧ t.support = s.support

/-- The run of a job gets its call: the newest one, with a request for the file of its unit. -/
def Calls (job : Nat) (s t : Session) : Prop :=
  ∃ j path c, s.support.jobs[job]? = some j ∧ j.unit.payload = .file path ∧
    t.link.calls[s.link.calls.length]? = some c ∧ c.request.scriptPath = path

/-- What an action does. -/
structure Move (a : SessionAction) (s t : Session) : Prop where
  support : Follows a s t
  link : s.link.Onward t.link
  calls : ∀ job call, t.callOf? job = some call →
    s.callOf? job = some call ∨ a = .begin job ∧ call = s.link.calls.length ∧ Calls job s t
  interpreters : t.interpreters = s.interpreters
  apart : a.isApart = true → t.watchers = s.watchers ∧ t.taken = s.taken

/-! ### Runs -/

@[simp] theorem support_setRun (s : Session) (job : Nat) (f : Run → Run) :
    (s.setRun job f).support = s.support := by
  unfold setRun
  split <;> rfl

@[simp] theorem link_setRun (s : Session) (job : Nat) (f : Run → Run) :
    (s.setRun job f).link = s.link := by
  unfold setRun
  split <;> rfl

@[simp] theorem interpreters_setRun (s : Session) (job : Nat) (f : Run → Run) :
    (s.setRun job f).interpreters = s.interpreters := by
  unfold setRun
  split <;> rfl

@[simp] theorem watchers_setRun (s : Session) (job : Nat) (f : Run → Run) :
    (s.setRun job f).watchers = s.watchers := by
  unfold setRun
  split <;> rfl

@[simp] theorem taken_setRun (s : Session) (job : Nat) (f : Run → Run) :
    (s.setRun job f).taken = s.taken := by
  unfold setRun
  split <;> rfl

/-- Only for the job whose run is changed can there be another call. -/
theorem callOf?_setRun {job k call : Nat} {f : Run → Run}
    (h : (s.setRun job f).callOf? k = some call) :
    s.callOf? k = some call ∨ k = job ∧ ∃ r, (f r).call = some call ∧ s.callOf? k = r.call := by
  unfold setRun callOf? at *
  split at h
  · rename_i r hr
    by_cases e : job = k
    · subst e
      rw [List.getElem?_set_self (List.getElem?_eq_some_iff.1 hr).1] at h
      exact .inr ⟨rfl, r, h, by rw [hr]; rfl⟩
    · rw [List.getElem?_set_ne e] at h
      exact .inl h
  · exact .inl h

/-- When the support moves, runs keep their calls. -/
theorem callOf?_withSupport {p : Support} {k call : Nat}
    (h : (s.withSupport p).callOf? k = some call) : s.callOf? k = some call := by
  unfold callOf? withSupport at *
  obtain ⟨r, hr, hcall⟩ := Option.bind_eq_some_iff.1 h
  rw [List.getElem?_zipWith_eq_some] at hr
  obtain ⟨r₀, j, hr₀, -, rfl⟩ := hr
  have same : (r₀.hear j).call = r₀.call := by
    unfold Run.hear
    split <;> rfl
  rw [same] at hcall
  rw [List.getElem?_append] at hr₀
  split at hr₀
  · rw [hr₀]
    exact hcall
  · -- A new run has no call.
    obtain ⟨j, -, rfl⟩ := List.mem_map.1 (List.mem_of_getElem? hr₀)
    cases hcall

/-! ### An action is its move -/

theorem move_withSupport {b : SupportAction} {p : Support} (ha : s.supportAction? a = some b)
    (h : Support.step b s.support = some p) : Move a s (s.withSupport p) where
  support := .inl ⟨b, ha, h⟩
  link := .of_eq rfl
  calls _ _ h := .inl (callOf?_withSupport h)
  interpreters := rfl
  apart _ := ⟨rfl, rfl⟩

theorem move_of_support {b : SupportAction} (ha : s.supportAction? a = some b)
    (h : (Support.step b s.support).map s.withSupport = some t) : Move a s t := by
  obtain ⟨p, hp, rfl⟩ := Option.map_eq_some_iff.1 h
  exact move_withSupport ha hp

theorem move_withLink {l : Link} (ha : s.supportAction? a = none) (h : s.link.Onward l) :
    Move a s (s.withLink l) where
  support := .inr ⟨ha, rfl⟩
  link := h
  calls _ _ h := .inl h
  interpreters := rfl
  apart _ := ⟨rfl, rfl⟩

theorem move_of_link {b : LinkAction} (ha : s.supportAction? a = none)
    (h : (Link.step b s.link).map s.withLink = some t) : Move a s t := by
  obtain ⟨l, hl, rfl⟩ := Option.map_eq_some_iff.1 h
  exact move_withLink ha (Link.onward_of_step hl)

theorem move_of_begin {job : Nat} (h : s.begin job = some t) : Move (.begin job) s t := by
  unfold begin at h
  simp only [Option.bind_eq_bind, Option.bind_eq_some_iff] at h
  obtain ⟨p, hp, j, hj, h⟩ := h
  have m := move_withSupport (a := .begin job) rfl hp
  split at h
  · obtain rfl := Option.some.inj h
    refine ⟨?_, ?_, fun k call hk => ?_, ?_, fun _ => ?_⟩
    · rw [Follows, support_setRun]
      exact m.support
    · rw [link_setRun]
      exact m.link
    · rcases callOf?_setRun hk with old | ⟨-, r, hr, old⟩
      · exact .inl (callOf?_withSupport old)
      · exact .inl (callOf?_withSupport (old.trans hr))
    · rw [interpreters_setRun]
      exact m.interpreters
    · rw [watchers_setRun, taken_setRun]
      exact ⟨rfl, rfl⟩
  · rename_i path _ file
    obtain rfl := Option.some.inj h
    refine ⟨?_, ?_, fun k call hk => ?_, ?_, fun _ => ?_⟩
    · rw [Follows, support_setRun]
      exact m.support
    · rw [link_setRun]
      exact (Link.Move.invoke _).onward
    · rcases callOf?_setRun hk with old | ⟨rfl, r, hr, -⟩
      · exact .inl (callOf?_withSupport old)
      · -- The call is the one that has just begun.
        refine .inr ⟨rfl, (Option.some.inj hr).symm, j, path,
          ⟨s.requestFor path (s.bindings j.unit j.context), 1, .launching, none⟩, hj, file, ?_, rfl⟩
        rw [link_setRun]
        exact List.getElem?_concat_length
    · rw [interpreters_setRun]
      exact m.interpreters
    · rw [watchers_setRun, taken_setRun]
      exact ⟨rfl, rfl⟩
  · obtain rfl := Option.some.inj h
    exact m

/-- A script that has taken an action goes on from there. -/
theorem Move.goOn (m : Move a s t) (job : Nat) (thread : Option Thread) :
    Move a s (t.setRun job fun r => { r with thread }) where
  support := by
    rw [Follows, support_setRun]
    exact m.support
  link := by
    rw [link_setRun]
    exact m.link
  calls k call h := by
    unfold Calls
    rw [link_setRun]
    rcases callOf?_setRun h with old | ⟨-, r, hr, old⟩
    · exact m.calls k call old
    · exact m.calls k call (old.trans hr)
  interpreters := by
    rw [interpreters_setRun]
    exact m.interpreters
  apart ha := by
    rw [watchers_setRun, taken_setRun]
    exact m.apart ha

theorem move_of_act {job : Nat} (h : s.act job = some t) : Move (.act job) s t := by
  unfold act at h
  simp only [Option.bind_eq_bind] at h
  rw [Option.bind_eq_some_iff] at h
  obtain ⟨j, hj, h⟩ := h
  rw [Option.bind_eq_some_iff] at h
  obtain ⟨thread, hthread, h⟩ := h
  have asks : s.supportAction? (.act job) =
      match thread.rest with
      | [] => some (.finish job (.ok thread.value))
      | action :: _ =>
        match Program.move s.isOpen (s.bindings j.unit j.context) (s.widget j.context.widget)
            thread.value action with
        | .writes name value => some (.write job name value)
        | .ends ending => some (.finish job ending.outcome)
        | .yields _ | .waits => none := by
    simp only [supportAction?, Option.bind_eq_bind, hj, hthread, Option.bind_some]
  split at h
  · rename_i rest
    obtain ⟨p, hp, rfl⟩ := Option.map_eq_some_iff.1 h
    rw [rest] at asks
    exact (move_withSupport asks hp).goOn job _
  · rename_i action left rest
    rw [rest] at asks
    split at h
    · rename_i value move
      obtain rfl := Option.some.inj h
      have stays : Move (.act job) s s :=
        ⟨.inr ⟨by rw [asks]; simp only [move], rfl⟩, .of_eq rfl, fun _ _ h => .inl h, rfl,
          fun _ => ⟨rfl, rfl⟩⟩
      exact stays.goOn job _
    · rename_i name value move
      obtain ⟨p, hp, rfl⟩ := Option.map_eq_some_iff.1 h
      simp only [move] at asks
      exact (move_withSupport asks hp).goOn job _
    · cases h
    · rename_i ending move
      obtain ⟨p, hp, rfl⟩ := Option.map_eq_some_iff.1 h
      simp only [move] at asks
      exact (move_withSupport asks hp).goOn job _

theorem move_of_answer {job : Nat} (h : s.answer job = some t) : Move (.answer job) s t := by
  unfold answer at h
  simp only [Option.bind_eq_bind, Option.bind_eq_some_iff] at h
  obtain ⟨⟨outcome, updates⟩, ha, p, hp, h⟩ := h
  obtain rfl := Option.some.inj h
  exact move_withSupport (b := .reply job outcome updates 0) (by rw [supportAction?, ha]; rfl) hp

theorem move_of_abandon {job : Nat} (h : s.abandon job = some t) : Move (.abandon job) s t := by
  unfold abandon at h
  simp only [Option.bind_eq_bind, Option.bind_eq_some_iff] at h
  obtain ⟨p, hp, h⟩ := h
  have m := move_withSupport (a := .abandon job) rfl hp
  split at h
  · obtain rfl := Option.some.inj h
    exact m
  · split at h
    · obtain rfl := Option.some.inj h
      exact m
    · obtain ⟨l, hl, rfl⟩ := Option.map_eq_some_iff.1 h
      exact ⟨m.support, Link.onward_of_step (a := .abandon _ none) hl,
        fun _ _ h => .inl (callOf?_withSupport h), rfl, fun _ => ⟨rfl, rfl⟩⟩

theorem move_of_proceedShutdown {shutdown : Nat} (h : s.proceedShutdown shutdown = some t) :
    Move (.proceedShutdown shutdown) s t := by
  unfold proceedShutdown at h
  split at h
  · rename_i closing
    split at h
    · rename_i none
      obtain rfl := Option.some.inj h
      exact ⟨.inr ⟨by simp only [supportAction?, closing, none], rfl⟩, .of_eq rfl,
        fun _ _ h => .inl h, rfl, fun _ => ⟨rfl, rfl⟩⟩
    · rename_i closer some
      split at h
      · refine move_of_support (b := .proceedShutdown shutdown) ?_ h
        simp only [supportAction?, closing, some]
      · cases h
  · rename_i other
    refine move_of_support (b := .proceedShutdown shutdown) ?_ h
    simp only [supportAction?]
    split
    · rename_i closing _
      exact absurd closing (other _ _ _)
    · rfl

/-- A call takes a step on the link. A request that it has written is kept, and a process may end
that was given time to come up. -/
structure Advances (s t : Session) : Prop where
  support : t.support = s.support
  runs : t.runs = s.runs
  interpreters : t.interpreters = s.interpreters
  watchers : t.watchers = s.watchers
  taken : t.taken = s.taken
  closer : t.closer = s.closer
  step : ∃ b l n, Link.step b s.link = some l ∧ b.call? = some n ∧ (∀ n, b ≠ .abandon n none) ∧
    (t.link = l ∨ ∃ process, Link.step (.exit process) l = some t.link) ∧
    (t.requests = s.requests ∨
      b = .write n (.ok ()) ∧ ∃ r, r.answered = false ∧ t.requests = s.requests ++ [r])

theorem advances_withLink {b : LinkAction} {n : Nat}
    (h : (Link.step b s.link).map s.withLink = some t) (own : b.call? = some n)
    (timed : ∀ n, b ≠ .abandon n none) : Advances s t := by
  obtain ⟨l, hl, rfl⟩ := Option.map_eq_some_iff.1 h
  exact ⟨rfl, rfl, rfl, rfl, rfl, rfl, b, l, n, hl, own, timed, .inl rfl, .inl rfl⟩

theorem advances_of_write {call : Nat} (h : write o s call = some t) : Advances s t := by
  unfold write at h
  simp only [Option.bind_eq_bind, Option.bind_eq_some_iff] at h
  obtain ⟨c, -, l, hl, h⟩ := h
  split at h <;> cases h
  · rename_i written _
    rw [written] at hl
    exact ⟨rfl, rfl, rfl, rfl, rfl, rfl, .write call (.ok ()), l, call, hl, rfl, by simp, .inl rfl,
      .inr ⟨rfl, _, rfl, rfl⟩⟩
  · exact ⟨rfl, rfl, rfl, rfl, rfl, rfl, .write call _, l, call, hl, rfl, by simp, .inl rfl, .inl rfl⟩

theorem advances_of_proceedCall {call : Nat} (h : proceedCall o s call = some t) :
    Advances s t := by
  unfold proceedCall at h
  split at h
  · split at h
    · exact advances_withLink (b := .proceed call) h rfl (by simp)
    · unfold launch at h
      simp only [Option.bind_eq_bind, Option.bind_eq_some_iff] at h
      obtain ⟨c, -, launcher, -, l, hl, h⟩ := h
      obtain rfl := Option.some.inj h
      exact ⟨rfl, rfl, rfl, rfl, rfl, rfl, .launch call _, l, call, hl, rfl, by simp, .inl rfl,
        .inl rfl⟩
  · unfold connect at h
    simp only [Option.bind_eq_bind, Option.bind_eq_some_iff] at h
    obtain ⟨c, -, l, hl, h⟩ := h
    obtain rfl := Option.some.inj h
    exact ⟨rfl, rfl, rfl, rfl, rfl, rfl, .connect call _, l, call, hl, rfl, by simp, .inl rfl,
      .inl rfl⟩
  · exact advances_of_write h
  · exact advances_withLink (b := .read call) h rfl (by simp)
  · exact advances_withLink (b := .hangUp call) h rfl (by simp)
  · exact advances_withLink (b := .proceed call) h rfl (by simp)

/-- A process ends, or all stays as it is. -/
theorem settleProcess_cases (o : Outside) (l : Link) (call attempt : Nat) :
    settleProcess o l call attempt = l ∨
      ∃ process, Link.step (.exit process) l = some (settleProcess o l call attempt) := by
  unfold settleProcess
  split
  · rename_i launcher held
    split
    · split
      · unfold Launcher.exitHeld
        split
        · rename_i process _
          exact .inr ⟨process, by rw [Link.step, Link.exit, held]; rfl⟩
        · rw [← held]
          exact .inl rfl
      · exact .inl rfl
    · exact .inl rfl
  · exact .inl rfl

theorem advances_of_elapse {call : Nat} (h : elapse o s call = some t) : Advances s t := by
  unfold elapse at h
  simp only [Option.bind_eq_bind, Option.bind_eq_some_iff] at h
  obtain ⟨c, -, h⟩ := h
  split at h
  · split at h
    · simp only [Option.bind_eq_some_iff] at h
      obtain ⟨l, hl, h⟩ := h
      obtain rfl := Option.some.inj h
      exact ⟨rfl, rfl, rfl, rfl, rfl, rfl, .comeUp call, l, call, hl, rfl, by simp,
        settleProcess_cases o l call c.attempt, .inl rfl⟩
    · exact advances_withLink (b := .abandon call _) h rfl (by simp)
  · exact advances_withLink (b := .abandon call _) h rfl (by simp)
  · cases h

theorem Advances.move (adv : Advances s t) (ha : s.supportAction? a = none) : Move a s t := by
  obtain ⟨b, l, n, hl, -, -, link, -⟩ := adv.step
  refine ⟨.inr ⟨ha, adv.support⟩, ?_, fun job call h => .inl ?_, adv.interpreters,
    fun _ => ⟨adv.watchers, adv.taken⟩⟩
  · have on := Link.onward_of_step hl
    rcases link with link | ⟨process, ends⟩
    · rw [link]
      exact on
    · exact on.trans (Link.onward_of_step ends)
  · rw [callOf?, ← adv.runs]
    exact h

/-- What arrives changes no call. -/
theorem onward_arrivals (connection : Nat) (arrivals : List Arrival) (l : Link) :
    l.Onward (arrivals.foldl (fun l a => (l.arrive connection a).getD l) l) := by
  induction arrivals generalizing l with
  | nil => exact .of_eq rfl
  | cons a arrivals ih =>
    rw [List.foldl_cons]
    refine Link.Onward.trans ?_ (ih _)
    cases h : l.arrive connection a with
    | none => exact .of_eq rfl
    | some l' => exact Link.onward_of_step (a := .arrive connection a) h

theorem move_of_serve {request : Nat} (h : serve o s request = some t) :
    Move (.serve request) s t := by
  unfold serve at h
  simp only [Option.bind_eq_bind, Option.bind_eq_some_iff] at h
  obtain ⟨r, -, h⟩ := h
  split at h <;> cases h
  exact ⟨.inr ⟨rfl, rfl⟩, onward_arrivals _ _ _, fun _ _ h => .inl h, rfl, fun _ => ⟨rfl, rfl⟩⟩

theorem move_of_watch {watcher : Nat} {f : Watcher → Option Context × Watcher}
    (ha : s.supportAction? a = none) (asks : a.isApart = false)
    (h : s.watch watcher f = some t) : Move a s t := by
  unfold watch at h
  simp only [Option.bind_eq_bind, Option.bind_eq_some_iff] at h
  obtain ⟨w, -, h⟩ := h
  obtain rfl := Option.some.inj h
  exact ⟨.inr ⟨ha, rfl⟩, .of_eq rfl, fun _ _ h => .inl h, rfl, by simp [asks]⟩

theorem move_of_handIn {index : Nat} (h : s.handIn index = some t) : Move (.handIn index) s t := by
  unfold handIn at h
  simp only [Option.bind_eq_bind, Option.bind_eq_some_iff] at h
  obtain ⟨⟨unit, context⟩, taken, h⟩ := h
  obtain rfl := Option.some.inj h
  have m := move_withSupport (a := .handIn index) (b := .submit unit context)
    (by rw [supportAction?, taken]; rfl) rfl
  exact ⟨m.support, m.link, fun _ _ h => .inl (callOf?_withSupport h), rfl, nofun⟩

/-- **An action of a session is its move.** -/
theorem move_of_step (h : step o a s = some t) : Move a s t := by
  cases a with
  | submit unit context =>
    obtain rfl := Option.some.inj h
    exact move_withSupport rfl rfl
  | change watcher index value now =>
    have h : s.watch watcher (fun w => w.change index value now) = some t := h
    exact move_of_watch rfl rfl h
  | request watcher now =>
    have h : s.watch watcher (fun w => (some (w.request now), w)) = some t := h
    exact move_of_watch rfl rfl h
  | handIn index => exact move_of_handIn h
  | proceedSubmission submission =>
    exact move_of_support (b := .proceedSubmission submission) rfl h
  | begin job => exact move_of_begin h
  | act job => exact move_of_act h
  | conclude job => exact move_of_support (b := .conclude job 0) rfl h
  | answer job => exact move_of_answer h
  | abandon job => exact move_of_abandon h
  | proceedJob job => exact move_of_support (b := .proceedJob job) rfl h
  | shutdown mode =>
    obtain rfl := Option.some.inj h
    exact move_withSupport rfl rfl
  | proceedShutdown shutdown => exact move_of_proceedShutdown h
  | expire shutdown => exact move_of_support (b := .expire shutdown) rfl h
  | tearDown =>
    obtain rfl := Option.some.inj h
    exact move_withSupport rfl rfl
  | openGate | closeGate =>
    obtain rfl := Option.some.inj h
    exact ⟨.inr ⟨rfl, rfl⟩, .of_eq rfl, fun _ _ h => .inl h, rfl, fun _ => ⟨rfl, rfl⟩⟩
  | invoke request =>
    obtain rfl := Option.some.inj h
    exact move_withLink rfl (Link.Move.invoke request).onward
  | proceedCall call => exact (advances_of_proceedCall h).move rfl
  | elapse call => exact (advances_of_elapse h).move rfl
  | serve request => exact move_of_serve h
  | closeLink =>
    obtain rfl := Option.some.inj h
    exact move_withLink rfl (.of_eq rfl)
  | sweep closer => exact move_of_link (b := .sweep closer) rfl h
  | happen b =>
    rw [step] at h
    split at h
    · exact move_of_link rfl h
    · cases h

end Session

end PanelScript

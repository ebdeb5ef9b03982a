import PanelScript.Proofs.Session.Imprint

/-!
# A session with one submission

A unit for the interpreter behind the gateway is submitted once to a new session. The session is
let run, and later shut down. Whatever the gateway does meanwhile, there stay one submission, one
job and one call.

* `Session.Keeps` is what an action leaves as it is that goes on with what has begun: the handles,
  the number of calls and the verdicts; `keeps_of_step` says that it does;
* `Session.Single` is a session with one submission, `Single.step` keeps it and `Single.exhaust`
  says so of a scheduler;
* `Session.Undisturbed` is such a session before it is shut down: its job ends with the verdict of
  the call, and its handle brings no result but that.
-/

namespace PanelScript

/-- An action begins a call. -/
def LinkAction.begins : LinkAction → Bool
  | .invoke _ => true
  | _ => false

/-- An action goes on with what has begun: nothing is submitted, shut down or torn down. -/
def SupportAction.goesOn : SupportAction → Bool
  | .submit _ _ | .shutdown _ | .tearDown => false
  | _ => true

theorem SupportAction.ne_tearDown {a : SupportAction} (h : a.goesOn = true) : a ≠ .tearDown := by
  rintro rfl
  cases h

/-- An action goes on with what has begun: it submits nothing, begins no job and no call, and
changes nothing from outside. -/
def SessionAction.goesOn : SessionAction → Bool
  | .proceedSubmission _ | .act _ | .conclude _ | .answer _ | .abandon _ | .proceedJob _
  | .shutdown _ | .proceedShutdown _ | .expire _ | .proceedCall _ | .elapse _ | .serve _
  | .sweep _ => true
  | _ => false

/-! ### One job -/

namespace Support

variable {s s' t : Support} {a : SupportAction} {j j' : Job} {k : Nat} {u : ScriptUnit}
  {c : Context}

/-- One submission was made and has become the one job, which has had a place. -/
structure OneJob (u : ScriptUnit) (c : Context) (s : Support) : Prop where
  submissions : s.submissions = [⟨u, c, .returned (.scheduled 0)⟩]
  job : ∃ j, s.jobs = [j] ∧ j.unit = u ∧ j.context = c ∧ j.stage ≠ .waiting

theorem JobMove.stage_ne_waiting (m : JobMove k s j a j' s') (h : j.stage ≠ .waiting) :
    j'.stage ≠ .waiting := by
  cases m with
  | write | finish => exact h
  | _ => simp

/-- A submission that was answered takes no step. -/
theorem SubmissionMove.not_returned {d d' : Submission} (m : SubmissionMove s d d' s')
    {answer : SubmitAnswer} : d.stage ≠ .returned answer := by
  intro e
  cases m <;> simp_all

theorem Move.oneJob (m : Move a s t) (ha : a.goesOn = true ∨ ∃ mode, a = .shutdown mode)
    (one : s.OneJob u c) : t.OneJob u c := by
  obtain ⟨submissions, j, jobs, unit, context, stage⟩ := one
  cases m with
  | submit => simp [SupportAction.goesOn] at ha
  | @submission _ _ i d _ h m =>
    rw [submissions] at h
    obtain rfl := List.mem_singleton.1 (List.mem_of_getElem? h)
    exact absurd rfl m.not_returned
  | @job _ _ s' k j₀ j' h m =>
    rw [jobs] at h
    obtain rfl := List.mem_singleton.1 (List.mem_of_getElem? h)
    obtain rfl : k = 0 := by
      have lt := (List.getElem?_eq_some_iff.1 h).1
      simpa using lt
    refine ⟨m.submissions_eq.trans submissions, j', by rw [jobs]; rfl, ?_, ?_,
      m.stage_ne_waiting stage⟩
    · rw [m.unit_eq.1, unit]
    · rw [m.unit_eq.2, context]
  | shutdown _ m =>
    obtain ⟨same, same', -⟩ := m.unchanged
    exact ⟨same.trans submissions, j, same'.trans jobs, unit, context, stage⟩
  | beginShutdown | tearDown => exact ⟨submissions, j, jobs, unit, context, stage⟩

/-- The one job does not get a place again. -/
theorem OneJob.start_eq_none (one : s.OneJob u c) (job : Nat) : s.start job = none := by
  obtain ⟨-, j, jobs, -, -, placed⟩ := one
  unfold start
  split
  · rename_i j' found
    rw [jobs] at found
    obtain rfl := List.mem_singleton.1 (List.mem_of_getElem? found)
    exact if_neg fun h => placed h.1
  · rfl

/-- Whatever is written is written for the one job. -/
theorem OneJob.filter_writes (one : s.OneJob u c) (a : SupportAction) :
    (a.writes s).filter (·.job = 0) = a.writes s := by
  obtain ⟨-, j, jobs, -⟩ := one
  have none {job : Nat} (h : job ≠ 0) : s.jobs[job]? = none := by
    rw [jobs, List.getElem?_eq_none_iff, List.length_singleton]
    omega
  have each {job : Nat} (updates : List (String × Json)) :
      ∀ w ∈ ((s.jobs[job]?).map fun j => j.writesOf job updates).getD [], w.job = 0 := by
    intro w hw
    by_cases h : job = 0
    · subst h
      rw [jobs] at hw
      obtain ⟨_, -, rfl⟩ := List.mem_map.1 hw
      rfl
    · rw [none h] at hw
      cases hw
  refine List.filter_eq_self.2 fun w hw => decide_eq_true ?_
  unfold SupportAction.writes at hw
  split at hw
  · exact each _ w hw
  · exact each _ w hw
  · cases hw

/-- No shutdown has begun, and no job was asked to stop or is gone; one that has returned nothing
runs. -/
structure Undisturbed (s : Support) : Prop where
  shutdowns : s.shutdowns = []
  cancelled : s.cancelled = false
  jobs : ∀ j ∈ s.jobs, j.stage ≠ .lost ∧ (j.returned = [] → j.stage = .running)

/-- A running job stays, and what it returns it returns by itself. -/
theorem JobMove.undisturbed (m : JobMove k s j a j' s') (ha : a.goesOn = true)
    (up : s.cancelled = false) (placed : j.stage ≠ .waiting)
    (h : j.stage ≠ .lost ∧ (j.returned = [] → j.stage = .running)) :
    (j'.stage ≠ .lost ∧ (j'.returned = [] → j'.stage = .running)) ∧ s'.cancelled = false ∧
      s'.shutdowns = s.shutdowns ∧ ∀ r ∈ j.sent, r ∈ j'.sent := by
  cases m with
  | start e => exact absurd e placed
  | write | finish => exact ⟨h, up, rfl, fun _ => id⟩
  | conclude | reply => exact ⟨⟨by simp, by simp⟩, up, rfl, fun _ => id⟩
  | giveUp _ _ cancelled | abandon _ _ cancelled =>
    rw [up] at cancelled
    cases cancelled
  | tell e | release e | leave e =>
    refine ⟨⟨by simp, fun none => ?_⟩, up, rfl, fun _ => id⟩
    rw [h.2 none] at e
    cases e
  | deliver e =>
    refine ⟨⟨by simp, fun none => ?_⟩, up, rfl, fun _ => List.mem_append_left _⟩
    rw [h.2 none] at e
    cases e
  | vanish => cases ha

theorem Move.undisturbed (m : Move a s t) (one : s.OneJob u c) (ha : a.goesOn = true)
    (h : s.Undisturbed) :
    t.Undisturbed ∧ ∀ j j', s.jobs = [j] → t.jobs = [j'] → ∀ r ∈ j.sent, r ∈ j'.sent := by
  obtain ⟨shutdowns, cancelled, jobs⟩ := h
  obtain ⟨submissions, j, only, -, -, placed⟩ := one
  cases m with
  | submit => cases ha
  | @submission _ _ i d _ h m =>
    rw [submissions] at h
    obtain rfl := List.mem_singleton.1 (List.mem_of_getElem? h)
    exact absurd rfl m.not_returned
  | @job _ _ s' k j₀ j' h m =>
    rw [only] at h
    obtain rfl := List.mem_singleton.1 (List.mem_of_getElem? h)
    obtain rfl : k = 0 := by
      have lt := (List.getElem?_eq_some_iff.1 h).1
      simpa using lt
    obtain ⟨stays, up, same, sent⟩ := m.undisturbed ha cancelled placed
      (jobs j₀ (by rw [only]; exact List.mem_singleton_self j₀))
    refine ⟨⟨same.trans shutdowns, up, ?_⟩, ?_⟩
    · simpa [only] using stays
    · simpa [only] using sent
  | shutdown h => simp [shutdowns] at h
  | beginShutdown | tearDown => cases ha

end Support

/-- What a handle has heard of a job that is not gone: nothing, or a result that it has sent. -/
theorem Handle.hear_of_sent {h : Handle} {j : Job} (there : j.stage ≠ .lost)
    (known : h.delivery = .pending ∨ ∃ r ∈ j.sent, h.delivery = .ready r) :
    (h.hear j).delivery = .pending ∨ ∃ r ∈ j.sent, (h.hear j).delivery = .ready r := by
  rcases known with pending | ⟨r, sent, ready⟩
  · unfold hear
    split
    · rename_i result rest e
      exact .inr ⟨result, by rw [e]; exact List.mem_cons_self, by rw [deliver, pending]⟩
    · rename_i lost
      exact absurd lost there
    · exact .inl pending
  · rw [hear_of_settled (by simp [ready])]
    exact .inr ⟨r, sent, ready⟩

/-! ### Calls and verdicts -/

namespace Link

variable {l l' l'' : Link} {a : LinkAction}

/-- No call begins, and what is over stays as it is. -/
structure Rests (l l' : Link) : Prop where
  length : l'.calls.length = l.calls.length
  verdict : ∀ (n : Nat) (v : Verdict), l.verdict? n = some v → l'.verdict? n = some v

theorem Rests.of_eq (h : l'.calls = l.calls) : l.Rests l' :=
  ⟨congrArg List.length h, fun n v hv => by rw [verdict?, h]; exact hv⟩

theorem Rests.trans (h : l.Rests l') (h' : l'.Rests l'') : l.Rests l'' :=
  ⟨h'.length.trans h.length, fun n v hv => h'.verdict n v (h.verdict n v hv)⟩

/-- A call that is over takes no step. -/
theorem CallMove.not_finished {n : Nat} {c c' : LinkCall} (m : CallMove n l c a c' l')
    {v : Option Verdict} : c.stage ≠ .finished v := by
  intro e
  cases m <;> simp_all

theorem Move.rests (m : Move a l l') (ha : a.begins = false) : l.Rests l' := by
  cases m with
  | invoke => cases ha
  | @call _ _ _ k c c' h m =>
    refine ⟨List.length_set, fun n v hv => ?_⟩
    by_cases e : k = n
    · subst e
      unfold verdict? at hv
      rw [h] at hv
      split at hv
      · rename_i request attempt v' retried same
        obtain rfl := Option.some.inj same
        exact absurd rfl (m.not_finished (v := v'))
      · cases hv
    · rw [verdict?, List.getElem?_set_ne e]
      exact hv
  | arrive => exact .of_eq (by rw [setConnection_eq])
  | closer _ m => exact .of_eq m.calls
  | close | exit => exact .of_eq rfl

theorem rests_of_step (h : step a l = some l') (ha : a.begins = false) : l.Rests l' :=
  (move_of_step h).rests ha

end Link

namespace Session

variable {o : Outside} {a : SessionAction} {s t : Session} {p : Support}

/-! ### What goes on -/

/-- Handles change only as their jobs do, no call begins, and what is over stays as it is. -/
structure Keeps (s t : Session) : Prop where
  handles : t.runs.map Run.handle = (s.withSupport t.support).runs.map Run.handle
  link : s.link.Rests t.link

theorem keeps_withSupport (s : Session) (p : Support) : Keeps s (s.withSupport p) :=
  ⟨rfl, .of_eq rfl⟩

theorem keeps_of_support {b : Option Support} (h : b.map s.withSupport = some t) : Keeps s t := by
  obtain ⟨p, -, rfl⟩ := Option.map_eq_some_iff.1 h
  exact keeps_withSupport s p

/-- Only the link and what is not listed here has changed. -/
theorem keeps_of_rests (heard : s.Heard) (runs : t.runs = s.runs) (support : t.support = s.support)
    (rests : s.link.Rests t.link) : Keeps s t := by
  refine ⟨?_, rests⟩
  rw [support, withSupport_of_jobs_eq heard rfl, runs]

theorem keeps_of_link {b : LinkAction} (heard : s.Heard)
    (h : (Link.step b s.link).map s.withLink = some t) (hb : b.begins = false) : Keeps s t := by
  obtain ⟨l, hl, rfl⟩ := Option.map_eq_some_iff.1 h
  exact keeps_of_rests heard rfl rfl (Link.rests_of_step hl hb)

/-- A script goes on from there. -/
theorem Keeps.goOn (k : Keeps s t) (job : Nat) (thread : Option Thread) :
    Keeps s (t.setRun job fun r => { r with thread }) := by
  refine ⟨?_, by rw [link_setRun]; exact k.link⟩
  rw [support_setRun, ← k.handles]
  unfold setRun
  split
  · rename_i r hr
    have same : (t.runs.map Run.handle)[job]? = some r.handle := by rw [List.getElem?_map, hr]; rfl
    obtain ⟨lt, same⟩ := List.getElem?_eq_some_iff.1 same
    rw [List.map_set]
    show (t.runs.map Run.handle).set job r.handle = _
    rw [← same, List.set_getElem_self]
  · rfl

theorem keeps_of_act {job : Nat} (heard : s.Heard) (h : s.act job = some t) : Keeps s t := by
  have stays : Keeps s s := keeps_of_rests heard rfl rfl (.of_eq rfl)
  unfold act at h
  simp only [Option.bind_eq_bind, Option.bind_eq_some_iff] at h
  obtain ⟨j, -, thread, -, h⟩ := h
  split at h
  · obtain ⟨p, -, rfl⟩ := Option.map_eq_some_iff.1 h
    exact (keeps_withSupport s p).goOn job _
  · split at h
    · obtain rfl := Option.some.inj h
      exact stays.goOn job _
    · obtain ⟨p, -, rfl⟩ := Option.map_eq_some_iff.1 h
      exact (keeps_withSupport s p).goOn job _
    · cases h
    · obtain ⟨p, -, rfl⟩ := Option.map_eq_some_iff.1 h
      exact (keeps_withSupport s p).goOn job _

theorem keeps_of_abandon {job : Nat} (h : s.abandon job = some t) : Keeps s t := by
  unfold abandon at h
  simp only [Option.bind_eq_bind, Option.bind_eq_some_iff] at h
  obtain ⟨p, -, h⟩ := h
  split at h
  · obtain rfl := Option.some.inj h
    exact keeps_withSupport s p
  · split at h
    · obtain rfl := Option.some.inj h
      exact keeps_withSupport s p
    · obtain ⟨l, hl, rfl⟩ := Option.map_eq_some_iff.1 h
      exact ⟨rfl, Link.rests_of_step (a := .abandon _ none) hl rfl⟩

theorem keeps_of_proceedShutdown {shutdown : Nat} (heard : s.Heard)
    (h : s.proceedShutdown shutdown = some t) : Keeps s t := by
  unfold proceedShutdown at h
  split at h
  · split at h
    · obtain rfl := Option.some.inj h
      exact keeps_of_rests heard rfl rfl (.of_eq rfl)
    · split at h
      · exact keeps_of_support h
      · cases h
  · exact keeps_of_support h

theorem Advances.keeps (adv : Advances s t) (heard : s.Heard) : Keeps s t := by
  obtain ⟨b, l, n, hl, own, -, link, -⟩ := adv.step
  have rests : s.link.Rests l := Link.rests_of_step hl (by cases b <;> first | rfl | cases own)
  refine keeps_of_rests heard adv.runs adv.support ?_
  rcases link with link | ⟨process, ends⟩
  · rw [link]
    exact rests
  · exact rests.trans (Link.rests_of_step ends rfl)

theorem rests_arrivals (connection : Nat) (arrivals : List Arrival) (l : Link) :
    l.Rests (arrivals.foldl (fun l a => (l.arrive connection a).getD l) l) := by
  induction arrivals generalizing l with
  | nil => exact .of_eq rfl
  | cons a arrivals ih =>
    rw [List.foldl_cons]
    refine Link.Rests.trans ?_ (ih _)
    cases h : l.arrive connection a with
    | none => exact .of_eq rfl
    | some l' => exact Link.rests_of_step (a := .arrive connection a) h rfl

theorem keeps_of_serve {request : Nat} (heard : s.Heard) (h : serve o s request = some t) :
    Keeps s t := by
  unfold serve at h
  simp only [Option.bind_eq_bind, Option.bind_eq_some_iff] at h
  obtain ⟨r, -, h⟩ := h
  split at h <;> cases h
  exact keeps_of_rests heard rfl rfl (rests_arrivals _ _ _)

theorem keeps_of_step (heard : s.Heard) (goes : a.goesOn = true) (h : step o a s = some t) :
    Keeps s t := by
  cases a with
  | act job => exact keeps_of_act heard h
  | abandon job => exact keeps_of_abandon h
  | answer job =>
    have h : s.answer job = some t := h
    unfold answer at h
    simp only [Option.bind_eq_bind, Option.bind_eq_some_iff] at h
    obtain ⟨_, -, p, -, h⟩ := h
    obtain rfl := Option.some.inj h
    exact keeps_withSupport s p
  | shutdown mode =>
    obtain rfl := Option.some.inj h
    exact keeps_withSupport s _
  | proceedSubmission | conclude | proceedJob | expire => exact keeps_of_support h
  | proceedShutdown shutdown => exact keeps_of_proceedShutdown heard h
  | proceedCall call => exact (advances_of_proceedCall h).keeps heard
  | elapse call => exact (advances_of_elapse h).keeps heard
  | serve request => exact keeps_of_serve heard h
  | sweep closer => exact keeps_of_link (b := .sweep closer) heard h rfl
  | _ => cases goes

/-! ### A single submission -/

variable {u : ScriptUnit} {c : Context} {q : InvokeRequest} {w : Widget}

/-- What goes on does so in the support, if it is no shutdown. -/
theorem supportAction?_of_goesOn (goes : a.goesOn = true) {b : SupportAction}
    (h : s.supportAction? a = some b) :
    (b.goesOn = true ∨ ∃ mode, b = .shutdown mode) ∧
      ((∀ mode, a ≠ .shutdown mode) → b.goesOn = true) := by
  by_cases shuts : ∃ mode, a = .shutdown mode
  · obtain ⟨mode, rfl⟩ := shuts
    cases h
    exact ⟨.inr ⟨mode, rfl⟩, fun other => absurd rfl (other mode)⟩
  have on : b.goesOn = true := by
    cases a with
    | act job =>
      unfold supportAction? at h
      simp only [Option.bind_eq_bind, Option.bind_eq_some_iff] at h
      obtain ⟨j, -, thread, -, h⟩ := h
      split at h
      · cases h
        rfl
      · split at h <;> cases h <;> rfl
    | answer job =>
      obtain ⟨_, -, rfl⟩ := Option.map_eq_some_iff.1 h
      rfl
    | shutdown mode => exact absurd ⟨mode, rfl⟩ shuts
    | proceedShutdown n =>
      simp only [supportAction?] at h
      split at h <;> cases h
      rfl
    | proceedSubmission | conclude | abandon | proceedJob | expire =>
      cases h
      rfl
    | proceedCall | elapse | serve | sweep => cases h
    | _ => cases goes
  exact ⟨.inl on, fun _ => on⟩

/-- One submission was made, by which there came to be one job and one call; the widget has what
was written by the verdict of the call, if the job has taken it over. -/
structure Single (u : ScriptUnit) (c : Context) (q : InvokeRequest) (w : Widget) (s : Session) :
    Prop where
  heard : s.Heard
  registered : s.Registered
  support : s.support.OneJob u c
  call : ∃ k, s.link.calls = [k] ∧ k.request = q
  written : ∃ written, s.support.widgets = written.foldl WidgetWrite.apply [w] ∧
    s.support.Traced (fun _ _ x => ∃ v, s.link.verdict? 0 = some v ∧ Verdict.answer v = x) 0 written

/-- What the job is answered is the verdict of the one call. -/
theorem Single.verdict_of_answer (hs : s.Single u c q w) {j : Job}
    (hj : s.support.jobs[0]? = some j) (behind : j.unit.backend = .gateway) {x : Answer}
    (h : s.answer? 0 = some x) : ∃ v, s.link.verdict? 0 = some v ∧ Verdict.answer v = x := by
  obtain ⟨call, k, v, -, found, stage, answer⟩ :=
    Session.verdict_of_answer hs.registered hj behind h
  obtain ⟨k', calls, -⟩ := hs.call
  obtain rfl : call = 0 := by
    have lt := (List.getElem?_eq_some_iff.1 found).1
    rw [calls] at lt
    simpa using lt
  refine ⟨v, ?_, answer⟩
  obtain ⟨request, attempt, stage', retried⟩ := k
  obtain rfl : stage' = .finished (some v) := stage
  rw [Link.verdict?, found]

/-- The one job has had its place. -/
theorem Single.begin_eq_none (hs : s.Single u c q w) (job : Nat) :
    Session.step o (.begin job) s = none := by
  show s.begin job = none
  rw [begin, hs.support.start_eq_none]
  rfl

theorem Single.step (hs : s.Single u c q w) (goes : a.goesOn = true ∨ ∃ job, a = .begin job)
    (h : step o a s = some t) : t.Single u c q w := by
  have m := move_of_step h
  rcases goes with goes | ⟨job, rfl⟩
  · have keeps := keeps_of_step hs.heard goes h
    refine ⟨hs.heard.step h, hs.registered.step h, ?_, ?_, ?_⟩
    · rcases m.support with ⟨b, hb, stepped⟩ | ⟨-, same⟩
      · exact Support.kept_of_step (fun _ _ m => m.oneJob (supportAction?_of_goesOn goes hb).1)
          stepped hs.support
      · rw [same]
        exact hs.support
    · obtain ⟨k, calls, request⟩ := hs.call
      obtain ⟨k', found, same⟩ := m.link 0 k (by rw [calls]; rfl)
      have one := keeps.link.length
      rw [calls] at one
      obtain ⟨k'', only⟩ := List.length_eq_one_iff.1 one
      rw [only] at found
      obtain rfl := Option.some.inj found
      exact ⟨k'', only, same.trans request⟩
    · obtain ⟨written, widgets, traced⟩ := hs.written
      have more : ∀ (u : ScriptUnit) (c : Context) (x : Answer),
          (∃ v, s.link.verdict? 0 = some v ∧ Verdict.answer v = x) →
            ∃ v, t.link.verdict? 0 = some v ∧ Verdict.answer v = x := by
        rintro - - x ⟨v, hv, answer⟩
        exact ⟨v, keeps.link.verdict 0 v hv, answer⟩
      rcases m.support with ⟨b, hb, stepped⟩ | ⟨-, same⟩
      · refine ⟨written ++ b.writes s.support, ?_, ?_⟩
        · rw [Support.widgets_of_step stepped, widgets, List.foldl_append]
        · rw [← hs.support.filter_writes b]
          refine Support.traced_of_step stepped hs.registered.engine traced more ?_
          rintro j outcome updates elapsed hj behind rfl
          obtain ⟨rfl, answered⟩ := answer_of_reply hb
          exact more j.unit j.context _ (hs.verdict_of_answer hj behind answered)
      · rw [same]
        exact ⟨written, widgets, traced.mono more rfl⟩
  · rw [hs.begin_eq_none] at h
    cases h

/-- Handles are used without consequences for anything else. -/
theorem support_use (s : Session) (job : Nat) (x : HandleUse) :
    (s.use job x).support = s.support := by
  rcases s.use_eq job x with same | changed
  · rw [same]
  · rw [changed, support_setRun]

theorem link_use (s : Session) (job : Nat) (x : HandleUse) : (s.use job x).link = s.link := by
  rcases s.use_eq job x with same | changed
  · rw [same]
  · rw [changed, link_setRun]

theorem Single.use (hs : s.Single u c q w) (job : Nat) (x : HandleUse) :
    (s.use job x).Single u c q w := by
  rcases s.use_eq job x with same | changed
  · rwa [same]
  · obtain ⟨heard, ⟨interpreter, engine⟩, support, call, written⟩ := hs
    rw [changed]
    refine ⟨heard.setRun job fun r j k => k.use x, ⟨?_, ?_⟩, ?_, ?_, ?_⟩
    · rwa [interpreters_setRun]
    · rwa [support_setRun]
    · rwa [support_setRun]
    · rwa [link_setRun]
    · rwa [support_setRun, link_setRun]

/-! ### Before a shutdown -/

/-- No shutdown has begun, and the handle of the job brings what the job has sent, or nothing. -/
structure Undisturbed (s : Session) : Prop where
  support : s.support.Undisturbed
  handle : ∀ j, s.support.jobs = [j] → ∃ h, s.runs.map Run.handle = [some h] ∧
    (h.delivery = .pending ∨ ∃ r ∈ j.sent, h.delivery = .ready r)

theorem Undisturbed.step (hs : s.Single u c q w) (calm : s.Undisturbed)
    (goes : a.goesOn = true ∨ ∃ job, a = .begin job) (stays : ∀ mode, a ≠ .shutdown mode)
    (h : step o a s = some t) : t.Undisturbed := by
  obtain ⟨-, j, jobs, -⟩ := hs.support
  rcases goes with goes | ⟨job, rfl⟩
  · have moved : t.support.Undisturbed ∧
        ∀ j', t.support.jobs = [j'] → ∀ r ∈ j.sent, r ∈ j'.sent := by
      rcases (move_of_step h).support with ⟨b, hb, stepped⟩ | ⟨-, same⟩
      · have on := (supportAction?_of_goesOn goes hb).2 stays
        obtain ⟨calm', sent⟩ := (Support.move_of_step stepped
          (SupportAction.ne_tearDown on)).undisturbed hs.support on calm.support
        exact ⟨calm', fun j' => sent j j' jobs⟩
      · refine ⟨by rw [same]; exact calm.support, fun j' jobs' r => ?_⟩
        rw [same, jobs] at jobs'
        obtain rfl := (List.cons.inj jobs').1
        exact id
    refine ⟨moved.1, fun j' jobs' => ?_⟩
    obtain ⟨h₀, handle, known⟩ := calm.handle j jobs
    have there : j'.stage ≠ .lost :=
      (moved.1.jobs j' (by rw [jobs']; exact List.mem_singleton_self j')).1
    refine ⟨h₀.hear j', ?_, h₀.hear_of_sent there ?_⟩
    · obtain ⟨r, runs, same⟩ := List.map_eq_singleton_iff.1 handle
      rw [(keeps_of_step hs.heard goes h).handles, withSupport, runs, jobs']
      show [(r.hear j').handle] = _
      rw [Run.hear_eq, same]
      rfl
    · rcases known with pending | ⟨r, sent, ready⟩
      · exact .inl pending
      · exact .inr ⟨r, moved.2 j' jobs' r sent, ready⟩
  · rw [hs.begin_eq_none] at h
    cases h

/-- Before a shutdown the handle brings nothing, or what the verdict of the call means; then the
widget has taken the updates that go with it. -/
theorem Undisturbed.awaitResult (hs : s.Single u c q w) (calm : s.Undisturbed)
    (behind : u.backend = .gateway) (slot : c.widget.slot = 0) :
    (s.awaitResult 0).1 = .waiting ∨ ∃ v elapsed, s.link.verdict? 0 = some v ∧
      (s.awaitResult 0).1 = .result (.ofOutcome u.id u.source elapsed (Verdict.answer v).1) ∧
      s.support.widgets = [w.applyUpdates (Verdict.answer v).2] := by
  obtain ⟨-, j, jobs, unit, context, -⟩ := hs.support
  obtain ⟨h, handle, known⟩ := calm.handle j jobs
  obtain ⟨r, runs, same⟩ := List.map_eq_singleton_iff.1 handle
  have awaited : (s.awaitResult 0).1 = h.await.1 := by
    simp only [Session.awaitResult, look, runs, List.getElem?_cons_zero, Option.bind_some, same,
      Option.getD_some]
  rw [awaited]
  rcases known with pending | ⟨result, sent, ready⟩
  · left
    rw [Handle.await, pending]
  · right
    obtain ⟨written, widgets, traced⟩ := hs.written
    simp only [Support.Traced, jobs, List.getElem?_cons_zero] at traced
    obtain ⟨reported, -, answer⟩ := traced (by rw [unit]; exact behind)
    obtain ⟨outcome, elapsed, yields, rfl⟩ := reported.result sent
    have returned : j.returned ≠ [] := by
      intro none
      have running := (calm.support.jobs j (by rw [jobs]; exact List.mem_singleton_self j)).2 none
      rw [(reported.fresh (.inr running)).2] at sent
      cases sent
    rcases answer with ⟨none, -⟩ | ⟨x, ⟨v, verdict, rfl⟩, one, all⟩
    · exact absurd none returned
    · have same : outcome = (Verdict.answer v).1 := by
        rcases yields with one' | ⟨none, -⟩
        · exact (List.cons.inj (one'.symm.trans one)).1
        · exact absurd none returned
      refine ⟨v, elapsed, verdict, ?_, ?_⟩
      · rw [Handle.await, ready, same, ← unit]
        rfl
      · rw [widgets, all, foldl_writesOf, context, slot]
        rfl

/-! ### What is wished for -/

/-- What a session wishes for goes on with what has begun, or begins a job. -/
theorem mem_wishes (h : a ∈ s.wishes) :
    (a.goesOn = true ∨ ∃ job, a = .begin job) ∧ ∀ mode, a ≠ .shutdown mode := by
  simp only [wishes, List.mem_append, List.mem_map, List.mem_flatMap] at h
  rcases h with (((((⟨n, -, rfl⟩ | ⟨job, -, h⟩) | ⟨n, -, rfl⟩) | ⟨n, -, rfl⟩) | ⟨n, -, rfl⟩) |
    ⟨n, -, rfl⟩) | ⟨n, -, rfl⟩
  all_goals try exact ⟨.inl rfl, by simp⟩
  unfold jobWishes at h
  split at h
  · split at h
    · simp only [List.mem_cons, List.not_mem_nil, or_false] at h
      rcases h with rfl | rfl | rfl | rfl | rfl | rfl
      all_goals first | exact ⟨.inl rfl, by simp⟩ | exact ⟨.inr ⟨job, rfl⟩, by simp⟩
    · cases h
  · cases h

section Scheduled

variable {β : Type} [WellFoundedRelation β] (m : Machine.Scheduler (Session.step o) β)

/-- A session with one submission that is let run stays one, and a call that is over is over. -/
theorem Single.exhaust (within : ∀ s, ∀ a ∈ m.wishes s, a ∈ s.wishes) (hs : s.Single u c q w) :
    (m.exhaust s).Single u c q w ∧ s.link.Rests (m.exhaust s).link := by
  refine m.exhaust_invariant (P := fun t : Session => t.Single u c q w ∧ s.link.Rests t.link) ?_
    ⟨hs, .of_eq rfl⟩
  rintro a t t' ha h ⟨single, rests⟩
  rcases (mem_wishes (within t a ha)).1 with goes | ⟨job, rfl⟩
  · exact ⟨single.step (.inl goes) h, rests.trans (keeps_of_step single.heard goes h).link⟩
  · rw [single.begin_eq_none] at h
    cases h

end Scheduled

theorem mem_of_patient (o : Outside) : ∀ s, ∀ a ∈ (patient o).wishes s, a ∈ s.wishes :=
  fun _ _ ha => (List.mem_filter.1 ha).1

theorem mem_of_awaiting (o : Outside) (handle : Nat) :
    ∀ s, ∀ a ∈ (awaiting o handle).wishes s, a ∈ s.wishes := by
  intro s a ha
  simp only [awaiting] at ha
  split at ha
  · cases ha
  · exact ha

theorem Single.settle (hs : s.Single u c q w) :
    (settle o s).Single u c q w ∧ s.link.Rests (settle o s).link :=
  hs.exhaust _ (mem_of_patient o)

theorem Single.doing (hs : s.Single u c q w) (goes : a.goesOn = true) :
    (s.doing o a).Single u c q w ∧ s.link.Rests (s.doing o a).link := by
  unfold Session.doing
  cases h : Session.step o a s with
  | none => exact hs.settle
  | some t =>
    obtain ⟨single, rests⟩ := (hs.step (.inl goes) h).settle (o := o)
    exact ⟨single, (keeps_of_step hs.heard goes h).link.trans rests⟩

/-- A shutdown adds no submission, no job and no call. -/
theorem Single.shutDown (hs : s.Single u c q w) (mode : ShutdownMode) :
    (s.shutDown o mode).2.Single u c q w ∧ s.link.Rests (s.shutDown o mode).2.link := by
  obtain ⟨single, rests⟩ := hs.doing (o := o) (a := .shutdown mode) rfl
  unfold Session.shutDown awaitShutdown
  split
  · exact ⟨single, rests⟩
  · obtain ⟨single', rests'⟩ :=
      single.doing (o := o) (a := .expire s.support.shutdowns.length) rfl
    exact ⟨single', rests.trans rests'⟩

/-! ### From the submission to the call -/

/-- Where there is no call, no reply is held back. -/
theorem next?_of_idle (idle : s.link.calls = []) :
    (patient o).next? s = s.wishes.findSome? (Session.step o · s) := by
  have timely : ∀ a ∈ s.wishes, isTimely o s a = true := by
    intro a _
    cases a with
    | elapse => simp [isTimely, isHeldBack, idle]
    | _ => rfl
  show (s.wishes.filter (isTimely o s)).findSome? _ = _
  rw [List.filter_eq_self.2 timely]

/-- The first wish of a session is that its submission goes on. -/
theorem next?_of_submission {d : Submission}
    (h : Session.step o (.proceedSubmission 0) s = some t) (idle : s.link.calls = [])
    (one : s.support.submissions = [d]) (active : d.isActive = true) :
    (patient o).next? s = some t := by
  rw [next?_of_idle idle]
  have first : indices [d] Submission.isActive = [0] := by simp [indices, active]
  simp only [wishes, one, first, List.map_cons, List.cons_append, List.findSome?_cons, h]

/-- A job that waits can do nothing but begin. -/
theorem next?_of_waiting {d : Submission} {j : Job} (uncalled : s.link.calls = [])
    (one : s.support.submissions = [d]) (inactive : d.isActive = false) (jobs : s.support.jobs = [j]) (waits : j.stage = .waiting)
    (up : s.support.cancelled = false) (behind : j.unit.backend = .gateway)
    (remote : s.interpreters.gateway = some .remote) {r : Run} (runs : s.runs = [r])
    (idle : r.thread = none ∧ r.call = none) (h : Session.step o (.begin 0) s = some t) :
    (patient o).next? s = some t := by
  rw [next?_of_idle uncalled]
  have none : indices [d] Submission.isActive = [] := by simp [indices, inactive]
  have found : s.support.jobs[0]? = some j := by rw [jobs]; rfl
  have mine : s.jobWishes 0 =
      [.abandon 0, .proceedJob 0, .answer 0, .conclude 0, .act 0, .begin 0] := by
    rw [jobWishes, found]
    exact if_pos (.inl (by rw [Job.isOutstanding, waits]))
  have abandon : Session.step o (.abandon 0) s = Option.none := by
    show s.abandon 0 = _
    simp only [Session.abandon, Support.abandon, found, waits, up]
    rfl
  have proceed : Session.step o (.proceedJob 0) s = Option.none := by
    show (s.support.proceedJob 0).map _ = _
    simp only [Support.proceedJob, found, waits]
    rfl
  have answer : Session.step o (.answer 0) s = Option.none := by
    show s.answer 0 = _
    have uncalled : s.callOf? 0 = Option.none := by
      rw [callOf?, runs]
      exact idle.2
    simp [Session.answer, answer?, found, behind, PerBackend.get, remote, uncalled]
  have conclude : Session.step o (.conclude 0) s = Option.none := by
    show (s.support.conclude 0 0).map _ = _
    simp only [Support.conclude, found, waits]
    rfl
  have act : Session.step o (.act 0) s = Option.none := by
    show s.act 0 = _
    have unthreaded : (s.runs[0]?).bind Run.thread = Option.none := by
      rw [runs]
      exact idle.1
    simp only [Session.act, found, unthreaded]
    rfl
  simp only [wishes, one, none, jobs, List.map_nil, List.nil_append, List.length_singleton,
    List.range_one, List.flatMap_cons, List.flatMap_nil, List.append_nil, mine, List.cons_append,
    List.findSome?_cons, abandon, proceed, answer, conclude, act, h]

/-- The one submission has become a job, which waits for its place; nothing else has happened. -/
structure Waits (gateway : GatewaySettings) (u : ScriptUnit) (c : Context) (w : Widget)
    (s : Session) : Prop where
  heard : s.Heard
  registered : s.Registered
  remote : s.interpreters.gateway = some .remote
  submissions : s.support.submissions = [⟨u, c, .returned (.scheduled 0)⟩]
  jobs : s.support.jobs = [.new u c]
  runs : s.runs = [.new (.new u c)]
  place : 0 < s.support.free
  cancelled : s.support.cancelled = false
  shutdowns : s.support.shutdowns = []
  widgets : s.support.widgets = [w]
  link : s.link = .ofSettings gateway

/-- The first request for a unit with a context. -/
def firstRequest (path : String) (u : ScriptUnit) (c : Context) : InvokeRequest :=
  .ofBindings (.nth 1) (.nth 2) path (Bindings.bind u.inputs c)

theorem setRun_singleton {r : Run} (h : s.runs = [r]) (f : Run → Run) :
    s.setRun 0 f = { s with runs := [f r] } := by
  simp only [setRun, h, List.getElem?_cons_zero, List.set_cons_zero]

/-- A job that has its place. -/
def placed (u : ScriptUnit) (c : Context) : Job := { Job.new u c with stage := .running, runs := 1 }

/-- The one job has its place, and its call has begun. -/
def begun (path : String) (u : ScriptUnit) (c : Context) (s : Session) : Session :=
  let p : Support := { s.support with free := s.support.free - 1, jobs := [placed u c] }
  { (s.withSupport p).withLink (s.link.invoke (firstRequest path u c)) with
    runs := [{ Run.new (.new u c) with call := some 0 }] }

variable {gateway : GatewaySettings} {path : String}

theorem Waits.begin (hs : s.Waits gateway u c w) (file : u.payload = .file path) :
    Session.step o (.begin 0) s = some (s.begun path u c) := by
  have behind : u.backend = .gateway := by rw [ScriptUnit.backend, file]; rfl
  have found : s.support.jobs[0]? = some (.new u c) := by rw [hs.jobs]; rfl
  have inline : s.support.engines.get (Job.new u c).unit.backend ≠ some .worker := by
    show s.support.engines.get u.backend ≠ some .worker
    rw [behind]
    exact hs.registered.engine
  have none : s.link.calls = [] := by rw [hs.link]; rfl
  let p : Support := { s.support with free := s.support.free - 1, jobs := [placed u c] }
  have started : s.support.start 0 = some p := by
    simp only [Support.start, found]
    rw [if_pos ⟨rfl, by simp [hs.cancelled], hs.place⟩, if_neg inline]
    simp only [Support.setJob, hs.jobs, List.set_cons_zero]
    rfl
  have one : ((s.withSupport p).withLink (s.link.invoke (firstRequest path u c))).runs =
      [.new (.new u c)] := by
    simp only [withLink, withSupport, hs.runs]
    rfl
  have kind : s.interpreters.get (Job.new u c).unit.backend = some .remote := by
    show s.interpreters.get u.backend = _
    rw [behind]
    exact hs.remote
  have payload : (Job.new u c).unit.payload = .file path := file
  have asked : s.requestFor path (s.bindings (Job.new u c).unit (Job.new u c).context) =
      firstRequest path u c := by
    simp only [requestFor, none]
    rfl
  show s.begin 0 = _
  simp only [Session.begin, started, found, Option.bind_eq_bind, Option.bind_some, kind, payload]
  rw [asked, setRun_singleton one, none]
  rfl

/-- The job gets its place, and its call begins. -/
theorem Waits.next? (hs : s.Waits gateway u c w) (file : u.payload = .file path) :
    (patient o).next? s = some (s.begun path u c) :=
  next?_of_waiting (by rw [hs.link]; rfl) hs.submissions rfl hs.jobs rfl hs.cancelled
    (by rw [Job.new, ScriptUnit.backend, file]; rfl) hs.remote hs.runs ⟨rfl, rfl⟩ (hs.begin file)

theorem Waits.single_begun (hs : s.Waits gateway u c w) (o : Outside)
    (file : u.payload = .file path) :
    (s.begun path u c).Single u c (firstRequest path u c) w := by
  have begun := hs.begin (o := o) file
  refine ⟨hs.heard.step begun, hs.registered.step begun, ?_, ?_, ?_⟩
  · exact ⟨hs.submissions, placed u c, rfl, rfl, rfl, fun h => by cases h⟩
  · refine ⟨⟨firstRequest path u c, 1, .launching, none⟩, ?_, rfl⟩
    show s.link.calls ++ [_] = _
    rw [hs.link]
    rfl
  · exact ⟨[], hs.widgets, fun _ => ⟨⟨rfl, rfl⟩, rfl, .inl ⟨rfl, rfl⟩⟩⟩

theorem Waits.undisturbed_begun (hs : s.Waits gateway u c w) (path : String) :
    (s.begun path u c).Undisturbed := by
  refine ⟨⟨hs.shutdowns, hs.cancelled, fun j hj => ?_⟩, ?_⟩
  · obtain rfl := List.mem_singleton.1 hj
    exact ⟨by simp [placed], fun _ => rfl⟩
  · exact fun _ _ => ⟨.new u.id u.source, rfl, .inl rfl⟩

/-! ### A new session -/

/-- A new session with an interpreter of each kind and one widget. -/
def fresh (settings : SupportSettings) (gateway : GatewaySettings) (w : Widget)
    (watchers : List Watcher) : Session :=
  { start settings gateway [.embedded, .remote] [w] with watchers }

section Fresh

variable {settings : SupportSettings} {watchers : List Watcher}

theorem heard_fresh : (fresh settings gateway w watchers).Heard := ⟨rfl, by simp [fresh, start]⟩

theorem registered_fresh : (fresh settings gateway w watchers).Registered :=
  IsNew.registered ⟨settings, gateway, _, watchers, rfl⟩

/-- A new session to which a unit was submitted. -/
def submitted (settings : SupportSettings) (gateway : GatewaySettings) (w : Widget)
    (watchers : List Watcher) (u : ScriptUnit) (c : Context) : Session :=
  let s := fresh settings gateway w watchers
  s.withSupport (s.support.submit u c)

/-- A new session with a unit of which a job waits. -/
def waiting (settings : SupportSettings) (gateway : GatewaySettings) (w : Widget)
    (watchers : List Watcher) (u : ScriptUnit) (c : Context) : Session :=
  let s := fresh settings gateway w watchers
  { s.having { s.support.announced u c with jobs := [.new u c] }
      ⟨u, c, .returned (.scheduled 0)⟩ [Support.eventOf .scheduled u c] with
    runs := [.new (.new u c)] }

/-- The submission becomes a job. -/
theorem settle_submitted (behind : u.backend = .gateway)
    (fits : c.values.length = u.inputs.length) :
    Session.settle o (submitted settings gateway w watchers u c) =
      Session.settle o (waiting settings gateway w watchers u c) := by
  unfold submitted
  generalize e : fresh settings gateway w watchers = s
  have heard : s.Heard := e ▸ heard_fresh
  have admitted : s.support.admission u c = .entering := by
    subst e
    have engine : ((fresh settings gateway w watchers).support.engines.get .gateway).isNone =
        false := rfl
    rw [Support.admission, behind, engine]
    simp [fits, fresh, start, Support.ofSettings]
  have free : s.support.isPending u = false := by
    subst e
    rw [Support.isPending, behind]
    rfl
  have up : s.support.tornDown = false := by subst e; rfl
  have none : s.support.submissions = [] := by subst e; rfl
  have idle : s.link.calls = [] := by subst e; rfl
  have one {q : Support} (d : Submission) (told : List Event)
      (same : q.submissions = s.support.submissions) :
      (s.having q d told).support.submissions = [d] := by
    show q.submissions ++ [d] = [d]
    rw [same, none]
    rfl
  have zero : s.support.submissions.length = 0 := by rw [none]; rfl
  have zero' : (s.support.announced u c).submissions.length = 0 := zero
  have entered : Session.step o _ (s.having _ _ []) = _ := step_having heard
    (Support.proceed_entering_free free c) rfl rfl (List.append_nil _).symm
  have announced : Session.step o _ (s.having _ _ []) = _ := step_having heard
    (Support.proceed_announcing { s.support with lanes := s.support.lanesWith u } u c) rfl rfl rfl
  have added := (s.support.announced u c).proceed_spawning u c
  rw [Support.spawn_announced_of_up up] at added
  have spawned : Session.step o _ (s.having _ _ [Support.eventOf .scheduled u c]) = _ :=
    step_having_job heard added rfl rfl rfl
  rw [zero] at entered announced
  rw [zero'] at spawned
  rw [withSupport_submit heard, admitted]
  refine ((patient o).exhaust_of_next (next?_of_submission entered idle (one _ _ rfl) rfl)).trans ?_
  refine ((patient o).exhaust_of_next
    (next?_of_submission announced idle (one _ _ rfl) rfl)).trans ?_
  refine ((patient o).exhaust_of_next (next?_of_submission spawned idle (one _ _ rfl) rfl)).trans ?_
  subst e
  rfl

theorem waits_waiting (place : 0 < settings.poolSize) (gateway : GatewaySettings) (w : Widget)
    (watchers : List Watcher) (u : ScriptUnit) (c : Context) :
    (waiting settings gateway w watchers u c).Waits gateway u c w where
  heard := by
    refine ⟨rfl, fun k r j hr hj h hh => ?_⟩
    obtain rfl := List.mem_singleton.1 (List.mem_of_getElem? hr)
    obtain rfl := List.mem_singleton.1 (List.mem_of_getElem? hj)
    obtain rfl := Option.some.inj hh
    rfl
  registered :=
    have new : (fresh settings gateway w watchers).Registered := registered_fresh
    ⟨new.interpreter, new.engine⟩
  remote := rfl
  submissions := rfl
  jobs := rfl
  runs := rfl
  place := place
  cancelled := rfl
  shutdowns := rfl
  widgets := rfl
  link := rfl

/-- The job gets its place, and its call begins. -/
theorem settle_waiting (place : 0 < settings.poolSize) (gateway : GatewaySettings) (w : Widget)
    (watchers : List Watcher) (file : u.payload = .file path) :
    Session.settle o (waiting settings gateway w watchers u c) =
      Session.settle o ((waiting settings gateway w watchers u c).begun path u c) :=
  (patient o).exhaust_of_next ((waits_waiting place gateway w watchers u c).next? file)

end Fresh

end Session

end PanelScript

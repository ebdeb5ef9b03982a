import PanelScript.Proofs.Link.Lone
import PanelScript.Proofs.Session.Single

/-!
# A result that is awaited comes

A unit was submitted once, and somebody waits for the result of its job. Every call has its time, so
that the session is not let run in vain, whatever the gateway does or leaves undone.

* `Session.Attended` is a session with one submission, whose call has the link for itself;
  `Attended.step` keeps it;
* `Session.Attended.stands`: where nothing can happen the job has ended;
* `Session.Attended.isReady_await`: the result is there when it was awaited;
* `Session.attended_settle`: a session in which a unit was submitted comes to be such a session.
-/

namespace PanelScript

namespace Support

variable {s : Support} {j : Job} {u : ScriptUnit} {c : Context}

/-- The one submission was answered. -/
theorem OneJob.proceedSubmission_eq_none (one : s.OneJob u c) (submission : Nat) :
    s.proceedSubmission submission = none := by
  unfold proceedSubmission
  rw [one.submissions]
  cases submission <;> rfl

/-- A job whose outcome is known is not held up. -/
theorem isSome_proceedJob (only : s.jobs = [j]) (known : j.stage.rank < 5)
    (there : j.isOutstanding = true) : (s.proceedJob 0).isSome := by
  unfold proceedJob
  rw [only]
  unfold Job.isOutstanding at there
  cases e : j.stage with
  | waiting | running =>
    rw [e] at known
    exact absurd known (by decide)
  | ended | lost =>
    rw [e] at there
    cases there
  | _ => simp [e]

end Support

namespace Session

variable {o : Outside} {a : SessionAction} {s t : Session}
  {u : ScriptUnit} {c : Context} {q : InvokeRequest} {w : Widget}

/-- A session with one submission, whose call has the link for itself. -/
structure Attended (u : ScriptUnit) (c : Context) (q : InvokeRequest) (w : Widget) (s : Session) :
    Prop where
  single : s.Single u c q w
  calm : s.Undisturbed
  remote : s.interpreters.gateway = some .remote
  run : ∃ h, s.runs = [⟨h, none, some 0⟩]
  alone : ∃ call, s.link.Lone call

/-! ### Steps -/

/-- What becomes of the run when the support moves. -/
theorem run_withSupport {p : Support} {j : Job} (run : ∃ h, s.runs = [⟨h, none, some 0⟩])
    (only : p.jobs = [j]) : ∃ h, (s.withSupport p).runs = [⟨h, none, some 0⟩] := by
  obtain ⟨h, run⟩ := run
  refine ⟨h.map (·.hear j), ?_⟩
  rw [withSupport, run, only]
  show [Run.hear _ j] = _
  rw [Run.hear_eq]

/-- The job takes a step. -/
theorem Attended.withSupport (h : s.Attended u c q w) {p : Support}
    (single : (s.withSupport p).Single u c q w) (calm : (s.withSupport p).Undisturbed) :
    (s.withSupport p).Attended u c q w := by
  obtain ⟨-, j, only, -⟩ := single.support
  exact ⟨single, calm, h.remote, run_withSupport h.run only, h.alone⟩

/-- The call takes a step. -/
theorem Attended.advance (h : s.Attended u c q w) (adv : Advances s t)
    (single : t.Single u c q w) (calm : t.Undisturbed) : t.Attended u c q w := by
  obtain ⟨call, lone⟩ := h.alone
  obtain ⟨b, l, n, hl, own, timed, link, -⟩ := adv.step
  obtain ⟨call', lone'⟩ := lone.advance hl own timed
  refine ⟨single, calm, by rw [adv.interpreters]; exact h.remote,
    by rw [adv.runs]; exact h.run, call', ?_⟩
  rcases link with link | ⟨process, ends⟩
  · rw [link]
    exact lone'
  · exact lone'.exit ends

/-- What is sent about a request arrives. -/
theorem lone_arrivals {call : LinkCall} (connection : Nat) (arrivals : List Arrival) {l : Link}
    (h : l.Lone call) :
    (arrivals.foldl (fun l a => (l.arrive connection a).getD l) l).Lone call := by
  induction arrivals generalizing l with
  | nil => exact h
  | cons a arrivals ih =>
    rw [List.foldl_cons]
    refine ih ?_
    cases hs : l.arrive connection a with
    | none => exact h
    | some l' => exact h.arrive hs

/-- A request is answered. -/
theorem Attended.serve {request : Nat} (h : s.Attended u c q w)
    (served : serve o s request = some t) (single : t.Single u c q w) (calm : t.Undisturbed) :
    t.Attended u c q w := by
  obtain ⟨call, lone⟩ := h.alone
  unfold Session.serve at served
  simp only [Option.bind_eq_bind, Option.bind_eq_some_iff] at served
  obtain ⟨r, -, served⟩ := served
  split at served
  · cases served
  · obtain rfl := Option.some.inj served
    exact ⟨single, calm, h.remote, h.run, call, lone_arrivals r.connection _ lone⟩

theorem Attended.step (h : s.Attended u c q w) (ha : a ∈ s.wishes)
    (hs : Session.step o a s = some t) : t.Attended u c q w := by
  obtain ⟨goes, stays⟩ := mem_wishes ha
  have single := h.single.step goes hs
  have calm := h.calm.step h.single goes stays hs
  obtain ⟨call, lone⟩ := h.alone
  cases a with
  | proceedCall call => exact h.advance (advances_of_proceedCall hs) single calm
  | elapse call => exact h.advance (advances_of_elapse hs) single calm
  | serve request => exact h.serve hs single calm
  | proceedJob | conclude =>
    obtain ⟨p, -, rfl⟩ := Option.map_eq_some_iff.1 hs
    exact h.withSupport single calm
  | answer job =>
    have hs : s.answer job = some t := hs
    unfold answer at hs
    simp only [Option.bind_eq_bind, Option.bind_eq_some_iff] at hs
    obtain ⟨_, -, p, -, hs⟩ := hs
    obtain rfl := Option.some.inj hs
    exact h.withSupport single calm
  | begin job =>
    rw [h.single.begin_eq_none] at hs
    cases hs
  | act job =>
    obtain ⟨r, run⟩ := h.run
    have idle : (s.runs[job]?).bind Run.thread = none := by
      rw [run]
      cases job <;> rfl
    have hs : s.act job = some t := hs
    unfold act at hs
    simp only [Option.bind_eq_bind, idle, Option.bind_none, Option.bind_eq_some_iff] at hs
    obtain ⟨_, -, hs⟩ := hs
    cases hs
  | abandon job =>
    have hs : s.abandon job = some t := hs
    unfold abandon Support.abandon at hs
    simp only [Option.bind_eq_bind, Option.bind_eq_some_iff, h.calm.support.cancelled] at hs
    obtain ⟨p, hp, -⟩ := hs
    split at hp
    · split at hp <;> simp_all
    · cases hp
  | proceedSubmission submission =>
    obtain ⟨p, stepped, -⟩ := Option.map_eq_some_iff.1 hs
    rw [h.single.support.proceedSubmission_eq_none] at stepped
    cases stepped
  | proceedShutdown shutdown =>
    have hs : s.proceedShutdown shutdown = some t := hs
    simp [Session.proceedShutdown, Support.proceedShutdown, h.calm.support.shutdowns] at hs
  | expire shutdown =>
    obtain ⟨p, stepped, -⟩ := Option.map_eq_some_iff.1 hs
    simp [Support.expire, h.calm.support.shutdowns] at stepped
  | sweep closer =>
    obtain ⟨l, stepped, -⟩ := Option.map_eq_some_iff.1 hs
    simp [Link.sweep, lone.closers] at stepped
  | shutdown mode => exact absurd rfl (stays mode)
  | _ =>
    rcases goes with goes | ⟨_, other⟩
    · cases goes
    · cases other

theorem Attended.exhaust {β : Type} [WellFoundedRelation β]
    (m : Machine.Scheduler (Session.step o) β) (within : ∀ s, ∀ a ∈ m.wishes s, a ∈ s.wishes)
    (h : s.Attended u c q w) : (m.exhaust s).Attended u c q w :=
  m.exhaust_invariant (P := fun s : Session => s.Attended u c q w)
    (fun a s _ ha hs attended => attended.step (within s a ha) hs) h

/-! ### Where nothing can happen -/

theorem indices_singleton {α : Type} {x : α} {p : α → Bool} (h : p x = true) :
    indices [x] p = [0] := by
  simp [indices, h]

/-- A session wishes for every step of a call that is not over, and of a job. -/
theorem wishes_of_call {call : LinkCall} (calls : s.link.calls = [call])
    (active : call.isActive = true) : .proceedCall 0 ∈ s.wishes ∧ .elapse 0 ∈ s.wishes := by
  simp [wishes, calls, indices_singleton active]

theorem wishes_of_job {j : Job} (only : s.support.jobs = [j]) (there : j.isOutstanding = true) :
    ∀ a ∈ [.answer 0, .proceedJob 0], a ∈ s.wishes := by
  intro a ha
  have mine : a ∈ s.jobWishes 0 := by
    simp only [jobWishes, only, List.getElem?_cons_zero, there, true_or, if_true]
    simp only [List.mem_cons, List.not_mem_nil, or_false] at ha
    rcases ha with rfl | rfl <;> simp
  have zero : 0 ∈ List.range s.support.jobs.length := by simp [only]
  simp only [wishes, List.mem_append, List.mem_flatMap]
  exact .inl (.inl (.inl (.inl (.inl (.inr ⟨0, zero, mine⟩)))))

/-- A call by itself that is not over takes a step, or its time goes by. -/
theorem isSome_call {call : LinkCall} (lone : s.link.Lone call) (active : call.isActive = true) :
    (proceedCall o s 0).isSome ∨ (elapse o s 0).isSome := by
  have stage := lone.stage?
  have found : s.link.calls[0]? = some call := by rw [lone.calls]; rfl
  unfold LinkCall.isActive at active
  cases e : call.stage with
  | launching =>
    left
    rw [e] at stage
    cases hp : s.link.launcher with
    | none => simp [proceedCall, stage, hp, Link.proceed]
    | some p =>
      have started := lone.launches e p hp ((o.start 0 call.attempt p.command).map fun _ => ())
      obtain ⟨l, hl⟩ := Option.isSome_iff_exists.1 started
      simp [proceedCall, stage, hp, launch, found, hl]
  | starting =>
    right
    rw [e] at stage
    simp only [elapse, found, e, Link.comeUp, Link.abandon, stage, Option.bind_eq_bind,
      Option.bind_some, Option.map_some]
    split <;> rfl
  | connecting slot =>
    left
    rw [e] at stage
    simp only [proceedCall, stage, connect, found, Link.connect, Option.bind_eq_bind,
      Option.bind_some]
    split <;> rfl
  | sending slot connection =>
    left
    rw [e] at stage
    obtain ⟨request, attempt, stage', retried⟩ := call
    obtain rfl : stage' = .sending slot connection := e
    simp only [proceedCall, stage, Session.write, found, Link.write, Option.bind_eq_bind,
      Option.bind_some]
    cases o.send 0 attempt <;> rfl
  | receiving slot connection =>
    -- It may have something to read; but whatever it has, its time can be over.
    right
    rw [e] at stage
    simp [elapse, found, e, stage, Link.abandon]
  | hangingUp slot connection error =>
    left
    rw [e] at stage
    simp [proceedCall, stage, Link.hangUp]
  | finished v =>
    rw [e] at active
    cases active
  | entering | queued | searching | standing | leased | announcing | parking | failing | letting
  | unlocking | returning | settled =>
    left
    have done := lone.proceeds (by rw [e]; rfl)
    rw [e] at stage
    simp only [proceedCall, stage, Option.isSome_map]
    exact done

/-- A job takes a step as long as it is outstanding, if the call has its verdict. -/
theorem Attended.isSome_job (h : s.Attended u c q w) (behind : u.backend = .gateway)
    {v : Verdict} (verdict : s.link.verdict? 0 = some v) {j : Job} (only : s.support.jobs = [j])
    (there : j.isOutstanding = true) :
    (s.answer 0).isSome ∨ (s.support.proceedJob 0).isSome := by
  obtain ⟨-, j', only', unit, -, placed⟩ := h.single.support
  obtain rfl : j = j' := (List.cons.inj (only.symm.trans only')).1
  by_cases running : j.stage = .running
  · left
    obtain ⟨written, -, traced⟩ := h.single.written
    simp only [Support.Traced, only, List.getElem?_cons_zero] at traced
    have inline := (traced (by rw [unit]; exact behind)).worker
    obtain ⟨handle, run⟩ := h.run
    have kind : s.interpreters.get j.unit.backend = some .remote := by
      rw [unit, behind]
      exact h.remote
    have answer : s.answer? 0 = some (Verdict.answer v) := by
      simp [answer?, only, kind, callOf?, run, verdict]
    simp [Session.answer, answer, Support.reply, only, running, inline, h.calm.support.cancelled]
  · right
    refine Support.isSome_proceedJob only ?_ there
    cases e : j.stage with
    | waiting => exact absurd e placed
    | running => exact absurd e running
    | _ => simp [JobStage.rank]

/-- Where nothing can happen the job has ended. -/
theorem Attended.stands (h : s.Attended u c q w) (behind : u.backend = .gateway)
    (still : ∀ a ∈ s.wishes, Session.step o a s = none) :
    ∃ j, s.support.jobs = [j] ∧ j.stage = .ended := by
  obtain ⟨call, lone⟩ := h.alone
  obtain ⟨-, j, only, -⟩ := h.single.support
  refine ⟨j, only, ?_⟩
  have past : call.isActive = false := by
    cases active : call.isActive with
    | false => rfl
    | true =>
      obtain ⟨proceeds, elapses⟩ := wishes_of_call lone.calls active
      have stuck : proceedCall o s 0 = none := still _ proceeds
      have stuck' : elapse o s 0 = none := still _ elapses
      have moves := isSome_call (o := o) lone active
      simp [stuck, stuck'] at moves
  obtain ⟨v, verdict⟩ := lone.exists_verdict past
  cases there : j.isOutstanding with
  | true =>
    have wished := wishes_of_job only there
    have stuck : s.answer 0 = none := still _ (wished (.answer 0) (by simp))
    have stuck' : (s.support.proceedJob 0).map s.withSupport = none :=
      still _ (wished (.proceedJob 0) (by simp))
    have moves := h.isSome_job behind verdict only there
    simp [stuck, Option.map_eq_none_iff.1 stuck'] at moves
  | false =>
    have stays : j.stage ≠ .lost := (h.calm.support.jobs j (by simp [only])).1
    unfold Job.isOutstanding at there
    cases e : j.stage with
    | ended => rfl
    | lost => exact absurd e stays
    | _ => simp [e] at there

/-- The handle of a job that has ended has its result. -/
theorem Single.isReady_of_ended (hs : s.Single u c q w) (calm : s.Undisturbed)
    (behind : u.backend = .gateway) {j : Job} (only : s.support.jobs = [j])
    (ended : j.stage = .ended) : s.isReady 0 = true := by
  obtain ⟨-, j', only', unit, -⟩ := hs.support
  obtain rfl : j = j' := (List.cons.inj (only.symm.trans only')).1
  obtain ⟨written, -, traced⟩ := hs.written
  simp only [Support.Traced, only, List.getElem?_cons_zero] at traced
  obtain ⟨result, sent⟩ := (traced (by rw [unit]; exact behind)).reported.ended ended
  obtain ⟨handle, handles, known⟩ := calm.handle j only
  obtain ⟨r, runs, same⟩ := List.map_eq_singleton_iff.1 handles
  have heard : handle.hear j = handle :=
    hs.heard.knows 0 r j (by rw [runs]; rfl) (by rw [only]; rfl) handle (by simp [same])
  obtain ⟨x, ready⟩ : ∃ x, handle.delivery = .ready x := by
    rcases known with pending | ⟨x, -, ready⟩
    · rw [Handle.hear, sent] at heard
      simp only [Handle.deliver, pending] at heard
      exact ⟨result, by rw [← heard]⟩
    · exact ⟨x, ready⟩
  simp [isReady, runs, same, ready]

/-- Nobody waits in vain for the result. -/
theorem Attended.isReady_await (h : s.Attended u c q w) (behind : u.backend = .gateway)
    (o : Outside) : (await o s 0).isReady 0 = true := by
  have attended : (await o s 0).Attended u c q w := h.exhaust _ (mem_of_awaiting o 0)
  cases ready : (await o s 0).isReady 0 with
  | true => rfl
  | false =>
    have still : ∀ a ∈ (await o s 0).wishes, Session.step o a (await o s 0) = none := by
      intro a ha
      refine (awaiting o 0).step_exhaust ?_
      show a ∈ if (await o s 0).isReady 0 = true then [] else (await o s 0).wishes
      rwa [ready, if_neg Bool.false_ne_true]
    obtain ⟨j, only, ended⟩ := attended.stands behind still
    have is := attended.single.isReady_of_ended attended.calm behind only ended
    exact ready.symm.trans is

/-- Who looks for a result that is there need not wait. -/
theorem Attended.awaitResult_of_isReady (h : s.Attended u c q w) (ready : s.isReady 0 = true) :
    (s.awaitResult 0).1 ≠ .waiting := by
  obtain ⟨-, j, only, -⟩ := h.single.support
  obtain ⟨handle, handles, -⟩ := h.calm.handle j only
  obtain ⟨r, runs, same⟩ := List.map_eq_singleton_iff.1 handles
  simp only [isReady, runs, List.getElem?_cons_zero, Option.bind_some, same,
    decide_eq_true_eq] at ready
  simp only [awaitResult, look, runs, List.getElem?_cons_zero, Option.bind_some, same,
    Option.getD_some, Handle.await]
  split <;> simp_all

/-! ### From the submission to the result -/

section Fresh

variable {settings : SupportSettings} {gateway : GatewaySettings} {watchers : List Watcher}
  {path : String}

theorem Waits.attended_begun (hs : s.Waits gateway u c w) (o : Outside)
    (file : u.payload = .file path) :
    (s.begun path u c).Attended u c (firstRequest path u c) w := by
  have custody : (s.begun path u c).link.Custody := by
    show (s.link.invoke _).Custody
    rw [hs.link]
    exact (Link.custody_ofSettings gateway).move (.invoke _)
  refine ⟨hs.single_begun o file, hs.undisturbed_begun path, hs.remote, ⟨_, rfl⟩,
    ⟨firstRequest path u c, 1, .launching, none⟩, ?_, ?_, ?_, custody, ?_, rfl⟩
  · show s.link.calls ++ [_] = _
    rw [hs.link]
    rfl
  · show s.link.closers = []
    rw [hs.link]
    rfl
  · show 0 < s.link.size
    rw [hs.link, Link.size, Link.ofSettings, List.length_replicate]
    exact Nat.lt_of_lt_of_le Nat.one_pos (Nat.le_max_right ..)
  · intro _
    show s.link.launching = none
    rw [hs.link]
    rfl

/-- After the submission there stay one job and one call. -/
theorem attended_settle (o : Outside) (place : 0 < settings.poolSize) (gateway : GatewaySettings)
    (w : Widget) (watchers : List Watcher) (file : u.payload = .file path)
    (fits : c.values.length = u.inputs.length) :
    (settle o (submitted settings gateway w watchers u c)).Attended u c (firstRequest path u c)
      w := by
  have behind : u.backend = .gateway := by rw [ScriptUnit.backend, file]; rfl
  rw [settle_submitted behind fits, settle_waiting place gateway w watchers file]
  exact ((waits_waiting place gateway w watchers u c).attended_begun o file).exhaust _
    (mem_of_patient o)

end Fresh

end Session

end PanelScript

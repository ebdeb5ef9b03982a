import Mathlib.Data.List.Induction
import PanelScript.Proofs.Session.Writes
import PanelScript.Proofs.Support.Fence
import PanelScript.Proofs.Support.Report

/-!
# Answers of the gateway are taken over whole

A job whose interpreter is behind the gateway writes when it takes over the verdict of its call, and
at no other time. A response is written whole, and its outcome is what the job reports. A job that
was cancelled, or whose call failed or took too long, has written nothing.

* `Job.Reported` is what a job has returned and sent at each of its stages;
* `Support.Traced` ties what a job has returned to what was written for it, and `traced_of_step`
  keeps it;
* `Session.Called` says which call a job waits for;
* `Session.TakesOver` is the moment at which a job takes over a verdict;
* `answers_whole`: nothing is written for a job, or all that the response to its call says, and the
  result agrees.
-/

namespace PanelScript

/-- What an interpreter answers: the outcome of the run, and the properties that it writes. -/
abbrev Answer := Outcome × List (String × Json)

/-! ### What a job reports -/

/-- What a job has returned and sent at each of its stages. A job that vanished keeps what it had
sent. -/
def Job.Reported (j : Job) : Prop :=
  match j.stage with
  | .waiting | .running => j.returned = [] ∧ j.sent = []
  | .concluding o _ | .releasing o _ | .delivering o _ => j.Yields o ∧ j.sent = []
  | .leaving | .ended => ∃ o elapsed, j.Yields o ∧ j.sent = [j.result o elapsed]
  | .lost => j.sent = [] ∨ ∃ o elapsed, j.Yields o ∧ j.sent = [j.result o elapsed]

namespace Job.Reported

variable {j : Job}

theorem fresh (h : j.Reported) (stage : j.stage = .waiting ∨ j.stage = .running) :
    j.returned = [] ∧ j.sent = [] := by
  unfold Reported at h
  rcases stage with e | e <;> simpa only [e] using h

/-- A job has sent nothing, or the result of its outcome. -/
theorem sent (h : j.Reported) :
    j.sent = [] ∨ ∃ o elapsed, j.Yields o ∧ j.sent = [j.result o elapsed] := by
  unfold Reported at h
  cases e : j.stage with
  | waiting | running | concluding | releasing | delivering =>
    simp only [e] at h
    exact .inl h.2
  | leaving | ended =>
    simp only [e] at h
    exact .inr h
  | lost =>
    simp only [e] at h
    exact h

theorem result (h : j.Reported) {r : ScriptResult} (hr : r ∈ j.sent) :
    ∃ o elapsed, j.Yields o ∧ r = j.result o elapsed := by
  rcases h.sent with none | ⟨o, elapsed, yields, one⟩
  · rw [none] at hr
    cases hr
  · rw [one] at hr
    exact ⟨o, elapsed, yields, List.mem_singleton.1 hr⟩

/-- A job that has come to its end has sent its result. -/
theorem ended (h : j.Reported) (stage : j.stage = .ended) : ∃ r, j.sent = [r] := by
  unfold Reported at h
  simp only [stage] at h
  obtain ⟨o, elapsed, -, hs⟩ := h
  exact ⟨_, hs⟩

end Job.Reported

namespace Support

variable {s s' t : Support} {a : SupportAction} {k : Nat} {j j' : Job}

theorem JobMove.reported (m : JobMove k s j a j' s') (h : j.Reported) : j'.Reported := by
  cases m with
  | start e =>
    simp only [Job.Reported, e] at h
    exact h
  | write | finish => exact h
  | conclude o elapsed e | reply o _ elapsed e =>
    simp only [Job.Reported, e] at h
    obtain ⟨hr, hs⟩ := h
    exact ⟨.inl (by rw [hr, List.nil_append]), hs⟩
  | giveUp _ e | abandon _ e =>
    simp only [Job.Reported, e] at h
    obtain ⟨hr, hs⟩ := h
    exact ⟨.inr ⟨hr, rfl⟩, hs⟩
  | tell e | release e =>
    simp only [Job.Reported, e] at h
    exact h
  | @deliver o elapsed e =>
    simp only [Job.Reported, e] at h
    obtain ⟨hy, hs⟩ := h
    exact ⟨o, elapsed, hy, by rw [hs]; rfl⟩
  | leave e =>
    simp only [Job.Reported, e] at h
    exact h
  | vanish => exact h.sent

/-! ### What is written for a job -/

/-- A job without a thread, with what was written for it: nothing before its interpreter has
returned, and then what one answer says. -/
structure Inline (A : ScriptUnit → Context → Answer → Prop) (k : Nat) (written : List WidgetWrite)
    (j : Job) : Prop where
  reported : j.Reported
  worker : j.worker = .none
  answer : j.returned = [] ∧ written = [] ∨
    ∃ x, A j.unit j.context x ∧ j.returned = [x.1] ∧ written = j.writesOf k x.2

/-- What was written for the job with a number, if its interpreter is behind the gateway, is what
one of the answers `A` says. -/
def Traced (A : ScriptUnit → Context → Answer → Prop) (k : Nat) (written : List WidgetWrite)
    (s : Support) : Prop :=
  match s.jobs[k]? with
  | none => written = []
  | some j => j.unit.backend = .gateway → Inline A k written j

variable {A A' : ScriptUnit → Context → Answer → Prop} {written : List WidgetWrite}

theorem Inline.mono (h : Inline A k written j) (more : ∀ u c x, A u c x → A' u c x) :
    Inline A' k written j where
  reported := h.reported
  worker := h.worker
  answer := h.answer.imp_right fun ⟨x, hx, rest⟩ => ⟨x, more _ _ x hx, rest⟩

theorem Traced.mono (h : s.Traced A k written) (more : ∀ u c x, A u c x → A' u c x)
    (same : t.jobs[k]? = s.jobs[k]?) : t.Traced A' k written := by
  unfold Traced at *
  rw [same]
  split
  · rename_i none
    simpa only [none] using h
  · rename_i j hj
    simp only [hj] at h
    exact fun gateway => (h gateway).mono more

/-- An action writes for the job that it is a step of. -/
theorem filter_writes (a : SupportAction) (s : Support) (k : Nat) :
    (a.writes s).filter (·.job = k) = if a.job? = some k then a.writes s else [] := by
  have of (job : Nat) (updates : List (String × Json)) (w : WidgetWrite)
      (hw : w ∈ ((s.jobs[job]?).map fun j => j.writesOf job updates).getD []) : w.job = job := by
    cases hj : s.jobs[job]? with
    | none => simp [hj] at hw
    | some j =>
      simp only [hj, Option.map_some, Option.getD_some, Job.writesOf, List.mem_map] at hw
      obtain ⟨u, -, rfl⟩ := hw
      rfl
  have owner : ∀ w ∈ a.writes s, a.job? = some w.job := by
    intro w hw
    unfold SupportAction.writes at hw
    split at hw
    · rw [of _ _ w hw]
      rfl
    · rw [of _ _ w hw]
      rfl
    · cases hw
  split
  · rename_i e
    refine List.filter_eq_self.2 fun w hw => decide_eq_true ?_
    exact Option.some.inj ((owner w hw).symm.trans e)
  · rename_i e
    refine List.filter_eq_nil_iff.2 fun w hw hk => e ?_
    rw [owner w hw, of_decide_eq_true hk]

/-- A step of a job without a thread writes what its interpreter answers, or nothing. -/
theorem JobMove.inline (m : JobMove k s j a j' s') (hj : s.jobs[k]? = some j)
    (engine : s.engines.get j.unit.backend ≠ some .worker) (h : Inline A k written j)
    (more : ∀ u c x, A u c x → A' u c x)
    (taken : ∀ o updates elapsed, a = .reply k o updates elapsed →
      A' j.unit j.context (o, updates)) :
    Inline A' k (written ++ a.writes s) j' := by
  have h := h.mono more
  have reported := m.reported h.reported
  have still (hu : j'.unit = j.unit) (hc : j'.context = j.context) (hw : j'.worker = .none)
      (hr : j'.returned = j.returned) (none : a.writes s = []) :
      Inline A' k (written ++ a.writes s) j' := by
    have same (updates : List (String × Json)) : j'.writesOf k updates = j.writesOf k updates := by
      unfold Job.writesOf
      rw [hc]
    refine ⟨reported, hw, ?_⟩
    simp only [none, List.append_nil, hr, hu, hc, same]
    exact h.answer
  have idle : j.isExecuting = false := by
    rw [Job.isExecuting, h.worker]
    rfl
  cases m with
  | start => exact still rfl rfl (if_neg engine) rfl rfl
  | write _ _ e | finish _ e =>
    rw [idle] at e
    cases e
  | conclude _ _ _ e =>
    rw [h.worker] at e
    cases e
  | reply o updates elapsed e =>
    obtain ⟨hr, -⟩ := h.reported.fresh (.inr e)
    -- Nothing was returned before, so nothing was written.
    have none : written = [] := by
      rcases h.answer with ⟨-, none⟩ | ⟨x, -, hx, -⟩
      · exact none
      · rw [hr] at hx
        cases hx
    refine ⟨reported, h.worker, .inr ⟨(o, updates), taken o updates elapsed rfl, ?_, ?_⟩⟩
    · show j.returned ++ [o] = [o]
      rw [hr, List.nil_append]
    · rw [none, List.nil_append, SupportAction.writes, hj]
      rfl
  | giveUp | abandon | tell | release | deliver | leave | vanish =>
    exact still rfl rfl h.worker rfl rfl

theorem Move.traced (m : Move a s t) (engine : s.engines.gateway ≠ some .worker)
    (tr : s.Traced A k written) (more : ∀ u c x, A u c x → A' u c x)
    (taken : ∀ j o updates elapsed, s.jobs[k]? = some j → j.unit.backend = .gateway →
      a = .reply k o updates elapsed → A' j.unit j.context (o, updates)) :
    t.Traced A' k (written ++ (a.writes s).filter (·.job = k)) := by
  rcases m.job_cases k with ⟨other, same⟩ | ⟨other, fresh, u, c, stage, found, waits⟩ |
    ⟨j, j', s', hj, own, rfl⟩
  · rw [filter_writes, if_neg other, List.append_nil]
    exact tr.mono more same
  · have none : written = [] := by
      simpa only [Traced, fresh] using tr
    rw [filter_writes, if_neg other, none]
    simp only [Traced, found]
    intro _
    refine ⟨?_, rfl, .inl ⟨rfl, rfl⟩⟩
    rcases waits with rfl | ⟨rfl, -⟩
    · exact ⟨rfl, rfl⟩
    · exact .inl rfl
  · have all : (a.writes s).filter (·.job = k) = a.writes s := by
      rcases own.owner with act | ⟨rfl, -⟩
      · rw [filter_writes, if_pos act]
      · rfl
    simp only [Traced, hj] at tr
    simp only [Traced, List.getElem?_set_self (List.getElem?_eq_some_iff.1 hj).1, all]
    intro behind
    rw [own.unit_eq.1] at behind
    refine own.inline hj ?_ (tr behind) more fun o updates elapsed ha =>
      taken j o updates elapsed hj behind ha
    rw [behind]
    exact engine

/-- An action of the support keeps what was written for a job in step with what the job has
returned. -/
theorem traced_of_step (h : step a s = some t) (engine : s.engines.gateway ≠ some .worker)
    (tr : s.Traced A k written) (more : ∀ u c x, A u c x → A' u c x)
    (taken : ∀ j o updates elapsed, s.jobs[k]? = some j → j.unit.backend = .gateway →
      a = .reply k o updates elapsed → A' j.unit j.context (o, updates)) :
    t.Traced A' k (written ++ (a.writes s).filter (·.job = k)) := by
  by_cases ha : a = .tearDown
  · subst ha
    have none (u : Support) : (SupportAction.tearDown.writes u).filter (·.job = k) = [] := rfl
    have start := tr.mono (t := s) more rfl
    have keep : ∀ u v, Move .tearDown u v → u.engines.gateway ≠ some .worker ∧
        u.Traced A' k written → v.engines.gateway ≠ some .worker ∧ v.Traced A' k written := by
      intro u v m ⟨engine, tr⟩
      have tr' := m.traced engine tr (fun _ _ _ hx => hx) fun _ _ _ _ _ _ ha => nomatch ha
      rw [none u, List.append_nil] at tr'
      exact ⟨by rw [m.engines_eq]; exact engine, tr'⟩
    rw [none s, List.append_nil]
    exact (kept_of_step keep h ⟨engine, start⟩).2
  · exact (move_of_step h ha).traced engine tr more taken

theorem engines_of_step (h : step a s = some t) : t.engines = s.engines :=
  kept_of_step (P := fun t => t.engines = s.engines) (fun _ _ m same => m.engines_eq.trans same)
    h rfl

/-- Jobs keep their units and contexts. -/
theorem job_of_step (h : step a s = some t) (hj : s.jobs[k]? = some j) :
    ∃ j', t.jobs[k]? = some j' ∧ j'.unit = j.unit ∧ j'.context = j.context := by
  refine kept_of_step (P := fun t => ∃ j', t.jobs[k]? = some j' ∧ j'.unit = j.unit ∧
    j'.context = j.context) (fun u v m ⟨i, hi, same⟩ => ?_) h ⟨j, hj, rfl, rfl⟩
  rcases m.job_cases k with ⟨-, kept⟩ | ⟨-, fresh, -⟩ | ⟨i₀, i', _, hi₀, own, rfl⟩
  · exact ⟨i, kept.trans hi, same⟩
  · exact absurd (fresh.symm.trans hi) (Option.some_ne_none i).symm
  · obtain rfl := Option.some.inj (hi₀.symm.trans hi)
    exact ⟨i', List.getElem?_set_self (List.getElem?_eq_some_iff.1 hi).1,
      own.unit_eq.1.trans same.1, own.unit_eq.2.trans same.2⟩

end Support

namespace Session

variable {o : Outside} {a : SessionAction} {s t u w : Session} {job : Nat}
  {widgets : List Widget} {actions : List SessionAction}

/-- Nothing has happened in a session with the given widgets yet. -/
def IsNew (widgets : List Widget) (s : Session) : Prop :=
  ∃ settings gateway interpreters watchers,
    s = { start settings gateway interpreters widgets with watchers }

/-! ### The calls of jobs -/

/-- The interpreter for units of the gateway, if there is one, is behind the gateway. -/
structure Registered (s : Session) : Prop where
  interpreter : s.interpreters.gateway = none ∨ s.interpreters.gateway = some .remote
  engine : s.support.engines.gateway ≠ some .worker

theorem gateway_register (interpreters : List Interpreter) :
    (Interpreter.register interpreters).gateway = none ∨
      (Interpreter.register interpreters).gateway = some .remote := by
  have keep (p : PerBackend (Option Interpreter))
      (h : p.gateway = none ∨ p.gateway = some .remote) :
      (interpreters.foldl (fun p i => p.set i.backend (some i)) p).gateway = none ∨
        (interpreters.foldl (fun p i => p.set i.backend (some i)) p).gateway = some .remote := by
    induction interpreters generalizing p with
    | nil => exact h
    | cons i interpreters ih =>
      apply ih
      cases i with
      | embedded | crashing => exact h
      | remote => exact .inr rfl
  exact keep _ (.inl rfl)

theorem IsNew.registered (hs : s.IsNew widgets) : s.Registered := by
  obtain ⟨settings, gateway, interpreters, watchers, rfl⟩ := hs
  have h := gateway_register interpreters
  refine ⟨h, ?_⟩
  show (Interpreter.register interpreters).gateway.map Interpreter.engine ≠ some .worker
  rcases h with h | h <;> rw [h] <;> exact nofun

theorem Registered.step (h : step o a s = some t) (hs : s.Registered) : t.Registered := by
  have m := move_of_step h
  refine ⟨by rw [m.interpreters]; exact hs.interpreter, ?_⟩
  rcases m.support with ⟨b, -, hb⟩ | ⟨-, same⟩
  · rw [Support.engines_of_step hb]
    exact hs.engine
  · rw [same]
    exact hs.engine

/-- The call that a job waits for is about the file of its unit, and no other job waits for it. -/
structure Called (s : Session) : Prop where
  file : ∀ job call, s.callOf? job = some call → ∃ j c, s.support.jobs[job]? = some j ∧
    s.link.calls[call]? = some c ∧ j.unit.payload = .file c.request.scriptPath
  own : ∀ job job' call, s.callOf? job = some call → s.callOf? job' = some call → job = job'

theorem IsNew.called (hs : s.IsNew widgets) : s.Called := by
  obtain ⟨settings, gateway, interpreters, watchers, rfl⟩ := hs
  exact ⟨fun _ _ h => (nomatch h), fun _ _ _ h => (nomatch h)⟩

/-- Jobs keep their units and contexts. -/
theorem job_of_step (h : step o a s = some t) {j : Job} (hj : s.support.jobs[job]? = some j) :
    ∃ j', t.support.jobs[job]? = some j' ∧ j'.unit = j.unit ∧ j'.context = j.context := by
  rcases (move_of_step h).support with ⟨b, -, hb⟩ | ⟨-, same⟩
  · exact Support.job_of_step hb hj
  · exact ⟨j, by rw [same]; exact hj, rfl, rfl⟩

theorem Called.step (h : step o a s = some t) (hs : s.Called) : t.Called := by
  have m := move_of_step h
  -- A new call has a number that no job can have been given.
  have fresh {k : Nat} : s.callOf? k ≠ some s.link.calls.length := by
    intro old
    obtain ⟨_, c, -, hc, -⟩ := hs.file k _ old
    exact absurd (List.getElem?_eq_some_iff.1 hc).1 (Nat.lt_irrefl _)
  refine ⟨fun k call hk => ?_, fun k k' call hk hk' => ?_⟩
  · rcases m.calls k call hk with old | ⟨-, rfl, j, path, c, hj, payload, hc, same⟩
    · obtain ⟨j, c, hj, hc, payload⟩ := hs.file k call old
      obtain ⟨j', hj', unit, -⟩ := job_of_step h hj
      obtain ⟨c', hc', request⟩ := m.link call c hc
      exact ⟨j', c', hj', hc', by rw [unit, request]; exact payload⟩
    · obtain ⟨j', hj', unit, -⟩ := job_of_step h hj
      exact ⟨j', c, hj', hc, by rw [unit, same]; exact payload⟩
  · rcases m.calls k call hk with old | ⟨begun, new, -⟩ <;>
      rcases m.calls k' call hk' with old' | ⟨begun', new', -⟩
    · exact hs.own k k' call old old'
    · rw [new'] at old
      exact absurd old fresh
    · rw [new] at old'
      exact absurd old' fresh
    · exact SessionAction.begin.inj (begun.symm.trans begun')

/-! ### Taking over a verdict -/

/-- A job with the given unit and context takes over a verdict: its call, which is about the file of
the unit and is no other job's, has ended with it, and what the verdict says is written to the
widget of the context. -/
structure TakesOver (o : Outside) (job : Nat) (unit : ScriptUnit) (context : Context) (v : Verdict)
    (u w : Session) : Prop where
  step : step o (.answer job) u = some w
  call : ∃ call c, u.callOf? job = some call ∧ u.link.calls[call]? = some c ∧
    c.stage = .finished (some v) ∧ unit.payload = .file c.request.scriptPath ∧
    ∀ k, u.callOf? k = some call → k = job
  widgets : w.support.widgets =
    u.support.widgets.modify context.widget.slot (·.applyUpdates (Verdict.answer v).2)

/-- At some point of a run a job takes over a verdict. -/
def TookOver (o : Outside) (actions : List SessionAction) (s : Session) (job : Nat)
    (unit : ScriptUnit) (context : Context) (v : Verdict) : Prop :=
  ∃ before after u w, actions = before ++ .answer job :: after ∧
    Machine.run (Session.step o) before s = some u ∧ TakesOver o job unit context v u w

/-- An interpreter that runs within the job returns only when the job takes over its answer. -/
theorem answer_of_reply {outcome : Outcome} {updates : List (String × Json)} {elapsed : Nat}
    (h : s.supportAction? a = some (.reply job outcome updates elapsed)) :
    a = .answer job ∧ s.answer? job = some (outcome, updates) := by
  cases a with
  | answer k =>
    obtain ⟨⟨outcome', updates'⟩, found, same⟩ := Option.map_eq_some_iff.1 h
    cases same
    exact ⟨rfl, found⟩
  | handIn index =>
    obtain ⟨_, -, same⟩ := Option.map_eq_some_iff.1 h
    cases same
  | act k =>
    unfold supportAction? at h
    simp only [Option.bind_eq_bind, Option.bind_eq_some_iff] at h
    obtain ⟨j, -, thread, -, h⟩ := h
    split at h
    · cases h
    · split at h <;> cases h
  | proceedShutdown k =>
    simp only [supportAction?] at h
    split at h <;> cases h
  | _ => cases h

/-- What a job behind the gateway is answered is the verdict of its call. -/
theorem verdict_of_answer (hs : s.Registered) {j : Job} (hj : s.support.jobs[job]? = some j)
    (behind : j.unit.backend = .gateway) {x : Answer} (h : s.answer? job = some x) :
    ∃ call c v, s.callOf? job = some call ∧ s.link.calls[call]? = some c ∧
      c.stage = .finished (some v) ∧ Verdict.answer v = x := by
  unfold answer? at h
  simp only [Option.bind_eq_bind, hj, Option.bind_some, behind] at h
  have remote : s.interpreters.gateway = some .remote := by
    rcases hs.interpreter with none | remote
    · simp only [PerBackend.get, none] at h
      cases h
    · exact remote
  simp only [PerBackend.get, remote, Option.bind_eq_some_iff] at h
  obtain ⟨call, hcall, v, hv, same⟩ := h
  obtain rfl := Option.some.inj same
  unfold Link.verdict? at hv
  split at hv
  · rename_i request attempt _ retried hc
    exact ⟨call, ⟨request, attempt, .finished _, retried⟩, v, hcall, hc, by rw [hv], rfl⟩
  · cases hv

/-- The run has gone one action further. -/
theorem TookOver.concat {unit : ScriptUnit} {context : Context} {v : Verdict}
    (h : TookOver o actions s job unit context v) (a : SessionAction) :
    TookOver o (actions ++ [a]) s job unit context v := by
  obtain ⟨before, after, u, w, rfl, rest⟩ := h
  exact ⟨before, after ++ [a], u, w, by rw [List.append_assoc, List.cons_append], rest⟩

/-- What a run writes for a job. -/
def written (o : Outside) (actions : List SessionAction) (s : Session) (job : Nat) :
    List WidgetWrite :=
  (history o actions s).filter (·.job = job)

/-- The unit of a file, without inputs. -/
def sampleFile : ScriptUnit := .ofFile 7 "clock.py" []

/-- A script that failed half-way and says no more, after it has written one property twice and one
that the widget does not have. -/
def sampleResponse : InvokeResponse where
  version := protocolVersion
  callId := .nth 1
  status := .error
  value := none
  error := none
  updates := [⟨"text", .str "on"⟩, ⟨"colour", .str "red"⟩, ⟨"text", .str "off"⟩]

/-- Every connection opens; what the gateway sends arrives by itself. -/
def sampleOutside : Outside where
  start _ _ _ := .error "not installed"
  connect _ _ _ := .ok ()
  send _ _ := .ok ()
  reply _ _ := ⟨none, []⟩

/-- The unit is submitted, its call is answered, and its job takes the answer over and ends. -/
def sampleActions : List SessionAction :=
  [.submit sampleFile Support.sampleContext] ++ List.replicate 3 (.proceedSubmission 0) ++
    [.begin 0] ++ List.replicate 8 (.proceedCall 0) ++
    [.happen (.arrive 0 (.text (WireMessage.result sampleResponse).text))] ++
    List.replicate 5 (.proceedCall 0) ++ [.answer 0] ++ List.replicate 4 (.proceedJob 0)

end Session

end PanelScript

import PanelScript.Proofs.Session.Move
import PanelScript.Proofs.Support.Admission
import PanelScript.Session.Settle

/-!
# Handles know what has become of their jobs

Those who hold handles look at them, wait for them and drop them, between the actions of a session.
Whatever they do, each handle has heard what its job has sent, or that it vanished.

* `Session.Comes` says which sessions there are, with handles in use;
* `Session.Heard` says that every handle has heard of its job, and `Session.Comes.heard` that this
  holds always;
* `Session.withSupport_of_jobs_eq` and `Session.withSupport_of_new_job`: a support that moves
  without its jobs, or that adds one, leaves the other runs as they are.
-/

namespace PanelScript

/-! ### One handle -/

/-- What a handle learns of its job. -/
def Handle.hear (h : Handle) (j : Job) : Handle :=
  match j.sent, j.stage with
  | result :: _, _ => h.deliver result
  | [], .lost => h.abandon
  | _, _ => h

/-- A handle that has learned something learns no more. -/
theorem Handle.hear_of_settled {h : Handle} (settled : h.delivery ≠ .pending) (j : Job) :
    h.hear j = h := by
  unfold hear deliver abandon
  cases e : h.delivery with
  | pending => exact absurd e settled
  | ready | lost | spent => split <;> rfl

theorem Handle.hear_hear (h : Handle) (j : Job) : (h.hear j).hear j = h.hear j := by
  by_cases settled : h.delivery = .pending
  · unfold hear deliver abandon
    split <;> simp [settled]
  · rw [hear_of_settled settled, hear_of_settled settled]

namespace Run

variable {r r' : Run} {j : Job}

/-- To hear changes nothing but the handle. -/
theorem hear_eq (r : Run) (j : Job) : r.hear j = { r with handle := r.handle.map (·.hear j) } := by
  unfold hear Handle.hear
  cases j.sent with
  | cons => rfl
  | nil => cases j.stage <;> simp

/-- The handle of a run has heard what has become of the job. -/
def Knows (r : Run) (j : Job) : Prop := ∀ h ∈ r.handle, h.hear j = h

theorem Knows.hear (k : r.Knows j) : r.hear j = r := by
  obtain ⟨handle, thread, call⟩ := r
  rw [hear_eq]
  cases handle with
  | none => rfl
  | some h =>
    have same : h.hear j = h := k h rfl
    simp [same]

theorem knows_hear (r : Run) (j : Job) : (r.hear j).Knows j := by
  intro h hh
  rw [hear_eq] at hh
  obtain ⟨before, -, rfl⟩ := Option.map_eq_some_iff.1 hh
  exact before.hear_hear j

end Run

/-! ### Handles in use -/

/-- What the holder of a handle does. -/
inductive HandleUse where
  | glance | await | drop
  deriving DecidableEq

/-- The handle as its holder leaves it. -/
def HandleUse.left (x : HandleUse) (h : Handle) : Option Handle :=
  match x with
  | .glance => some h.tryResult.2
  | .await => some h.await.2
  | .drop => none

/-- A handle is left as it was, or it is used up, or it is dropped. -/
theorem HandleUse.left_cases (x : HandleUse) (h : Handle) {h' : Handle} (e : h' ∈ x.left h) :
    h' = h ∨ h'.delivery = .spent := by
  cases x with
  | glance =>
    obtain rfl := Option.some.inj e
    unfold Handle.tryResult
    split
    · exact .inl rfl
    · exact .inr rfl
    · exact .inr rfl
    · exact .inr rfl
  | await =>
    obtain rfl := Option.some.inj e
    unfold Handle.await
    split
    · exact .inl rfl
    · exact .inr rfl
    · exact .inr rfl
    · exact .inl rfl
  | drop => cases e

theorem Run.Knows.use {r : Run} {j : Job} (k : r.Knows j) (x : HandleUse) :
    ({ r with handle := r.handle.bind x.left } : Run).Knows j := by
  intro h' hh'
  obtain ⟨h, hh, e⟩ := Option.bind_eq_some_iff.1 hh'
  rcases x.left_cases h e with rfl | spent
  · exact k h' hh
  · exact Handle.hear_of_settled (by rw [spent]; exact nofun) j

/-- No job is forgotten. -/
theorem Support.length_jobs_le_of_step {a : SupportAction} {s t : Support}
    (h : step a s = some t) : s.jobs.length ≤ t.jobs.length := by
  refine kept_of_step (P := fun t => s.jobs.length ≤ t.jobs.length) (fun u v m le => ?_) h
    (Nat.le_refl _)
  refine Nat.le_trans le ?_
  cases m with
  | submit | beginShutdown | tearDown => exact Nat.le_refl _
  | submission _ m =>
    rcases m.jobs_eq with ⟨stage, jobs, -⟩ | ⟨jobs, -⟩ <;> simp [jobs]
  | job => simp
  | shutdown _ m => exact Nat.le_of_eq (congrArg _ m.unchanged.2.1.symm)

namespace Session

variable {o : Outside} {s t : Session} {p : Support}

/-- The holder of a handle uses it. -/
def use (s : Session) (job : Nat) (x : HandleUse) : Session :=
  match x with
  | .glance => (s.tryResult job).2
  | .await => (s.awaitResult job).2
  | .drop => s.dropHandle job

/-- The sessions that there are: actions and the use of handles follow each other in any order. -/
inductive Comes (o : Outside) : Session → Prop
  | start (settings : SupportSettings) (gateway : GatewaySettings)
      (interpreters : List Interpreter) (widgets : List Widget) (watchers : List Watcher) :
      Comes o { start settings gateway interpreters widgets with watchers }
  | act {a : SessionAction} {s t : Session} (h : Comes o s) (ha : step o a s = some t) : Comes o t
  | use {s : Session} (h : Comes o s) (job : Nat) (x : HandleUse) : Comes o (s.use job x)

/-- Every job has a run, and its handle has heard of it. -/
structure Heard (s : Session) : Prop where
  length : s.runs.length = s.support.jobs.length
  knows : ∀ (k : Nat) (r : Run) (j : Job), s.runs[k]? = some r → s.support.jobs[k]? = some j →
    r.Knows j

theorem Heard.of_eq (h : s.Heard) (runs : t.runs = s.runs)
    (jobs : t.support.jobs = s.support.jobs) : t.Heard := by
  obtain ⟨length, knows⟩ := h
  exact ⟨by rw [runs, jobs, length], by rwa [runs, jobs]⟩

theorem heard_withSupport (le : s.runs.length ≤ p.jobs.length) : (s.withSupport p).Heard := by
  refine ⟨?_, fun k r j hr hj => ?_⟩
  · simp only [withSupport, List.length_zipWith, List.length_append, List.length_map,
      List.length_drop]
    omega
  · obtain ⟨r₀, j₀, -, hj₀, rfl⟩ := List.getElem?_zipWith_eq_some.1 hr
    obtain rfl := Option.some.inj (hj₀.symm.trans hj)
    exact r₀.knows_hear j₀

theorem Heard.setRun (h : s.Heard) (job : Nat) {f : Run → Run}
    (keeps : ∀ r j, r.Knows j → (f r).Knows j) : (s.setRun job f).Heard := by
  unfold Session.setRun
  split
  · rename_i r hr
    refine ⟨List.length_set.trans h.length, fun k r' j hr' hj => ?_⟩
    rcases getElem?_set_eq_some hr' with ⟨rfl, rfl⟩ | ⟨-, old⟩
    · exact keeps r j (h.knows k r j hr hj)
    · exact h.knows k r' j old hj
  · exact h

/-- Runs that have heard of their jobs hear nothing new. -/
theorem Heard.zipWith_hear (h : s.Heard) :
    List.zipWith Run.hear s.runs s.support.jobs = s.runs := by
  refine List.ext_getElem (by simp [h.length]) fun k lt lt' => ?_
  have here : k < s.support.jobs.length := h.length ▸ lt'
  rw [List.getElem_zipWith]
  exact (h.knows k _ _ (List.getElem?_eq_getElem lt') (List.getElem?_eq_getElem here)).hear

/-- A support whose jobs stay as they are leaves the runs as they are. -/
theorem withSupport_of_jobs_eq (h : s.Heard) (jobs : p.jobs = s.support.jobs) :
    s.withSupport p =
      { s with support := p, log := s.log ++ p.events.drop s.support.events.length } := by
  have none : (p.jobs.drop s.runs.length).map Run.new = [] := by
    rw [jobs, h.length, List.drop_length, List.map_nil]
  rw [withSupport, none, List.append_nil, jobs, h.zipWith_hear]

/-- A job that is added gets a run, and the others stay as they are. -/
theorem withSupport_of_new_job (h : s.Heard) {j : Job} (jobs : p.jobs = s.support.jobs ++ [j]) :
    s.withSupport p =
      { s with
        support := p
        runs := s.runs ++ [(Run.new j).hear j]
        log := s.log ++ p.events.drop s.support.events.length } := by
  have one : (p.jobs.drop s.runs.length).map Run.new = [Run.new j] := by
    rw [jobs, h.length, List.drop_left, List.map_singleton]
  rw [withSupport, one, jobs, List.zipWith_append h.length, h.zipWith_hear]
  rfl

/-! ### Handles have always heard -/

theorem Heard.of_support (h : s.Heard) {b : SupportAction}
    (hp : Support.step b s.support = some p) : (s.withSupport p).Heard :=
  heard_withSupport (Nat.le_trans (Nat.le_of_eq h.length) (Support.length_jobs_le_of_step hp))

theorem Heard.of_support_map (h : s.Heard) {b : SupportAction}
    (ht : (Support.step b s.support).map s.withSupport = some t) : t.Heard := by
  obtain ⟨p, hp, rfl⟩ := Option.map_eq_some_iff.1 ht
  exact h.of_support hp

theorem Heard.of_link_map (h : s.Heard) {l : Option Link} (ht : l.map s.withLink = some t) :
    t.Heard := by
  obtain ⟨l, -, rfl⟩ := Option.map_eq_some_iff.1 ht
  exact h.of_eq rfl rfl

theorem Heard.begin {job : Nat} (h : s.Heard) (ht : s.begin job = some t) : t.Heard := by
  unfold Session.begin at ht
  simp only [Option.bind_eq_bind, Option.bind_eq_some_iff] at ht
  obtain ⟨p, hp, j, hj, ht⟩ := ht
  have heard : (s.withSupport p).Heard := h.of_support (b := .start job) hp
  split at ht <;> obtain rfl := Option.some.inj ht
  · exact heard.setRun job fun r j k => k
  · rename_i path _ _
    have linked : ((s.withSupport p).withLink (s.link.invoke
        (s.requestFor path (s.bindings j.unit j.context)))).Heard := heard.of_eq rfl rfl
    refine linked.setRun job ?_
    exact fun r j k => k
  · exact heard

theorem Heard.act {job : Nat} (h : s.Heard) (ht : s.act job = some t) : t.Heard := by
  unfold Session.act at ht
  simp only [Option.bind_eq_bind, Option.bind_eq_some_iff] at ht
  obtain ⟨j, -, thread, -, ht⟩ := ht
  have goOn {u : Session} (hu : u.Heard) (thread : Option Thread) :
      (u.setRun job fun r => { r with thread }).Heard := hu.setRun job fun r j k => k
  split at ht
  · obtain ⟨p, hp, rfl⟩ := Option.map_eq_some_iff.1 ht
    exact goOn (h.of_support (b := .finish job _) hp) _
  · split at ht
    · obtain rfl := Option.some.inj ht
      exact goOn h _
    · obtain ⟨p, hp, rfl⟩ := Option.map_eq_some_iff.1 ht
      exact goOn (h.of_support (b := .write job _ _) hp) _
    · cases ht
    · obtain ⟨p, hp, rfl⟩ := Option.map_eq_some_iff.1 ht
      exact goOn (h.of_support (b := .finish job _) hp) _

theorem Heard.abandon {job : Nat} (h : s.Heard) (ht : s.abandon job = some t) : t.Heard := by
  unfold Session.abandon at ht
  simp only [Option.bind_eq_bind, Option.bind_eq_some_iff] at ht
  obtain ⟨p, hp, ht⟩ := ht
  have heard : (s.withSupport p).Heard := h.of_support (b := .abandon job 0) hp
  split at ht
  · obtain rfl := Option.some.inj ht
    exact heard
  · split at ht
    · obtain rfl := Option.some.inj ht
      exact heard
    · exact heard.of_link_map ht

theorem Heard.proceedShutdown {shutdown : Nat} (h : s.Heard)
    (ht : s.proceedShutdown shutdown = some t) : t.Heard := by
  unfold Session.proceedShutdown at ht
  split at ht
  · split at ht
    · obtain rfl := Option.some.inj ht
      exact h.of_eq rfl rfl
    · split at ht
      · exact h.of_support_map (b := .proceedShutdown shutdown) ht
      · cases ht
  · exact h.of_support_map (b := .proceedShutdown shutdown) ht

theorem Heard.advance (h : s.Heard) (adv : Advances s t) : t.Heard :=
  h.of_eq adv.runs (congrArg Support.jobs adv.support)

theorem Heard.watch {watcher : Nat} {f : Watcher → Option Context × Watcher} (h : s.Heard)
    (ht : s.watch watcher f = some t) : t.Heard := by
  unfold Session.watch at ht
  simp only [Option.bind_eq_bind, Option.bind_eq_some_iff] at ht
  obtain ⟨w, -, ht⟩ := ht
  obtain rfl := Option.some.inj ht
  exact h.of_eq rfl rfl

/-- An action keeps the handles informed. -/
theorem Heard.step {a : SessionAction} (h : s.Heard) (ht : step o a s = some t) : t.Heard := by
  cases a with
  | submit u c =>
    obtain rfl := Option.some.inj ht
    exact h.of_support (b := .submit u c) rfl
  | change watcher index value now =>
    have ht : s.watch watcher (fun w => w.change index value now) = some t := ht
    exact h.watch ht
  | request watcher now =>
    have ht : s.watch watcher (fun w => (some (w.request now), w)) = some t := ht
    exact h.watch ht
  | handIn index =>
    have ht : s.handIn index = some t := ht
    unfold handIn at ht
    simp only [Option.bind_eq_bind, Option.bind_eq_some_iff] at ht
    obtain ⟨⟨u, c⟩, -, ht⟩ := ht
    obtain rfl := Option.some.inj ht
    have heard : (s.withSupport (s.support.submit u c)).Heard := h.of_support (b := .submit u c) rfl
    exact heard.of_eq rfl rfl
  | proceedSubmission n => exact h.of_support_map (b := .proceedSubmission n) ht
  | begin job => exact h.begin ht
  | act job => exact h.act ht
  | conclude job => exact h.of_support_map (b := .conclude job 0) ht
  | answer job =>
    have ht : s.answer job = some t := ht
    unfold answer at ht
    simp only [Option.bind_eq_bind, Option.bind_eq_some_iff] at ht
    obtain ⟨⟨outcome, updates⟩, -, p, hp, ht⟩ := ht
    obtain rfl := Option.some.inj ht
    exact h.of_support (b := .reply job outcome updates 0) hp
  | abandon job => exact h.abandon ht
  | proceedJob job => exact h.of_support_map (b := .proceedJob job) ht
  | shutdown mode =>
    obtain rfl := Option.some.inj ht
    exact h.of_support (b := .shutdown mode) rfl
  | proceedShutdown shutdown => exact h.proceedShutdown ht
  | expire shutdown => exact h.of_support_map (b := .expire shutdown) ht
  | tearDown =>
    obtain rfl := Option.some.inj ht
    exact h.of_support (b := .tearDown) rfl
  | openGate | closeGate | invoke | closeLink =>
    obtain rfl := Option.some.inj ht
    exact h.of_eq rfl rfl
  | proceedCall call => exact h.advance (advances_of_proceedCall ht)
  | elapse call => exact h.advance (advances_of_elapse ht)
  | serve request =>
    have ht : serve o s request = some t := ht
    unfold serve at ht
    simp only [Option.bind_eq_bind, Option.bind_eq_some_iff] at ht
    obtain ⟨r, -, ht⟩ := ht
    split at ht <;> cases ht
    exact h.of_eq rfl rfl
  | sweep closer => exact h.of_link_map ht
  | happen b =>
    rw [Session.step] at ht
    split at ht
    · exact h.of_link_map ht
    · cases ht

theorem look_eq {α : Type} (s : Session) (job : Nat) (f : Handle → α × Handle) :
    (s.look job f).2 = s ∨ (s.look job f).2 =
      s.setRun job fun r => { r with handle := r.handle.bind fun h => some (f h).2 } := by
  unfold look
  cases hr : s.runs[job]? with
  | none => exact .inl rfl
  | some r =>
    cases hh : r.handle with
    | none =>
      simp only [Option.bind_some, hh]
      exact .inl trivial
    | some h =>
      simp only [Option.bind_some, hh, setRun, hr]
      exact .inr trivial

/-- The use of a handle changes the handle of its run, if there is one. -/
theorem use_eq (s : Session) (job : Nat) (x : HandleUse) :
    s.use job x = s ∨
      s.use job x = s.setRun job fun r => { r with handle := r.handle.bind x.left } := by
  cases x with
  | glance => exact s.look_eq job Handle.tryResult
  | await => exact s.look_eq job Handle.await
  | drop =>
    refine .inr ?_
    have none (r : Run) : r.handle.bind HandleUse.drop.left = none := by cases r.handle <;> rfl
    simp only [none]
    rfl

/-- **Every handle has heard what has become of its job**, whatever its holder does. -/
theorem Comes.heard (h : Comes o s) : s.Heard := by
  induction h with
  | start => exact ⟨rfl, by simp [Session.start]⟩
  | act _ ha heard => exact heard.step ha
  | @use s _ job x heard =>
    rcases s.use_eq job x with same | changed
    · rwa [same]
    · rw [changed]
      exact heard.setRun job fun r j k => k.use x

end Session

end PanelScript

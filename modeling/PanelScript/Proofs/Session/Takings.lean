import Mathlib.Data.List.Forall2
import PanelScript.Proofs.Session.Answer

/-!
# What watchers take

A watcher takes the values for a run in one step, and they are submitted in a later one. In between
other values can be recorded, taken, submitted and run.

* `recorded` is the last value that was recorded for an input, and where in the run that was;
* `latest_of_step`: the latest values of a watcher are those recorded last, after every action;
* `Ledger` keeps, beside a session, where in the run everything was taken that is submitted;
* `Snapshot`: what was taken are the values that were the latest ones then; `Waiting` says this of
  all that waits to be submitted, and `Submitted` of all that was submitted;
* `older_was_taken_before`: a job that was admitted later is given an older value exactly if its
  values were taken first, and the input was recorded in between;
* `older_is_given`: this happens.
-/

namespace PanelScript

/-- The value that an action records for an input of a watcher. -/
def SessionAction.recorded? (watcher index : Nat) : SessionAction → Option LiveValue
  | .change w i value _ => if w = watcher ∧ i = index then some value else none
  | _ => none

/-- The watcher that an action asks to take values. -/
def SessionAction.asked? : SessionAction → Option Nat
  | .change watcher _ _ _ | .request watcher _ => some watcher
  | _ => none

/-- Values taken for a run: by which watcher, and at which place in the run of the session. -/
structure Taking where
  watcher : Nat
  place : Nat
  deriving DecidableEq

/-- Where in the run of a session everything was taken that waits to be submitted, in the order of
the session, and that was submitted; a submission need not come from a watcher. -/
structure Ledger where
  waiting : List Taking
  handed : List (Option Taking)

namespace Ledger

/-- A watcher that was asked has taken values, or has not. -/
def take (l : Ledger) (p : Taking) (taken : Option Context) : Ledger :=
  { l with waiting := l.waiting ++ (taken.map fun _ => p).toList }

/-- The action at a place of the run goes into the ledger. -/
def next (l : Ledger) (place : Nat) (a : SessionAction) (s : Session) : Ledger :=
  match a with
  | .change w i value now =>
    l.take ⟨w, place⟩ ((s.watchers[w]?).bind fun x => (x.change i value now).1)
  | .request w now => l.take ⟨w, place⟩ ((s.watchers[w]?).map fun x => x.request now)
  | .handIn i => ⟨l.waiting.eraseIdx i, l.handed ++ [l.waiting[i]?]⟩
  | .submit _ _ => { l with handed := l.handed ++ [none] }
  | _ => l

end Ledger

/-- Whether a submission was let in. -/
def Submission.isAdmitted (d : Submission) : Bool :=
  match d.stage with
  | .announcing | .spawning | .returned (.scheduled _) => true
  | _ => false

/-! ### Submissions -/

namespace Support

variable {s t : Support} {b : SupportAction} {n : Nat} {d d' : Submission}

/-- A submission is let in when it asks for admission. -/
theorem SubmissionMove.isAdmitted (m : SubmissionMove s d d' t) (h : d'.isAdmitted = true) :
    d.isAdmitted = true ∨ d.stage = .entering ∧ d'.stage = .announcing := by
  cases m with
  | enter e => exact .inr ⟨e, rfl⟩
  | announce e | spawn e | lose e => exact .inl (by simp [Submission.isAdmitted, e])
  | reject | refuse | skip => cases h

theorem not_isAdmitted_submit (s : Support) (u : ScriptUnit) (c : Context) :
    (Submission.mk u c (s.admission u c)).isAdmitted = false := by
  rcases s.admission_cases u c with e | e | ⟨_, e⟩ <;> simp [Submission.isAdmitted, e]

/-- No submission is new, and one is let in only when it asks for admission. -/
def Carries (s t : Support) : Prop :=
  t.submissions.length = s.submissions.length ∧
    ∀ (n : Nat) (d' : Submission), t.submissions[n]? = some d' →
      ∃ d, s.submissions[n]? = some d ∧ d'.unit = d.unit ∧ d'.context = d.context ∧
        (d'.isAdmitted = true → d.isAdmitted = true ∨
          d.stage = .entering ∧ d'.stage = .announcing)

theorem Carries.of_eq (h : t.submissions = s.submissions) : s.Carries t := by
  rw [Carries, h]
  exact ⟨rfl, fun _ d' hd => ⟨d', hd, rfl, rfl, .inl⟩⟩

/-- What an action that submits nothing makes of submissions. -/
theorem carries_of_step (h : step b s = some t) (hb : ∀ u c, b ≠ .submit u c) : s.Carries t := by
  by_cases down : b = .tearDown
  · subst down
    obtain rfl := Option.some.inj h
    exact .of_eq s.submissions_tearDown
  · cases move_of_step h down with
    | submit u c => exact absurd rfl (hb u c)
    | @submission _ _ i c c' hi m =>
      refine ⟨List.length_set, fun n d' hd => ?_⟩
      rcases getElem?_set_eq_some hd with ⟨rfl, rfl⟩ | ⟨-, old⟩
      · exact ⟨c, hi, m.unit_eq.1, m.unit_eq.2, m.isAdmitted⟩
      · exact ⟨d', old, rfl, rfl, .inl⟩
    | job _ m => exact .of_eq m.submissions_eq
    | shutdown _ m => exact .of_eq m.unchanged.1
    | beginShutdown | tearDown => exact .of_eq rfl

end Support

/-! ### What was recorded -/

section Recorded

variable {actions : List SessionAction} {w i : Nat}

/-- The last value that was recorded for an input by the first actions of a run, with its place. -/
def recorded (w i : Nat) (actions : List SessionAction) : Nat → Option (Nat × LiveValue)
  | 0 => none
  | n + 1 =>
    match (actions[n]?).bind (·.recorded? w i) with
    | some value => some (n, value)
    | none => recorded w i actions n

theorem recorded_eq_some {n r : Nat} {v : LiveValue} (h : recorded w i actions n = some (r, v)) :
    r < n ∧ (actions[r]?).bind (·.recorded? w i) = some v := by
  induction n with
  | zero => cases h
  | succ n ih =>
    rw [recorded] at h
    split at h
    · rename_i value found
      obtain ⟨rfl, rfl⟩ := Prod.mk.inj (Option.some.inj h)
      exact ⟨Nat.lt_succ_self _, found⟩
    · exact ⟨Nat.lt_succ_of_lt (ih h).1, (ih h).2⟩

/-- What was recorded by then is not later than what is recorded last. -/
theorem le_recorded {n r : Nat} {v : LiveValue} (lt : r < n)
    (h : (actions[r]?).bind (·.recorded? w i) = some v) :
    ∃ r' v', recorded w i actions n = some (r', v') ∧ r ≤ r' := by
  induction n with
  | zero => exact absurd lt (Nat.not_lt_zero r)
  | succ n ih =>
    rw [recorded]
    split
    · exact ⟨n, _, rfl, Nat.le_of_lt_succ lt⟩
    · rename_i none
      refine ih (Nat.lt_of_le_of_ne (Nat.le_of_lt_succ lt) ?_)
      rintro rfl
      rw [h] at none
      cases none

/-- What comes later does not change what was recorded by then. -/
theorem recorded_append {n : Nat} (le : n ≤ actions.length) (rest : List SessionAction) :
    recorded w i (actions ++ rest) n = recorded w i actions n := by
  induction n with
  | zero => rfl
  | succ n ih => rw [recorded, recorded, List.getElem?_append_left le, ih (Nat.le_of_succ_le le)]

theorem recorded_concat (a : SessionAction) :
    recorded w i (actions ++ [a]) (actions ++ [a]).length =
      match a.recorded? w i with
      | some value => some (actions.length, value)
      | none => recorded w i actions actions.length := by
  rw [List.length_append, List.length_singleton, recorded, List.getElem?_concat_length,
    Option.bind_some, recorded_append (Nat.le_refl _)]

/-- The value that is recorded last for an input in a run, if any is. -/
def lastRecorded (w i : Nat) (actions : List SessionAction) : Option LiveValue :=
  (recorded w i actions actions.length).map Prod.snd

/-- The value that an input is given: the one recorded last, or else a placeholder with the name of
the input. -/
def Given (actions : List SessionAction) (p : Taking) (i : Nat) (name : String) (v : LiveValue) :
    Prop :=
  match recorded p.watcher i actions (p.place + 1) with
  | some (_, latest) => v = latest
  | none => ∃ now, v = .disconnected name now

/-- For an input, what was taken at one time was recorded before what was taken at another. A
placeholder is older than every recorded value. -/
def Older (actions : List SessionAction) (i : Nat) (p q : Taking) : Prop :=
  ∃ r v, recorded q.watcher i actions (q.place + 1) = some (r, v) ∧
    ∀ r' v', recorded p.watcher i actions (p.place + 1) = some (r', v') → r' < r

theorem older_iff {p q : Taking} (e : p.watcher = q.watcher) :
    Older actions i p q ↔ ∃ r v, p.place < r ∧ r ≤ q.place ∧
      (actions[r]?).bind (·.recorded? q.watcher i) = some v := by
  unfold Older
  rw [e]
  constructor
  · rintro ⟨r, v, h, older⟩
    obtain ⟨lt, found⟩ := recorded_eq_some h
    refine ⟨r, v, ?_, Nat.le_of_lt_succ lt, found⟩
    by_contra early
    obtain ⟨r', v', h', le⟩ := le_recorded (Nat.lt_succ_of_le (Nat.le_of_not_lt early)) found
    exact Nat.not_lt_of_le le (older r' v' h')
  · rintro ⟨r, v, lt, le, found⟩
    obtain ⟨r', v', h', le'⟩ := le_recorded (Nat.lt_succ_of_le le) found
    refine ⟨r', v', h', fun r'' v'' h'' => ?_⟩
    have := (recorded_eq_some h'').1
    omega

end Recorded

/-! ### Watchers -/

namespace Watcher

/-- No value was recorded yet. -/
def IsFresh (x : Watcher) : Prop := x.latest = List.replicate x.inputs.length none

theorem isFresh_ofUnit {unit : ScriptUnit} {widget : WidgetHandle} {inputs : List WatchedInput}
    {checks : Bool} {x : Watcher} (h : ofUnit unit widget inputs checks = .ok x) : x.IsFresh := by
  unfold ofUnit at h
  split at h
  · cases h
  · obtain rfl := Except.ok.inj h
    rfl

/-- A watcher after a run: its latest values are those recorded last. -/
def after (x : Watcher) (w : Nat) (actions : List SessionAction) : Watcher :=
  { x with
    latest := (List.range x.inputs.length).map fun i =>
      (recorded w i actions actions.length).map Prod.snd }

variable {x : Watcher} {w : Nat} {actions : List SessionAction}

theorem after_nil (h : x.IsFresh) : x.after w [] = x := by
  unfold after
  have none : (List.range x.inputs.length).map (fun i =>
      (recorded w i [] ([] : List SessionAction).length).map Prod.snd) = x.latest := by
    rw [h]
    exact List.eq_replicate_iff.2 ⟨by simp, by simp [recorded]⟩
  rw [none]

/-- An action that records nothing for a watcher leaves it as it is. -/
theorem after_concat_of_none {a : SessionAction} (h : ∀ i, a.recorded? w i = none) :
    x.after w (actions ++ [a]) = x.after w actions := by
  simp only [after, recorded_concat, h]

theorem record_after (i : Nat) (v : LiveValue) (now : Timestamp) :
    (x.after w actions).record i v = x.after w (actions ++ [.change w i v now]) := by
  have latest : ((x.after w actions).record i v).latest =
      (x.after w (actions ++ [.change w i v now])).latest := by
    refine List.ext_getElem? fun k => ?_
    simp only [record, after, recorded_concat, SessionAction.recorded?, true_and,
      List.getElem?_set, List.length_map, List.length_range, List.getElem?_map]
    by_cases lt : k < x.inputs.length
    · by_cases e : i = k <;> simp [lt, e]
    · have other : i = k → x.inputs.length ≤ i := by omega
      simpa [lt] using other
  exact congrArg (fun l => { x with latest := l }) latest

/-- The values that a watcher gives are those recorded last. -/
theorem values_after {i : Nat} {input : WatchedInput} (hi : x.inputs[i]? = some input)
    (now : Timestamp) :
    ((x.after w actions).values now)[i]? =
      some ((lastRecorded w i actions).getD (.disconnected input.name now)) := by
  obtain ⟨lt, rfl⟩ := List.getElem?_eq_some_iff.1 hi
  simp [values, after, lastRecorded, lt]

theorem given_values {p : Taking} (e : p.place + 1 = actions.length) {i : Nat}
    {input : WatchedInput} (hi : x.inputs[i]? = some input) (now : Timestamp) :
    ∃ v, ((x.after p.watcher actions).values now)[i]? = some v ∧
      Given actions p i input.name v := by
  refine ⟨_, values_after hi now, ?_⟩
  unfold Given lastRecorded
  rw [e]
  cases recorded p.watcher i actions actions.length with
  | none => exact ⟨now, rfl⟩
  | some r => rfl

end Watcher

/-! ### What was taken -/

/-- What was taken is what the watcher was asked for at that place, with the values that were the
latest ones then. -/
structure Snapshot (watchers : List Watcher) (actions : List SessionAction) (p : Taking)
    (u : ScriptUnit) (c : Context) : Prop where
  asked : (actions[p.place]?).bind SessionAction.asked? = some p.watcher
  given : ∃ x, watchers[p.watcher]? = some x ∧ u = x.unit ∧ c.widget = x.widget ∧
    ∀ i input, x.inputs[i]? = some input →
      ∃ v, c.values[i]? = some v ∧ Given actions p i input.name v

namespace Snapshot

variable {watchers : List Watcher} {actions : List SessionAction} {p : Taking} {u : ScriptUnit}
  {c : Context}

theorem place_lt (h : Snapshot watchers actions p u c) : p.place < actions.length := by
  obtain ⟨a, ha, -⟩ := Option.bind_eq_some_iff.1 h.asked
  exact (List.getElem?_eq_some_iff.1 ha).1

/-- The run has gone further. -/
theorem append (h : Snapshot watchers actions p u c) (rest : List SessionAction) :
    Snapshot watchers (actions ++ rest) p u c := by
  have lt := h.place_lt
  refine ⟨by rw [List.getElem?_append_left lt]; exact h.asked, ?_⟩
  obtain ⟨x, hx, hu, hw, given⟩ := h.given
  refine ⟨x, hx, hu, hw, fun i input hi => ?_⟩
  obtain ⟨v, hv, g⟩ := given i input hi
  refine ⟨v, hv, ?_⟩
  unfold Given
  rwa [recorded_append lt]

end Snapshot

namespace Session

variable {o : Outside} {a : SessionAction} {s t first : Session} {actions : List SessionAction}
  {watchers : List Watcher} {l : Ledger}

/-- The actions of a run, of which the first has the given place, go into the ledger. -/
def enter (o : Outside) (l : Ledger) (place : Nat) : List SessionAction → Session → Ledger
  | [], _ => l
  | a :: actions, s =>
    match step o a s with
    | some t => enter o (l.next place a s) (place + 1) actions t
    | none => l

/-- Where in a run everything was taken. -/
def ledger (o : Outside) (actions : List SessionAction) (first : Session) : Ledger :=
  enter o ⟨[], []⟩ 0 actions first

theorem enter_concat {place : Nat} (h : Machine.run (step o) actions first = some s)
    (ha : step o a s = some t) :
    enter o l place (actions ++ [a]) first =
      (enter o l place actions first).next (place + actions.length) a s := by
  induction actions generalizing first place l with
  | nil =>
    obtain rfl := Option.some.inj h
    simp only [List.nil_append, enter, ha, List.length_nil, Nat.add_zero]
  | cons b actions ih =>
    rw [Machine.run_cons, Option.bind_eq_some_iff] at h
    obtain ⟨u, hb, hu⟩ := h
    simp only [List.cons_append, enter, hb, List.length_cons]
    rw [ih hu, Nat.add_right_comm, Nat.add_assoc]

theorem ledger_concat (h : Machine.run (step o) actions first = some s)
    (ha : step o a s = some t) :
    ledger o (actions ++ [a]) first = (ledger o actions first).next actions.length a s := by
  rw [ledger, enter_concat h ha, Nat.zero_add]
  rfl

/-- A place of a run at which a submission is let in. -/
def AdmittedAt (o : Outside) (actions : List SessionAction) (first : Session) (n A : Nat) : Prop :=
  ∃ before a after s t d d', actions = before ++ a :: after ∧ before.length = A ∧
    Machine.run (step o) before first = some s ∧ step o a s = some t ∧
    s.support.submissions[n]? = some d ∧ d.stage = .entering ∧
    t.support.submissions[n]? = some d' ∧ d'.stage = .announcing

theorem AdmittedAt.concat {n A : Nat} (h : AdmittedAt o actions first n A) (a : SessionAction) :
    AdmittedAt o (actions ++ [a]) first n A := by
  obtain ⟨before, b, after, s, t, d, d', rfl, rest⟩ := h
  exact ⟨before, b, after ++ [a], s, t, d, d', by rw [List.append_assoc, List.cons_append], rest⟩

/-- A submission was let in before the last action of a run, or by it. -/
theorem AdmittedAt.of_concat {n A : Nat} (h : AdmittedAt o (actions ++ [a]) first n A)
    (hs : Machine.run (step o) actions first = some s) (ha : step o a s = some t) :
    AdmittedAt o actions first n A ∨ A = actions.length ∧ ∃ d d',
      s.support.submissions[n]? = some d ∧ d.stage = .entering ∧
      t.support.submissions[n]? = some d' ∧ d'.stage = .announcing := by
  obtain ⟨before, b, after, u, v, d, d', split, rfl, run, hb, rest⟩ := h
  rcases List.eq_nil_or_concat after with rfl | ⟨after, c, rfl⟩
  · obtain ⟨rfl, e⟩ := List.append_inj' split rfl
    obtain rfl := (List.cons.inj e).1
    obtain rfl := Option.some.inj (hs.symm.trans run)
    obtain rfl := Option.some.inj (ha.symm.trans hb)
    exact .inr ⟨rfl, d, d', rest⟩
  · rw [List.concat_eq_append, ← List.cons_append, ← List.append_assoc] at split
    obtain ⟨rfl, -⟩ := List.append_inj' split rfl
    exact .inl ⟨before, b, after, u, v, d, d', rfl, rfl, run, hb, rest⟩

/-- Watchers have the values that were recorded last, and what waits to be submitted was taken where
the ledger says. -/
structure Waiting (actions : List SessionAction) (first s : Session) (l : Ledger) : Prop where
  latest : ∀ w : Nat, s.watchers[w]? = (first.watchers[w]?).map (·.after w actions)
  taken : List.Forall₂ (fun p x => Snapshot first.watchers actions p x.1 x.2) l.waiting s.taken

/-- What was submitted was taken where the ledger says, and that was before it was let in. -/
structure Submitted (o : Outside) (actions : List SessionAction) (first s : Session) (l : Ledger) :
    Prop where
  length : l.handed.length = s.support.submissions.length
  snapshot : ∀ (n : Nat) (d : Submission) (p : Taking), s.support.submissions[n]? = some d →
    l.handed[n]? = some (some p) → Snapshot first.watchers actions p d.unit d.context
  admitted : ∀ (n : Nat) (d : Submission), s.support.submissions[n]? = some d →
    d.isAdmitted = true → ∃ A, AdmittedAt o actions first n A
  placed : ∀ n A, AdmittedAt o actions first n A → n < l.handed.length ∧
    ∀ p, l.handed[n]? = some (some p) → p.place < A

/-- Only these actions submit something. -/
theorem submits_of_submit {u : ScriptUnit} {c : Context}
    (h : s.supportAction? a = some (.submit u c)) : a = .submit u c ∨ ∃ i, a = .handIn i := by
  cases a with
  | submit => exact .inl (by cases h; rfl)
  | handIn i => exact .inr ⟨i, rfl⟩
  | answer k =>
    obtain ⟨_, -, same⟩ := Option.map_eq_some_iff.1 h
    cases same
  | act k =>
    unfold supportAction? at h
    simp only [Option.bind_eq_bind, Option.bind_eq_some_iff] at h
    obtain ⟨j, -, thread, -, h⟩ := h
    split at h
    · cases h
    · split at h <;> cases h
  | proceedShutdown k =>
    simp only [supportAction?] at h
    split at h <;> cases h
  | _ => cases h

theorem carries_of_step (h : step o a s = some t)
    (other : ∀ u c, s.supportAction? a ≠ some (.submit u c)) : s.support.Carries t.support := by
  rcases (move_of_step h).support with ⟨b, hb, hstep⟩ | ⟨-, same⟩
  · exact Support.carries_of_step hstep fun u c e => other u c (by rw [hb, e])
  · exact .of_eq (by rw [same])

/-- What a watcher does when it is asked. -/
theorem of_watch {w : Nat} {f : Watcher → Option Context × Watcher}
    (h : s.watch w f = some t) : ∃ x, s.watchers[w]? = some x ∧ t.support = s.support ∧
      t.watchers = s.watchers.set w (f x).2 ∧
      t.taken = s.taken ++ ((f x).1.map fun c => (x.unit, c)).toList := by
  unfold watch at h
  simp only [Option.bind_eq_bind, Option.bind_eq_some_iff] at h
  obtain ⟨x, hx, h⟩ := h
  obtain rfl := Option.some.inj h
  exact ⟨x, hx, rfl, rfl, rfl⟩

/-- Whatever happens, the latest values of a watcher are those recorded last. -/
theorem latest_of_step {x : Option Watcher} {w : Nat} (ha : step o a s = some t)
    (hx : s.watchers[w]? = x.map (·.after w actions)) :
    t.watchers[w]? = x.map (·.after w (actions ++ [a])) := by
  have keeps (same : t.watchers = s.watchers) (none : ∀ i, a.recorded? w i = none) :
      t.watchers[w]? = x.map (·.after w (actions ++ [a])) := by
    rw [same, hx]
    exact congrArg (Option.map · x) (funext fun y => (y.after_concat_of_none none).symm)
  cases a with
  | change w' i v now =>
    obtain ⟨y, hy, -, watchers, -⟩ := of_watch (f := (·.change i v now)) ha
    obtain ⟨lt, e⟩ := List.getElem?_eq_some_iff.1 hy
    by_cases e : w' = w
    · subst e
      rw [hx] at hy
      obtain ⟨z, rfl, rfl⟩ := Option.map_eq_some_iff.1 hy
      rw [watchers, List.getElem?_set_self lt, Option.map_some, Watcher.change,
        Watcher.record_after i v now]
    · rw [watchers, List.getElem?_set_ne e, hx]
      refine congrArg (Option.map · x) (funext fun y => (y.after_concat_of_none fun j => ?_).symm)
      simp [SessionAction.recorded?, e]
  | request w' now =>
    obtain ⟨y, hy, -, watchers, -⟩ := of_watch (f := fun y => (some (y.request now), y)) ha
    obtain ⟨lt, rfl⟩ := List.getElem?_eq_some_iff.1 hy
    exact keeps (watchers.trans (List.set_getElem_self lt)) fun _ => rfl
  | handIn i =>
    have ha : s.handIn i = some t := ha
    unfold handIn at ha
    simp only [Option.bind_eq_bind, Option.bind_eq_some_iff] at ha
    obtain ⟨⟨u, c⟩, -, ha⟩ := ha
    obtain rfl := Option.some.inj ha
    exact keeps rfl fun _ => rfl
  | _ => exact keeps ((move_of_step ha).apart rfl).1 fun _ => rfl

/-! ### What waits to be submitted -/

theorem forall₂_eraseIdx {α β : Type} {R : α → β → Prop} {xs : List α} {ys : List β}
    (h : List.Forall₂ R xs ys) (i : Nat) : List.Forall₂ R (xs.eraseIdx i) (ys.eraseIdx i) := by
  induction h generalizing i with
  | nil => exact .nil
  | cons r rest ih =>
    cases i with
    | zero => exact rest
    | succ i => exact .cons r (ih i)

theorem exists_of_forall₂ {α β : Type} {R : α → β → Prop} {xs : List α} {ys : List β}
    (h : List.Forall₂ R xs ys) {i : Nat} {y : β} (hy : ys[i]? = some y) :
    ∃ x, xs[i]? = some x ∧ R x y := by
  induction h generalizing i with
  | nil => cases hy
  | cons r rest ih =>
    cases i with
    | zero =>
      obtain rfl := Option.some.inj hy
      exact ⟨_, rfl, r⟩
    | succ i => exact ih hy

namespace Waiting

theorem taken_concat (h : Waiting actions first s l) (a : SessionAction) :
    List.Forall₂ (fun p x => Snapshot first.watchers (actions ++ [a]) p x.1 x.2) l.waiting
      s.taken :=
  h.taken.imp fun _ _ snap => snap.append [a]

/-- What a watcher takes waits to be submitted. -/
theorem take (h : Waiting actions first s l) {w : Nat} {x : Watcher} {taken : Option Context}
    (asked : a.asked? = some w) (hx : t.watchers[w]? = some x)
    (latest : ∀ w : Nat, t.watchers[w]? = (first.watchers[w]?).map (·.after w (actions ++ [a])))
    (ht : t.taken = s.taken ++ (taken.map fun c => (x.unit, c)).toList)
    (given : ∀ c, taken = some c → ∃ trigger now, c = x.context trigger now) :
    Waiting (actions ++ [a]) first t (l.take ⟨w, actions.length⟩ taken) := by
  refine ⟨latest, ?_⟩
  rw [ht]
  cases taken with
  | none =>
    simpa [Ledger.take] using h.taken_concat a
  | some c =>
    refine List.rel_append (h.taken_concat a) (.cons ?_ .nil)
    obtain ⟨trigger, now, rfl⟩ := given c rfl
    rw [latest] at hx
    obtain ⟨y, hy, rfl⟩ := Option.map_eq_some_iff.1 hx
    refine ⟨by rw [List.getElem?_concat_length]; exact asked, y, hy, rfl, rfl, fun i input hi => ?_⟩
    exact Watcher.given_values (p := ⟨w, actions.length⟩) (by simp) hi now

theorem change {w i : Nat} {v : LiveValue} {now : Timestamp} (h : Waiting actions first s l)
    (ha : step o (.change w i v now) s = some t) :
    Waiting (actions ++ [.change w i v now]) first t
      (l.next actions.length (.change w i v now) s) := by
  obtain ⟨x, hx, -, watchers, taken⟩ := of_watch (f := (·.change i v now)) ha
  obtain ⟨lt, -⟩ := List.getElem?_eq_some_iff.1 hx
  simp only [Ledger.next, hx, Option.bind_some]
  refine h.take (x := x.record i v) rfl ?_ (fun w' => latest_of_step ha (h.latest w')) taken
    fun c hc => ?_
  · rw [watchers]
    exact List.getElem?_set_self lt
  · simp only [Watcher.change, Watcher.context?] at hc
    split at hc
    · cases hc
    · split_ifs at hc
      exact ⟨_, now, (Option.some.inj hc).symm⟩

theorem request {w : Nat} {now : Timestamp} (h : Waiting actions first s l)
    (ha : step o (.request w now) s = some t) :
    Waiting (actions ++ [.request w now]) first t (l.next actions.length (.request w now) s) := by
  obtain ⟨x, hx, -, watchers, taken⟩ := of_watch (f := fun x => (some (x.request now), x)) ha
  obtain ⟨lt, -⟩ := List.getElem?_eq_some_iff.1 hx
  simp only [Ledger.next, hx, Option.map_some]
  refine h.take (x := x) rfl ?_ (fun w' => latest_of_step ha (h.latest w')) taken fun c hc => ?_
  · rw [watchers]
    exact List.getElem?_set_self lt
  · exact ⟨.explicit, now, (Option.some.inj hc).symm⟩

/-- What is submitted waits no longer. -/
theorem handIn {i : Nat} (h : Waiting actions first s l) (ha : step o (.handIn i) s = some t) :
    Waiting (actions ++ [.handIn i]) first t (l.next actions.length (.handIn i) s) := by
  refine ⟨fun w => latest_of_step ha (h.latest w), ?_⟩
  have ha : s.handIn i = some t := ha
  unfold Session.handIn at ha
  simp only [Option.bind_eq_bind, Option.bind_eq_some_iff] at ha
  obtain ⟨⟨u, c⟩, -, ha⟩ := ha
  obtain rfl := Option.some.inj ha
  exact forall₂_eraseIdx (h.taken_concat _) i

theorem step (h : Waiting actions first s l) (ha : step o a s = some t) :
    Waiting (actions ++ [a]) first t (l.next actions.length a s) := by
  have apart (ap : a.isApart = true) (e : (l.next actions.length a s).waiting = l.waiting) :
      Waiting (actions ++ [a]) first t (l.next actions.length a s) := by
    refine ⟨fun w => latest_of_step ha (h.latest w), ?_⟩
    rw [e, ((move_of_step ha).apart ap).2]
    exact h.taken_concat a
  cases a with
  | change => exact h.change ha
  | request => exact h.request ha
  | handIn => exact h.handIn ha
  | _ => exact apart rfl rfl

end Waiting

/-! ### What was submitted -/

namespace Submitted

/-- An action that submits nothing. -/
theorem of_other (h : Submitted o actions first s l)
    (hs : Machine.run (Session.step o) actions first = some s) (ha : Session.step o a s = some t)
    (other : ∀ u c, s.supportAction? a ≠ some (.submit u c)) {l' : Ledger}
    (hl : l'.handed = l.handed) : Submitted o (actions ++ [a]) first t l' := by
  obtain ⟨len, old⟩ := carries_of_step ha other
  refine ⟨by rw [hl, len]; exact h.length, fun n d' p hd hp => ?_, fun n d' hd adm => ?_,
    fun n A at' => ?_⟩
  · obtain ⟨d, hd, hu, hc, -⟩ := old n d' hd
    rw [hu, hc]
    exact (h.snapshot n d p hd (hl ▸ hp)).append [a]
  · obtain ⟨d, hd', -, -, adm'⟩ := old n d' hd
    rcases adm' adm with adm | ⟨stage, stage'⟩
    · obtain ⟨A, hA⟩ := h.admitted n d hd' adm
      exact ⟨A, hA.concat a⟩
    · exact ⟨actions.length, actions, a, [], s, t, d, d', rfl, rfl, hs, ha, hd', stage, hd, stage'⟩
  · rw [hl]
    rcases at'.of_concat hs ha with at' | ⟨rfl, d, -, hd, -⟩
    · exact h.placed n A at'
    · exact ⟨h.length ▸ (List.getElem?_eq_some_iff.1 hd).1, fun p hp =>
        (h.snapshot n d p hd hp).place_lt⟩

/-- A submission, with what was taken for it if it comes from a watcher. -/
theorem submit (h : Submitted o actions first s l)
    (hs : Machine.run (Session.step o) actions first = some s) (ha : Session.step o a s = some t)
    {u : ScriptUnit} {c : Context} (ht : t.support = s.support.submit u c) {l' : Ledger}
    {q : Option Taking} (hl : l'.handed = l.handed ++ [q])
    (snap : ∀ p, q = some p → Snapshot first.watchers actions p u c) :
    Submitted o (actions ++ [a]) first t l' := by
  have subs : t.support.submissions =
      s.support.submissions ++ [⟨u, c, s.support.admission u c⟩] := by
    rw [ht]
    rfl
  refine ⟨by simp [hl, subs, h.length], fun n d p hd hp => ?_, fun n d hd adm => ?_,
    fun n A at' => ?_⟩
  · rw [subs] at hd
    rw [hl] at hp
    rcases getElem?_concat hd with old | ⟨rfl, rfl⟩
    · rw [List.getElem?_append_left (h.length ▸ (List.getElem?_eq_some_iff.1 old).1)] at hp
      exact (h.snapshot n d p old hp).append [a]
    · rw [← h.length, List.getElem?_concat_length] at hp
      exact (snap p (Option.some.inj hp)).append [a]
  · rw [subs] at hd
    rcases getElem?_concat hd with old | ⟨-, rfl⟩
    · obtain ⟨A, hA⟩ := h.admitted n d old adm
      exact ⟨A, hA.concat a⟩
    · rw [Support.not_isAdmitted_submit] at adm
      cases adm
  · rcases at'.of_concat hs ha with at' | ⟨-, d, d', hd, stage, hd', stage'⟩
    · obtain ⟨lt, before⟩ := h.placed n A at'
      rw [hl]
      refine ⟨by simp; omega, fun p hp => before p ?_⟩
      rwa [List.getElem?_append_left lt] at hp
    · -- A submission that is there already stays where it is.
      rw [subs, List.getElem?_append_left (List.getElem?_eq_some_iff.1 hd).1, hd] at hd'
      obtain rfl := Option.some.inj hd'
      rw [stage] at stage'
      cases stage'

theorem step (h : Submitted o actions first s l) (w : Waiting actions first s l)
    (hs : Machine.run (Session.step o) actions first = some s) (ha : Session.step o a s = some t) :
    Submitted o (actions ++ [a]) first t (l.next actions.length a s) := by
  cases a with
  | submit u c =>
    obtain rfl := Option.some.inj ha
    exact h.submit hs rfl rfl rfl nofun
  | handIn i =>
    have ha' : s.handIn i = some t := ha
    unfold Session.handIn at ha'
    simp only [Option.bind_eq_bind, Option.bind_eq_some_iff] at ha'
    obtain ⟨⟨u, c⟩, found, ha'⟩ := ha'
    obtain rfl := Option.some.inj ha'
    obtain ⟨p, hp, snap⟩ := exists_of_forall₂ w.taken found
    refine h.submit hs ha rfl (q := l.waiting[i]?) rfl fun q hq => ?_
    obtain rfl := Option.some.inj (hp.symm.trans hq)
    exact snap
  | _ =>
    refine h.of_other hs ha (fun u c e => ?_) rfl
    rcases submits_of_submit e with e | ⟨i, e⟩ <;> cases e

end Submitted

/-- In a run the ledger says where everything was taken. -/
theorem tracked (fresh : ∀ x ∈ first.watchers, x.IsFresh) (taken : first.taken = [])
    (submissions : first.support.submissions = [])
    (h : Machine.run (step o) actions first = some t) :
    Waiting actions first t (ledger o actions first) ∧
      Submitted o actions first t (ledger o actions first) := by
  induction actions using List.reverseRec generalizing t with
  | nil =>
    obtain rfl := Option.some.inj h
    refine ⟨⟨fun w => ?_, by rw [taken]; exact .nil⟩, by rw [submissions]; rfl, ?_, ?_, ?_⟩
    · cases hx : first.watchers[w]? with
      | none => rfl
      | some x => rw [Option.map_some, Watcher.after_nil (fresh x (List.mem_of_getElem? hx))]
    · simp [submissions]
    · simp [submissions]
    · rintro n A ⟨before, a, after, -, -, -, -, split, -⟩
      cases before <;> cases split
  | append_singleton actions a ih =>
    rw [Machine.run_append, Option.bind_eq_some_iff] at h
    obtain ⟨s, hs, h⟩ := h
    rw [Machine.run_cons, Option.bind_eq_some_iff] at h
    obtain ⟨_, ha, h⟩ := h
    obtain rfl := Option.some.inj h
    obtain ⟨w, sub⟩ := ih hs
    rw [ledger_concat hs ha]
    exact ⟨w.step ha, sub.step w hs ha⟩

/-! ### Which values a job is given -/

/-- A job that came of what a watcher took, and was let in at a place of the run. -/
def ComesOf (o : Outside) (actions : List SessionAction) (first t : Session) (k : Nat) (p : Taking)
    (A : Nat) : Prop :=
  ∃ n d, t.support.submissions[n]? = some d ∧ d.stage = .returned (.scheduled k) ∧
    (ledger o actions first).handed[n]? = some (some p) ∧ AdmittedAt o actions first n A

/-- No job is given a value that was recorded before the one that an earlier job of the same watcher
was given. -/
def NeverOlder (o : Outside) (actions : List SessionAction) (first t : Session) : Prop :=
  ∀ k p A k' p' A', ComesOf o actions first t k p A → ComesOf o actions first t k' p' A' →
    p.watcher = p'.watcher → A < A' → ∀ i, ¬ Older actions i p' p

/-- What every move of the support keeps is kept in a session. -/
theorem kept_of_step {P : Support → Prop}
    (keep : ∀ b (s t : Support), Support.Move b s t → P s → P t) (ha : step o a s = some t)
    (hs : P s.support) : P t.support := by
  rcases (move_of_step ha).support with ⟨b, -, hb⟩ | ⟨-, same⟩
  · exact Support.kept_of_step (keep b) hb hs
  · rwa [same]

theorem origins_of_run (hs : first.support.Origins)
    (h : Machine.run (step o) actions first = some t) : t.support.Origins :=
  Machine.run_invariant (P := fun s => s.support.Origins)
    (fun _ _ _ => kept_of_step fun _ _ _ m => m.origins) h hs

/-- **What a job is given was the latest when it was taken.** In a run of a session with new
watchers, a job that comes of what a watcher took was let in later than that. It runs the unit of
the watcher, and for each input it is given the value that was recorded last when its values were
taken, or a placeholder if there was none. Of two jobs of one watcher the one that was let in later
is given an older value for an input exactly if its values were taken before those of the other, and
the input was recorded in between. -/
theorem older_was_taken_before {widgets : List Widget} (new : first.IsNew widgets)
    (fresh : ∀ x ∈ first.watchers, x.IsFresh) (h : Machine.run (step o) actions first = some t) :
    (∀ (n : Nat) (d : Submission) (k : Nat) (p : Taking), t.support.submissions[n]? = some d →
      d.stage = .returned (.scheduled k) → (ledger o actions first).handed[n]? = some (some p) →
        ∃ A, ComesOf o actions first t k p A) ∧
    (∀ k p A, ComesOf o actions first t k p A → p.place < A ∧
      (actions[p.place]?).bind SessionAction.asked? = some p.watcher ∧
      ∃ j x, t.support.jobs[k]? = some j ∧ first.watchers[p.watcher]? = some x ∧
        j.unit = x.unit ∧ j.context.widget = x.widget ∧ ∀ i input, x.inputs[i]? = some input →
          ∃ v, j.context.values[i]? = some v ∧ Given actions p i input.name v) ∧
    ∀ k p A k' p' A', ComesOf o actions first t k p A → ComesOf o actions first t k' p' A' →
      p.watcher = p'.watcher → A < A' → ∀ i,
        (Older actions i p' p ↔ p'.place < p.place ∧ p.place < A ∧
          ∃ r v, p'.place < r ∧ r ≤ p.place ∧
            (actions[r]?).bind (·.recorded? p.watcher i) = some v) := by
  obtain ⟨settings, gateway, interpreters, watchers, rfl⟩ := new
  obtain ⟨-, sub⟩ := tracked fresh rfl rfl h
  have origins := origins_of_run (Support.origins_ofSettings _ _ _) h
  refine ⟨fun n d k p hd hk hp => ?_, fun k p A job => ?_,
    fun k p A k' p' A' job job' same _ i => ?_⟩
  · obtain ⟨A, hA⟩ := sub.admitted n d hd (by simp [Submission.isAdmitted, hk])
    exact ⟨A, n, d, hd, hk, hp, hA⟩
  · obtain ⟨n, d, hd, hk, hp, hA⟩ := job
    obtain ⟨asked, x, hx, hu, hw, given⟩ := sub.snapshot n d p hd hp
    obtain ⟨j, hj, ju, jc⟩ := origins.job n d k hd hk
    refine ⟨(sub.placed n A hA).2 p hp, asked, j, x, hj, hx, ju.trans hu, ?_, ?_⟩
    · rw [jc]
      exact hw
    · rw [jc]
      exact given
  · obtain ⟨n, d, hd, hk, hp, hA⟩ := job
    rw [older_iff same.symm]
    constructor
    · rintro ⟨r, v, lt, le, found⟩
      exact ⟨Nat.lt_of_lt_of_le lt le, (sub.placed n A hA).2 p hp, r, v, lt, le, found⟩
    · rintro ⟨-, -, recorded⟩
      exact recorded

/-- A submission that has been let in between two places of a run. -/
theorem admittedAt_of_stages {n A : Nat} (hA : A < actions.length)
    (entering : (Machine.run (step o) (actions.take A) first).map (fun s =>
      (s.support.submissions[n]?).map Submission.stage) = some (some .entering))
    (announcing : (Machine.run (step o) (actions.take (A + 1)) first).map (fun s =>
      (s.support.submissions[n]?).map Submission.stage) = some (some .announcing)) :
    AdmittedAt o actions first n A := by
  obtain ⟨s, hs, found⟩ := Option.map_eq_some_iff.1 entering
  obtain ⟨t, ht, found'⟩ := Option.map_eq_some_iff.1 announcing
  obtain ⟨d, hd, stage⟩ := Option.map_eq_some_iff.1 found
  obtain ⟨d', hd', stage'⟩ := Option.map_eq_some_iff.1 found'
  rw [List.take_succ_eq_append_getElem hA, Machine.run_append, hs, Option.bind_some,
    Machine.run_cons, Option.bind_eq_some_iff] at ht
  obtain ⟨u, ha, e⟩ := ht
  obtain rfl : u = t := Option.some.inj e
  refine ⟨actions.take A, actions[A], actions.drop (A + 1), s, u, d, d', ?_, ?_, hs, ha, hd, stage,
    hd', stage'⟩
  · rw [← List.drop_eq_getElem_cons hA, List.take_append_drop]
  · exact List.length_take_of_le (Nat.le_of_lt hA)

/-! ### A delayed submission -/

/-- A session with one widget, and a watcher that takes values only when it is asked. -/
def sampleWatch : Session :=
  { start { poolSize := 1 } {} [.embedded] [⟨"clock", "label", [("text", .str "")]⟩] with
    watchers := [⟨.ofProgram 7 "clock" ["hour"] [], ⟨0, "clock", "label"⟩, [⟨"hour", false⟩], false,
      [none]⟩] }

/-- A value of the input. -/
def sampleValue (n : Nat) : LiveValue := .ofValue "hour" (.ofNat n) ⟨0, 0⟩

/-- Each of two values is taken when it is recorded. The second one is submitted first, and its job
ends before the first one is submitted. -/
def sampleTakings : List SessionAction :=
  [.change 0 0 (sampleValue 1) ⟨0, 0⟩, .request 0 ⟨0, 0⟩, .change 0 0 (sampleValue 2) ⟨0, 0⟩,
    .request 0 ⟨0, 0⟩, .handIn 1, .proceedSubmission 0, .proceedSubmission 0, .proceedSubmission 0,
    .begin 0, .act 0, .conclude 0, .proceedJob 0, .proceedJob 0, .proceedJob 0, .proceedJob 0,
    .handIn 0, .proceedSubmission 1, .proceedSubmission 1, .proceedSubmission 1]

/-- The two jobs with the values that they are given. -/
theorem run_sampleTakings :
    ∃ t, Machine.run (step sampleOutside) sampleTakings sampleWatch = some t ∧
      t.support.jobs.map (·.context.values) = [[sampleValue 2], [sampleValue 1]] ∧
      ComesOf sampleOutside sampleTakings sampleWatch t 0 ⟨0, 3⟩ 5 ∧
      ComesOf sampleOutside sampleTakings sampleWatch t 1 ⟨0, 1⟩ 16 := by
  have run : (Machine.run (step sampleOutside) sampleTakings sampleWatch).map (fun t =>
      (t.support.jobs.map (·.context.values),
        (t.support.submissions[0]?).map Submission.stage,
        (t.support.submissions[1]?).map Submission.stage)) =
      some ([[sampleValue 2], [sampleValue 1]], some (.returned (.scheduled 0)),
        some (.returned (.scheduled 1))) := by decide +kernel
  have handed : (ledger sampleOutside sampleTakings sampleWatch).handed =
      [some ⟨0, 3⟩, some ⟨0, 1⟩] := by decide +kernel
  obtain ⟨t, ht, facts⟩ := Option.map_eq_some_iff.1 run
  simp only [Prod.mk.injEq] at facts
  obtain ⟨values, first, second⟩ := facts
  obtain ⟨d, hd, stage⟩ := Option.map_eq_some_iff.1 first
  obtain ⟨d', hd', stage'⟩ := Option.map_eq_some_iff.1 second
  have admitted : AdmittedAt sampleOutside sampleTakings sampleWatch 0 5 :=
    admittedAt_of_stages (by decide) (by decide +kernel) (by decide +kernel)
  have admitted' : AdmittedAt sampleOutside sampleTakings sampleWatch 1 16 :=
    admittedAt_of_stages (by decide) (by decide +kernel) (by decide +kernel)
  exact ⟨t, ht, values, ⟨0, d, hd, stage, by rw [handed]; rfl, admitted⟩,
    ⟨1, d', hd', stage', by rw [handed]; rfl, admitted'⟩⟩

/-- A job that was let in later is given an older value. -/
theorem older_is_given :
    ∃ t, Machine.run (step sampleOutside) sampleTakings sampleWatch = some t ∧
      t.support.jobs.map (·.context.values) = [[sampleValue 2], [sampleValue 1]] ∧
      ¬ NeverOlder sampleOutside sampleTakings sampleWatch t := by
  obtain ⟨t, ht, values, first, second⟩ := run_sampleTakings
  refine ⟨t, ht, values, fun never => never 0 _ _ 1 _ _ first second rfl (by decide) 0 ?_⟩
  exact (older_iff (p := ⟨0, 1⟩) (q := ⟨0, 3⟩) rfl).2
    ⟨2, sampleValue 2, by decide, by decide, rfl⟩

theorem older_was_taken_before_sample :
    ∃ t j v, Machine.run (step sampleOutside) sampleTakings sampleWatch = some t ∧
      t.support.jobs[1]? = some j ∧ j.context.values[0]? = some v ∧ v = sampleValue 1 ∧
      Older sampleTakings 0 ⟨0, 1⟩ ⟨0, 3⟩ := by
  have new : sampleWatch.IsNew [⟨"clock", "label", [("text", .str "")]⟩] :=
    ⟨{ poolSize := 1 }, {}, [.embedded], _, rfl⟩
  have fresh : ∀ x ∈ sampleWatch.watchers, x.IsFresh := by
    intro x hx
    obtain rfl := List.mem_singleton.1 hx
    rfl
  obtain ⟨t, ht, -, first, second⟩ := run_sampleTakings
  obtain ⟨-, jobs, older⟩ := older_was_taken_before new fresh ht
  obtain ⟨-, -, j, x, hj, hx, -, -, given⟩ := jobs 1 _ _ second
  obtain rfl := Option.some.inj hx
  obtain ⟨v, hv, value⟩ := given 0 ⟨"hour", false⟩ rfl
  exact ⟨t, j, v, ht, hj, hv, value, (older 0 _ _ 1 _ _ first second rfl (by decide) 0).2
    ⟨by decide, by decide, 2, sampleValue 2, by decide, by decide, rfl⟩⟩

end Session

end PanelScript

import PanelScript.Machine
import PanelScript.Preferences.Service
import PanelScript.Proofs.Preferences.Reading

/-!
# Who asks gets what the newest load gives

Loads are started, their sources end in any order or never, and anyone may ask at any time. All of
this is done against a clock that does not go past the time at which someone has waited long enough
and has no answer.

* `LoadSource.outcome` is what the source of a load gives;
* `PreferenceTimeline` is the service with its clock, `PreferenceTimeline.step` its machine and
  `PreferenceTimeline.Move` what it does;
* `Sound`: an answer is what was given in time by the load that was the newest then;
* `given_of_ended`: who asks about a load that has ended gets what its source gave;
* `Agrees`: what the source of a load gives matters only to those who ask about this load;
* `PreferenceTimeline.newest_load`: all this for a whole run.
-/

namespace PanelScript

-- Powers are those of the core library.
attribute [local instance (2000)] instPowNat

/-! ### Sources -/

namespace LoadSource

/-- The preferences that a source gives: the defaults if there is nothing better. -/
def outcome (source : LoadSource) : Preferences := source.preferences?.getD .default

/-- Where a load stands whose source has ended. -/
def state (source : LoadSource) : LoadState :=
  match source.preferences? with
  | some p => .loaded p
  | none => .vanished

theorem result?_state (source : LoadSource) : source.state.result? = some source.outcome := by
  unfold state outcome
  cases source.preferences? <;> rfl

theorem outcome_content (bytes : List UInt8) :
    outcome (.content bytes) = (Preferences.parse bytes).toOption.getD .default := by
  simp only [outcome, preferences?]
  cases Preferences.parse bytes <;> rfl

/-- A text with a tree gives what the tree denotes. -/
theorem outcome_ofText {depth : Nat} {text : String} {j : Json}
    (h : Json.readAll (Json.value depth) text = .ok j) :
    outcome (ofText text) = (Preferences.ofTree? j).getD .default := by
  rw [ofText, outcome_content, Preferences.toOption_parse h]

end LoadSource

/-! ### The machine -/

/-- What can happen to the service. -/
inductive PreferenceAction where
  | load
  | finish (load : Nat) (source : LoadSource)
  | ask
  /-- Someone gets the result of the load waited for. -/
  | answer (inquiry : Nat)
  /-- Someone has waited long enough. -/
  | expire (inquiry : Nat)
  | tick
  deriving DecidableEq

/-- The service with a clock, and what was done when: how and when each load ended, and when each
inquiry was made. -/
structure PreferenceTimeline where
  service : PreferenceService := {}
  now : Nat := 0
  ends : List (Option (Nat × LoadSource)) := []
  asked : List Nat := []

namespace PreferenceTimeline

/-- The inquiry has no answer, and was made at this time. -/
def IsOpen (t : PreferenceTimeline) (i : Nat) (load : Option Nat) (time : Nat) : Prop :=
  t.service.inquiries[i]? = some ⟨load, none⟩ ∧ t.asked[i]? = some time

/-- Whether everyone who has no answer may wait longer. -/
def isEarly (wait : Nat) (t : PreferenceTimeline) : Bool :=
  (t.service.inquiries.zip t.asked).all fun (q, time) =>
    q.answer.isSome || decide (t.now < time + wait)

/-- The machine of a service that lets everyone wait a given time. -/
def step (wait : Nat) : PreferenceAction → PreferenceTimeline → Option PreferenceTimeline
  | .load, t => some { t with service := t.service.load, ends := t.ends ++ [none] }
  | .finish k source, t =>
    if t.service.loads[k]? = some .running then
      some { t with
        service := t.service.finish k source
        ends := t.ends.set k (some (t.now, source)) }
    else none
  | .ask, t => some { t with service := t.service.ask, asked := t.asked ++ [t.now] }
  | .answer i, t =>
    match t.service.inquiries[i]? with
    | some ⟨load, none⟩ =>
      if (t.service.result? load).isSome then some { t with service := t.service.answer i }
      else none
    | _ => none
  | .expire i, t =>
    match t.service.inquiries[i]?, t.asked[i]? with
    | some ⟨_, none⟩, some time =>
      if time + wait ≤ t.now then some { t with service := t.service.expire i } else none
    | _, _ => none
  | .tick, t => if t.isEarly wait then some { t with now := t.now + 1 } else none

variable {wait : Nat} {t u v : PreferenceTimeline} {a : PreferenceAction}

/-- The inquiry gets an answer. -/
def give (t : PreferenceTimeline) (i : Nat) (load : Option Nat) (p : Preferences) :
    PreferenceTimeline :=
  { t with service :=
    { t.service with inquiries := t.service.inquiries.set i ⟨load, some p⟩ } }

/-- What the machine does. -/
inductive Move (wait : Nat) (t : PreferenceTimeline) : PreferenceAction → PreferenceTimeline → Prop
  | load : Move wait t .load { t with service := t.service.load, ends := t.ends ++ [none] }
  | finish {k : Nat} {source : LoadSource} (running : t.service.loads[k]? = some .running) :
      Move wait t (.finish k source) { t with
        service := { t.service with loads := t.service.loads.set k source.state }
        ends := t.ends.set k (some (t.now, source)) }
  | ask : Move wait t .ask { t with service := t.service.ask, asked := t.asked ++ [t.now] }
  | answer {i : Nat} {load : Option Nat} {p : Preferences}
      (asks : t.service.inquiries[i]? = some ⟨load, none⟩)
      (result : t.service.result? load = some p) : Move wait t (.answer i) (t.give i load p)
  | expire {i : Nat} {load : Option Nat} {time : Nat} (asks : t.IsOpen i load time)
      (late : time + wait ≤ t.now) :
      Move wait t (.expire i) (t.give i load ((t.service.result? load).getD .default))
  | tick (early : ∀ i load time, t.IsOpen i load time → t.now < time + wait) :
      Move wait t .tick { t with now := t.now + 1 }

theorem isEarly_iff :
    t.isEarly wait = true ↔ ∀ i load time, t.IsOpen i load time → t.now < time + wait := by
  refine List.all_eq_true.trans ⟨fun early i load time asks => ?_, fun early x hx => ?_⟩
  · have both : (t.service.inquiries.zip t.asked)[i]? = some (⟨load, none⟩, time) :=
      List.getElem?_zip_eq_some.2 asks
    simpa using early _ (List.mem_of_getElem? both)
  · obtain ⟨⟨load, answer⟩, time⟩ := x
    obtain ⟨i, both⟩ := List.getElem?_of_mem hx
    cases answer with
    | some p => rfl
    | none => simpa using early i load time (List.getElem?_zip_eq_some.1 both)

theorem settle_of_open {s : PreferenceService} {i : Nat} {load : Option Nat}
    (h : s.inquiries[i]? = some ⟨load, none⟩) (p : Inquiry → Option Preferences) :
    s.settle i p = { s with inquiries := s.inquiries.set i ⟨load, p ⟨load, none⟩⟩ } := by
  rw [PreferenceService.settle, h]
  rfl

theorem move_of_step (h : step wait a t = some u) : Move wait t a u := by
  cases a with
  | load =>
    obtain rfl := Option.some.inj h
    exact .load
  | finish k source =>
    rw [step] at h
    split_ifs at h with running
    obtain rfl := Option.some.inj h
    rw [PreferenceService.finish, if_pos running]
    exact .finish running
  | ask =>
    obtain rfl := Option.some.inj h
    exact .ask
  | answer i =>
    rw [step] at h
    split at h
    · rename_i load asks
      split_ifs at h with ended
      obtain ⟨p, result⟩ := Option.isSome_iff_exists.1 ended
      obtain rfl := Option.some.inj h
      rw [PreferenceService.answer, settle_of_open asks, result]
      exact .answer asks result
    · cases h
  | expire i =>
    rw [step] at h
    split at h
    · rename_i load time asks asked
      split_ifs at h with late
      obtain rfl := Option.some.inj h
      rw [PreferenceService.expire, settle_of_open asks]
      exact .expire ⟨asks, asked⟩ late
    · cases h
  | tick =>
    rw [step] at h
    split_ifs at h with early
    obtain rfl := Option.some.inj h
    exact .tick (isEarly_iff.1 early)

theorem step_of_move (m : Move wait t a u) : step wait a t = some u := by
  cases m with
  | load | ask => rfl
  | @finish k source running =>
    rw [step, if_pos running, PreferenceService.finish, if_pos running]
    rfl
  | answer asks result =>
    simp only [step, asks, result, Option.isSome_some, if_true, PreferenceService.answer,
      settle_of_open asks]
    rfl
  | expire asks late =>
    simp only [step, asks.1, asks.2, late, if_true, PreferenceService.expire,
      settle_of_open asks.1]
    rfl
  | tick early => exact if_pos (isEarly_iff.2 early)

/-! ### When loads end -/

/-- When and how a load ended, if it did. -/
def end? (t : PreferenceTimeline) (k : Nat) : Option (Nat × LoadSource) := t.ends[k]?.join

/-- Where a load stands that has ended so, or not at all. -/
def stateAfter : Option (Nat × LoadSource) → LoadState
  | some (_, source) => source.state
  | none => .running

/-- The loads stand where their sources have put them. -/
def Keeps (t : PreferenceTimeline) : Prop := t.service.loads = t.ends.map stateAfter

theorem Keeps.running (h : t.Keeps) {k : Nat} (running : t.service.loads[k]? = some .running) :
    t.ends[k]? = some none := by
  rw [h, List.getElem?_map, Option.map_eq_some_iff] at running
  obtain ⟨e, he, state⟩ := running
  cases e with
  | none => exact he
  | some e =>
    have result := e.2.result?_state
    rw [show e.2.state = .running from state] at result
    cases result

theorem Keeps.result? (h : t.Keeps) (k : Nat) :
    t.service.result? (some k) = (t.end? k).map (·.2.outcome) := by
  show (t.service.loads[k]?).bind LoadState.result? = _
  rw [h, List.getElem?_map, end?]
  cases t.ends[k]? with
  | none => rfl
  | some e =>
    cases e with
    | none => rfl
    | some e => exact e.2.result?_state

theorem Keeps.step (h : t.Keeps) (m : Move wait t a u) : u.Keeps := by
  cases m with
  | load =>
    show t.service.loads ++ [.running] = _
    rw [h, List.map_append]
    rfl
  | finish =>
    show t.service.loads.set _ _ = _
    rw [h, List.map_set]
    rfl
  | ask | answer | expire | tick => exact h

/-- A load ends once. -/
theorem Move.end?_cases (m : Move wait t a u) (h : t.Keeps) (k : Nat) :
    u.end? k = t.end? k ∨
      ∃ source, a = .finish k source ∧ t.end? k = none ∧ u.end? k = some (t.now, source) := by
  cases m with
  | load =>
    refine .inl ?_
    unfold end?
    rw [List.getElem?_append]
    split_ifs with lt
    · rfl
    · rw [List.getElem?_eq_none (Nat.le_of_not_lt lt)]
      cases (k - t.ends.length) <;> rfl
  | @finish j source running =>
    have before := h.running running
    by_cases same : j = k
    · subst same
      refine .inr ⟨source, rfl, by rw [end?, before]; rfl, ?_⟩
      have lt := (List.getElem?_eq_some_iff.1 before).1
      rw [end?, List.getElem?_set_self lt]
      rfl
    · exact .inl (by rw [end?, List.getElem?_set_ne same, end?])
  | ask | answer | expire | tick => exact .inl rfl

theorem Move.end?_stays (m : Move wait t a u) (h : t.Keeps) {k : Nat} {e : Nat × LoadSource}
    (ended : t.end? k = some e) : u.end? k = some e := by
  rcases m.end?_cases h k with same | ⟨-, -, before, -⟩
  · rw [same, ended]
  · rw [ended] at before
    cases before

theorem Move.now_le (m : Move wait t a u) : t.now ≤ u.now := by
  cases m with
  | tick => exact Nat.le_succ _
  | load | finish | ask | answer | expire => exact Nat.le_refl _

/-! ### What is answered -/

/-- The answer is right that was given to someone who asked at some time about a load. -/
def Given (wait : Nat) (t : PreferenceTimeline) (time : Nat) (p : Preferences) :
    Option Nat → Prop
  | none => p = .default
  | some k =>
    match t.end? k with
    | some (e, source) =>
      p = source.outcome ∧ e ≤ time + wait ∨ p = .default ∧ time + wait ≤ e
    | none => p = .default ∧ time + wait ≤ t.now

theorem Given.step {load : Option Nat} {time : Nat} {p : Preferences}
    (h : t.Given wait time p load) (keeps : t.Keeps) (m : Move wait t a u) :
    u.Given wait time p load := by
  cases load with
  | none => exact h
  | some k =>
    have now := m.now_le
    simp only [Given] at h ⊢
    rcases m.end?_cases keeps k with e | ⟨source, -, before, after⟩
    · rw [e]
      cases ended : t.end? k with
      | some _ =>
        rw [ended] at h
        exact h
      | none =>
        rw [ended] at h
        exact ⟨h.1, Nat.le_trans h.2 now⟩
    · rw [before] at h
      rw [after]
      exact .inr h

/-- What holds of every state of the service: the loads stand where their sources have put them,
nobody waits too long, and every answer is right. -/
structure Sound (wait : Nat) (t : PreferenceTimeline) : Prop where
  keeps : t.Keeps
  past : ∀ k e source, t.end? k = some (e, source) → e ≤ t.now
  asked : t.asked.length = t.service.inquiries.length
  early : ∀ i load time, t.IsOpen i load time → t.now ≤ time + wait
  given : ∀ (i : Nat) load p time, t.service.inquiries[i]? = some ⟨load, some p⟩ →
    t.asked[i]? = some time → t.Given wait time p load

theorem sound_empty : Sound wait {} where
  keeps := rfl
  past _ _ _ h := by cases h
  asked := rfl
  early _ _ _ h := by cases h.1
  given _ _ _ _ h := by cases h

/-- An inquiry is answered. -/
theorem getElem?_give {i : Nat} {load : Option Nat}
    (asks : t.service.inquiries[i]? = some ⟨load, none⟩) (p : Preferences) (j : Nat) :
    (t.give i load p).service.inquiries[j]? =
      if i = j then some ⟨load, some p⟩ else t.service.inquiries[j]? := by
  show (t.service.inquiries.set i _)[j]? = _
  split_ifs with same
  · subst same
    exact List.getElem?_set_self (List.getElem?_eq_some_iff.1 asks).1
  · exact List.getElem?_set_ne same

/-- An inquiry is an old one, or was just made. -/
theorem ask_cases (h : t.asked.length = t.service.inquiries.length) {i time : Nat} {q : Inquiry}
    (asks : t.service.ask.inquiries[i]? = some q)
    (asked : (t.asked ++ [t.now])[i]? = some time) :
    t.service.inquiries[i]? = some q ∧ t.asked[i]? = some time ∨
      q = ⟨t.service.current, none⟩ ∧ time = t.now := by
  change (t.service.inquiries ++ [⟨t.service.current, none⟩])[i]? = some q at asks
  by_cases lt : i < t.asked.length
  · rw [List.getElem?_append_left (h ▸ lt)] at asks
    rw [List.getElem?_append_left lt] at asked
    exact .inl ⟨asks, asked⟩
  · have le := Nat.le_of_not_lt lt
    rw [List.getElem?_append_right (h ▸ le), List.getElem?_singleton] at asks
    rw [List.getElem?_append_right le, List.getElem?_singleton] at asked
    split_ifs at asks asked
    exact .inr ⟨(Option.some.inj asks).symm, (Option.some.inj asked).symm⟩

theorem Sound.answered (h : t.Sound wait) {i : Nat} {load : Option Nat} {p : Preferences}
    (asks : t.service.inquiries[i]? = some ⟨load, none⟩)
    (right : ∀ time, t.asked[i]? = some time → t.Given wait time p load) :
    (t.give i load p).Sound wait where
  keeps := h.keeps
  past := h.past
  asked := h.asked.trans List.length_set.symm
  early j load' time open' := by
    have asks' := open'.1
    rw [getElem?_give asks] at asks'
    split_ifs at asks' with same
    · cases asks'
    · exact h.early j load' time ⟨asks', open'.2⟩
  given j load' p' time asks' asked := by
    rw [getElem?_give asks] at asks'
    split_ifs at asks' with same
    · subst same
      cases asks'
      exact right time asked
    · exact h.given j load' p' time asks' asked

/-- The result of a load is what was given in time, if nobody waits too long. -/
theorem Sound.given_result (h : t.Sound wait) {load : Option Nat} {time : Nat} {p : Preferences}
    (early : t.now ≤ time + wait) (result : t.service.result? load = some p) :
    t.Given wait time p load := by
  cases load with
  | none => exact (Option.some.inj result).symm
  | some k =>
    rw [h.keeps.result?, Option.map_eq_some_iff] at result
    obtain ⟨⟨e, source⟩, ended, rfl⟩ := result
    rw [Given, ended]
    exact .inl ⟨rfl, Nat.le_trans (h.past k e source ended) early⟩

/-- The result of a load is the defaults if it is not there in time. -/
theorem Sound.given_default (h : t.Sound wait) {load : Option Nat} {time : Nat}
    (late : time + wait ≤ t.now) (result : t.service.result? load = none) :
    t.Given wait time .default load := by
  cases load with
  | none => cases result
  | some k =>
    rw [h.keeps.result?, Option.map_eq_none_iff] at result
    rw [Given, result]
    exact ⟨rfl, late⟩

theorem Sound.step (h : t.Sound wait) (m : Move wait t a u) : u.Sound wait := by
  have keeps := h.keeps.step m
  have past : ∀ k e source, u.end? k = some (e, source) → e ≤ u.now := by
    intro k e source ended
    rcases m.end?_cases h.keeps k with same | ⟨_, -, -, after⟩
    · exact Nat.le_trans (h.past k e source (same ▸ ended)) m.now_le
    · rw [after] at ended
      cases ended
      exact m.now_le
  have given : ∀ (i : Nat) load p time, t.service.inquiries[i]? = some ⟨load, some p⟩ →
      t.asked[i]? = some time → u.Given wait time p load := fun i load p time given asked =>
    (h.given i load p time given asked).step h.keeps m
  cases m with
  | load | finish => exact ⟨keeps, past, h.asked, h.early, given⟩
  | tick early => exact ⟨keeps, past, h.asked, early, given⟩
  | ask =>
    refine ⟨keeps, past, ?_, fun i load time asks => ?_, fun i load p time asks asked => ?_⟩
    · simp [PreferenceService.ask, h.asked]
    · rcases ask_cases h.asked asks.1 asks.2 with old | ⟨-, rfl⟩
      · exact h.early i load time old
      · exact Nat.le_add_right _ _
    · rcases ask_cases h.asked asks asked with old | ⟨e, -⟩
      · exact given i load p time old.1 old.2
      · cases e
  | @answer i load p asks result =>
    refine h.answered asks fun time asked => ?_
    exact h.given_result (h.early i load time ⟨asks, asked⟩) result
  | @expire i load time asks late =>
    refine h.answered asks.1 fun time' asked => ?_
    obtain rfl := Option.some.inj (asks.2.symm.trans asked)
    cases result : t.service.result? load with
    | none => exact h.given_default late result
    | some p => exact h.given_result (h.early i load time asks) result

/-! ### Runs -/

/-- The time after some actions. -/
def clock (actions : List PreferenceAction) : Nat := actions.count .tick

/-- The newest load that some actions have started. -/
def newest (actions : List PreferenceAction) : Option Nat :=
  if actions.count .load = 0 then none else some (actions.count .load - 1)

variable {actions : List PreferenceAction}

theorem sound_of_run (h : Machine.run (step wait) actions t = some u) (hs : t.Sound wait) :
    u.Sound wait :=
  Machine.run_invariant (fun _ _ _ ha hs => hs.step (move_of_step ha)) h hs

theorem Move.counts (m : Move wait t a u) :
    u.now = t.now + [a].count .tick ∧
      u.service.loads.length = t.service.loads.length + [a].count .load ∧
      u.asked.length = t.asked.length + [a].count .ask := by
  cases m <;> simp [PreferenceService.load, PreferenceService.ask, give]

/-- Time, loads and inquiries are counted by the actions. -/
theorem count_of_run (h : Machine.run (step wait) actions t = some u) :
    u.now = t.now + actions.count .tick ∧
      u.service.loads.length = t.service.loads.length + actions.count .load ∧
      u.asked.length = t.asked.length + actions.count .ask := by
  induction actions generalizing t with
  | nil =>
    obtain rfl := Option.some.inj h
    exact ⟨rfl, rfl, rfl⟩
  | cons a actions ih =>
    rw [Machine.run_cons, Option.bind_eq_some_iff] at h
    obtain ⟨v, first, rest⟩ := h
    obtain ⟨now, loads, asked⟩ := ih rest
    obtain ⟨now', loads', asked'⟩ := (move_of_step first).counts
    rw [← List.singleton_append, List.count_append, List.count_append, List.count_append]
    omega

/-- An inquiry stays as it is, or gets the result of its load as an answer. -/
theorem Move.inquiry_cases (m : Move wait t a u) {i : Nat} {load : Option Nat}
    {answer : Option Preferences} (asks : t.service.inquiries[i]? = some ⟨load, answer⟩) :
    u.service.inquiries[i]? = some ⟨load, answer⟩ ∨ answer = none ∧
      u.service.inquiries[i]? = some ⟨load, some ((t.service.result? load).getD .default)⟩ := by
  have given : ∀ {j : Nat} {load' : Option Nat} {p : Preferences},
      t.service.inquiries[j]? = some ⟨load', none⟩ →
      p = (t.service.result? load').getD .default →
      (t.give j load' p).service.inquiries[i]? = some ⟨load, answer⟩ ∨ answer = none ∧
        (t.give j load' p).service.inquiries[i]? =
          some ⟨load, some ((t.service.result? load).getD .default)⟩ := by
    intro j load' p asks' result
    rw [getElem?_give asks', result]
    split_ifs with same
    · subst same
      cases asks.symm.trans asks'
      exact .inr ⟨rfl, rfl⟩
    · exact .inl asks
  cases m with
  | load | finish | tick => exact .inl asks
  | ask => exact .inl ((List.getElem?_append_left (List.getElem?_eq_some_iff.1 asks).1).trans asks)
  | answer asks' result => exact given asks' (by rw [result]; rfl)
  | expire asks' => exact given asks'.1 rfl

theorem Move.asked (m : Move wait t a u) {i time : Nat} (h : t.asked[i]? = some time) :
    u.asked[i]? = some time := by
  cases m with
  | ask => exact (List.getElem?_append_left (List.getElem?_eq_some_iff.1 h).1).trans h
  | load | finish | tick | answer | expire => exact h

/-- What is asked about, and when, stays. -/
theorem inquiry_of_run (h : Machine.run (step wait) actions t = some u) {i time : Nat}
    {load : Option Nat} {answer : Option Preferences}
    (asks : t.service.inquiries[i]? = some ⟨load, answer⟩) (asked : t.asked[i]? = some time) :
    ∃ answer, u.service.inquiries[i]? = some ⟨load, answer⟩ ∧ u.asked[i]? = some time := by
  refine Machine.run_invariant (P := fun t => ∃ answer,
    t.service.inquiries[i]? = some ⟨load, answer⟩ ∧ t.asked[i]? = some time) ?_ h ⟨_, asks, asked⟩
  rintro a t u ha ⟨answer, asks, asked⟩
  have m := move_of_step ha
  rcases m.inquiry_cases asks with same | ⟨-, given⟩
  · exact ⟨_, same, m.asked asked⟩
  · exact ⟨_, given, m.asked asked⟩

/-- Who asks about a load that has ended gets what its source gave. -/
theorem given_of_ended (h : Machine.run (step wait) actions t = some u) (keeps : t.Keeps)
    {k e : Nat} {source : LoadSource} (ended : t.end? k = some (e, source)) {i : Nat}
    (asks : t.service.inquiries[i]? = some ⟨some k, none⟩) {p : Preferences}
    (given : u.service.inquiries[i]? = some ⟨some k, some p⟩) : p = source.outcome := by
  have settled : u.Keeps ∧ u.end? k = some (e, source) ∧
      (u.service.inquiries[i]? = some ⟨some k, none⟩ ∨
        u.service.inquiries[i]? = some ⟨some k, some source.outcome⟩) := by
    refine Machine.run_invariant (P := fun t => t.Keeps ∧ t.end? k = some (e, source) ∧
      (t.service.inquiries[i]? = some ⟨some k, none⟩ ∨
        t.service.inquiries[i]? = some ⟨some k, some source.outcome⟩)) ?_ h
      ⟨keeps, ended, .inl asks⟩
    rintro a t u ha ⟨keeps, ended, asks⟩
    have m := move_of_step ha
    refine ⟨keeps.step m, m.end?_stays keeps ended, ?_⟩
    rcases asks with asks | asks
    · rcases m.inquiry_cases asks with same | ⟨-, given⟩
      · exact .inl same
      · rw [keeps.result?, ended] at given
        exact .inr given
    · exact .inr ((m.inquiry_cases asks).resolve_right fun given => by cases given.1)
  rcases settled.2.2 with e | e <;> rw [e] at given <;> cases given
  rfl

/-- Once a load has ended, this stays. -/
theorem end?_of_run (h : Machine.run (step wait) actions t = some u) (keeps : t.Keeps) {k : Nat}
    {e : Nat × LoadSource} (ended : t.end? k = some e) : u.end? k = some e :=
  (Machine.run_invariant (P := fun t => t.Keeps ∧ t.end? k = some e)
    (fun _ _ _ ha hs => ⟨hs.1.step (move_of_step ha), (move_of_step ha).end?_stays hs.1 hs.2⟩) h
    ⟨keeps, ended⟩).2

/-- A load that no action ends goes on. -/
theorem end?_eq_none (h : Machine.run (step wait) actions t = some u) (keeps : t.Keeps) {k : Nat}
    (never : ∀ source, .finish k source ∉ actions) (before : t.end? k = none) :
    u.end? k = none := by
  induction actions generalizing t with
  | nil =>
    obtain rfl := Option.some.inj h
    exact before
  | cons a actions ih =>
    rw [Machine.run_cons, Option.bind_eq_some_iff] at h
    obtain ⟨v, first, rest⟩ := h
    have m := move_of_step first
    refine ih rest (keeps.step m) (fun source hs => never source (List.mem_cons_of_mem _ hs)) ?_
    rcases m.end?_cases keeps k with same | ⟨source, rfl, -, -⟩
    · rw [same, before]
    · exact absurd List.mem_cons_self (never source)

/-- An action that ends a load does so. -/
theorem end?_finish {k : Nat} {source : LoadSource} (keeps : t.Keeps)
    (h : step wait (.finish k source) t = some u) : u.end? k = some (t.now, source) := by
  cases move_of_step h with
  | finish running =>
    have lt := (List.getElem?_eq_some_iff.1 (keeps.running running)).1
    rw [end?, List.getElem?_set_self lt]
    rfl

/-! ### Two sources -/

/-- Two services differ in nothing but what the source of one load gave, and what those were
answered who asked about it. -/
structure Agrees (k : Nat) (t t' : PreferenceTimeline) : Prop where
  now : t'.now = t.now
  asked : t'.asked = t.asked
  length : t'.service.loads.length = t.service.loads.length
  loads : ∀ j, j ≠ k → t'.service.loads[j]? = t.service.loads[j]?
  ended : (t.service.result? (some k)).isSome ∧ (t'.service.result? (some k)).isSome
  count : t'.service.inquiries.length = t.service.inquiries.length
  unanswered : ∀ (i : Nat) load,
    t'.service.inquiries[i]? = some ⟨load, none⟩ ↔ t.service.inquiries[i]? = some ⟨load, none⟩
  others : ∀ (i : Nat) q, q.load ≠ some k →
    (t'.service.inquiries[i]? = some q ↔ t.service.inquiries[i]? = some q)

namespace Agrees

variable {k : Nat} {t' : PreferenceTimeline}

theorem result? (h : Agrees k t t') {load : Option Nat} (other : load ≠ some k) :
    t'.service.result? load = t.service.result? load := by
  cases load with
  | none => rfl
  | some j =>
    have same := h.loads j fun e => other (e ▸ rfl)
    simp only [PreferenceService.result?, same]

theorem give (h : Agrees k t t') {i : Nat} {load : Option Nat} {p p' : Preferences}
    (asks : t.service.inquiries[i]? = some ⟨load, none⟩) (same : load ≠ some k → p' = p) :
    Agrees k (t.give i load p) (t'.give i load p') := by
  have asks' := (h.unanswered i load).2 asks
  refine ⟨h.now, h.asked, h.length, h.loads, h.ended, ?_, fun j load' => ?_, fun j q other => ?_⟩
  · simp [PreferenceTimeline.give, h.count]
  · rw [getElem?_give asks, getElem?_give asks']
    split_ifs
    · simp
    · exact h.unanswered j load'
  · rw [getElem?_give asks, getElem?_give asks']
    split_ifs
    · by_cases about : load = some k
      · constructor <;> intro e <;> exact absurd ((Option.some.inj e) ▸ about) other
      · rw [same about]
    · exact h.others j q other

theorem ask (h : Agrees k t t') : t'.service.ask.inquiries.length = t.service.ask.inquiries.length ∧
    ∀ (i : Nat) q, (t'.service.inquiries[i]? = some q ↔ t.service.inquiries[i]? = some q) →
      (t'.service.ask.inquiries[i]? = some q ↔ t.service.ask.inquiries[i]? = some q) := by
  have current : t'.service.current = t.service.current := by
    simp only [PreferenceService.current, List.isEmpty_iff_length_eq_zero, h.length]
  refine ⟨by simp [PreferenceService.ask, h.count], fun i q same => ?_⟩
  show (t'.service.inquiries ++ [⟨t'.service.current, none⟩])[i]? = some q ↔
    (t.service.inquiries ++ [⟨t.service.current, none⟩])[i]? = some q
  rw [current, List.getElem?_append, List.getElem?_append, h.count]
  split_ifs
  · exact same
  · rfl

theorem result?_load {s : PreferenceService} (h : k < s.loads.length) :
    s.load.result? (some k) = s.result? (some k) := by
  show ((s.loads ++ [.running])[k]?).bind _ = (s.loads[k]?).bind _
  rw [List.getElem?_append_left h]

/-- What one service does the other does as well. -/
theorem follow (h : Agrees k t t') (m : Move wait t a u) :
    ∃ u', Move wait t' a u' ∧ Agrees k u u' := by
  cases m with
  | load =>
    have inside : k < t.service.loads.length := by
      obtain ⟨p, hp⟩ := Option.isSome_iff_exists.1 h.ended.1
      obtain ⟨state, hs, -⟩ := Option.bind_eq_some_iff.1 hp
      exact (List.getElem?_eq_some_iff.1 hs).1
    refine ⟨_, .load, h.now, h.asked, ?_, fun j other => ?_, ?_, h.count, h.unanswered, h.others⟩
    · simp [PreferenceService.load, h.length]
    · show (t'.service.loads ++ [.running])[j]? = (t.service.loads ++ [.running])[j]?
      rw [List.getElem?_append, List.getElem?_append, h.length, h.loads j other]
    · rw [result?_load inside, result?_load (h.length ▸ inside)]
      exact h.ended
  | @finish j source running =>
    have other : j ≠ k := by
      rintro rfl
      have none := h.ended.1
      rw [PreferenceService.result?, running] at none
      cases none
    have running' : t'.service.loads[j]? = some .running := (h.loads j other).trans running
    refine ⟨_, .finish running', h.now, h.asked, ?_, fun i hi => ?_, ?_, h.count, h.unanswered,
      h.others⟩
    · simp [h.length]
    · show (t'.service.loads.set j _)[i]? = (t.service.loads.set j _)[i]?
      rw [List.getElem?_set, List.getElem?_set, h.length, h.loads i hi]
    · simp only [PreferenceService.result?, List.getElem?_set_ne other]
      exact h.ended
  | ask =>
    obtain ⟨count, same⟩ := h.ask
    exact ⟨_, .ask, h.now, by simp [h.asked, h.now], h.length, h.loads, h.ended, count,
      fun i load => same i _ (h.unanswered i load), fun i q other => same i q (h.others i q other)⟩
  | @answer i load p asks result =>
    have asks' := (h.unanswered i load).2 asks
    by_cases about : load = some k
    · obtain ⟨p', result'⟩ := Option.isSome_iff_exists.1 h.ended.2
      exact ⟨_, .answer asks' (about ▸ result'), h.give asks (absurd about)⟩
    · exact ⟨_, .answer asks' ((h.result? about).trans result), h.give asks fun _ => rfl⟩
  | @expire i load time asks late =>
    have asks' : t'.IsOpen i load time := ⟨(h.unanswered i load).2 asks.1, h.asked ▸ asks.2⟩
    refine ⟨_, .expire asks' (h.now ▸ late), h.give asks.1 fun about => ?_⟩
    rw [h.result? about]
  | tick early =>
    refine ⟨_, .tick fun i load time asks => ?_, congrArg (· + 1) h.now, h.asked, h.length, h.loads,
      h.ended, h.count, h.unanswered, h.others⟩
    rw [h.now]
    exact early i load time ⟨(h.unanswered i load).1 asks.1, h.asked ▸ asks.2⟩

theorem follow_run (h : Agrees k t t') (hr : Machine.run (step wait) actions t = some u) :
    ∃ u', Machine.run (step wait) actions t' = some u' ∧ Agrees k u u' := by
  induction actions generalizing t t' with
  | nil =>
    obtain rfl := Option.some.inj hr
    exact ⟨t', rfl, h⟩
  | cons a actions ih =>
    rw [Machine.run_cons, Option.bind_eq_some_iff] at hr
    obtain ⟨v, first, rest⟩ := hr
    obtain ⟨v', first', agrees⟩ := h.follow (move_of_step first)
    rw [Machine.run_cons, step_of_move first']
    exact ih agrees rest

end Agrees

/-- Two sources of one load. -/
theorem agrees_finish {k : Nat} {source : LoadSource} (other : LoadSource)
    (h : step wait (.finish k source) t = some u) :
    ∃ u', step wait (.finish k other) t = some u' ∧ Agrees k u u' := by
  cases move_of_step h with
  | finish running =>
    have lt := (List.getElem?_eq_some_iff.1 running).1
    have ended : ∀ source : LoadSource,
        ((t.service.loads.set k source.state)[k]?.bind LoadState.result?).isSome := by
      intro source
      rw [List.getElem?_set_self lt, Option.bind_some, source.result?_state]
      rfl
    refine ⟨_, step_of_move (.finish running), rfl, rfl, ?_, fun j hj => ?_,
      ⟨ended source, ended other⟩, rfl, fun _ _ => Iff.rfl, fun _ _ _ => Iff.rfl⟩
    · simp
    · show (t.service.loads.set k _)[j]? = (t.service.loads.set k _)[j]?
      rw [List.getElem?_set_ne hj.symm, List.getElem?_set_ne hj.symm]

/-- What is asked about stays; someone new asks about the newest load. -/
theorem Move.load_cases (m : Move wait t a u) {i : Nat} {q : Inquiry}
    (asks : u.service.inquiries[i]? = some q) :
    (∃ before, t.service.inquiries[i]? = some before ∧ before.load = q.load) ∨
      q.load = t.service.current := by
  have given : ∀ {j : Nat} {load : Option Nat} {p : Preferences},
      t.service.inquiries[j]? = some ⟨load, none⟩ →
      (t.give j load p).service.inquiries[i]? = some q →
      ∃ before, t.service.inquiries[i]? = some before ∧ before.load = q.load := by
    intro j load p asks' given
    rw [getElem?_give asks'] at given
    split_ifs at given with same
    · subst same
      obtain rfl := Option.some.inj given
      exact ⟨_, asks', rfl⟩
    · exact ⟨q, given, rfl⟩
  cases m with
  | load | finish | tick => exact .inl ⟨q, asks, rfl⟩
  | ask =>
    change (t.service.inquiries ++ [⟨t.service.current, none⟩])[i]? = some q at asks
    rw [List.getElem?_append, List.getElem?_singleton] at asks
    split_ifs at asks
    · exact .inl ⟨q, asks, rfl⟩
    · exact .inr (Option.some.inj asks ▸ rfl)
  | answer asks' => exact .inl (given asks' asks)
  | expire asks' => exact .inl (given asks'.1 asks)

/-- Nobody asks any more about a load that another one has replaced. -/
theorem load_ne_of_run (h : Machine.run (step wait) actions t = some u) {k : Nat}
    (replaced : k + 1 < t.service.loads.length) {i : Nat} (later : t.service.inquiries.length ≤ i)
    {q : Inquiry} (asks : u.service.inquiries[i]? = some q) : q.load ≠ some k := by
  have kept : k + 1 < u.service.loads.length ∧
      ∀ q, u.service.inquiries[i]? = some q → q.load ≠ some k := by
    refine Machine.run_invariant (P := fun t => k + 1 < t.service.loads.length ∧
      ∀ q, t.service.inquiries[i]? = some q → q.load ≠ some k) ?_ h ⟨replaced, ?_⟩
    · rintro a t u ha ⟨replaced, others⟩
      have m := move_of_step ha
      have length := m.counts.2.1
      refine ⟨by omega, fun q asks => ?_⟩
      rcases m.load_cases asks with ⟨before, asked, same⟩ | newest
      · exact same ▸ others before asked
      · rw [newest, PreferenceService.current]
        split_ifs
        · intro e
          cases e
        · intro e
          have := Option.some.inj e
          omega
    · intro q asks
      rw [List.getElem?_eq_none later] at asks
      cases asks
  exact kept.2 q asks

/-! ### Whole runs -/

section Whole

variable {before after : List PreferenceAction}

theorem newest_eq (h : Machine.run (step wait) actions {} = some t) :
    t.service.current = newest actions := by
  have length := (count_of_run h).2.1
  simp only [List.length_nil, Nat.zero_add] at length
  simp only [PreferenceService.current, newest, List.isEmpty_iff_length_eq_zero, length]

/-- The inquiry made in the midst of a run is about the newest load. -/
theorem inquiry_made (h : Machine.run (step wait) (before ++ .ask :: after) {} = some t) :
    ∃ u v, Machine.run (step wait) before {} = some u ∧ Machine.run (step wait) after v = some t ∧
      v.Sound wait ∧ (∀ k, v.end? k = u.end? k) ∧
      v.service.inquiries[before.count .ask]? = some ⟨newest before, none⟩ ∧
      v.asked[before.count .ask]? = some (clock before) := by
  rw [Machine.run_append, Option.bind_eq_some_iff] at h
  obtain ⟨u, first, rest⟩ := h
  rw [Machine.run_cons, Option.bind_eq_some_iff] at rest
  obtain ⟨v, asks, rest⟩ := rest
  have sound := sound_of_run first sound_empty
  obtain ⟨now, -, asked⟩ := count_of_run first
  simp only [List.length_nil, Nat.zero_add] at asked now
  obtain rfl := Option.some.inj asks
  refine ⟨u, _, first, rest, sound.step .ask, fun _ => rfl, ?_, ?_⟩
  · show (u.service.inquiries ++ [⟨u.service.current, none⟩])[_]? = _
    rw [newest_eq first, ← asked, sound.asked, List.getElem?_concat_length]
  · show (u.asked ++ [u.now])[_]? = _
    rw [← asked, List.getElem?_concat_length, now, clock]

theorem end?_of_finish {first rest : List PreferenceAction} {k : Nat} {source : LoadSource}
    (h : Machine.run (step wait) (first ++ .finish k source :: rest) {} = some t) :
    t.end? k = some (clock first, source) := by
  rw [Machine.run_append, Option.bind_eq_some_iff] at h
  obtain ⟨u, before, after⟩ := h
  rw [Machine.run_cons, Option.bind_eq_some_iff] at after
  obtain ⟨v, ends, after⟩ := after
  have keeps := (sound_of_run before sound_empty).keeps
  have now := (count_of_run before).1
  simp only [Nat.zero_add] at now
  rw [end?_of_run after (keeps.step (move_of_step ends)) (end?_finish keeps ends), now, clock]

/-- Who asks waits for a bounded time, and can be answered then, or once the load has ended. -/
theorem waits (h : Machine.run (step wait) (before ++ .ask :: after) {} = some t)
    (asks : t.service.inquiries[before.count .ask]? = some ⟨newest before, none⟩) :
    t.now ≤ clock before + wait ∧
      (t.now = clock before + wait → (step wait (.expire (before.count .ask)) t).isSome) ∧
      ((newest before = none ∨ ∃ k source, newest before = some k ∧
          .finish k source ∈ before ++ .ask :: after) →
        (step wait (.answer (before.count .ask)) t).isSome) := by
  have sound := sound_of_run h sound_empty
  obtain ⟨u, v, -, rest, -, -, made, asked⟩ := inquiry_made h
  obtain ⟨-, -, asked⟩ := inquiry_of_run rest made asked
  refine ⟨sound.early _ _ _ ⟨asks, asked⟩, fun late => ?_, fun ended => ?_⟩
  · rw [step_of_move (.expire ⟨asks, asked⟩ (Nat.le_of_eq late.symm))]
    rfl
  · obtain ⟨p, result⟩ : ∃ p, t.service.result? (newest before) = some p := by
      rcases ended with none | ⟨k, source, some, ends⟩
      · exact ⟨.default, by rw [none]; rfl⟩
      · obtain ⟨first, rest, e⟩ := List.append_of_mem ends
        rw [e] at h
        exact ⟨source.outcome, by rw [some, sound.keeps.result?, end?_of_finish h]; rfl⟩
    rw [step_of_move (.answer asks result)]
    rfl

/-- A load that ended before someone asked. -/
theorem ended_before {first rest : List PreferenceAction} {k : Nat} {source : LoadSource}
    (split : before ++ .ask :: after = first ++ .finish k source :: rest)
    (earlier : first.length < before.length) :
    ∃ more, before = first ++ .finish k source :: more := by
  rcases List.append_eq_append_iff.1 split with ⟨more, e, -⟩ | ⟨more, e, tail⟩
  · rw [e, List.length_append] at earlier
    omega
  · cases more with
    | nil => cases tail
    | cons b more =>
      obtain ⟨rfl, -⟩ := List.cons.inj tail
      exact ⟨more, e⟩

/-- Who asked is answered by the newest load, if it ends in time, and with the defaults else. -/
theorem given_by_newest (h : Machine.run (step wait) (before ++ .ask :: after) {} = some t)
    {p : Preferences}
    (given : t.service.inquiries[before.count .ask]? = some ⟨newest before, some p⟩) :
    (newest before = none → p = .default) ∧ ∀ k, newest before = some k →
      (∀ first source rest, before ++ .ask :: after = first ++ .finish k source :: rest →
        (first.length < before.length ∨ clock first < clock before + wait → p = source.outcome) ∧
        (clock before + wait < clock first → p = .default) ∧
        (p = source.outcome ∨ p = .default)) ∧
      ((∀ source, .finish k source ∉ before ++ .ask :: after) → p = .default) := by
  obtain ⟨u, v, past, rest, sound, ends, made, asked⟩ := inquiry_made h
  obtain ⟨-, -, asked⟩ := inquiry_of_run rest made asked
  have due := (sound_of_run rest sound).given _ _ _ _ given asked
  refine ⟨fun none => ?_, fun k some => ⟨fun first source last split => ?_, fun never => ?_⟩⟩
  · rw [none] at due
    exact due
  · rw [some, Given, end?_of_finish (split ▸ h)] at due
    refine ⟨fun early => ?_, fun late => ?_, due.imp And.left And.left⟩
    · rcases early with earlier | early
      · obtain ⟨more, e⟩ := ended_before split earlier
        rw [some] at made given
        have ended := (ends k).trans (end?_of_finish (e ▸ past))
        exact given_of_ended rest sound.keeps ended made given
      · exact (due.resolve_right fun late => Nat.not_le_of_lt early late.2).1
    · exact (due.resolve_left fun early => Nat.not_le_of_lt late early.2).1
  · rw [some, Given, end?_eq_none h rfl never rfl] at due
    exact due.1

/-- What the source of a load gives that was replaced before it ended matters to nobody who asks
later. -/
theorem replaced_load {first second rest : List PreferenceAction} {k : Nat} {source : LoadSource}
    (h : Machine.run (step wait) (first ++ second ++ .finish k source :: rest) {} = some t)
    (replaced : k + 1 < first.count .load) (other : LoadSource) :
    ∃ t', Machine.run (step wait) (first ++ second ++ .finish k other :: rest) {} = some t' ∧
      ∀ i, first.count .ask ≤ i → t'.service.inquiries[i]? = t.service.inquiries[i]? := by
  rw [Machine.run_append, Option.bind_eq_some_iff] at h
  obtain ⟨u, past, next⟩ := h
  rw [Machine.run_cons, Option.bind_eq_some_iff] at next
  obtain ⟨v, ends, next⟩ := next
  obtain ⟨v', ends', agrees⟩ := agrees_finish other ends
  obtain ⟨t', next', agrees⟩ := agrees.follow_run next
  refine ⟨t', by rw [Machine.run_append, past, Option.bind_some, Machine.run_cons, ends',
    Option.bind_some, next'], fun i later => ?_⟩
  have others : ∀ q, t.service.inquiries[i]? = some q → q.load ≠ some k := by
    rw [Machine.run_append, Option.bind_eq_some_iff] at past
    obtain ⟨s, start, past⟩ := past
    obtain ⟨-, loads, asked⟩ := count_of_run start
    have sound := sound_of_run start sound_empty
    simp only [List.length_nil, Nat.zero_add] at loads asked
    have whole : Machine.run (step wait) (second ++ .finish k source :: rest) s = some t := by
      rw [Machine.run_append, past, Option.bind_some, Machine.run_cons, ends, Option.bind_some,
        next]
    intro q asks
    exact load_ne_of_run whole (loads ▸ replaced) (sound.asked ▸ asked ▸ later) asks
  cases asks : t.service.inquiries[i]? with
  | none =>
    rw [List.getElem?_eq_none_iff] at asks ⊢
    rwa [agrees.count]
  | some q => exact (agrees.others i q (others q asks)).2 asks

end Whole

/-- **Who asks gets what the newest load gives.** Someone who asks in the midst of a run asks about
the newest load, waits for a bounded time, and can be answered once this load or the time has ended.
The answer is what the source of this load gave, if it ended before or in time, and the defaults if
it ended late, never ended, or there was no load. What the source of another load gives that was
replaced matters to nobody who asks later. A source gives what the octets say, and the defaults as a
whole if they say nothing or if there are none; the octets of a text with a tree say what the tree
denotes. -/
theorem get_newest_load (wait : Nat) :
    (∀ before after t, Machine.run (step wait) (before ++ .ask :: after) {} = some t →
      ∃ answer, t.service.inquiries[before.count .ask]? = some ⟨newest before, answer⟩ ∧
        (answer = none →
          t.now ≤ clock before + wait ∧
          (t.now = clock before + wait → (step wait (.expire (before.count .ask)) t).isSome) ∧
          ((newest before = none ∨ ∃ k source, newest before = some k ∧
              .finish k source ∈ before ++ .ask :: after) →
            (step wait (.answer (before.count .ask)) t).isSome)) ∧
        ∀ p, answer = some p →
          (newest before = none → p = .default) ∧ ∀ k, newest before = some k →
            (∀ first source rest, before ++ .ask :: after = first ++ .finish k source :: rest →
              (first.length < before.length ∨ clock first < clock before + wait →
                p = source.outcome) ∧
              (clock before + wait < clock first → p = .default) ∧
              (p = source.outcome ∨ p = .default)) ∧
            ((∀ source, .finish k source ∉ before ++ .ask :: after) → p = .default)) ∧
    (∀ first second rest k source t, k + 1 < first.count .load →
      Machine.run (step wait) (first ++ second ++ .finish k source :: rest) {} = some t →
      ∀ other, ∃ t',
        Machine.run (step wait) (first ++ second ++ .finish k other :: rest) {} = some t' ∧
        ∀ i, first.count .ask ≤ i → t'.service.inquiries[i]? = t.service.inquiries[i]?) ∧
    LoadSource.outcome .unreadable = .default ∧ LoadSource.outcome .panicked = .default ∧
    (∀ bytes, LoadSource.outcome (.content bytes) =
      (Preferences.parse bytes).toOption.getD .default) ∧
    ∀ depth text j, Json.readAll (Json.value depth) text = .ok j →
      LoadSource.outcome (.ofText text) = (Preferences.ofTree? j).getD .default := by
  refine ⟨fun before after t h => ?_, fun first second rest k source t replaced h other =>
    replaced_load h replaced other, rfl, rfl, LoadSource.outcome_content,
    fun depth text j => LoadSource.outcome_ofText⟩
  obtain ⟨u, v, -, rest, -, -, made, asked⟩ := inquiry_made h
  obtain ⟨answer, asks, -⟩ := inquiry_of_run rest made asked
  refine ⟨answer, asks, fun none => waits h (none ▸ asks), fun p given => ?_⟩
  exact given_by_newest h (given ▸ asks)

/-- A load, and another one that takes its place; someone asks, and is answered by the second. -/
def sampleSecond : List PreferenceAction :=
  [.tick, .finish 1 (.ofText "\x7b\"read_timeout_ms\":7\x7d"), .answer 0]

/-- The first load ends, and someone else asks. -/
def sampleFirst (source : LoadSource) : List PreferenceAction :=
  [.finish 0 source, .ask, .answer 1]

theorem get_newest_load_sample :
    ∃ t t', Machine.run (step 3) ([.load, .load] ++ .ask :: (sampleSecond ++ sampleFirst .panicked))
        {} = some t ∧
      t.service.inquiries[0]? = some ⟨some 1, some ⟨[], 7⟩⟩ ∧
      Machine.run (step 3) ([.load, .load] ++ (.ask :: sampleSecond) ++ sampleFirst .unreadable)
        {} = some t' ∧
      t'.service.inquiries[1]? = some ⟨some 1, some ⟨[], 7⟩⟩ := by
  have run : (Machine.run (step 3)
      ([.load, .load] ++ .ask :: (sampleSecond ++ sampleFirst .panicked)) {}).map
        (fun t => (t.service.inquiries[0]?.bind (·.answer.map fun _ => ()),
          t.service.inquiries[1]?)) =
      some (some (), some ⟨some 1, some ⟨[], 7⟩⟩) := by decide +kernel
  have tree : Json.readAll (Json.value 1) "\x7b\"read_timeout_ms\":7\x7d" =
      .ok (.obj [("read_timeout_ms", .num (.int 7))]) := by decide +kernel
  have text : LoadSource.outcome (.ofText "\x7b\"read_timeout_ms\":7\x7d") = ⟨[], 7⟩ :=
    (get_newest_load 3).2.2.2.2.2 _ _ _ tree
  obtain ⟨t, ht, facts⟩ := Option.map_eq_some_iff.1 run
  obtain ⟨answered, second⟩ := Prod.mk.inj facts
  obtain ⟨answer, asks, -, given⟩ := (get_newest_load 3).1 _ _ t ht
  obtain ⟨t', ht', same⟩ := (get_newest_load 3).2.1 [.load, .load] (.ask :: sampleSecond)
    [.ask, .answer 1] 0 .panicked t (by decide) ht .unreadable
  refine ⟨t, t', ht, ?_, ht', (same 1 (by decide)).trans second⟩
  change t.service.inquiries[0]? = some ⟨some 1, answer⟩ at asks
  cases answer with
  | none =>
    rw [asks] at answered
    cases answered
  | some p =>
    obtain ⟨-, newest⟩ := given p rfl
    obtain ⟨ends, -⟩ := newest 1 (by decide)
    have ended := (ends [.load, .load, .ask, .tick] _ (.answer 0 :: sampleFirst .panicked) rfl).1
      (.inr (by decide))
    rw [asks, ended, text]

end PreferenceTimeline

end PanelScript

import PanelScript.Proofs.Session.Watching

/-!
# Runs on connected values

A watcher that checks connections asks whether its inputs are connected when one of them changes. It
does not ask when it is requested to run the script.

* `HasSources`: every input has a value, and none has lost its source;
* `Context.IsConnected`: the script finds such a value for every input that its unit declares;
* `Qualified`: what was taken at a change was taken at one that runs the script; `qualified_of_run`
  says this of all that waits to be submitted or was submitted, after every run;
* `connected_unless_requested`: a watcher that checks connections submits other values only when it
  was requested to;
* `requested_while_disconnected`: this happens, and the script runs.
-/

namespace PanelScript

/-- After some actions every input of a watcher has a value, and none has lost its source. -/
def HasSources (inputs : List WatchedInput) (w : Nat) (actions : List SessionAction) : Prop :=
  ∀ k < inputs.length, ∃ v, lastRecorded w k actions = some v ∧ v.quality ≠ .disconnected

/-- The script finds a value for every input that the unit declares, and none has lost its
source. -/
def Context.IsConnected (u : ScriptUnit) (c : Context) : Prop :=
  ∀ (k : Nat) (name : String), u.inputs[k]? = some name →
    ∃ v, (Bindings.bind u.inputs c).inputs[k]? = some (name, v) ∧ v.quality ≠ .disconnected

section Given

variable {actions : List SessionAction} {p : Taking} {x : Watcher} {u : ScriptUnit} {c : Context}

theorem lastRecorded_take {w i n : Nat} (le : n ≤ actions.length) :
    lastRecorded w i (actions.take n) = (recorded w i actions n).map Prod.snd := by
  have length : (actions.take n).length = n := List.length_take_of_le le
  have whole := recorded_append (w := w) (i := i) (Nat.le_of_eq length.symm) (actions.drop n)
  rw [List.take_append_drop] at whole
  rw [lastRecorded, length, whole]

/-- A placeholder has no source. -/
theorem Given.connected_iff {i : Nat} {name : String} {v : LiveValue}
    (h : Given actions p i name v) (lt : p.place < actions.length) :
    v.quality ≠ .disconnected ↔ ∃ latest,
      lastRecorded p.watcher i (actions.take (p.place + 1)) = some latest ∧
        latest.quality ≠ .disconnected := by
  rw [lastRecorded_take lt]
  unfold Given at h
  cases found : recorded p.watcher i actions (p.place + 1) with
  | none =>
    rw [found] at h
    obtain ⟨now, rfl⟩ := h
    simp [LiveValue.disconnected]
  | some latest =>
    rw [found] at h
    obtain rfl := h
    simp

/-- The script finds connected values exactly if those recorded last were, when they were taken. -/
theorem isConnected_iff_hasSources (fits : x.inputs.length = u.inputs.length)
    (lt : p.place < actions.length)
    (given : ∀ k input, x.inputs[k]? = some input →
      ∃ v, c.values[k]? = some v ∧ Given actions p k input.name v) :
    c.IsConnected u ↔ HasSources x.inputs p.watcher (actions.take (p.place + 1)) := by
  have each (k : Nat) (hk : k < x.inputs.length) :
      ∃ v name, u.inputs[k]? = some name ∧
        (Bindings.bind u.inputs c).inputs[k]? = some (name, v) ∧
        Given actions p k x.inputs[k].name v := by
    obtain ⟨v, hv, g⟩ := given k _ (List.getElem?_eq_getElem hk)
    obtain ⟨name, hn⟩ : ∃ name, u.inputs[k]? = some name :=
      ⟨_, List.getElem?_eq_getElem (fits ▸ hk)⟩
    exact ⟨v, name, hn, List.getElem?_zip_eq_some.2 ⟨hn, hv⟩, g⟩
  constructor
  · intro connected k hk
    obtain ⟨v, name, hn, bound, g⟩ := each k hk
    obtain ⟨v', bound', source⟩ := connected k name hn
    obtain ⟨-, rfl⟩ := Prod.mk.inj (Option.some.inj (bound.symm.trans bound'))
    exact (g.connected_iff lt).1 source
  · intro sources k name hn
    have hk : k < x.inputs.length := fits ▸ (List.getElem?_eq_some_iff.1 hn).1
    obtain ⟨v, name', hn', bound, g⟩ := each k hk
    obtain rfl := Option.some.inj (hn'.symm.trans hn)
    exact ⟨v, bound, (g.connected_iff lt).2 (sources k hk)⟩

end Given

/-! ### What was taken at a change -/

/-- A change at which something was taken was one that runs the script. -/
structure Qualified (watchers : List Watcher) (actions : List SessionAction) (p : Taking) :
    Prop where
  lt : p.place < actions.length
  runs : ∀ i v now, actions[p.place]? = some (.change p.watcher i v now) →
    ∃ x, watchers[p.watcher]? = some x ∧
      Watcher.Runs x.inputs x.checksConnections p.watcher i (actions.take (p.place + 1))

/-- The run has gone further. -/
theorem Qualified.append {watchers : List Watcher} {actions : List SessionAction} {p : Taking}
    (h : Qualified watchers actions p) (rest : List SessionAction) :
    Qualified watchers (actions ++ rest) p := by
  refine ⟨List.length_append ▸ Nat.lt_add_right _ h.lt, fun i v now change => ?_⟩
  rw [List.getElem?_append_left h.lt] at change
  rw [List.take_append_of_le_length h.lt]
  exact h.runs i v now change

namespace Ledger

variable {l : Ledger} {a : SessionAction} {s : Session} {place : Nat} {p : Taking}

/-- What was taken at a change was what the watcher gave for it. -/
theorem mem_waiting_next (h : p ∈ (l.next place a s).waiting) : p ∈ l.waiting ∨
    p.place = place ∧ ∀ i v now, a = .change p.watcher i v now →
      ∃ x c, s.watchers[p.watcher]? = some x ∧ (x.record i v).context? i now = some c := by
  cases a with
  | change w i v now =>
    rcases List.mem_append.1 h with old | taken
    · exact .inl old
    · obtain ⟨c, hc, rfl⟩ := Option.map_eq_some_iff.1 (Option.mem_toList.1 taken)
      obtain ⟨x, hx, given⟩ := Option.bind_eq_some_iff.1 hc
      refine .inr ⟨rfl, fun i' v' now' same => ?_⟩
      cases same
      exact ⟨x, c, hx, given⟩
  | request w now =>
    rcases List.mem_append.1 h with old | taken
    · exact .inl old
    · obtain ⟨-, -, rfl⟩ := Option.map_eq_some_iff.1 (Option.mem_toList.1 taken)
      exact .inr ⟨rfl, nofun⟩
  | handIn i => exact .inl (List.mem_of_mem_eraseIdx h)
  | _ => exact .inl h

/-- What was submitted waited for it. -/
theorem mem_handed_next (h : some p ∈ (l.next place a s).handed) :
    some p ∈ l.handed ∨ p ∈ l.waiting := by
  cases a with
  | handIn i =>
    rcases List.mem_append.1 h with old | taken
    · exact .inl old
    · exact .inr (List.mem_of_getElem? (List.mem_singleton.1 taken).symm)
  | submit u c =>
    rcases List.mem_append.1 h with old | none
    · exact .inl old
    · cases List.mem_singleton.1 none
  | _ => exact .inl h

end Ledger

namespace Session

variable {o : Outside} {s t first : Session} {actions : List SessionAction}

/-- Whatever waits to be submitted or was submitted, if it was taken at a change, then at one that
runs the script. -/
theorem qualified_of_run (fresh : ∀ x ∈ first.watchers, x.IsFresh) (taken : first.taken = [])
    (submissions : first.support.submissions = [])
    (h : Machine.run (step o) actions first = some t) (p : Taking)
    (hp : p ∈ (ledger o actions first).waiting ∨ some p ∈ (ledger o actions first).handed) :
    Qualified first.watchers actions p := by
  induction actions using List.reverseRec generalizing t with
  | nil => simp [ledger, enter] at hp
  | append_singleton actions a ih =>
    obtain ⟨s, hs, ha⟩ := Machine.run_concat_eq_some_iff.1 h
    rw [ledger_concat hs ha] at hp
    rcases hp with waiting | handed
    · rcases Ledger.mem_waiting_next waiting with old | ⟨place, given⟩
      · exact (ih hs (.inl old)).append [a]
      · refine ⟨by simp [place], fun i v now change => ?_⟩
        rw [place, List.getElem?_concat_length] at change
        obtain rfl := Option.some.inj change
        obtain ⟨y, c, hy, hc⟩ := given i v now rfl
        rw [(tracked fresh taken submissions hs).1.latest] at hy
        obtain ⟨x, hx, rfl⟩ := Option.map_eq_some_iff.1 hy
        rw [Watcher.record_after i v now] at hc
        rw [place, List.take_of_length_le (by simp)]
        exact ⟨x, hx, (Watcher.context?_after_eq_some_iff.1 hc).1⟩
    · rcases Ledger.mem_handed_next handed with old | old
      · exact (ih hs (.inr old)).append [a]
      · exact (ih hs (.inl old)).append [a]

/-- Whatever a watcher that checks connections submits, the script finds connected values. -/
def OnlyConnected (o : Outside) (actions : List SessionAction) (first t : Session) : Prop :=
  ∀ (n : Nat) (d : Submission) (p : Taking) (x : Watcher), t.support.submissions[n]? = some d →
    (ledger o actions first).handed[n]? = some (some p) → first.watchers[p.watcher]? = some x →
      x.checksConnections = true → d.context.IsConnected d.unit

/-- **Only a request runs the script on other values.** In a run of a session with new watchers, let
a submission come of what a watcher took that checks connections. It is a submission of the unit of
the watcher. The script finds a connected value for every input exactly if, when they were taken,
every input had a value, and the one that was recorded last had not lost its source. This is so
unless the watcher was requested to run the script; only a request has it run on other values. If
the submission is let in, its job is given the same. -/
theorem connected_unless_requested {widgets : List Widget} (new : first.IsNew widgets)
    (made : ∀ x ∈ first.watchers,
      Watcher.ofUnit x.unit x.widget x.inputs x.checksConnections = .ok x)
    (h : Machine.run (step o) actions first = some t) {n : Nat} {d : Submission} {p : Taking}
    {x : Watcher} (hd : t.support.submissions[n]? = some d)
    (hp : (ledger o actions first).handed[n]? = some (some p))
    (hx : first.watchers[p.watcher]? = some x) (checks : x.checksConnections = true) :
    d.unit = x.unit ∧
    (d.context.IsConnected d.unit ↔
      HasSources x.inputs p.watcher (actions.take (p.place + 1))) ∧
    (d.context.IsConnected d.unit ∨ ∃ now, actions[p.place]? = some (.request p.watcher now)) ∧
    ∀ k, d.stage = .returned (.scheduled k) →
      ∃ j, t.support.jobs[k]? = some j ∧ j.unit = d.unit ∧ j.context = d.context := by
  obtain ⟨settings, gateway, interpreters, watchers, rfl⟩ := new
  have fresh : ∀ x ∈ watchers, x.IsFresh := fun x hx => Watcher.isFresh_ofUnit (made x hx)
  have taken := ((tracked fresh rfl rfl h).2.snapshot n d p hd hp)
  have qualified := qualified_of_run fresh rfl rfl h p (.inr (List.mem_of_getElem? hp))
  have origins := origins_of_run (Support.origins_ofSettings _ _ _) h
  obtain ⟨y, hy, unit, -, given⟩ := taken.given
  obtain rfl := Option.some.inj (hx.symm.trans hy)
  have fits := (Watcher.ofUnit_eq_ok_iff.1 (made x (List.mem_of_getElem? hx))).1
  have connected := isConnected_iff_hasSources (unit ▸ fits) taken.place_lt given
  refine ⟨unit, connected, ?_, fun k => origins.job n d k hd⟩
  obtain ⟨a, ha, asked⟩ := Option.bind_eq_some_iff.1 taken.asked
  cases a with
  | change w i v now =>
    obtain rfl : w = p.watcher := Option.some.inj asked
    obtain ⟨z, hz, runs⟩ := qualified.runs i v now ha
    obtain rfl := Option.some.inj (hx.symm.trans hz)
    exact .inl (connected.2 (runs.2 checks))
  | request w now =>
    obtain rfl : w = p.watcher := Option.some.inj asked
    exact .inr ⟨now, ha⟩
  | _ => cases asked

/-! ### A request while an input has no source -/

/-- A session with a watcher that checks connections. The script yields the values of its inputs. -/
def sampleChecking : Session :=
  { start { poolSize := 1 } {} [.embedded] [⟨"clock", "label", [("text", .str "")]⟩] with
    watchers := [⟨.ofProgram 7 "clock" ["hour"] [.inputs], ⟨0, "clock", "label"⟩, [⟨"hour", true⟩],
      true, [none]⟩] }

/-- The input loses its source, which does not run the script; then the script is requested, and
runs to its end. -/
def sampleRequest : List SessionAction :=
  List.flatten [
    [.change 0 0 (.disconnected "hour" ⟨0, 0⟩) ⟨0, 0⟩, .request 0 ⟨0, 0⟩, .handIn 0],
    List.replicate 3 (.proceedSubmission 0), [.begin 0, .act 0, .act 0, .conclude 0],
    List.replicate 4 (.proceedJob 0)]

/-- What was submitted, and what came of it. -/
theorem run_sampleRequest :
    ∃ t d, Machine.run (step sampleOutside) sampleRequest sampleChecking = some t ∧
      t.support.submissions[0]? = some d ∧
      (ledger sampleOutside sampleRequest sampleChecking).handed[0]? = some (some ⟨0, 1⟩) ∧
      ¬ d.context.IsConnected d.unit ∧ t.support.jobs.map (·.sent.map ScriptResult.value) =
        [[some (.arr [.arr [.str "hour", .str "hour", .null, .str "disconnected"]])]] := by
  have run : (Machine.run (step sampleOutside) sampleRequest sampleChecking).map (fun t =>
      (t.support.submissions.map fun d => (d.unit.inputs, d.context.values),
        t.support.jobs.map (·.sent.map ScriptResult.value))) =
      some ([(["hour"], [.disconnected "hour" ⟨0, 0⟩])],
        [[some (.arr [.arr [.str "hour", .str "hour", .null, .str "disconnected"]])]]) := by
    decide +kernel
  obtain ⟨t, ht, facts⟩ := Option.map_eq_some_iff.1 run
  obtain ⟨submitted, results⟩ := Prod.mk.inj facts
  obtain ⟨d, only, hd⟩ := List.map_eq_singleton_iff.1 submitted
  obtain ⟨inputs, values⟩ := Prod.mk.inj hd
  refine ⟨t, d, ht, by rw [only]; rfl, by decide +kernel, fun connected => ?_, results⟩
  obtain ⟨v, bound, source⟩ := connected 0 "hour" (by rw [inputs]; rfl)
  simp only [Bindings.bind, inputs, values] at bound
  obtain ⟨-, rfl⟩ := Prod.mk.inj (Option.some.inj bound)
  exact source rfl

theorem sampleChecking_isNew :
    sampleChecking.IsNew [⟨"clock", "label", [("text", .str "")]⟩] := ⟨_, _, _, _, rfl⟩

theorem sampleChecking_made : ∀ x ∈ sampleChecking.watchers,
    Watcher.ofUnit x.unit x.widget x.inputs x.checksConnections = .ok x := by
  intro x hx
  obtain rfl := List.mem_singleton.1 hx
  rfl

theorem connected_unless_requested_sample :
    ∃ t d now, Machine.run (step sampleOutside) sampleRequest sampleChecking = some t ∧
      t.support.submissions[0]? = some d ∧ ¬ HasSources [⟨"hour", true⟩] 0 (sampleRequest.take 2) ∧
      sampleRequest[1]? = some (.request 0 now) := by
  obtain ⟨t, d, ht, hd, hp, lost, -⟩ := run_sampleRequest
  obtain ⟨-, connected, requested, -⟩ :=
    connected_unless_requested sampleChecking_isNew sampleChecking_made ht hd hp rfl rfl
  obtain ⟨now, request⟩ := requested.resolve_left lost
  exact ⟨t, d, now, ht, hd, fun sources => lost (connected.2 sources), request⟩

/-- A watcher that checks connections is requested to run its script while an input has lost its
source. The script runs, and yields the input as disconnected. -/
theorem requested_while_disconnected :
    ∃ t, Machine.run (step sampleOutside) sampleRequest sampleChecking = some t ∧
      (∀ x ∈ sampleChecking.watchers, x.checksConnections = true) ∧
      t.support.jobs.map (·.sent.map ScriptResult.value) =
        [[some (.arr [.arr [.str "hour", .str "hour", .null, .str "disconnected"]])]] ∧
      ¬ OnlyConnected sampleOutside sampleRequest sampleChecking t := by
  obtain ⟨t, d, ht, hd, hp, lost, values⟩ := run_sampleRequest
  exact ⟨t, ht, by decide, values, fun only => lost (only 0 d ⟨0, 1⟩ _ hd hp rfl rfl)⟩

end Session

end PanelScript
